import StmmInputBt.Client.StateMachine
import StmmInputBt.Window.SelectedServer

/-!
# The Connect button

The tab of servers with its buttons and the client that they control (`btkbwindow.cc`): which
server `onButtonConnect` connects to. A button can be clicked while `setSensitivityForState` has
left it sensitive and while the tab is shown and not the screen in which an address is entered.

The screens of weights, keys and the keyboard only hide the tab; they are left out. So are the
keys that are pressed: `finalizeKeys` releases any.

## Main definitions

* `ConnectWindow`, `ConnectOp`, `ConnectWindow.step`.
* `ConnectWindow.ConnectsToValid`, `ConnectWindow.ServerSelected`: the property, and the condition
  on a step.
* `ConnectWindow.StepCase`: what a step does.

## Main results

* `ConnectWindow.buttonsFit_run`: the buttons fit the state of the client.
* `ConnectWindow.connectsToValid_iff`.
-/

namespace StmmInputBt

/-- A button of the tab. -/
inductive TabButton
  | chooseServer
  | refreshServers
  | inputServer
  | connect
  | disconnect
  | remove
  deriving DecidableEq

/-- What `setSensitivityForState` gives to a button. -/
def TabButton.sensitivity (eState : ClientState) (bRefreshing : Bool) : TabButton → Bool
  | .chooseServer => eState = .disconnected
  | .refreshServers => !bRefreshing
  | .inputServer => eState = .disconnected
  | .connect => eState = .disconnected
  | .disconnect => eState ≠ .disconnected && eState ≠ .removing
  | .remove => eState = .connected || eState = .sending

/-- `m_nCurrentScreen`. -/
inductive TabScreen
  | main
  | enterAddr
  deriving DecidableEq

structure ConnectWindow where
  tab : ServerTab
  btKeyClient : BtKeyClient
  sensitive : TabButton → Bool
  currentScreen : TabScreen

/-- Not one of the calls that the buttons make. -/
def ClientOp.isBackground : ClientOp → Bool
  | .connectToServer .. | .disconnectFromServer | .sendRemoveToServer _ => false
  | .sendKeyToServer .. | .intervalTick _ | .dispatch .. | .destroySource _ => true

/-- What can happen to the window. -/
inductive ConnectOp
  | onRefreshServers (nElapsed : ℕ)
  /-- The timeout source of the servers, with what is known of the thread. -/
  | serversTimeout (nElapsed : ℕ) (oFuture : BtKeyServers.RefreshFuture)
  /-- A row is selected, or none. -/
  | onServerSelectionChanged (nElapsed : ℕ) (nRow : Option ℕ)
  | onChooseServer (nElapsed : ℕ)
  | onInputStagedServer
  /-- With the text of the entry. -/
  | onButtonAnswerOk (sAddr : List Char)
  | onButtonAnswerCancel
  | onButtonConnect (calls : SocketCalls)
  | onButtonDisconnect
  /-- With the keys that are pressed, and what `::send` returns. -/
  | onButtonRemove (aKeys : List (HardwareKey × SendResult)) (res : SendResult)
  /-- A key is passed to the client, or the main loop dispatches a source of the client. -/
  | client (op : {op : ClientOp // op.isBackground})

namespace ConnectWindow

open BtKeyServers ServerSession

variable (oText : AddrText)

/-- `setSensitivityForState`, with what `getState` returns. -/
def setSensitivity (eState : ClientState) (s : ConnectWindow) : ConnectWindow :=
  { s with sensitive := TabButton.sensitivity eState s.tab.btKeyServers.isRefreshing }

def setSensitivityForState (s : ConnectWindow) : ConnectWindow :=
  s.setSensitivity s.btKeyClient.state

/-- The window as `init` leaves it. -/
def start (oArgs : ServerArgs) (oConf : ServerConfig) (oClient : BtKeyClient) : ConnectWindow :=
  setSensitivityForState
    { tab := (ServerSession.start oText oArgs oConf).tab
      btKeyClient := oClient
      sensitive := fun _ => true
      currentScreen := .main }

/-- The button is sensitive and shown. -/
def canClick (b : TabButton) (s : ConnectWindow) : Bool := s.currentScreen = .main && s.sensitive b

/-- A click on a button calls its handler. -/
def click (b : TabButton) (handler : ConnectWindow → Except ClientFault ConnectWindow)
    (s : ConnectWindow) : Except ClientFault ConnectWindow :=
  if s.canClick b then handler s else .ok s

/-- A call of the client, or of one of its callbacks. Each of its signals that the state has
changed sets the buttons anew (`onClientStateChanged`), so that the last one counts. -/
def callClient (op : ClientOp) (s : ConnectWindow) : Except ClientFault ConnectWindow :=
  (s.btKeyClient.step op).map fun oClient =>
    let t := { s with btKeyClient := oClient }
    match lastShown (BtKeyClient.newEvents s.btKeyClient oClient) with
    | some eState => t.setSensitivity eState
    | none => t

/-! ### The servers -/

def onRefreshServers (nElapsed : ℕ) (s : ConnectWindow) : ConnectWindow :=
  { s with tab := s.tab.perform oText (nElapsed, .onRefreshServers) }.setSensitivityForState

/-- The callback of the timeout source of the servers. `onServersChanged` sets the buttons before it
looks at the servers. -/
def serversTimeout (nElapsed : ℕ) (oFuture : RefreshFuture) (s : ConnectWindow) : ConnectWindow :=
  let (bChanged, oServers) := s.tab.btKeyServers.doIntervalTimeout oText nElapsed oFuture
  let s := { s with tab := { s.tab with btKeyServers := oServers } }
  if bChanged then
    let s := s.setSensitivityForState
    { s with tab := s.tab.onServersChanged oText nElapsed }
  else s

/-- The selection can change while the tab is shown. -/
def onServerSelectionChanged (nElapsed : ℕ) (nRow : Option ℕ) (s : ConnectWindow) :
    ConnectWindow :=
  if s.currentScreen = .main then
    { s with tab := s.tab.perform oText (nElapsed, .onServerSelectionChanged nRow) }
  else s

def onChooseServer (nElapsed : ℕ) (s : ConnectWindow) : ConnectWindow :=
  { s with tab := s.tab.onChooseServer oText nElapsed }

def onInputStagedServer (s : ConnectWindow) : ConnectWindow :=
  { s with currentScreen := .enterAddr }

/-- `AddrScreen::onButtonAnswerOk`. -/
def onButtonAnswerOk (sAddr : List Char) (s : ConnectWindow) : ConnectWindow :=
  if s.currentScreen = .enterAddr then
    if sAddr = [] || ServerTab.isValidStringAddr oText sAddr then
      { s with tab := s.tab.setAddr oText sAddr, currentScreen := .main }
    else s
  else s

/-- `AddrScreen::onButtonAnswerCancel`. -/
def onButtonAnswerCancel (s : ConnectWindow) : ConnectWindow := { s with currentScreen := .main }

/-! ### The connection -/

/-- The call that `onButtonConnect` makes. -/
def connectCall (calls : SocketCalls) (s : ConnectWindow) : ClientOp :=
  .connectToServer s.tab.curServer.btAddr s.tab.curServer.l2capPort calls

def onButtonConnect (calls : SocketCalls) (s : ConnectWindow) :
    Except ClientFault ConnectWindow :=
  (s.callClient (s.connectCall calls)).map setSensitivityForState

def onButtonDisconnect (s : ConnectWindow) : Except ClientFault ConnectWindow :=
  (s.callClient .disconnectFromServer).map setSensitivityForState

def finalizeKeys (aKeys : List (HardwareKey × SendResult)) (s : ConnectWindow) :
    Except ClientFault ConnectWindow :=
  aKeys.foldlM (fun s oKey => s.callClient (.sendKeyToServer .releaseCancel oKey.1 oKey.2)) s

def onButtonRemove (aKeys : List (HardwareKey × SendResult)) (res : SendResult)
    (s : ConnectWindow) : Except ClientFault ConnectWindow :=
  (s.finalizeKeys aKeys).bind fun s =>
    (s.callClient (.sendRemoveToServer res)).map setSensitivityForState

def perform (s : ConnectWindow) : ConnectOp → Except ClientFault ConnectWindow
  | .onRefreshServers nElapsed =>
    s.click .refreshServers fun s => .ok (s.onRefreshServers oText nElapsed)
  | .serversTimeout nElapsed oFuture => .ok (s.serversTimeout oText nElapsed oFuture)
  | .onServerSelectionChanged nElapsed nRow =>
    .ok (s.onServerSelectionChanged oText nElapsed nRow)
  | .onChooseServer nElapsed =>
    s.click .chooseServer fun s => .ok (s.onChooseServer oText nElapsed)
  | .onInputStagedServer => s.click .inputServer fun s => .ok s.onInputStagedServer
  | .onButtonAnswerOk sAddr => .ok (s.onButtonAnswerOk oText sAddr)
  | .onButtonAnswerCancel => .ok s.onButtonAnswerCancel
  | .onButtonConnect calls => s.click .connect (onButtonConnect calls)
  | .onButtonDisconnect => s.click .disconnect onButtonDisconnect
  | .onButtonRemove aKeys res => s.click .remove (onButtonRemove aKeys res)
  | .client op => s.callClient op

/-- One thing happens to the window, unless the program has died. -/
def step (s : ConnectWindow) (op : ConnectOp) : Except ClientFault ConnectWindow :=
  match s.btKeyClient.fault with
  | some f => .error f
  | none => s.perform oText op

/-- The buttons are as `setSensitivityForState` would set them. -/
def ButtonsFit (s : ConnectWindow) : Prop :=
  s.sensitive = TabButton.sensitivity s.btKeyClient.state s.tab.btKeyServers.isRefreshing

/-- The assert in `onRefreshServers`. -/
def RefreshAssert (s : ConnectWindow) (op : ConnectOp) : Prop :=
  match op with
  | .onRefreshServers _ => s.canClick .refreshServers → ¬ s.tab.btKeyServers.isRefreshing
  | _ => True

/-- `onButtonConnect` connects to a valid address and port only. -/
def CallFits (s : ConnectWindow) (op : ConnectOp) : Prop :=
  match op with
  | .onButtonConnect calls =>
    s.canClick .connect → ∀ oBtAddr nL2capPort, ∀ calls',
      s.connectCall calls = .connectToServer oBtAddr nL2capPort calls' →
        isValid ⟨oBtAddr, nL2capPort, [], false⟩
  | _ => True

/-- In every state of a run the current server is valid or there is none, and the Connect button
connects to valid addresses and ports only. -/
def ConnectsToValid (s : ConnectWindow) (ops : List ConnectOp) : Prop :=
  Run.Always (step oText) (fun s => CurServerFits s.tab.curServer) s ops ∧
    Run.Guarded (step oText) CallFits s ops

/-- The Connect button is clicked only while there is a current server. -/
def ServerSelected (s : ConnectWindow) (op : ConnectOp) : Prop :=
  match op with
  | .onButtonConnect _ => s.canClick .connect → s.tab.curServer.l2capPort ≠ 0
  | _ => True

variable {oText} {s t : ConnectWindow} {op : ConnectOp} {nElapsed : ℕ}

/-! ### The servers and their timeout source -/

/-- A call of `getServers` starts no refresh. -/
def TimeoutFits (oServers : BtKeyServers) : Prop :=
  isEmptyAddr oServers.extraAddr → oServers.intervalTimeout

variable {oServers : BtKeyServers} {w : ServerTab}

variable (nElapsed) in
theorem getServers_of_timeoutFits (h : TimeoutFits oServers) :
    oServers.getServers nElapsed = (oServers.servers, oServers) := by
  have hstarts : ¬ (isEmptyAddr oServers.extraAddr && !oServers.intervalTimeout) = true := by
    simpa [TimeoutFits] using h
  rw [getServers, if_neg hstarts]

theorem timeoutFits_startRefreshServers (h : TimeoutFits oServers) :
    TimeoutFits (oServers.startRefreshServers nElapsed).2 := by
  rw [startRefreshServers]
  split_ifs
  · exact h
  · exact fun _ => rfl

theorem timeoutFits_getServers (h : oServers.refreshStarted = -1) :
    TimeoutFits (oServers.getServers nElapsed).2 := by
  rw [getServers]
  split_ifs with hstarts
  · rw [startRefreshServers, if_neg (by omega)]
    exact fun _ => rfl
  · simpa [TimeoutFits] using hstarts

/-- The constructor of the window has called `getServers`. -/
theorem timeoutFits_start (oText : AddrText) (oArgs : ServerArgs) (oConf : ServerConfig) :
    TimeoutFits (ServerSession.start oText oArgs oConf).tab.btKeyServers := by
  refine timeoutFits_getServers ?_
  rw [BtKeyServers.new]
  split_ifs <;> rfl

theorem btKeyServers_onChooseServer (h : TimeoutFits w.btKeyServers) :
    (w.onChooseServer oText nElapsed).btKeyServers = w.btKeyServers := by
  rw [ServerTab.onChooseServer]
  split_ifs
  · rfl
  · dsimp only
    split_ifs
    · rfl
    · rw [getServers_of_timeoutFits nElapsed h]
      dsimp only
      split <;> rfl

theorem btKeyServers_onServerSelectionChanged (h : TimeoutFits w.btKeyServers)
    (oRow : Option ServerRow) :
    (w.onServerSelectionChanged oText nElapsed oRow).btKeyServers = w.btKeyServers := by
  rw [ServerTab.onServerSelectionChanged.eq_def]
  split
  · dsimp only
    split_ifs
    · exact btKeyServers_onChooseServer h
    · rfl
  · rfl

theorem btKeyServers_setAddr (sAddr : List Char) :
    (w.setAddr oText sAddr).btKeyServers = w.btKeyServers := by
  rw [ServerTab.setAddr]
  split_ifs <;> rfl

theorem btKeyServers_onServersChanged (h : TimeoutFits w.btKeyServers) :
    (w.onServersChanged oText nElapsed).btKeyServers = w.btKeyServers := by
  simp only [ServerTab.onServersChanged, ServerTab.recreateServersList,
    getServers_of_timeoutFits nElapsed h]
  split_ifs <;> rfl

variable (oText nElapsed) in
/-- The timeout source that emits no signal leaves the servers alone. -/
theorem doIntervalTimeout_cases (h : TimeoutFits oServers) (oFuture : RefreshFuture) :
    TimeoutFits (oServers.doIntervalTimeout oText nElapsed oFuture).2 ∧
      ((oServers.doIntervalTimeout oText nElapsed oFuture).1 = false →
        (oServers.doIntervalTimeout oText nElapsed oFuture).2 = oServers) := by
  rw [doIntervalTimeout.eq_def]
  split_ifs
  · exact ⟨h, fun _ => rfl⟩
  · cases oFuture with
    | some oInquiry => exact ⟨h, fun hsignal => absurd hsignal (by simp)⟩
    | none =>
      dsimp only
      split_ifs
      · exact ⟨h, fun hsignal => absurd hsignal (by simp)⟩
      · exact ⟨h, fun _ => rfl⟩

/-! ### What a step does -/

/-- What a step does to the window. -/
inductive StepCase (oText : AddrText) (s : ConnectWindow) : ConnectWindow → Prop
  /-- At most the selection or the current server changes, and the screen. -/
  | tab (t : ServerTab) (eScreen : TabScreen) (ht : t = s.tab ∨ ∃ op, t = s.tab.perform oText op)
      (hservers : TimeoutFits s.tab.btKeyServers → t.btKeyServers = s.tab.btKeyServers) :
      StepCase oText s { s with tab := t, currentScreen := eScreen }
  | refresh (nElapsed : ℕ) : StepCase oText s (s.onRefreshServers oText nElapsed)
  | timeout (nElapsed : ℕ) (oFuture : RefreshFuture) :
      StepCase oText s (s.serversTimeout oText nElapsed oFuture)
  | call (op : ClientOp) (t : ConnectWindow) (ht : s.callClient op = .ok t) : StepCase oText s t
  /-- A button calls the client and sets the buttons. -/
  | calls (ops : List ClientOp) (t : ConnectWindow)
      (ht : ops.foldlM (fun s op => s.callClient op) s = .ok t) :
      StepCase oText s t.setSensitivityForState

theorem StepCase.refl (oText : AddrText) (s : ConnectWindow) : StepCase oText s s :=
  .tab s.tab s.currentScreen (.inl rfl) fun _ => rfl

theorem step_eq_ok : s.step oText op = .ok t ↔
    s.btKeyClient.fault = none ∧ s.perform oText op = .ok t := by
  rw [step]
  cases s.btKeyClient.fault <;> simp

/-- A click does nothing or what the handler does. -/
theorem StepCase.of_click {b : TabButton}
    {handler : ConnectWindow → Except ClientFault ConnectWindow} (h : s.click b handler = .ok t)
    (hhandler : ∀ t, handler s = .ok t → StepCase oText s t) : StepCase oText s t := by
  rw [click] at h
  split_ifs at h
  · exact hhandler t h
  · exact Except.ok.inj h ▸ .refl oText s

theorem stepCase_onServerSelectionChanged (nRow : Option ℕ) :
    StepCase oText s (s.onServerSelectionChanged oText nElapsed nRow) := by
  rw [onServerSelectionChanged]
  split_ifs
  · exact .tab _ s.currentScreen (.inr ⟨(nElapsed, .onServerSelectionChanged nRow), rfl⟩)
      fun h => btKeyServers_onServerSelectionChanged h _
  · exact .refl oText s

theorem stepCase_onButtonAnswerOk (sAddr : List Char) :
    StepCase oText s (s.onButtonAnswerOk oText sAddr) := by
  rw [onButtonAnswerOk]
  split_ifs with hscreen hvalid
  · exact .tab _ .main (.inr ⟨(0, .setAddr sAddr), (if_pos hvalid).symm⟩)
      fun _ => btKeyServers_setAddr sAddr
  · exact .refl oText s
  · exact .refl oText s

theorem stepCase_onButtonConnect {calls : SocketCalls} (h : s.onButtonConnect calls = .ok t) :
    StepCase oText s t := by
  obtain ⟨u, hu, rfl⟩ := Run.map_eq_ok.mp h
  exact .calls [s.connectCall calls] u (Run.bind_eq_ok.mpr ⟨u, hu, rfl⟩)

theorem stepCase_onButtonDisconnect (h : s.onButtonDisconnect = .ok t) : StepCase oText s t := by
  obtain ⟨u, hu, rfl⟩ := Run.map_eq_ok.mp h
  exact .calls [.disconnectFromServer] u (Run.bind_eq_ok.mpr ⟨u, hu, rfl⟩)

theorem stepCase_onButtonRemove {aKeys : List (HardwareKey × SendResult)} {res : SendResult}
    (h : s.onButtonRemove aKeys res = .ok t) : StepCase oText s t := by
  obtain ⟨u, hu, hremove⟩ := Run.bind_eq_ok.mp h
  obtain ⟨v, hv, rfl⟩ := Run.map_eq_ok.mp hremove
  refine .calls (aKeys.map (fun oKey => .sendKeyToServer .releaseCancel oKey.1 oKey.2) ++
    [.sendRemoveToServer res]) v ?_
  rw [List.foldlM_append, List.foldlM_map]
  exact Run.bind_eq_ok.mpr ⟨u, hu, Run.bind_eq_ok.mpr ⟨v, hv, rfl⟩⟩

theorem stepCase_step (h : s.step oText op = .ok t) : StepCase oText s t := by
  obtain ⟨-, h⟩ := step_eq_ok.mp h
  cases op with
  | onRefreshServers nElapsed =>
    rw [perform] at h
    refine .of_click h ?_
    rintro t ⟨⟩
    exact .refresh nElapsed
  | serversTimeout nElapsed oFuture =>
    cases h
    exact .timeout nElapsed oFuture
  | onServerSelectionChanged nElapsed nRow =>
    cases h
    exact stepCase_onServerSelectionChanged nRow
  | onChooseServer nElapsed =>
    rw [perform] at h
    refine .of_click h ?_
    rintro t ⟨⟩
    exact .tab _ s.currentScreen (.inr ⟨(nElapsed, .onChooseServer), rfl⟩)
      btKeyServers_onChooseServer
  | onInputStagedServer =>
    rw [perform] at h
    refine .of_click h ?_
    rintro t ⟨⟩
    exact .tab s.tab .enterAddr (.inl rfl) fun _ => rfl
  | onButtonAnswerOk sAddr =>
    cases h
    exact stepCase_onButtonAnswerOk sAddr
  | onButtonAnswerCancel =>
    cases h
    exact .tab s.tab .main (.inl rfl) fun _ => rfl
  | onButtonConnect calls => exact .of_click h fun t => stepCase_onButtonConnect
  | onButtonDisconnect => exact .of_click h fun t => stepCase_onButtonDisconnect
  | onButtonRemove aKeys res => exact .of_click h fun t => stepCase_onButtonRemove
  | client op => exact .call op t h

/-! ### The tab -/

theorem tab_setSensitivityForState : s.setSensitivityForState.tab = s.tab := rfl

theorem tab_callClient {op : ClientOp} (h : s.callClient op = .ok t) : t.tab = s.tab := by
  obtain ⟨oClient, -, rfl⟩ := Run.map_eq_ok.mp h
  dsimp only
  split <;> rfl

theorem tab_serversTimeout (oFuture : RefreshFuture) :
    (s.serversTimeout oText nElapsed oFuture).tab =
      s.tab.perform oText (nElapsed, .doIntervalTimeout oFuture) := by
  simp only [serversTimeout, ServerTab.perform, ServerTab.intervalTimeout]
  split_ifs <;> rfl

/-- A step of the window is at most one step of the tab. -/
theorem tab_step (h : s.step oText op = .ok t) :
    t.tab = s.tab ∨ ∃ op', t.tab = s.tab.perform oText op' := by
  cases stepCase_step h with
  | tab t eScreen ht hservers => exact ht
  | refresh nElapsed => exact .inr ⟨(nElapsed, .onRefreshServers), rfl⟩
  | timeout nElapsed oFuture => exact .inr ⟨_, tab_serversTimeout oFuture⟩
  | call op t ht => exact .inl (tab_callClient ht)
  | calls ops t ht =>
    refine .inl (tab_setSensitivityForState.trans ?_)
    exact Run.foldlM_invariant (P := fun t => t.tab = s.tab)
      (fun _ _ _ _ hu hv => (tab_callClient hv).trans hu) rfl ht

/-! ### The buttons -/

/-- What the buttons rest on. -/
structure Sound (s : ConnectWindow) : Prop where
  client : s.btKeyClient.Coherent
  servers : TimeoutFits s.tab.btKeyServers
  buttons : s.ButtonsFit

theorem sound_setSensitivityForState (hclient : s.btKeyClient.Coherent)
    (hservers : TimeoutFits s.tab.btKeyServers) : s.setSensitivityForState.Sound :=
  ⟨hclient, hservers, rfl⟩

theorem Sound.setSensitivityForState (h : s.Sound) : s.setSensitivityForState.Sound :=
  sound_setSensitivityForState h.client h.servers

/-- The buttons do not depend on the rows and on the current server. -/
theorem Sound.of_servers (h : s.Sound) (hclient : t.btKeyClient = s.btKeyClient)
    (hservers : t.tab.btKeyServers = s.tab.btKeyServers) (hbuttons : t.sensitive = s.sensitive) :
    t.Sound := by
  refine ⟨hclient ▸ h.client, hservers ▸ h.servers, ?_⟩
  rw [ButtonsFit, hbuttons, hclient, hservers]
  exact h.buttons

/-- Every change of the state is signalled, and the signal sets the buttons. -/
theorem Sound.callClient (h : s.Sound) {op : ClientOp} (ht : s.callClient op = .ok t) :
    t.Sound := by
  obtain ⟨oClient, hstep, rfl⟩ := Run.map_eq_ok.mp ht
  obtain ⟨-, rfl⟩ := BtKeyClient.step_eq_ok.mp hstep
  have hcoherent := BtKeyClient.coherent_perform h.client op
  rcases h.client.signalled op with hlast | ⟨hlast, hstate⟩
  · simp only [hlast]
    exact ⟨hcoherent, h.servers, rfl⟩
  · simp only [hlast]
    refine ⟨hcoherent, h.servers, ?_⟩
    rw [ButtonsFit, hstate]
    exact h.buttons

theorem Sound.serversTimeout (h : s.Sound) (oFuture : RefreshFuture) :
    (s.serversTimeout oText nElapsed oFuture).Sound := by
  have hcases := doIntervalTimeout_cases oText nElapsed h.servers oFuture
  rw [ConnectWindow.serversTimeout]
  generalize s.tab.btKeyServers.doIntervalTimeout oText nElapsed oFuture = r at hcases ⊢
  obtain ⟨bChanged, oServers⟩ := r
  obtain ⟨hfits, hsame⟩ := hcases
  cases bChanged with
  | false => exact h.of_servers rfl (hsame rfl) rfl
  | true =>
    have hset : (ConnectWindow.setSensitivityForState
        { s with tab := { s.tab with btKeyServers := oServers } }).Sound :=
      sound_setSensitivityForState h.client hfits
    exact hset.of_servers rfl (btKeyServers_onServersChanged hfits) rfl

theorem Sound.step (h : s.Sound) (hstep : s.step oText op = .ok t) : t.Sound := by
  cases stepCase_step hstep with
  | tab t eScreen _ hservers => exact h.of_servers rfl (hservers h.servers) rfl
  | refresh nElapsed =>
    exact sound_setSensitivityForState h.client (timeoutFits_startRefreshServers h.servers)
  | timeout nElapsed oFuture => exact h.serversTimeout oFuture
  | call op t ht => exact h.callClient ht
  | calls ops t ht =>
    have hcalls : t.Sound := Run.foldlM_invariant (fun _ _ _ _ hu hv => hu.callClient hv) h ht
    exact hcalls.setSensitivityForState

/-- **The buttons.** In every state that a run reaches the buttons fit the state of the client and
the refresh, and a refresh is started by the button only while there is none. -/
theorem buttonsFit_run (oText : AddrText) (oArgs : ServerArgs) (oConf : ServerConfig)
    (nTimeoutConnect nTimeoutSend nInterval nNoopAfter : ℤ) (btAddr : BitVec 48)
    (packets : Vector StagedPacket sendBufferSize) (ops : List ConnectOp) :
    let s := start oText oArgs oConf
      (.new nTimeoutConnect nTimeoutSend nInterval nNoopAfter btAddr packets)
    Run.Always (step oText) ButtonsFit s ops ∧ Run.Guarded (step oText) RefreshAssert s ops := by
  intro s
  have hstart : s.Sound := sound_setSensitivityForState
    (BtKeyClient.coherent_new nTimeoutConnect nTimeoutSend nInterval nNoopAfter btAddr packets)
    (timeoutFits_start oText oArgs oConf)
  have hstep : ∀ s op t, Sound s → step oText s op = .ok t → Sound t :=
    fun _ _ _ => Sound.step
  refine ⟨Run.always_of_invariant (fun _ h => h.buttons) hstep hstart,
    Run.guarded_of_invariant (fun s op h => ?_) hstep hstart⟩
  cases op with
  | onRefreshServers nElapsed =>
    intro hcan
    rw [canClick, h.buttons] at hcan
    simpa [TabButton.sensitivity] using (Bool.and_eq_true_iff.mp hcan).2
  | _ => trivial

/-! ### The current server -/

theorem curServerFits_step (h : CurServerFits s.tab.curServer) (ht : s.step oText op = .ok t) :
    CurServerFits t.tab.curServer := by
  rcases tab_step ht with heq | ⟨op', heq⟩
  · rwa [heq]
  · rw [heq]
    exact curServerFits_perform h

/-- Under the invariant a call fits exactly if there is a current server. -/
theorem callFits_iff (h : CurServerFits s.tab.curServer) (op : ConnectOp) :
    s.CallFits op ↔ s.ServerSelected op := by
  cases op with
  | onButtonConnect calls =>
    refine forall_congr' fun hcan => ?_
    constructor
    · intro hfits hzero
      have hvalid := isValid_iff.mp (hfits _ _ calls rfl)
      exact ServerTab.isValidPort_ne_zero hvalid.1 hzero
    · rintro hselected oBtAddr nL2capPort calls' ⟨⟩
      exact isValid_iff.mpr (isValid_iff.mp (h.resolve_left hselected))
  | _ => exact Iff.rfl

/-- **Connecting to a valid server.** However the servers are refreshed, selected and entered and
the buttons clicked, the current server is valid or there is none; and the Connect button connects
to valid addresses and ports only, if and only if it is never clicked while there is none. -/
theorem connectsToValid_iff (oText : AddrText) (oArgs : ServerArgs) (oConf : ServerConfig)
    (oClient : BtKeyClient) (ops : List ConnectOp) :
    (start oText oArgs oConf oClient).ConnectsToValid oText ops ↔
      Run.Guarded (step oText) ServerSelected (start oText oArgs oConf oClient) ops := by
  have hstart : CurServerFits (start oText oArgs oConf oClient).tab.curServer :=
    curServerFits_load oArgs.initialAddr
  have hstep : ∀ s op t, CurServerFits s.tab.curServer → step oText s op = .ok t →
      CurServerFits t.tab.curServer := fun _ _ _ => curServerFits_step
  rw [ConnectsToValid, and_iff_right (Run.always_of_invariant (fun _ h => h) hstep hstart)]
  exact Run.guarded_congr_of_invariant (fun s op h => callFits_iff h op) hstep hstart

/-- Connect is the first button that is clicked in a new installation. -/
def connectUnselected : List ConnectOp := [.onButtonConnect (.opened 5 .inProgress)]

/-- The client is called with port zero. -/
theorem not_connectsToValid_connectUnselected :
    ¬ (start .bluez ⟨8, 8353, false, 0, false, 0⟩ ⟨[], 0⟩
      BtKeyClient.defaultClient).ConnectsToValid .bluez connectUnselected := by
  rintro ⟨-, hcalls, -⟩
  have hvalid := hcalls (by decide +kernel) _ _ _ rfl
  revert hvalid
  decide +kernel

end ConnectWindow

end StmmInputBt
