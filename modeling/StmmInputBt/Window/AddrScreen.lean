import StmmInputBt.Window.ConnectButton

/-!
# The screen for an address

The screen on which the address of a server is entered (`addrscreen.cc`), on top of the window of
`StmmInputBt.Window.ConnectButton`, which is told the text. The screen starts with the address of
the current server, if there is one, and puts up with any text until `Ok` is pressed.

`m_sOldAddr` and `m_sAddr` are left out, as nothing reads them.

## Main definitions

* `AddrWindow`, `AddrOp`, `AddrWindow.step`.

## Main results

* `AddrWindow.exec_ne_assertion`: the address with which the screen starts is a valid one.
* `AddrWindow.answerOk_keepsServer`: to press `Ok` at once keeps the current server.
-/

namespace StmmInputBt

/-- The assertion in `AddrScreen::changeTo` fails, or the program dies otherwise. -/
inductive AddrFault
  | assertion
  | client (f : ClientFault)

structure AddrWindow where
  window : ConnectWindow
  entryAddr : List Char
  labelAddrDesc : String

/-- Not one of the operations that depend on the text. -/
def ConnectOp.isOther : ConnectOp → Bool
  | .onInputStagedServer | .onButtonAnswerOk _ => false
  | _ => true

inductive AddrOp
  | other (op : ConnectOp) (hop : op.isOther)
  | onInputStagedServer
  /-- A text is entered. -/
  | changeEntryAddr (sText : List Char)
  | onButtonAnswerOk
  | onErrorOneSecond

namespace AddrWindow

open BtKeyServers ServerTab ServerSession

variable (oText : AddrText)

/-- `s_sLabelStringNormal`. -/
def labelStringNormal : String :=
  "Bluetooth address\n(format: 'XX:XX:XX:XX:XX:XX' with X=0-9A-F)"

/-- `s_sLabelStringError`. -/
def labelStringError : String := "Bluetooth address\nSyntax error!"

/-- The text of an address, or none. -/
def isEntry (sAddr : List Char) : Bool := sAddr = [] || isValidStringAddr oText sAddr

def start (oArgs : ServerArgs) (oConf : ServerConfig) (oClient : BtKeyClient) : AddrWindow :=
  ⟨.start oText oArgs oConf oClient, [], labelStringNormal⟩

/-- What is done by the window. -/
def callWindow (op : ConnectOp) (s : AddrWindow) : Except AddrFault AddrWindow :=
  match s.window.step oText op with
  | .error f => .error (.client f)
  | .ok w => .ok { s with window := w }

/-- `AddrScreen::changeTo`. -/
def changeTo (sAddr : List Char) (s : AddrWindow) : Except AddrFault AddrWindow :=
  if isEntry oText sAddr then .ok { s with entryAddr := sAddr } else .error .assertion

/-- The address that `onInputStagedServer` passes. -/
def stagedAddr (oCurServer : ServerInfo) : List Char :=
  if isValidPort oCurServer.l2capPort && isValidAddr oCurServer.btAddr then
    oText.ba2str oCurServer.btAddr
  else []

/-- A click on the button. -/
def onInputStagedServer (s : AddrWindow) : Except AddrFault AddrWindow :=
  (s.callWindow oText .onInputStagedServer).bind fun t =>
    if s.window.canClick .inputServer then
      t.changeTo oText (stagedAddr oText t.window.tab.curServer)
    else .ok t

/-- `AddrScreen::onButtonAnswerOk`. -/
def onButtonAnswerOk (s : AddrWindow) : Except AddrFault AddrWindow :=
  (s.callWindow oText (.onButtonAnswerOk s.entryAddr)).map fun t =>
    if s.window.currentScreen = .enterAddr ∧ ¬ isEntry oText s.entryAddr then
      { t with labelAddrDesc := labelStringError }
    else t

def step (s : AddrWindow) : AddrOp → Except AddrFault AddrWindow
  | .other op _ => s.callWindow oText op
  | .onInputStagedServer => s.onInputStagedServer oText
  | .changeEntryAddr sText => .ok { s with entryAddr := sText }
  | .onButtonAnswerOk => s.onButtonAnswerOk oText
  | .onErrorOneSecond => .ok { s with labelAddrDesc := labelStringNormal }

variable {oText} {s t : AddrWindow} {op : AddrOp}

theorem isEntry_stagedAddr (oCurServer : ServerInfo) :
    isEntry oText (stagedAddr oText oCurServer) := by
  rw [stagedAddr]
  split_ifs with hvalid
  · rw [isEntry, isValidStringAddr_ba2str, (Bool.and_eq_true_iff.mp hvalid).2, Bool.or_true]
  · rfl

theorem callWindow_eq_ok {op : ConnectOp} : s.callWindow oText op = .ok t ↔
    ∃ w, s.window.step oText op = .ok w ∧ t = { s with window := w } := by
  rw [callWindow]
  cases s.window.step oText op <;> simp [eq_comm]

theorem changeTo_eq_ok {sAddr : List Char} (h : isEntry oText sAddr) :
    s.changeTo oText sAddr = .ok { s with entryAddr := sAddr } :=
  if_pos h

/-- What is done to the window is one of its own steps, or nothing. -/
theorem window_step (h : s.step oText op = .ok t) :
    t.window = s.window ∨ ∃ op', s.window.step oText op' = .ok t.window := by
  cases op with
  | other op hop =>
    obtain ⟨w, hw, rfl⟩ := callWindow_eq_ok.mp h
    exact .inr ⟨op, hw⟩
  | onInputStagedServer =>
    obtain ⟨u, hu, ht⟩ := Run.bind_eq_ok.mp h
    obtain ⟨w, hw, rfl⟩ := callWindow_eq_ok.mp hu
    refine .inr ⟨.onInputStagedServer, ?_⟩
    rw [changeTo_eq_ok (isEntry_stagedAddr _)] at ht
    split_ifs at ht <;> cases ht <;> exact hw
  | changeEntryAddr sText =>
    cases h
    exact .inl rfl
  | onButtonAnswerOk =>
    obtain ⟨u, hu, rfl⟩ := Run.map_eq_ok.mp h
    obtain ⟨w, hw, rfl⟩ := callWindow_eq_ok.mp hu
    refine .inr ⟨.onButtonAnswerOk s.entryAddr, ?_⟩
    dsimp only
    split_ifs <;> exact hw
  | onErrorOneSecond =>
    cases h
    exact .inl rfl

theorem callWindow_ne_assertion {op : ConnectOp} : s.callWindow oText op ≠ .error .assertion := by
  rw [callWindow]
  split <;> simp

/-- The assertion never fails. -/
theorem exec_ne_assertion (s : AddrWindow) (ops : List AddrOp) :
    Run.exec (step oText) s ops ≠ .error .assertion := by
  intro h
  obtain ⟨pre, op, post, t, -, -, hfault⟩ := Run.exec_eq_error h
  cases op with
  | other op hop => exact callWindow_ne_assertion hfault
  | onInputStagedServer =>
    rw [step, onInputStagedServer] at hfault
    cases hcall : t.callWindow oText .onInputStagedServer with
    | error f =>
      rw [hcall] at hfault
      exact callWindow_ne_assertion (hcall.trans hfault)
    | ok u =>
      rw [hcall, Except.bind, changeTo_eq_ok (isEntry_stagedAddr _)] at hfault
      split_ifs at hfault
  | changeEntryAddr sText => cases hfault
  | onButtonAnswerOk =>
    rw [step, onButtonAnswerOk] at hfault
    cases hcall : t.callWindow oText (.onButtonAnswerOk t.entryAddr) with
    | error f =>
      rw [hcall] at hfault
      exact callWindow_ne_assertion (hcall.trans hfault)
    | ok u =>
      rw [hcall] at hfault
      cases hfault
  | onErrorOneSecond => cases hfault

theorem curServerFits_run (oArgs : ServerArgs) (oConf : ServerConfig) (oClient : BtKeyClient)
    {ops : List AddrOp}
    (ht : Run.exec (step oText) (start oText oArgs oConf oClient) ops = .ok t) :
    CurServerFits t.window.tab.curServer :=
  Run.invariant (P := fun t => CurServerFits t.window.tab.curServer)
    (fun s op t h hstep => by
      rcases window_step hstep with heq | ⟨op', hop'⟩
      · rwa [heq]
      · exact ConnectWindow.curServerFits_step h hop')
    (curServerFits_load oArgs.initialAddr) ht

/-- The address of a valid server is entered again, or there is still none. -/
theorem saveStateToConfig_setAddr {w : ServerTab} (h : CurServerFits w.curServer)
    (oConf : ServerConfig) :
    (w.setAddr oText (stagedAddr oText w.curServer)).saveStateToConfig oText oConf =
      w.saveStateToConfig oText oConf := by
  rcases h with hzero | hvalid
  · have hport : ¬ isValidPort w.curServer.l2capPort = true := fun hport =>
      isValidPort_ne_zero hport hzero
    have hstaged : stagedAddr oText w.curServer = [] := by
      rw [stagedAddr, if_neg]
      simp [hport]
    rw [hstaged, ServerTab.setAddr, if_pos rfl, ServerTab.saveStateToConfig,
      ServerTab.saveStateToConfig, if_neg hport]
    rfl
  · obtain ⟨hport, haddr⟩ := isValid_iff.mp hvalid
    have hstaged : stagedAddr oText w.curServer = oText.ba2str w.curServer.btAddr := by
      rw [stagedAddr, hport, haddr]
      rfl
    have hne : oText.ba2str w.curServer.btAddr ≠ [] := by
      intro hnil
      have hread := oText.str2ba_ba2str w.curServer.btAddr
      rw [hnil, oText.str2ba_nil] at hread
      cases hread
    rw [hstaged, ServerTab.setAddr, if_neg hne]
    simp only [hport, Bool.not_true, Bool.false_eq_true, if_false, getAddrFromString_ba2str]

/-- **Confirming an address.** Whenever the button for an address can be clicked, doing so and
pressing `Ok` at once keeps the server that is saved. -/
theorem answerOk_keepsServer (oText : AddrText) (oArgs : ServerArgs) (oConf : ServerConfig)
    (oClient : BtKeyClient) (ops : List AddrOp)
    (ht : Run.exec (step oText) (start oText oArgs oConf oClient) ops = .ok t)
    (hfault : t.window.btKeyClient.fault = none) (hcan : t.window.canClick .inputServer) :
    ∃ u, Run.exec (step oText) t [.onInputStagedServer, .onButtonAnswerOk] = .ok u ∧
      u.window.currentScreen = .main ∧
      ∀ oConf', u.window.tab.saveStateToConfig oText oConf' =
        t.window.tab.saveStateToConfig oText oConf' := by
  have hfits := curServerFits_run oArgs oConf oClient ht
  let sAddr := stagedAddr oText t.window.tab.curServer
  have hentry : isEntry oText sAddr := isEntry_stagedAddr _
  -- the screen starts with the address
  have hclick : t.window.step oText .onInputStagedServer = .ok t.window.onInputStagedServer := by
    rw [ConnectWindow.step, hfault]
    exact if_pos hcan
  have hinput : t.step oText .onInputStagedServer =
      .ok { t with window := t.window.onInputStagedServer, entryAddr := sAddr } := by
    rw [step, onInputStagedServer, callWindow, hclick]
    exact (if_pos hcan).trans (changeTo_eq_ok hentry)
  -- and the address is confirmed
  have hanswer : t.window.onInputStagedServer.step oText (.onButtonAnswerOk sAddr) =
      .ok { t.window with tab := t.window.tab.setAddr oText sAddr, currentScreen := .main } := by
    rw [ConnectWindow.step]
    simp only [ConnectWindow.onInputStagedServer, hfault]
    exact congrArg Except.ok ((if_pos rfl).trans (if_pos hentry))
  let u : AddrWindow :=
    { t with
      window := { t.window with tab := t.window.tab.setAddr oText sAddr, currentScreen := .main }
      entryAddr := sAddr }
  have hok : step oText { t with
      window := t.window.onInputStagedServer, entryAddr := sAddr } .onButtonAnswerOk = .ok u := by
    rw [step, onButtonAnswerOk, callWindow, hanswer]
    simp [Except.map, hentry, u]
  exact ⟨u, (Run.exec_cons_of_ok hinput).trans (Run.exec_cons_of_ok hok), rfl,
    saveStateToConfig_setAddr hfits⟩

/-- An address has been entered before. -/
def enterAddrOps : List AddrOp :=
  [.onInputStagedServer, .changeEntryAddr "11:22:33:44:55:66".toList, .onButtonAnswerOk]

theorem answerOk_keepsServer_enterAddrOps : ∃ t u : AddrWindow,
    Run.exec (step .bluez) t [.onInputStagedServer, .onButtonAnswerOk] = .ok u ∧
      t.window.tab.curServer.l2capPort = 8353 ∧ u.window.currentScreen = .main ∧
      ∀ oConf, u.window.tab.saveStateToConfig .bluez oConf =
        t.window.tab.saveStateToConfig .bluez oConf := by
  obtain ⟨t, ht, hview⟩ : ∃ t,
      Run.exec (step .bluez) (start .bluez ⟨8, 8353, false, 0, false, 0⟩ ⟨[], 0⟩
        BtKeyClient.defaultClient) enterAddrOps = .ok t ∧
      (t.window.btKeyClient.fault, t.window.canClick .inputServer,
        t.window.tab.curServer.l2capPort) = (none, true, 8353) :=
    Run.exists_exec_of_view (by decide +kernel)
  obtain ⟨hfault, hrest⟩ := Prod.mk.inj hview
  obtain ⟨hcan, hport⟩ := Prod.mk.inj hrest
  obtain ⟨u, hu, hmain, hsame⟩ :=
    answerOk_keepsServer .bluez _ _ _ enterAddrOps ht hfault hcan
  exact ⟨t, u, hu, hport, hmain, hsame⟩

end AddrWindow

end StmmInputBt
