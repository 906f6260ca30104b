import StmmInputBt.Window.ServerList

/-!
# The selected server in the settings

What the settings keep of the server that is selected (`saveStateToConfig` and
`loadStateFromConfig` of `btkbwindow.cc`), over a history of windows: the user selects and clears
servers, the window saves, and a new window loads. The address of the current server of a new
window is not initialised; it is an argument.

A window without a selected server saves nothing, so that what an earlier one has saved stays in
the settings.

## Main definitions

* `ServerConfig`, `ServerTab.saveStateToConfig`, `ServerConfig.load`.
* `ServerSession`, `SessionOp`, `ServerSession.perform`: the history.
* `ServerSession.RestoresSaved`, `ServerSession.SaveFits`: the property and the condition on a step.

## Main results

* `ServerSession.restoresSaved_iff`.
-/

namespace StmmInputBt

/-- What the settings hold of the selected server. -/
structure ServerConfig where
  selectedServerAddr : List Char
  selectedServerPort : ℤ
  deriving DecidableEq

/-- `m_oCurServer` of a new window. -/
def ServerInfo.initial (oBtAddr : BdAddr) : ServerInfo := ⟨oBtAddr, 0, [], false⟩

structure ServerSession where
  tab : ServerTab
  config : ServerConfig

/-- How the program is started. -/
structure ServerArgs where
  n1s28PeriodsAddr : ℤ
  l2capPort : ℤ
  extraServer : Bool
  extraAddr : BdAddr
  flush : Bool
  /-- What is in `m_oCurServer.m_oBtAddr` when the window is constructed. -/
  initialAddr : BdAddr

inductive SessionOp
  | tab (op : ℕ × ServerOp)
  | saveStateToConfig
  /-- A new window, of the program started again. -/
  | restart (oArgs : ServerArgs)

open BtKeyServers ServerTab

variable (oText : AddrText)

def ServerTab.saveStateToConfig (w : ServerTab) (oConf : ServerConfig) : ServerConfig :=
  if isValidPort w.curServer.l2capPort then
    ⟨oText.ba2str w.curServer.btAddr, w.curServer.l2capPort⟩
  else oConf

/-- The end of `loadStateFromConfig`. -/
def ServerConfig.load (oConf : ServerConfig) (oCurServer : ServerInfo) : ServerInfo :=
  let bIsValidAddr := isValidStringAddr oText oConf.selectedServerAddr
  let oCurServer :=
    if bIsValidAddr then
      { oCurServer with btAddr := getAddrFromString oText oConf.selectedServerAddr }
    else oCurServer
  if bIsValidAddr then
    let nSelectedServerPort := oConf.selectedServerPort
    if isValidPort nSelectedServerPort then { oCurServer with l2capPort := nSelectedServerPort }
    else oCurServer
  else oCurServer

/-- The settings hold a server. -/
def ServerConfig.HoldsServer (oConf : ServerConfig) : Prop :=
  isValidStringAddr oText oConf.selectedServerAddr ∧ isValidPort oConf.selectedServerPort

namespace ServerSession

/-- The program is started with the settings. -/
def start (oArgs : ServerArgs) (oConf : ServerConfig) : ServerSession where
  tab := ServerTab.new oText 0
    (BtKeyServers.new oArgs.n1s28PeriodsAddr oArgs.l2capPort oArgs.extraServer oArgs.extraAddr
      oArgs.flush)
    (oConf.load oText (.initial oArgs.initialAddr))
  config := oConf

def perform (s : ServerSession) : SessionOp → ServerSession
  | .tab op => { s with tab := s.tab.perform oText op }
  | .saveStateToConfig => { s with config := s.tab.saveStateToConfig oText s.config }
  | .restart oArgs => start oText oArgs s.config

/-- One thing happens; nothing fails. -/
def step (s : ServerSession) (op : SessionOp) : Except Empty ServerSession :=
  .ok (s.perform oText op)

/-- A new window that loads what is saved has the same selection. -/
def RestoresSaved (s : ServerSession) (op : SessionOp) : Prop :=
  match op with
  | .saveStateToConfig =>
    ∀ oBtAddr : BdAddr,
      let oCurServer := s.tab.curServer
      let t := (s.tab.saveStateToConfig oText s.config).load oText (.initial oBtAddr)
      (isValidPort oCurServer.l2capPort →
        t.btAddr = oCurServer.btAddr ∧ t.l2capPort = oCurServer.l2capPort) ∧
      (¬ isValidPort oCurServer.l2capPort → t.l2capPort = 0)
  | _ => True

/-- There is a selected server to save, or none in the settings. -/
def SaveFits (s : ServerSession) (op : SessionOp) : Prop :=
  match op with
  | .saveStateToConfig => isValidPort s.tab.curServer.l2capPort ∨ ¬ s.config.HoldsServer oText
  | _ => True

/-- A server with a valid port has a valid address. -/
def AddrFits (oCurServer : ServerInfo) : Prop :=
  isValidPort oCurServer.l2capPort → isValidAddr oCurServer.btAddr

/-- There is no current server, or its address and its port are valid. -/
def CurServerFits (oCurServer : ServerInfo) : Prop :=
  oCurServer.l2capPort = 0 ∨ isValid oCurServer

variable {oText} {s t : ServerSession} {w : ServerTab} {op : ℕ × ServerOp} {nElapsed : ℕ}
  {oConf : ServerConfig} {oCurServer : ServerInfo} {sAddr : List Char} {oBtAddr : BdAddr}

theorem isValidStringAddr_ba2str : isValidStringAddr oText (oText.ba2str oBtAddr) =
    isValidAddr oBtAddr := by
  rw [isValidStringAddr, oText.str2ba_ba2str]

theorem getAddrFromString_ba2str : getAddrFromString oText (oText.ba2str oBtAddr) = oBtAddr := by
  rw [getAddrFromString, oText.str2ba_ba2str, Option.getD_some]

theorem isValidAddr_getAddrFromString (h : isValidStringAddr oText sAddr) :
    isValidAddr (getAddrFromString oText sAddr) := by
  obtain ⟨oAddr, hread, hvalid⟩ := isValidStringAddr_iff.mp h
  rwa [getAddrFromString, hread, Option.getD_some]

/-! ### The invariant -/

theorem isValid_iff : isValid oCurServer ↔
    isValidPort oCurServer.l2capPort ∧ isValidAddr oCurServer.btAddr := by
  rw [isValid]
  split <;> simp_all

theorem CurServerFits.addrFits (h : CurServerFits oCurServer) : AddrFits oCurServer := by
  rcases h with hzero | hvalid
  · exact fun hport => absurd hzero (isValidPort_ne_zero hport)
  · exact fun _ => (isValid_iff.mp hvalid).2

theorem curServerFits_load (oBtAddr : BdAddr) :
    CurServerFits (oConf.load oText (.initial oBtAddr)) := by
  rw [ServerConfig.load]
  by_cases haddr : isValidStringAddr oText oConf.selectedServerAddr
  · simp only [if_pos haddr]
    split_ifs with hport
    · exact .inr (isValid_iff.mpr ⟨hport, isValidAddr_getAddrFromString haddr⟩)
    · exact .inl rfl
  · simp only [if_neg haddr]
    exact .inl rfl

variable (oText w nElapsed) in
/-- A server that is chosen is valid. -/
theorem curServer_onChooseServer :
    (w.onChooseServer oText nElapsed).curServer = w.curServer ∨
      isValid (w.onChooseServer oText nElapsed).curServer := by
  rw [onChooseServer]
  split_ifs
  · exact .inl rfl
  · dsimp only
    split_ifs with hvalid
    · exact .inl rfl
    · split
      · next oInfo hfind =>
        -- the server that is found has the address and the port that were checked
        have hfound := List.find?_some hfind
        rw [Bool.and_eq_true, decide_eq_true_eq, decide_eq_true_eq] at hfound
        rw [Bool.not_eq_true, Bool.not_eq_false', isValid_iff, ← hfound.1,
          getAddrFromString_ba2str, hfound.2] at hvalid
        exact .inr (isValid_iff.mpr hvalid)
      · exact .inl rfl

theorem curServerFits_onChooseServer (h : CurServerFits w.curServer) :
    CurServerFits (w.onChooseServer oText nElapsed).curServer := by
  rcases curServer_onChooseServer oText w nElapsed with heq | hvalid
  · rwa [heq]
  · exact .inr hvalid

theorem curServerFits_onServerSelectionChanged (h : CurServerFits w.curServer)
    (oRow : Option ServerRow) :
    CurServerFits (w.onServerSelectionChanged oText nElapsed oRow).curServer := by
  rw [onServerSelectionChanged.eq_def]
  split
  · dsimp only
    split_ifs
    · exact curServerFits_onChooseServer h
    · exact h
  · exact h

theorem curServerFits_enterAddr (h : CurServerFits w.curServer) (sAddr : List Char) :
    CurServerFits (w.enterAddr oText sAddr).curServer := by
  rw [enterAddr, setAddr]
  split_ifs with haddr hnil
  · exact .inl rfl
  · have hvalid : isValidStringAddr oText sAddr := by simpa [hnil] using haddr
    refine .inr (isValid_iff.mpr ⟨?_, isValidAddr_getAddrFromString hvalid⟩)
    -- the port is the old one or the default one
    dsimp only
    split_ifs with hport
    · decide
    · simpa using hport
  · exact h

theorem curServer_intervalTimeout {oFuture : RefreshFuture} :
    (w.intervalTimeout oText nElapsed oFuture).curServer = w.curServer := by
  simp only [ServerTab.intervalTimeout, onServersChanged, recreateServersList]
  split_ifs <;> rfl

theorem curServerFits_perform (h : CurServerFits w.curServer) :
    CurServerFits (w.perform oText op).curServer := by
  obtain ⟨nElapsed, op⟩ := op
  cases op with
  | onRefreshServers => exact h
  | doIntervalTimeout oFuture =>
    rw [ServerTab.perform, curServer_intervalTimeout]
    exact h
  | onServerSelectionChanged nRow => exact curServerFits_onServerSelectionChanged h _
  | onChooseServer => exact curServerFits_onChooseServer h
  | setAddr sAddr => exact curServerFits_enterAddr h sAddr

theorem curServerFits_step (h : CurServerFits s.tab.curServer) (op : SessionOp) :
    CurServerFits (s.perform oText op).tab.curServer := by
  cases op with
  | tab op => exact curServerFits_perform h
  | saveStateToConfig => exact h
  | restart oArgs => exact curServerFits_load oArgs.initialAddr

/-! ### Saving and loading -/

theorem load_of_holdsServer (h : oConf.HoldsServer oText) : oConf.load oText oCurServer =
    { oCurServer with
      btAddr := getAddrFromString oText oConf.selectedServerAddr
      l2capPort := oConf.selectedServerPort } := by
  rw [ServerConfig.load]
  simp only [if_pos h.1, if_pos h.2]

theorem port_load_of_not_holdsServer (h : ¬ oConf.HoldsServer oText) :
    (oConf.load oText oCurServer).l2capPort = oCurServer.l2capPort := by
  rw [ServerConfig.load]
  by_cases haddr : isValidStringAddr oText oConf.selectedServerAddr
  · have hport : ¬ isValidPort oConf.selectedServerPort = true := fun hport => h ⟨haddr, hport⟩
    simp only [if_pos haddr, if_neg hport]
  · simp only [if_neg haddr]

/-- A save is restored exactly if it meets the condition. -/
theorem restoresSaved_step_iff (h : AddrFits s.tab.curServer) (op : SessionOp) :
    s.RestoresSaved oText op ↔ s.SaveFits oText op := by
  cases op with
  | tab op => exact Iff.rfl
  | restart oArgs => exact Iff.rfl
  | saveStateToConfig =>
    rw [RestoresSaved, SaveFits]
    by_cases hport : isValidPort s.tab.curServer.l2capPort
    · have hholds : (ServerConfig.mk (oText.ba2str s.tab.curServer.btAddr)
          s.tab.curServer.l2capPort).HoldsServer oText :=
        ⟨isValidStringAddr_ba2str.trans (h hport), hport⟩
      have hsaved : s.tab.saveStateToConfig oText s.config =
          ⟨oText.ba2str s.tab.curServer.btAddr, s.tab.curServer.l2capPort⟩ := if_pos hport
      simp only [hsaved, load_of_holdsServer hholds, getAddrFromString_ba2str]
      simp [hport]
    · have hkept : s.tab.saveStateToConfig oText s.config = s.config := if_neg hport
      rw [hkept, or_iff_right hport]
      constructor
      · intro hrestored hholds
        have hzero := (hrestored 0).2 hport
        rw [load_of_holdsServer hholds] at hzero
        exact isValidPort_ne_zero hholds.2 hzero
      · exact fun hholds oBtAddr => ⟨fun h => absurd h hport, fun _ =>
          port_load_of_not_holdsServer hholds⟩

/-- In a history of selecting, clearing, saving and loading every save is restored exactly if each
one has a selected server to save or finds none in the settings. -/
theorem restoresSaved_iff (oText : AddrText) (oArgs : ServerArgs) (oConf : ServerConfig)
    (ops : List SessionOp) :
    Run.Guarded (step oText) (RestoresSaved oText) (start oText oArgs oConf) ops ↔
      Run.Guarded (step oText) (SaveFits oText) (start oText oArgs oConf) ops := by
  refine Run.guarded_congr_of_invariant (I := fun s => CurServerFits s.tab.curServer)
    (fun s op h => restoresSaved_step_iff h.addrFits op) ?_ (curServerFits_load oArgs.initialAddr)
  rintro s op t h ⟨⟩
  exact curServerFits_step h op

/-- A server is entered and saved, then it is cleared and the window saves again. -/
def clearedSelection : List SessionOp :=
  [.tab (0, .setAddr "11:22:33:44:55:66".toList), .saveStateToConfig, .tab (0, .setAddr []),
    .saveStateToConfig]

/-- The server that was cleared is selected in the next window. -/
theorem not_restoresSaved_clearedSelection :
    ¬ Run.Guarded (step .bluez) (RestoresSaved .bluez)
      (start .bluez ⟨8, 8353, false, 0, false, 0⟩ ⟨[], 0⟩) clearedSelection := by
  intro h
  have hsaved := (h.2 _ rfl).2 _ rfl |>.2 _ rfl |>.1
  have hport := (hsaved 0).2 (by decide +kernel)
  revert hport
  decide +kernel

end ServerSession

end StmmInputBt
