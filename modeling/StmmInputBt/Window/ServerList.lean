import StmmInputBt.Foundation.Run
import StmmInputBt.Client.KeyServers

/-!
# The list of servers in the window

The tab of `BtkbWindow` in which a server is chosen (`btkbwindow.cc`), together with the
`BtKeyServers` that it shows. The servers are held twice, in `m_aServers` and in the rows of the
tree model. A refresh replaces the first; the rows are made anew only if it ended without an error.

`m_nSelectedPort` is zero while no row is selected. Labels, buttons and log messages are left out,
and so is the assert that a button which starts a refresh is not sensitive during one.

## Main definitions

* `ServerTab`, `ServerOp`, `ServerTab.perform`.
* `ServerTab.ShowsServers`, `ServerTab.FindsChosen`: the rows are the servers, and every one of them
  can be chosen.
* `ServerTab.ErrorFits`: the condition on a step.

## Main results

* `ServerTab.showsServers_iff`.
-/

namespace StmmInputBt

/-- A row of `m_refTreeModelServers`. -/
structure ServerRow where
  addr : List Char
  port : ℤ
  name : List Char
  deriving DecidableEq

structure ServerTab where
  btKeyServers : BtKeyServers
  treeModelServers : List ServerRow
  selectedAddr : List Char
  selectedPort : ℤ
  curServer : ServerInfo

/-- What can happen to the tab. -/
inductive ServerOp
  | onRefreshServers
  /-- The timeout source, with what is known of the thread. -/
  | doIntervalTimeout (oFuture : BtKeyServers.RefreshFuture)
  /-- A row is selected, or none. -/
  | onServerSelectionChanged (nRow : Option ℕ)
  | onChooseServer
  /-- The text entered in `AddrScreen`. -/
  | setAddr (sAddr : List Char)

namespace ServerTab

open BtKeyServers

variable (oText : AddrText)

/-- `s_nDefaultL2capPort`. -/
def defaultL2capPort : ℤ := 0x20A1

def getAddrFromString (sBtAddr : List Char) : BdAddr := (oText.str2ba sBtAddr).getD emptyBdAddr

def isValidStringAddr (sBtAddr : List Char) : Bool :=
  match oText.str2ba sBtAddr with
  | none => false
  | some oAddr => isValidAddr oAddr

def rowOf (oInfo : ServerInfo) : ServerRow :=
  ⟨oText.ba2str oInfo.btAddr, oInfo.l2capPort, oInfo.name⟩

/-- Clearing the rows leaves none selected. -/
def recreateServersList (nElapsed : ℕ) (w : ServerTab) : ServerTab :=
  let (aServers, oServers) := w.btKeyServers.getServers nElapsed
  { w with
    btKeyServers := oServers
    treeModelServers := aServers.map (rowOf oText)
    selectedPort := 0 }

def onServersChanged (nElapsed : ℕ) (w : ServerTab) : ServerTab :=
  let sError := w.btKeyServers.lastError
  if sError ≠ [] then w else w.recreateServersList oText nElapsed

def onChooseServer (nElapsed : ℕ) (w : ServerTab) : ServerTab :=
  if w.selectedPort = 0 then w
  else
    let oTempInfo : ServerInfo :=
      ⟨getAddrFromString oText w.selectedAddr, w.selectedPort, [], false⟩
    if !isValid oTempInfo then w
    else
      let (aServerInfos, oServers) := w.btKeyServers.getServers nElapsed
      match aServerInfos.find? fun oInfo =>
          oText.ba2str oInfo.btAddr = w.selectedAddr && w.selectedPort = oInfo.l2capPort with
      | some oInfo => { w with btKeyServers := oServers, curServer := oInfo }
      | none => { w with btKeyServers := oServers }

def onServerSelectionChanged (nElapsed : ℕ) (oRow : Option ServerRow) (w : ServerTab) : ServerTab :=
  match oRow with
  | some oRow =>
    let w := { w with selectedAddr := oRow.addr, selectedPort := oRow.port }
    if w.curServer.l2capPort = 0 then w.onChooseServer oText nElapsed else w
  | none => { w with selectedPort := 0 }

def setAddr (sAddr : List Char) (w : ServerTab) : ServerTab :=
  if sAddr = [] then
    { w with curServer := { w.curServer with btAddr := emptyBdAddr, l2capPort := 0 } }
  else
    let nL2capPort := w.curServer.l2capPort
    { w with
      curServer :=
        { w.curServer with
          btAddr := getAddrFromString oText sAddr
          l2capPort := if !isValidPort nL2capPort then defaultL2capPort else nL2capPort } }

/-- `AddrScreen::onButtonAnswerOk`. -/
def enterAddr (sAddr : List Char) (w : ServerTab) : ServerTab :=
  if sAddr = [] || isValidStringAddr oText sAddr then w.setAddr oText sAddr else w

/-- The timeout source calls the servers, and they may emit the signal that the refresh ended. -/
def intervalTimeout (nElapsed : ℕ) (oFuture : RefreshFuture) (w : ServerTab) : ServerTab :=
  let (bChanged, oServers) := w.btKeyServers.doIntervalTimeout oText nElapsed oFuture
  let w := { w with btKeyServers := oServers }
  if bChanged then w.onServersChanged oText nElapsed else w

/-- The constructor, with the server that the settings hold. -/
def new (nElapsed : ℕ) (oServers : BtKeyServers) (oCurServer : ServerInfo) : ServerTab :=
  recreateServersList oText nElapsed
    { btKeyServers := oServers
      treeModelServers := []
      selectedAddr := []
      selectedPort := 0
      curServer := oCurServer }

/-- What happens at a time. -/
def perform (w : ServerTab) (op : ℕ × ServerOp) : ServerTab :=
  match op.2 with
  | .onRefreshServers =>
    { w with btKeyServers := (w.btKeyServers.startRefreshServers op.1).2 }
  | .doIntervalTimeout oFuture => w.intervalTimeout oText op.1 oFuture
  | .onServerSelectionChanged nRow =>
    w.onServerSelectionChanged oText op.1 (nRow.bind fun nRow => w.treeModelServers[nRow]?)
  | .onChooseServer => w.onChooseServer oText op.1
  | .setAddr sAddr => w.enterAddr oText sAddr

/-- One thing happens; nothing fails. -/
def step (w : ServerTab) (op : ℕ × ServerOp) : Except Empty ServerTab := .ok (w.perform oText op)

/-- The rows are the addresses and ports of the servers, in order. -/
def ShowsServers (w : ServerTab) : Prop :=
  w.treeModelServers.map (fun oRow => (oRow.addr, oRow.port)) =
    w.btKeyServers.servers.map fun oInfo => (oText.ba2str oInfo.btAddr, oInfo.l2capPort)

/-- Choosing a row with a valid address and port makes its server the current one. -/
def FindsChosen (w : ServerTab) : Prop :=
  ∀ (nElapsed : ℕ), ∀ oRow ∈ w.treeModelServers,
    isValidStringAddr oText oRow.addr → isValidPort oRow.port →
    let t := (w.onServerSelectionChanged oText nElapsed (some oRow)).onChooseServer oText nElapsed
    t.curServer ∈ w.btKeyServers.servers ∧ oText.ba2str t.curServer.btAddr = oRow.addr ∧
      t.curServer.l2capPort = oRow.port

/-- A refresh that ends in an error ends while the rows show exactly the additional server. -/
def ErrorFits (w : ServerTab) (op : ℕ × ServerOp) : Prop :=
  match op.2 with
  | .doIntervalTimeout (some oInquiry) =>
    w.btKeyServers.isRefreshing → oInquiry.isError →
      w.treeModelServers.map (fun oRow => (oRow.addr, oRow.port)) =
        [(oText.ba2str w.btKeyServers.extraAddr, w.btKeyServers.l2capPort)]
  | _ => True

variable {oText} {w t : ServerTab} {s : BtKeyServers} {op : ℕ × ServerOp} {nElapsed : ℕ}

/-! ### What an operation does -/

/-- While a refresh is running there is no error. -/
def ErrorCleared (s : BtKeyServers) : Prop := s.refreshStarted ≥ 0 → s.lastError = []

theorem errorCleared_of_idle (h : s.refreshStarted = -1) : ErrorCleared s := by
  intro hstarted
  omega

theorem errorCleared_startRefreshServers (h : ErrorCleared s) :
    ErrorCleared (s.startRefreshServers nElapsed).2 := by
  rw [startRefreshServers]
  split_ifs
  · exact h
  · exact fun _ => rfl

theorem servers_startRefreshServers : (s.startRefreshServers nElapsed).2.servers = s.servers := by
  rw [startRefreshServers]
  split_ifs <;> rfl

variable (nElapsed) in
/-- `getServers` returns the servers and leaves them alone. -/
theorem getServers_spec (h : ErrorCleared s) :
    (s.getServers nElapsed).1 = s.servers ∧ (s.getServers nElapsed).2.servers = s.servers ∧
      ErrorCleared (s.getServers nElapsed).2 := by
  rw [getServers]
  dsimp only
  split_ifs
  · exact ⟨servers_startRefreshServers, servers_startRefreshServers,
      errorCleared_startRefreshServers h⟩
  · exact ⟨rfl, rfl, h⟩

/-- The rows and the servers are left alone. -/
structure ListsKept (w t : ServerTab) : Prop where
  rows : t.treeModelServers = w.treeModelServers
  servers : t.btKeyServers.servers = w.btKeyServers.servers
  cleared : ErrorCleared t.btKeyServers

theorem ListsKept.showsServers (h : ListsKept w t) (hw : w.ShowsServers oText) :
    t.ShowsServers oText := by
  rw [ShowsServers, h.rows, h.servers]
  exact hw

/-- Making the rows anew shows the servers. -/
theorem showsServers_recreateServersList (h : ErrorCleared w.btKeyServers) :
    (w.recreateServersList oText nElapsed).ShowsServers oText ∧
      ErrorCleared (w.recreateServersList oText nElapsed).btKeyServers := by
  obtain ⟨hreturned, hservers, hcleared⟩ := getServers_spec nElapsed h
  refine ⟨?_, hcleared⟩
  simp only [ShowsServers, recreateServersList, hreturned, hservers, List.map_map]
  rfl

theorem listsKept_onChooseServer (h : ErrorCleared w.btKeyServers) :
    ListsKept w (w.onChooseServer oText nElapsed) := by
  obtain ⟨-, hservers, hcleared⟩ := getServers_spec nElapsed h
  rw [onChooseServer]
  split_ifs
  · exact ⟨rfl, rfl, h⟩
  · dsimp only
    split_ifs
    · exact ⟨rfl, rfl, h⟩
    · split
      · exact ⟨rfl, hservers, hcleared⟩
      · exact ⟨rfl, hservers, hcleared⟩

theorem listsKept_onServerSelectionChanged (h : ErrorCleared w.btKeyServers)
    (oRow : Option ServerRow) : ListsKept w (w.onServerSelectionChanged oText nElapsed oRow) := by
  rw [onServerSelectionChanged.eq_def]
  cases oRow with
  | none => exact ⟨rfl, rfl, h⟩
  | some oRow =>
    dsimp only
    split_ifs
    · have hkept : ListsKept { w with selectedAddr := oRow.addr, selectedPort := oRow.port }
          (onChooseServer oText nElapsed
            { w with selectedAddr := oRow.addr, selectedPort := oRow.port }) :=
        listsKept_onChooseServer h
      exact ⟨hkept.rows, hkept.servers, hkept.cleared⟩
    · exact ⟨rfl, rfl, h⟩

theorem listsKept_enterAddr (h : ErrorCleared w.btKeyServers) (sAddr : List Char) :
    ListsKept w (w.enterAddr oText sAddr) := by
  rw [enterAddr, setAddr]
  split_ifs <;> exact ⟨rfl, rfl, h⟩

/-! ### A refresh ends -/

variable {oInquiry : Inquiry}

variable (oText nElapsed) in
/-- A refresh that ends in an error replaces the servers but not the rows. -/
theorem intervalTimeout_of_error (hrefreshing : w.btKeyServers.isRefreshing)
    (herror : oInquiry.isError) :
    (w.intervalTimeout oText nElapsed (some oInquiry)).treeModelServers = w.treeModelServers ∧
      (w.intervalTimeout oText nElapsed (some oInquiry)).btKeyServers.servers =
        [w.btKeyServers.extraServer] ∧
      ErrorCleared (w.intervalTimeout oText nElapsed (some oInquiry)).btKeyServers := by
  have hstarted : ¬ w.btKeyServers.refreshStarted < 0 := not_lt.mpr (of_decide_eq_true hrefreshing)
  have hservers := (refreshServers_error oText (s := w.btKeyServers) herror).1
  have hmessage : (w.btKeyServers.refreshServers oText oInquiry).1 ≠ [] := by
    cases oInquiry with
    | noAdapter sError => exact fun h => absurd (List.append_eq_nil_iff.mp h).1 (by decide)
    | inquiryError sError => exact fun h => absurd (List.append_eq_nil_iff.mp h).1 (by decide)
    | found aInquiryInfos nodup => cases herror
  rw [intervalTimeout, doIntervalTimeout, if_neg hstarted]
  simp only [hservers, if_pos hmessage, onServersChanged, if_true]
  exact ⟨trivial, trivial, errorCleared_of_idle rfl⟩

/-- A refresh that ends with a list of devices makes the rows anew. -/
theorem intervalTimeout_of_found (h : ErrorCleared w.btKeyServers)
    (hrefreshing : w.btKeyServers.isRefreshing) (hfound : ¬ oInquiry.isError) :
    (w.intervalTimeout oText nElapsed (some oInquiry)).ShowsServers oText ∧
      ErrorCleared (w.intervalTimeout oText nElapsed (some oInquiry)).btKeyServers := by
  have hrunning : w.btKeyServers.refreshStarted ≥ 0 := of_decide_eq_true hrefreshing
  have hmessage : (w.btKeyServers.refreshServers oText oInquiry).1 = [] := by
    cases oInquiry with
    | noAdapter sError => exact absurd rfl hfound
    | inquiryError sError => exact absurd rfl hfound
    | found aInquiryInfos nodup => rfl
  rw [intervalTimeout, doIntervalTimeout, if_neg (not_lt.mpr hrunning)]
  simp only [hmessage, ne_eq, not_true_eq_false, if_false, h hrunning, onServersChanged, if_true]
  exact showsServers_recreateServersList (errorCleared_of_idle rfl)

theorem intervalTimeout_of_idle (h : ErrorCleared w.btKeyServers)
    (hidle : w.btKeyServers.refreshStarted < 0) (oFuture : RefreshFuture) :
    ListsKept w (w.intervalTimeout oText nElapsed oFuture) := by
  rw [intervalTimeout, doIntervalTimeout.eq_def, if_pos hidle]
  exact ⟨rfl, rfl, h⟩

/-- Without a result nothing changes in the lists, hung or not. -/
theorem intervalTimeout_of_none (h : ErrorCleared w.btKeyServers) :
    ListsKept w (w.intervalTimeout oText nElapsed none) := by
  by_cases hidle : w.btKeyServers.refreshStarted < 0
  · exact intervalTimeout_of_idle h hidle none
  · rw [intervalTimeout, doIntervalTimeout, if_neg hidle]
    by_cases hlate : (nElapsed : ℤ) - w.btKeyServers.refreshStarted > w.btKeyServers.refreshLimit
    · simp only [if_pos hlate, if_true, onServersChanged]
      rw [if_pos (by decide)]
      exact ⟨rfl, rfl, errorCleared_of_idle rfl⟩
    · simp only [if_neg hlate]
      exact ⟨rfl, rfl, h⟩

/-! ### Choosing a server -/

theorem isValidPort_ne_zero {nL2capPort : ℤ} (h : isValidPort nL2capPort) : nL2capPort ≠ 0 := by
  rintro rfl
  exact absurd h (by decide)

theorem isValidStringAddr_iff {sAddr : List Char} : isValidStringAddr oText sAddr ↔
    ∃ oAddr, oText.str2ba sAddr = some oAddr ∧ isValidAddr oAddr := by
  rw [isValidStringAddr]
  split
  · next hnone => simp [hnone]
  · next oAddr hsome => simp [hsome]

variable (nElapsed) in
/-- A selected server that is among the servers becomes the current one. -/
theorem onChooseServer_of_mem (h : ErrorCleared w.btKeyServers)
    (haddr : isValidStringAddr oText w.selectedAddr) (hport : isValidPort w.selectedPort)
    (hmem : ∃ oInfo ∈ w.btKeyServers.servers, oText.ba2str oInfo.btAddr = w.selectedAddr ∧
      oInfo.l2capPort = w.selectedPort) :
    (w.onChooseServer oText nElapsed).curServer ∈ w.btKeyServers.servers ∧
      oText.ba2str (w.onChooseServer oText nElapsed).curServer.btAddr = w.selectedAddr ∧
      (w.onChooseServer oText nElapsed).curServer.l2capPort = w.selectedPort := by
  obtain ⟨oAddr, hread, hvalid⟩ := isValidStringAddr_iff.mp haddr
  obtain ⟨hreturned, -, -⟩ := getServers_spec nElapsed h
  have hinfo : isValid ⟨getAddrFromString oText w.selectedAddr, w.selectedPort, [], false⟩ := by
    simp [isValid, getAddrFromString, hread, hvalid, hport]
  rw [onChooseServer, if_neg (isValidPort_ne_zero hport)]
  simp only [hinfo, Bool.not_true, Bool.false_eq_true, if_false, hreturned]
  split
  · next oInfo hfind =>
    have hfound := List.find?_some hfind
    rw [Bool.and_eq_true, decide_eq_true_eq, decide_eq_true_eq] at hfound
    exact ⟨List.mem_of_find?_eq_some hfind, hfound.1, hfound.2.symm⟩
  · next hnone =>
    obtain ⟨oInfo, hlisted, hinfoAddr, hinfoPort⟩ := hmem
    have hnot := List.find?_eq_none.mp hnone oInfo hlisted
    simp [hinfoAddr, hinfoPort] at hnot

variable (oText nElapsed w) in
theorem selected_onServerSelectionChanged (oRow : ServerRow) :
    (w.onServerSelectionChanged oText nElapsed (some oRow)).selectedAddr = oRow.addr ∧
      (w.onServerSelectionChanged oText nElapsed (some oRow)).selectedPort = oRow.port := by
  have hkept : ∀ w : ServerTab, (w.onChooseServer oText nElapsed).selectedAddr = w.selectedAddr ∧
      (w.onChooseServer oText nElapsed).selectedPort = w.selectedPort := by
    intro w
    rw [onChooseServer]
    split_ifs
    · exact ⟨rfl, rfl⟩
    · dsimp only
      split_ifs
      · exact ⟨rfl, rfl⟩
      · split <;> exact ⟨rfl, rfl⟩
  rw [onServerSelectionChanged]
  split_ifs
  · exact hkept _
  · exact ⟨rfl, rfl⟩

/-- Where the rows show the servers, each of them can be chosen. -/
theorem ShowsServers.findsChosen (hw : w.ShowsServers oText) (h : ErrorCleared w.btKeyServers) :
    w.FindsChosen oText := by
  intro nElapsed oRow hmem haddr hport
  obtain ⟨hselected, hselectedPort⟩ :=
    selected_onServerSelectionChanged oText w nElapsed oRow
  have hkept : ListsKept w (w.onServerSelectionChanged oText nElapsed (some oRow)) :=
    listsKept_onServerSelectionChanged h (some oRow)
  obtain ⟨-, hservers, hcleared⟩ := hkept
  have hpair : (oRow.addr, oRow.port) ∈
      w.btKeyServers.servers.map fun oInfo => (oText.ba2str oInfo.btAddr, oInfo.l2capPort) := by
    rw [← hw]
    exact List.mem_map_of_mem hmem
  obtain ⟨oInfo, hlisted, heq⟩ := List.mem_map.mp hpair
  obtain ⟨hinfoAddr, hinfoPort⟩ := Prod.mk.inj heq
  have hchosen := onChooseServer_of_mem nElapsed hcleared (by rwa [hselected])
    (by rwa [hselectedPort])
    ⟨oInfo, by rwa [hservers], by rw [hinfoAddr, hselected], by rw [hinfoPort, hselectedPort]⟩
  rwa [hservers, hselected, hselectedPort] at hchosen

/-! ### Runs -/

/-- A step that meets the condition keeps the rows and the servers the same. -/
theorem showsServers_perform (hw : w.ShowsServers oText) (h : ErrorCleared w.btKeyServers)
    (hfits : w.ErrorFits oText op) :
    (w.perform oText op).ShowsServers oText ∧ ErrorCleared (w.perform oText op).btKeyServers := by
  obtain ⟨nElapsed, op⟩ := op
  have hkept : ∀ {t}, ListsKept w t → t.ShowsServers oText ∧ ErrorCleared t.btKeyServers :=
    fun ht => ⟨ht.showsServers hw, ht.cleared⟩
  cases op with
  | onRefreshServers =>
    exact hkept ⟨rfl, servers_startRefreshServers, errorCleared_startRefreshServers h⟩
  | doIntervalTimeout oFuture =>
    cases oFuture with
    | none => exact hkept (intervalTimeout_of_none h)
    | some oInquiry =>
      by_cases hrefreshing : w.btKeyServers.isRefreshing
      · by_cases herror : oInquiry.isError
        · obtain ⟨hrows, hservers, hcleared⟩ :=
            intervalTimeout_of_error oText nElapsed hrefreshing herror
          refine ⟨?_, hcleared⟩
          rw [ShowsServers, perform, hrows, hservers, hfits hrefreshing herror]
          rfl
        · exact intervalTimeout_of_found h hrefreshing herror
      · have hidle : w.btKeyServers.refreshStarted < 0 := by
          rw [isRefreshing, decide_eq_true_eq] at hrefreshing
          omega
        have hnone : ListsKept w (w.intervalTimeout oText nElapsed (some oInquiry)) :=
          intervalTimeout_of_idle h hidle _
        exact hkept hnone
  | onServerSelectionChanged nRow => exact hkept (listsKept_onServerSelectionChanged h _)
  | onChooseServer => exact hkept (listsKept_onChooseServer h)
  | setAddr sAddr => exact hkept (listsKept_enterAddr h sAddr)

/-- A refresh that ends in an error without meeting the condition leaves the rows behind. -/
theorem not_showsServers_perform (hfits : ¬ w.ErrorFits oText op) :
    ¬ (w.perform oText op).ShowsServers oText := by
  obtain ⟨nElapsed, op⟩ := op
  cases op with
  | doIntervalTimeout oFuture =>
    cases oFuture with
    | none => exact absurd trivial hfits
    | some oInquiry =>
      simp only [ErrorFits, Classical.not_imp] at hfits
      obtain ⟨hrefreshing, herror, hrows⟩ := hfits
      obtain ⟨hrowsKept, hservers, -⟩ :=
        intervalTimeout_of_error oText nElapsed hrefreshing herror
      rw [ShowsServers, perform, hrowsKept, hservers]
      exact hrows
  | onRefreshServers => exact absurd trivial hfits
  | onServerSelectionChanged nRow => exact absurd trivial hfits
  | onChooseServer => exact absurd trivial hfits
  | setAddr sAddr => exact absurd trivial hfits

/-- The rows are the servers, and each of them can be chosen, in every state of a run exactly if no
refresh ends in an error while the rows show anything but the additional server. -/
theorem showsServers_iff (oText : AddrText) (n1s28PeriodsAddr nL2capPort : ℤ) (bExtraServer : Bool)
    (oExtraAddr : BdAddr) (bFlush : Bool) (nElapsed : ℕ) (oCurServer : ServerInfo)
    (ops : List (ℕ × ServerOp)) :
    let w := new oText nElapsed
      (BtKeyServers.new n1s28PeriodsAddr nL2capPort bExtraServer oExtraAddr bFlush) oCurServer
    Run.Always (step oText) (fun w => w.ShowsServers oText ∧ w.FindsChosen oText) w ops ↔
      Run.Guarded (step oText) (ErrorFits oText) w ops := by
  refine Run.always_iff_guarded_of_invariant
    (J := fun w => w.ShowsServers oText ∧ ErrorCleared w.btKeyServers)
    (fun w h => ⟨h.1, h.1.findsChosen h.2⟩) ?_ ?_ ?_
  · rintro w op t ⟨hw, h⟩ hfits ⟨⟩
    exact showsServers_perform hw h hfits
  · rintro w op - hfits
    exact ⟨_, rfl, fun h => not_showsServers_perform hfits h.1⟩
  · refine showsServers_recreateServersList ?_
    rw [BtKeyServers.new]
    split_ifs <;> exact errorCleared_of_idle rfl

/-- A refresh finds a device, the next one ends in an error. -/
def foundThenError : List (ℕ × ServerOp) :=
  [(0, .onRefreshServers),
    (1000, .doIntervalTimeout
      (some (.found [⟨⟨0x00AABBCCDDEE, by decide⟩, none⟩] (List.nodup_singleton _)))),
    (2000, .onRefreshServers),
    (3000, .doIntervalTimeout (some (.noAdapter "No such device".toList)))]

/-- After the error the row of the device is still shown, and it is no longer among the servers. -/
theorem not_showsServers_foundThenError :
    ¬ Run.Always (step .bluez) (fun w => w.ShowsServers .bluez ∧ w.FindsChosen .bluez)
      (new .bluez 0 (BtKeyServers.new 8 8353 true 0x112233445566 false) ⟨0, 0, [], false⟩)
      foundThenError := by
  intro h
  have hshows := (h.last rfl).1
  revert hshows
  rw [ShowsServers]
  decide +kernel

end ServerTab

end StmmInputBt
