import StmmInputBt.BdAddr
import StmmInputBt.Foundation.Int32

/-!
# The servers in the neighborhood

`BtKeyServers` (`btkeyservers.cc`): looking for bluetooth devices in another thread, with an
additional server that can be configured on the command line.

What the calls of the hci library find out is an argument, `Inquiry`: there is no adapter, the
inquiry fails, or devices with different addresses are found. The text of an error is never empty.
Time is counted in milliseconds and does not wrap around. The flags of the inquiry and the progress
signal are left out.

## Main definitions

* `BtKeyServers.refreshServers`: what the thread returns.
* `BtKeyServers.startRefreshServers`, `BtKeyServers.doIntervalTimeout`, `BtKeyServers.getServers`.
* `BtKeyServers.ListsExtraOnce`: the list that a refresh should return.

## Main results

* `BtKeyServers.listsExtraOnce_iff`.
-/

namespace StmmInputBt

/-- `BtKeyServers::ServerInfo`. -/
structure ServerInfo where
  btAddr : BdAddr
  l2capPort : ℤ
  name : List Char
  sdp : Bool
  deriving DecidableEq

/-- An entry of the result of `::hci_inquiry`, with the name that `::hci_read_remote_name` reads. -/
structure InquiryInfo where
  bdaddr : RemoteAddr
  remoteName : Option (List Char)

/-- What the hci library finds out. -/
inductive Inquiry
  | noAdapter (sError : List Char)
  | inquiryError (sError : List Char)
  | found (aInquiryInfos : List InquiryInfo)
      (nodup : (aInquiryInfos.map InquiryInfo.bdaddr).Nodup)

namespace Inquiry

/-- The devices that have been found. -/
def infos : Inquiry → List InquiryInfo
  | noAdapter _ => []
  | inquiryError _ => []
  | found aInquiryInfos _ => aInquiryInfos

def isError : Inquiry → Bool
  | noAdapter _ => true
  | inquiryError _ => true
  | found _ _ => false

end Inquiry

structure BtKeyServers where
  n1s28PeriodsAddr : ℤ
  l2capPort : ℤ
  extraAddr : BdAddr
  flush : Bool
  lastError : List Char
  servers : List ServerInfo
  /-- When the refresh was started, `-1` while none is running. -/
  refreshStarted : ℤ
  hungThread : Bool
  /-- `m_refIntervalTimeout` is not null. -/
  intervalTimeout : Bool

namespace BtKeyServers

def isValidPort (nL2capPort : ℤ) : Bool :=
  if !(nL2capPort ≥ 4097 && nL2capPort ≤ 32765) then false
  else if nL2capPort % 2 = 0 then false
  else true

/-- Not `FF:FF:FF:FF:FF:FF` and not `00:00:00:00:00:00`. -/
def isValidAddr (oBtAddr : BdAddr) : Bool :=
  let cFirst := oBtAddr.byte 0
  if (List.range' 1 5).any fun nIdx => oBtAddr.byte nIdx ≠ cFirst then true
  else cFirst ≠ 0 && cFirst ≠ 0xFF

def isValid (oInfo : ServerInfo) : Bool :=
  if !isValidPort oInfo.l2capPort then false else isValidAddr oInfo.btAddr

def isEmptyAddr (oBtAddr : BdAddr) : Bool := oBtAddr = emptyBdAddr

/-- The entry of the additional server. -/
def extraServer (s : BtKeyServers) : ServerInfo where
  btAddr := s.extraAddr
  l2capPort := s.l2capPort
  name := "Unknown".toList
  sdp := false

def addExtraServer (aServers : List ServerInfo) (s : BtKeyServers) : List ServerInfo :=
  aServers ++ [s.extraServer]

/-- The constructor that the public ones call. -/
def new (n1s28PeriodsAddr nL2capPort : ℤ) (bExtraServer : Bool) (oExtraAddr : BdAddr)
    (bFlush : Bool) : BtKeyServers :=
  let s : BtKeyServers :=
    { n1s28PeriodsAddr
      l2capPort := nL2capPort
      extraAddr := if !bExtraServer then emptyBdAddr else oExtraAddr
      flush := bFlush
      lastError := []
      servers := []
      refreshStarted := -1
      hungThread := false
      intervalTimeout := false }
  if !isEmptyAddr s.extraAddr then { s with servers := s.addExtraServer s.servers } else s

def isRefreshing (s : BtKeyServers) : Bool := s.refreshStarted ≥ 0

/-- `nElapsed` is what the timeout source counts. -/
def startRefreshServers (nElapsed : ℕ) (s : BtKeyServers) : Bool × BtKeyServers :=
  if s.refreshStarted ≥ 0 then (false, s)
  else (true, { s with lastError := [], intervalTimeout := true, refreshStarted := nElapsed })

variable (oText : AddrText)

/-- A round of the loop over the found devices. -/
def addFound (s : BtKeyServers) (r : List ServerInfo × Bool) (oIi : InquiryInfo) :
    List ServerInfo × Bool :=
  let bExtraAddrFound :=
    if !isEmptyAddr s.extraAddr && s.extraAddr = oIi.bdaddr.1 then true else r.2
  -- an error is ignored, the name is then the address
  let sName := oIi.remoteName.getD (oText.ba2str oIi.bdaddr)
  (r.1 ++ [⟨oIi.bdaddr, s.l2capPort, sName, false⟩], bExtraAddrFound)

/-- The error and the servers. -/
def refreshServers (s : BtKeyServers) : Inquiry → List Char × List ServerInfo
  | .noAdapter sError => ("Error opening hci socket: ".toList ++ sError, s.addExtraServer [])
  | .inquiryError sError => ("Error hci_inquiry: ".toList ++ sError, s.addExtraServer [])
  | .found aInquiryInfos _ =>
    let (aServers, bExtraAddrFound) := aInquiryInfos.foldl (s.addFound oText) ([], false)
    ([], if !isEmptyAddr s.extraAddr && !bExtraAddrFound then s.addExtraServer aServers
      else aServers)

/-- What `doIntervalTimeout` finds: the thread has returned, or it has not. -/
abbrev RefreshFuture := Option Inquiry

/-- How many milliseconds a refresh may take: `std::max(14000, 2 * 1280 * m_n1s28PeriodsAddr)`,
where the product is an `int32_t`. -/
def refreshLimit (s : BtKeyServers) : ℤ := max 14000 (int32OfInt (2 * 1280 * s.n1s28PeriodsAddr))

/-- The callback of the timeout source, and whether it emits the signal that the refresh ended. -/
def doIntervalTimeout (nElapsed : ℕ) (oFuture : RefreshFuture) (s : BtKeyServers) :
    Bool × BtKeyServers :=
  if s.refreshStarted < 0 then (false, s)
  else
    match oFuture with
    | some oInquiry =>
      let (sError, aServers) := s.refreshServers oText oInquiry
      (true,
        { s with
          servers := aServers
          refreshStarted := -1
          lastError := if sError ≠ [] then sError else s.lastError })
    | none =>
      let nElapsedMillisec := nElapsed - s.refreshStarted
      if nElapsedMillisec > s.refreshLimit then
        (true,
          { s with
            hungThread := true
            refreshStarted := -1
            lastError :=
              "Refresh takes too long: hci driver error\nPlease restart the application.".toList })
      else (false, s)

/-- A call of `getServers`, which may start a refresh. -/
def getServers (nElapsed : ℕ) (s : BtKeyServers) : List ServerInfo × BtKeyServers :=
  let s := if isEmptyAddr s.extraAddr && !s.intervalTimeout then (s.startRefreshServers nElapsed).2
    else s
  (s.servers, s)

/-! ### The additional server -/

/-- The entry of a found device. -/
def foundServer (s : BtKeyServers) (oIi : InquiryInfo) : ServerInfo :=
  ⟨oIi.bdaddr, s.l2capPort, oIi.remoteName.getD (oText.ba2str oIi.bdaddr), false⟩

/-- What a refresh should return: the found devices, and after them the additional server if one is
configured and not among them. -/
def expectedServers (s : BtKeyServers) (oInquiry : Inquiry) : List ServerInfo :=
  oInquiry.infos.map (s.foundServer oText) ++
    if isEmptyAddr s.extraAddr ∨ s.extraAddr ∈ oInquiry.infos.map (·.bdaddr.1) then []
    else [s.extraServer]

/-- A refresh returns what it should, every address once, and no address that is all zero where no
additional server is configured. -/
structure ListsExtraOnce (s : BtKeyServers) (oInquiry : Inquiry) : Prop where
  servers : (s.refreshServers oText oInquiry).2 = s.expectedServers oText oInquiry
  once : ((s.refreshServers oText oInquiry).2.map ServerInfo.btAddr).Nodup
  notEmpty : isEmptyAddr s.extraAddr →
    ∀ oInfo ∈ (s.refreshServers oText oInquiry).2, oInfo.btAddr ≠ emptyBdAddr

variable {s : BtKeyServers} {oInquiry : Inquiry}

theorem isEmptyAddr_iff {oBtAddr : BdAddr} : isEmptyAddr oBtAddr ↔ oBtAddr = emptyBdAddr := by
  simp [isEmptyAddr]

/-- The loop lists the devices and notes whether the additional server is among them. -/
theorem foldl_addFound (aInquiryInfos : List InquiryInfo) (aServers : List ServerInfo)
    (bExtraAddrFound : Bool) :
    aInquiryInfos.foldl (s.addFound oText) (aServers, bExtraAddrFound) =
      (aServers ++ aInquiryInfos.map (s.foundServer oText),
        bExtraAddrFound || (!isEmptyAddr s.extraAddr &&
          decide (s.extraAddr ∈ aInquiryInfos.map (·.bdaddr.1)))) := by
  induction aInquiryInfos generalizing aServers bExtraAddrFound with
  | nil => simp
  | cons oIi aInquiryInfos ih =>
    rw [List.foldl_cons, addFound, ih, List.map_cons, List.append_assoc]
    refine Prod.ext rfl ?_
    cases isEmptyAddr s.extraAddr with
    | true => simp
    | false =>
      by_cases hextra : s.extraAddr = oIi.bdaddr.1
      · simp [hextra]
      · simp [hextra]

theorem refreshServers_found (aInquiryInfos : List InquiryInfo)
    (nodup : (aInquiryInfos.map InquiryInfo.bdaddr).Nodup) :
    (s.refreshServers oText (.found aInquiryInfos nodup)).2 =
      aInquiryInfos.map (s.foundServer oText) ++
        if isEmptyAddr s.extraAddr ∨ s.extraAddr ∈ aInquiryInfos.map (·.bdaddr.1) then []
        else [s.extraServer] := by
  have hloop := foldl_addFound oText (s := s) aInquiryInfos [] false
  rw [List.nil_append, Bool.false_or] at hloop
  unfold refreshServers
  dsimp only
  rw [hloop]
  by_cases hlisted : isEmptyAddr s.extraAddr ∨ s.extraAddr ∈ aInquiryInfos.map (·.bdaddr.1)
  · rw [if_pos hlisted, List.append_nil, if_neg]
    rcases hlisted with h | h <;> simp [h]
  · obtain ⟨hempty, hmem⟩ := not_or.mp hlisted
    rw [if_neg hlisted, if_pos]
    · rfl
    · simp [hempty, hmem]

theorem refreshServers_error (h : oInquiry.isError) :
    (s.refreshServers oText oInquiry).2 = [s.extraServer] ∧ oInquiry.infos = [] := by
  cases oInquiry with
  | noAdapter sError => exact ⟨rfl, rfl⟩
  | inquiryError sError => exact ⟨rfl, rfl⟩
  | found aInquiryInfos nodup => cases h

/-- What is expected never lists an address twice. -/
theorem nodup_expectedServers :
    ((s.expectedServers oText oInquiry).map ServerInfo.btAddr).Nodup := by
  have hinfos : (oInquiry.infos.map (·.bdaddr.1)).Nodup := by
    cases oInquiry with
    | noAdapter sError => exact .nil
    | inquiryError sError => exact .nil
    | found aInquiryInfos nodup =>
      have h := nodup.map Subtype.val_injective
      rwa [List.map_map] at h
  have hfound : (oInquiry.infos.map (s.foundServer oText)).map ServerInfo.btAddr =
      oInquiry.infos.map (·.bdaddr.1) := by
    rw [List.map_map]
    rfl
  rw [expectedServers, List.map_append, hfound]
  split_ifs with hlisted
  · simpa using hinfos
  · refine hinfos.append (List.nodup_singleton _) ?_
    rw [List.map_singleton, List.disjoint_singleton]
    exact fun hmem => hlisted (.inr hmem)

/-- The additional server is listed once, and only if it is configured, unless none is configured
and the inquiry ends in an error. -/
theorem listsExtraOnce_iff (oText : AddrText) (s : BtKeyServers) (oInquiry : Inquiry) :
    s.ListsExtraOnce oText oInquiry ↔ ¬ (isEmptyAddr s.extraAddr ∧ oInquiry.isError) := by
  constructor
  · rintro ⟨-, -, hnotEmpty⟩ ⟨hempty, herror⟩
    refine hnotEmpty hempty s.extraServer ?_ (isEmptyAddr_iff.mp hempty)
    rw [(refreshServers_error oText herror).1]
    exact List.mem_singleton_self _
  · intro hcondition
    have hservers : (s.refreshServers oText oInquiry).2 = s.expectedServers oText oInquiry := by
      by_cases herror : oInquiry.isError
      · obtain ⟨hlist, hinfos⟩ := refreshServers_error oText (s := s) herror
        have hconfigured : ¬ isEmptyAddr s.extraAddr = true := fun h => hcondition ⟨h, herror⟩
        rw [hlist, expectedServers, hinfos]
        simp [hconfigured]
      · cases oInquiry with
        | noAdapter sError => exact absurd rfl herror
        | inquiryError sError => exact absurd rfl herror
        | found aInquiryInfos nodup => exact refreshServers_found oText aInquiryInfos nodup
    refine ⟨hservers, hservers ▸ nodup_expectedServers oText, fun hempty oInfo hmem => ?_⟩
    rw [hservers, expectedServers, if_pos (.inl hempty), List.append_nil] at hmem
    obtain ⟨oIi, -, rfl⟩ := List.mem_map.mp hmem
    exact oIi.bdaddr.2

/-- Without a bluetooth adapter a refresh lists the address that is all zero. -/
theorem not_listsExtraOnce_noAdapter :
    ¬ (new 8 8353 false 0 false).ListsExtraOnce .bluez (.noAdapter "No such device".toList) := by
  intro h
  exact h.notEmpty rfl _ (List.mem_singleton_self _) rfl

end BtKeyServers

end StmmInputBt
