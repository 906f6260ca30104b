import StmmInputBt.Foundation.Lists
import StmmInputBt.Server.System

/-!
# The virtual cable

A client that connects stays known to the server, under one backend id, until it asks for its
removal: its address is in `m_aPermanentAddrs` and its device in `m_aBtDevices` at that index,
whether its socket is open or not. A slot that is free again is reused.

## Main definitions

* `GtkBackend.VirtualCable`: the invariant of the three vectors and the receive sources.
* `GtkBackend.isPlugged`: the abstract view: a client is plugged in when it connected and has not
  asked for its removal since.

## Main results

* `GtkBackend.virtualCable_run`: the invariant along runs, and what the clients did agrees with
  what the server knows and with what it told its listeners.
-/

namespace StmmInputBt

namespace GtkBackend

open BtGtkDeviceManager

/-- The vectors of the backend and of the device manager fit together. -/
structure VirtualCable (b : Server) : Prop where
  inputSources_length : b.inputSources.length = b.permanentAddrs.length
  btDevices_length : b.owner.btDevices.length = b.permanentAddrs.length
  distinct : ∀ (i j : ℕ) a, b.permanentAddrs[i]? = some a → b.permanentAddrs[j]? = some a →
    a ≠ emptyBdAddr → i = j
  freeDevice : ∀ i : ℕ, b.permanentAddrs[i]? = some emptyBdAddr → b.owner.device i = none
  usedDevice : ∀ (i : ℕ) a, b.permanentAddrs[i]? = some a → a ≠ emptyBdAddr →
    ∃ d, b.owner.device i = some d ∧ d.name = a
  freeSource : ∀ i : ℕ, b.permanentAddrs[i]? = some emptyBdAddr → b.inputSources[i]? = some none
  /-- An attached source is the one that `m_aInputSources` holds for its backend id. -/
  attached : ∀ (sid : SourceId) src, b.sources[sid]? = some src → src.attached →
    b.inputSources[src.backendId]? = some (some sid) ∧
      b.permanentAddrs[src.backendId]? = some src.peer.1
  sound : b.owner.Sound

/-! ### Accepting a client -/

theorem getElem?_of_getBackendId {aAddrs : List BdAddr} {oBdAddr : BdAddr} {i : ℕ}
    (h : getBackendId aAddrs oBdAddr = some i) : aAddrs[i]? = some oBdAddr := by
  obtain ⟨hlt, heq, -⟩ := List.findIdx?_eq_some_iff_getElem.mp h
  rw [List.getElem?_eq_getElem hlt, Option.some.injEq]
  simpa using heq

theorem getElem?_ne_of_getBackendId {aAddrs : List BdAddr} {oBdAddr : BdAddr}
    (h : getBackendId aAddrs oBdAddr = none) (i : ℕ) : aAddrs[i]? ≠ some oBdAddr := by
  intro hi
  have hnot := List.findIdx?_eq_none_iff.mp h oBdAddr (List.mem_of_getElem? hi)
  simp at hnot

/-- What `b'` has to do with `b` when the client `peer` was accepted under the id `i`. -/
structure Accepted (b b' : Server) (peer : RemoteAddr) (i : ℕ) : Prop where
  inputSources_length : b'.inputSources.length = b'.permanentAddrs.length
  btDevices_length : b'.owner.btDevices.length = b'.permanentAddrs.length
  permanentAddrs : ∀ j : ℕ, b'.permanentAddrs[j]? =
    if j = i then some peer.1 else b.permanentAddrs[j]?
  inputSources : ∀ j : ℕ, b'.inputSources[j]? =
    if j = i then some (some b.sources.length) else b.inputSources[j]?
  /-- Only the new source is attached among those of the id. -/
  sources : ∀ (k : ℕ) src, b'.sources[k]? = some src → src.attached →
    (k = b.sources.length ∧ src.backendId = i ∧ src.peer = peer) ∨
      (b.sources[k]? = some src ∧ src.backendId ≠ i)
  owner : (b.permanentAddrs[i]? = some peer.1 ∧ b'.owner = b.owner) ∨
    ((∀ j : ℕ, b.permanentAddrs[j]? ≠ some peer.1) ∧ b.owner.device i = none ∧
      b'.owner = b.owner.deviceAdded peer i)

theorem sources_attachNewSource {srcs : List BlueServerReceiveSource} {b : Server} {i nClientFD : ℕ}
    {peer : RemoteAddr} (hlen : srcs.length = b.sources.length)
    (hsrcs : ∀ (k : ℕ) src, srcs[k]? = some src → src.attached →
      b.sources[k]? = some src ∧ src.backendId ≠ i) (k : ℕ) (src : BlueServerReceiveSource)
    (hk : (srcs ++ [⟨i, nClientFD, peer, true⟩])[k]? = some src) (hatt : src.attached) :
    (k = b.sources.length ∧ src.backendId = i ∧ src.peer = peer) ∨
      (b.sources[k]? = some src ∧ src.backendId ≠ i) := by
  rcases lt_trichotomy k srcs.length with hlt | heq | hgt
  · rw [List.getElem?_append_left hlt] at hk
    exact .inr (hsrcs k src hk hatt)
  · subst heq
    rw [List.getElem?_concat_length, Option.some.injEq] at hk
    exact .inl ⟨hlen, by rw [← hk], by rw [← hk]⟩
  · rw [List.getElem?_eq_none (by simp; omega)] at hk
    cases hk

variable {b : Server}

/-- The sources of the id are no longer attached when `doServerAcceptClient` has dropped the one
that `m_aInputSources` holds. -/
theorem VirtualCable.accept_known (h : VirtualCable b) {i : ℕ} {peer : RemoteAddr}
    (hknown : getBackendId b.permanentAddrs peer = some i) (nClientFD : ℕ) :
    ∃ b', doServerAcceptClient managerOwner nClientFD peer b = .ok b' ∧ Accepted b b' peer i := by
  have hi := getElem?_of_getBackendId hknown
  have hlt : i < b.inputSources.length := by
    rw [h.inputSources_length]
    exact (List.getElem?_eq_some_iff.mp hi).1
  have hinputs {xs : List (Option SourceId)} (hxs : xs = b.inputSources ∨
      xs = b.inputSources.set i none) (n : SourceId) (j : ℕ) :
      (xs.set i (some n))[j]? = if j = i then some (some n) else b.inputSources[j]? := by
    have hset : xs.set i (some n) = b.inputSources.set i (some n) := by
      rcases hxs with rfl | rfl
      · rfl
      · exact List.set_set ..
    rw [hset, getElem?_set_of_lt hlt]
  have haddrs (j : ℕ) : b.permanentAddrs[j]? =
      if j = i then some peer.1 else b.permanentAddrs[j]? := by
    split_ifs with hj
    · rw [hj, hi]
    · rfl
  cases hold : b.inputSources.getD i none with
  | none =>
    refine ⟨b.attachNewSource i nClientFD peer, ?_, ?_, h.btDevices_length, haddrs,
      hinputs (.inl rfl) _, sources_attachNewSource rfl fun k src hk hatt => ⟨hk, ?_⟩,
      .inl ⟨hi, rfl⟩⟩
    · simp only [doServerAcceptClient, hknown, hold]
    · simpa [attachNewSource] using h.inputSources_length
    · rintro rfl
      have hk' := (h.attached k src hk hatt).1
      rw [List.getD_eq_getElem?_getD, hk'] at hold
      cases hold
  | some sid =>
    have hdetached := detached_destroySource sid b
    refine ⟨attachNewSource i nClientFD peer
      { b.destroySource sid with inputSources := b.inputSources.set i none }, ?_, ?_,
      h.btDevices_length, haddrs, ?_,
      sources_attachNewSource hdetached.length fun k src hk hatt => ?_, .inl ⟨hi, rfl⟩⟩
    · simp only [doServerAcceptClient, hknown, hold]
    · simpa [attachNewSource, destroySource] using h.inputSources_length
    · refine fun j => (hinputs (.inr rfl) (b.destroySource sid).sources.length j).trans ?_
      rw [hdetached.length]
    · obtain ⟨hne, hk'⟩ := hdetached.attached k src hk hatt
      refine ⟨hk', ?_⟩
      rintro rfl
      have hsome := (h.attached k src hk' hatt).1
      rw [List.getD_eq_getElem?_getD, hsome] at hold
      exact hne (Option.some.inj hold)

/-- A client that is not known gets the first free slot, or a new one. -/
theorem VirtualCable.accept_new (h : VirtualCable b) {peer : RemoteAddr}
    (hnew : getBackendId b.permanentAddrs peer = none) (nClientFD : ℕ) :
    ∃ b' i, doServerAcceptClient managerOwner nClientFD peer b = .ok b' ∧
      Accepted b b' peer i := by
  have hne := getElem?_ne_of_getBackendId hnew
  -- no source is attached for a slot that is free
  have hsrcs {i : ℕ} (hfree : b.inputSources[i]? ≠ none → b.inputSources[i]? = some none)
      (k : ℕ) (src : BlueServerReceiveSource) (hk : b.sources[k]? = some src)
      (hatt : src.attached) : b.sources[k]? = some src ∧ src.backendId ≠ i := by
    refine ⟨hk, ?_⟩
    rintro rfl
    have hsome := (h.attached k src hk hatt).1
    rw [hsome] at hfree
    cases hfree (by simp)
  have hadded {i : ℕ} (hdevice : b.owner.device i = none) :
      managerOwner.onDeviceAdded peer i b.owner = .ok (b.owner.deviceAdded peer i) := by
    have hadd := onDeviceAdded_eq peer.1 i h.sound.deviceIdsLt
    rwa [if_pos (Option.isNone_iff_eq_none.mpr hdevice)] at hadd
  cases hslot : getBackendId b.permanentAddrs emptyBdAddr with
  | none =>
    have hout : b.permanentAddrs[b.permanentAddrs.length]? = none := by simp
    have hdevice : b.owner.device b.permanentAddrs.length = none := by
      rw [device]
      rw [← h.btDevices_length]
      simp
    have hinput : b.inputSources[b.permanentAddrs.length]? = none := by
      rw [← h.inputSources_length]
      simp
    have hn := h.inputSources_length
    refine ⟨⟨b.owner.deviceAdded peer b.permanentAddrs.length, b.permanentAddrs ++ [peer.1],
      (b.inputSources ++ [none]).set b.permanentAddrs.length (some b.sources.length),
      b.sources ++ [⟨b.permanentAddrs.length, nClientFD, peer, true⟩]⟩,
      b.permanentAddrs.length, ?_, ?_⟩
    · simp only [doServerAcceptClient, hnew, hslot, attachNewSource, hadded hdevice, bind,
        Except.bind]
      rfl
    · refine ⟨?_, ?_, getElem?_append_singleton _ _, fun j => ?_,
        sources_attachNewSource rfl (hsrcs fun hno => absurd hinput hno),
        .inr ⟨hne, hdevice, rfl⟩⟩
      · simp [hn]
      · rw [length_deviceAdded, h.btDevices_length]
        simp
      · rw [getElem?_set_of_lt (by simp [hn]), getElem?_append_singleton, ← hn]
        split_ifs <;> rfl
  | some i =>
    have hi := getElem?_of_getBackendId hslot
    have hlt : i < b.permanentAddrs.length := (List.getElem?_eq_some_iff.mp hi).1
    have hdevice := h.freeDevice i hi
    have hinput := h.freeSource i hi
    refine ⟨⟨b.owner.deviceAdded peer i, b.permanentAddrs.set i peer.1,
      b.inputSources.set i (some b.sources.length),
      b.sources ++ [⟨i, nClientFD, peer, true⟩]⟩, i, ?_, ?_⟩
    · simp only [doServerAcceptClient, hnew, hslot, attachNewSource, hadded hdevice, hinput,
        decide_true, assertThat_true, bind, Except.bind]
      rfl
    · refine ⟨?_, ?_, getElem?_set_of_lt hlt _,
        getElem?_set_of_lt (h.inputSources_length ▸ hlt) _,
        sources_attachNewSource rfl (hsrcs fun _ => hinput), .inr ⟨hne, hdevice, rfl⟩⟩
      · simp [h.inputSources_length]
      · rw [length_deviceAdded, h.btDevices_length, List.length_set]
        omega

/-- How the address vector and the device management events change along with what a client
does. -/
inductive CableStep (b b' : Server) : List LinkEvent → Prop
  /-- Nothing changes, or a client that is known connects again. -/
  | same (es : List LinkEvent) (hes : ∀ e ∈ es, ∃ a ∈ b.permanentAddrs, e = .connected a)
      (haddrs : b'.permanentAddrs = b.permanentAddrs)
      (hevents : b'.owner.deviceMgmtEvents = b.owner.deviceMgmtEvents) : CableStep b b' es
  | plug (peer : RemoteAddr) (i : ℕ) (hnew : peer.1 ∉ b.permanentAddrs)
      (hfree : ∀ a, b.permanentAddrs[i]? = some a → a = emptyBdAddr)
      (haddrs : ∀ j : ℕ, b'.permanentAddrs[j]? =
        if j = i then some peer.1 else b.permanentAddrs[j]?)
      (hevents : b'.owner.deviceMgmtEvents =
        b.owner.deviceMgmtEvents ++ [(.added, peer.1)]) : CableStep b b' [.connected peer]
  | unplug (peer : RemoteAddr) (i : ℕ) (hused : b.permanentAddrs[i]? = some peer.1)
      (haddrs : b'.permanentAddrs = b.permanentAddrs.set i emptyBdAddr)
      (hevents : b'.owner.deviceMgmtEvents =
        b.owner.deviceMgmtEvents ++ [(.removed, peer.1)]) : CableStep b b' [.removed peer]

theorem deviceMgmtEvents_deviceAdded (sName : BdAddr) (nBackendId : ℕ) (m : BtGtkDeviceManager) :
    (m.deviceAdded sName nBackendId).deviceMgmtEvents =
      m.deviceMgmtEvents ++ [(.added, sName)] := by
  simp [deviceMgmtEvents, deviceAdded, sendDeviceMgmtToListeners]

theorem deviceMgmtEvents_deviceRemoved (nBackendId : ℕ) (d : BtKeysDevice)
    (m : BtGtkDeviceManager) :
    (m.deviceRemoved nBackendId d).deviceMgmtEvents =
      m.deviceMgmtEvents ++ [(.removed, d.name)] := by
  simp [deviceMgmtEvents, deviceRemoved, sendDeviceMgmtToListeners]

variable {b' : Server} {peer : RemoteAddr} {i : ℕ}

/-- Everything but the new connection is as before. -/
theorem Accepted.device (h : Accepted b b' peer i) {j : ℕ} (hj : j ≠ i) :
    b'.owner.device j = b.owner.device j := by
  rcases h.owner with ⟨-, howner⟩ | ⟨-, -, howner⟩
  · rw [howner]
  · rw [howner, device_deviceAdded, if_neg hj]

theorem VirtualCable.accepted (h : VirtualCable b) (ha : Accepted b b' peer i) :
    VirtualCable b' where
  inputSources_length := ha.inputSources_length
  btDevices_length := ha.btDevices_length
  distinct := by
    intro j k a hj hk hne
    rw [ha.permanentAddrs] at hj hk
    have hother {n : ℕ} (hn : b.permanentAddrs[n]? = some peer.1) : n = i := by
      rcases ha.owner with ⟨hi, -⟩ | ⟨hnew, -, -⟩
      · exact h.distinct n i _ hn hi peer.2
      · exact absurd hn (hnew n)
    split_ifs at hj hk with hji hki hki
    · rw [hji, hki]
    · cases hj
      rw [hji, hother hk]
    · cases hk
      rw [hki, hother hj]
    · exact h.distinct j k a hj hk hne
  freeDevice := by
    intro j hj
    rw [ha.permanentAddrs] at hj
    split_ifs at hj with hji
    · exact absurd (Option.some.inj hj) peer.2
    · rw [ha.device hji]
      exact h.freeDevice j hj
  usedDevice := by
    intro j a hj hne
    rw [ha.permanentAddrs] at hj
    split_ifs at hj with hji
    · cases hj
      rcases ha.owner with ⟨hi, howner⟩ | ⟨-, -, howner⟩
      · rw [howner, hji]
        exact h.usedDevice i _ hi peer.2
      · rw [howner, device_deviceAdded, if_pos hji]
        exact ⟨_, rfl, rfl⟩
    · rw [ha.device hji]
      exact h.usedDevice j a hj hne
  freeSource := by
    intro j hj
    rw [ha.permanentAddrs] at hj
    split_ifs at hj with hji
    · exact absurd (Option.some.inj hj) peer.2
    · rw [ha.inputSources, if_neg hji]
      exact h.freeSource j hj
  attached := by
    intro sid src hsrc hatt
    rw [ha.permanentAddrs, ha.inputSources]
    rcases ha.sources sid src hsrc hatt with ⟨rfl, hid, hpeer⟩ | ⟨hold, hid⟩
    · rw [if_pos hid, if_pos hid, hpeer]
      exact ⟨rfl, rfl⟩
    · rw [if_neg hid, if_neg hid]
      exact h.attached sid src hold hatt
  sound := by
    rcases ha.owner with ⟨-, howner⟩ | ⟨-, -, howner⟩
    · rw [howner]
      exact h.sound
    · rw [howner]
      exact h.sound.deviceAdded peer i

theorem VirtualCable.cableStep_accepted (h : VirtualCable b) (ha : Accepted b b' peer i) :
    CableStep b b' [.connected peer] := by
  rcases ha.owner with ⟨hi, howner⟩ | ⟨hnew, hnone, howner⟩
  · refine .same _ (fun e he => ⟨peer, List.mem_of_getElem? hi, List.mem_singleton.mp he⟩) ?_
      (by rw [howner])
    refine List.ext_getElem? fun j => ?_
    rw [ha.permanentAddrs]
    split_ifs with hj
    · rw [hj, hi]
    · rfl
  · refine .plug peer i (fun hmem => ?_) (fun a ha' => ?_) ha.permanentAddrs
      (by rw [howner, deviceMgmtEvents_deviceAdded])
    · obtain ⟨j, hj⟩ := List.mem_iff_getElem?.mp hmem
      exact hnew j hj
    · by_contra hne
      obtain ⟨d, hd, -⟩ := h.usedDevice i a ha' hne
      rw [hnone] at hd
      cases hd

/-! ### The other steps -/

/-- Only the manager changes, and it keeps its devices. -/
theorem VirtualCable.of_sameIdentities (h : VirtualCable b) {owner : BtGtkDeviceManager}
    (hsame : b.owner.SameIdentities owner) (hsound : owner.Sound) :
    VirtualCable { b with owner } where
  inputSources_length := h.inputSources_length
  btDevices_length := hsame.length.trans h.btDevices_length
  distinct := h.distinct
  freeDevice := fun j hj => hsame.device_eq_none.mpr (h.freeDevice j hj)
  usedDevice := by
    intro j a hj hne
    obtain ⟨d, hd, hname⟩ := h.usedDevice j a hj hne
    obtain ⟨d', hd', hname', -⟩ := hsame.device_eq_some hd
    exact ⟨d', hd', hname'.trans hname⟩
  freeSource := h.freeSource
  attached := h.attached
  sound := hsound

/-- The source of a connection is detached, and perhaps forgotten. -/
theorem VirtualCable.detached (h : VirtualCable b) {sid : SourceId} {src : BlueServerReceiveSource}
    (hsrc : b.sources[sid]? = some src) (hatt : src.attached)
    {srcs : List BlueServerReceiveSource} (hdet : Detached sid b srcs)
    {inputSources : List (Option SourceId)} (hin : inputSources = b.inputSources ∨
      inputSources = b.inputSources.set src.backendId none) :
    VirtualCable ⟨b.owner, b.permanentAddrs, inputSources, srcs⟩ := by
  have hsid := (h.attached sid src hsrc hatt).1
  refine ⟨?_, h.btDevices_length, h.distinct, h.freeDevice, h.usedDevice, fun j hj => ?_,
    fun k src' hk hatt' => ?_, h.sound⟩
  · rcases hin with rfl | rfl
    · exact h.inputSources_length
    · exact (List.length_set ..).trans h.inputSources_length
  · have hfree := h.freeSource j hj
    rcases hin with rfl | rfl
    · exact hfree
    · rw [List.getElem?_set_ne]
      · exact hfree
      · rintro rfl
        rw [hsid] at hfree
        cases hfree
  · obtain ⟨hne, hk'⟩ := hdet.attached k src' hk hatt'
    obtain ⟨hinput, haddr⟩ := h.attached k src' hk' hatt'
    refine ⟨?_, haddr⟩
    rcases hin with rfl | rfl
    · exact hinput
    · rw [List.getElem?_set_ne]
      · exact hinput
      · intro heq
        rw [heq, hinput] at hsid
        exact hne (Option.some.inj (Option.some.inj hsid))

/-- The device of a connection is removed, and its source is detached and forgotten. -/
theorem VirtualCable.removed (h : VirtualCable b) {sid : SourceId} {src : BlueServerReceiveSource}
    (hsrc : b.sources[sid]? = some src) (hatt : src.attached)
    {srcs : List BlueServerReceiveSource} (hdet : Detached sid b srcs) (d : BtKeysDevice)
    (es : List (ListenerId × KeyEvent)) (canceledKeys : ListenerId → List HardwareKey) :
    VirtualCable ⟨deviceRemoved src.backendId d (appendKeyEvents es { b.owner with canceledKeys }),
      b.permanentAddrs.set src.backendId emptyBdAddr, b.inputSources.set src.backendId none,
      srcs⟩ := by
  obtain ⟨hsid, haddr⟩ := h.attached sid src hsrc hatt
  have hlt : src.backendId < b.permanentAddrs.length := (List.getElem?_eq_some_iff.mp haddr).1
  have hdevice (j : ℕ) : (deviceRemoved src.backendId d (appendKeyEvents es
      { b.owner with canceledKeys })).device j =
        if j = src.backendId then none else b.owner.device j := device_deviceRemoved ..
  have haddrs (j : ℕ) : (b.permanentAddrs.set src.backendId emptyBdAddr)[j]? =
      if j = src.backendId then some emptyBdAddr else b.permanentAddrs[j]? :=
    getElem?_set_of_lt hlt _ j
  have hinputs (j : ℕ) : (b.inputSources.set src.backendId none)[j]? =
      if j = src.backendId then some none else b.inputSources[j]? :=
    getElem?_set_of_lt (h.inputSources_length ▸ hlt) _ j
  refine ⟨by simpa using h.inputSources_length, ?_, fun j k a hj hk hne => ?_, fun j hj => ?_,
    fun j a hj hne => ?_, fun j hj => ?_, fun k src' hk hatt' => ?_, ?_⟩
  · simpa [deviceRemoved, sendDeviceMgmtToListeners, appendKeyEvents] using h.btDevices_length
  · rw [haddrs] at hj hk
    split_ifs at hj hk with hji hki hki
    · rw [hji, hki]
    · exact absurd (Option.some.inj hj).symm hne
    · exact absurd (Option.some.inj hk).symm hne
    · exact h.distinct j k a hj hk hne
  · rw [haddrs] at hj
    rw [hdevice]
    split_ifs at hj ⊢ with hji
    · rfl
    · exact h.freeDevice j hj
  · rw [haddrs] at hj
    rw [hdevice]
    split_ifs at hj ⊢ with hji
    · exact absurd (Option.some.inj hj).symm hne
    · exact h.usedDevice j a hj hne
  · rw [haddrs] at hj
    rw [hinputs]
    split_ifs at hj ⊢ with hji
    · rfl
    · exact h.freeSource j hj
  · obtain ⟨hne, hk'⟩ := hdet.attached k src' hk hatt'
    obtain ⟨hinput, haddr'⟩ := h.attached k src' hk' hatt'
    have hother : src'.backendId ≠ src.backendId := by
      intro heq
      rw [← heq, hinput] at hsid
      exact hne (Option.some.inj (Option.some.inj hsid))
    rw [haddrs, hinputs, if_neg hother, if_neg hother]
    exact ⟨hinput, haddr'⟩
  · exact h.sound.deviceRemoved src.backendId d es canceledKeys

/-- Accepting a client never fails. -/
theorem VirtualCable.accept_ok (h : VirtualCable b) (nClientFD : ℕ) (peer : RemoteAddr) :
    ∃ b', doServerAcceptClient managerOwner nClientFD peer b = .ok b' ∧ VirtualCable b' ∧
      CableStep b b' [.connected peer] := by
  cases hknown : getBackendId b.permanentAddrs peer with
  | some i =>
    obtain ⟨b', hrun, ha⟩ := h.accept_known hknown nClientFD
    exact ⟨b', hrun, h.accepted ha, h.cableStep_accepted ha⟩
  | none =>
    obtain ⟨b', i, hrun, ha⟩ := h.accept_new hknown nClientFD
    exact ⟨b', hrun, h.accepted ha, h.cableStep_accepted ha⟩

/-- Dispatching a message never fails. -/
theorem VirtualCable.dispatch_ok (h : VirtualCable b) (order : ByteOrder) (sid : SourceId)
    (nIOFlags : IOCondition) (recv : RecvResult) (oDummyPacket : KeyPacket) :
    ∃ b', dispatchSource managerOwner order sid nIOFlags recv oDummyPacket b = .ok b' ∧
      VirtualCable b' ∧
      CableStep b b' (b.linkEvents (.dispatch sid nIOFlags recv oDummyPacket)) := by
  cases hsrc : b.sources[sid]? with
  | none =>
    exact ⟨b, by simp only [dispatchSource, hsrc], h, .same _ (by simp [linkEvents, hsrc]) rfl rfl⟩
  | some src =>
    cases hatt : src.attached with
    | false =>
      exact ⟨b, by simp only [dispatchSource, hsrc, hatt, Bool.not_false, if_true], h,
        .same _ (by simp [linkEvents, hsrc, hatt]) rfl rfl⟩
    | true =>
      obtain ⟨hsid, haddr⟩ := h.attached sid src hsrc hatt
      obtain ⟨d₀, hd₀, -⟩ := h.usedDevice _ _ haddr src.peer.2
      have hid : src.backendId < b.inputSources.length := (List.getElem?_eq_some_iff.mp hsid).1
      have hnot (hstop : (readMessage nIOFlags recv).stop.any Stop.removes = false) :
          b.linkEvents (.dispatch sid nIOFlags recv oDummyPacket) = [] := by
        simp [linkEvents, hsrc, hatt, hstop]
      obtain ⟨owner, hsame, hsound, ⟨hstop, hrun⟩ | ⟨srcs, inputs, hstop, hdet, hin, hrun⟩ |
        ⟨srcs, d, es, canceledKeys, hstop, hdet, hd, hrun⟩⟩ :=
          dispatchSource_cases order oDummyPacket hsrc hatt hid
            (h.btDevices_length.trans h.inputSources_length.symm) h.inputSources_length.symm
            h.sound (by rw [hd₀]; rfl) nIOFlags recv
      · rw [hnot (by rw [hstop]; rfl)]
        exact ⟨_, hrun, h.of_sameIdentities hsame hsound,
          .same _ (by simp) rfl hsame.deviceMgmtEvents⟩
      · rw [hnot hstop]
        exact ⟨_, hrun, (h.of_sameIdentities hsame hsound).detached hsrc hatt
          ⟨hdet.length, hdet.attached⟩ hin, .same _ (by simp) rfl hsame.deviceMgmtEvents⟩
      · have hevents : b.linkEvents (.dispatch sid nIOFlags recv oDummyPacket) =
            [.removed src.peer] := by
          simp [linkEvents, hsrc, hatt, hstop]
        rw [hevents]
        refine ⟨_, hrun, (h.of_sameIdentities hsame hsound).removed hsrc hatt
          ⟨hdet.length, hdet.attached⟩ d es canceledKeys, ?_⟩
        obtain ⟨d', hd', hname⟩ := (h.of_sameIdentities hsame hsound).usedDevice _ _ haddr
          src.peer.2
        refine .unplug src.peer src.backendId haddr rfl ?_
        rw [deviceMgmtEvents_deviceRemoved, deviceMgmtEvents_appendKeyEvents,
          ← hsame.deviceMgmtEvents, ← hname, Option.some.inj (hd.symm.trans hd')]
        rfl

/-- **One step.** It keeps the vectors in order, and changes the addresses and tells the listeners
as the clients ask. -/
theorem VirtualCable.step (h : VirtualCable b) {order : ByteOrder} {op : SystemOp}
    (ht : b.step order op = .ok b') : VirtualCable b' ∧ CableStep b b' (b.linkEvents op) := by
  cases op with
  | accept nClientFD peer =>
    obtain ⟨b₁, hrun, hb₁⟩ := h.accept_ok nClientFD peer
    cases hrun.symm.trans ht
    exact hb₁
  | dispatch sid nIOFlags recv oDummyPacket =>
    obtain ⟨b₁, hrun, hb₁⟩ := h.dispatch_ok order sid nIOFlags recv oDummyPacket
    cases hrun.symm.trans ht
    exact hb₁
  | ui op =>
    change (b.owner.uiStep op).map (fun owner => { b with owner }) = .ok b' at ht
    cases hui : b.owner.uiStep op with
    | error e =>
      rw [hui] at ht
      cases ht
    | ok owner =>
      rw [hui] at ht
      cases ht
      have hsame := sameIdentities_uiStep h.sound.toWindowsTracked hui
      exact ⟨h.of_sameIdentities hsame (h.sound.of_sameIdentities
        (h.sound.toWindowsTracked.uiStep hui) hsame), .same _ (by simp [linkEvents]) rfl
          hsame.deviceMgmtEvents⟩

/-- What can fail is an operation of windows or listeners that uses a null device. -/
theorem VirtualCable.step_eq_error (h : VirtualCable b) {order : ByteOrder} {op : SystemOp}
    {e : Fault} (he : b.step order op = .error e) :
    ∃ uiOp, op = .ui uiOp ∧ b.owner.uiStep uiOp = .error e := by
  cases op with
  | accept nClientFD peer =>
    obtain ⟨b₁, hrun, -⟩ := h.accept_ok nClientFD peer
    cases hrun.symm.trans he
  | dispatch sid nIOFlags recv oDummyPacket =>
    obtain ⟨b₁, hrun, -⟩ := h.dispatch_ok order sid nIOFlags recv oDummyPacket
    cases hrun.symm.trans he
  | ui op =>
    refine ⟨op, rfl, ?_⟩
    change (b.owner.uiStep op).map (fun owner => { b with owner }) = .error e at he
    cases hui : b.owner.uiStep op with
    | ok owner =>
      rw [hui] at he
      cases he
    | error e' =>
      rw [hui] at he
      rw [Except.error.inj he]

theorem virtualCable_start (enabledEventClasses : EventClass → Bool)
    (windows : Window → WindowState) :
    VirtualCable (start (create enabledEventClasses windows)) := by
  refine ⟨rfl, rfl, ?_, ?_, ?_, ?_, ?_, sound_create _ _⟩ <;> simp [start]

/-! ### The history of the clients -/

/-- Whether the client is plugged in after an event. -/
def pluggedAfter (oBdAddr : BdAddr) (bPlugged : Bool) : LinkEvent → Bool
  | .connected a => if a = oBdAddr then true else bPlugged
  | .removed a => if a = oBdAddr then false else bPlugged

/-- The client connected, and has not asked for its removal since. -/
def isPlugged (oBdAddr : BdAddr) (history : List LinkEvent) : Bool :=
  history.foldl (pluggedAfter oBdAddr) false

/-- What listeners were told about the device of an address. -/
def mgmtTypes (oBdAddr : BdAddr) (b : Server) : List DeviceMgmtType :=
  b.owner.deviceMgmtEvents.filterMap fun e => if e.2 = oBdAddr then some e.1 else none

/-- `DEVICE_MGMT_ADDED` and `DEVICE_MGMT_REMOVED` in turn, `DEVICE_MGMT_ADDED` first. -/
def Alternates (types : List DeviceMgmtType) : Prop :=
  ∀ (k : ℕ) eType, types[k]? = some eType → eType = if k % 2 = 0 then .added else .removed

/-- The server knows the clients that are plugged in, and told its listeners so. -/
structure CableHistory (history : List LinkEvent) (b : Server) : Prop where
  plugged : ∀ a, a ≠ emptyBdAddr → (a ∈ b.permanentAddrs ↔ isPlugged a history)
  alternates : ∀ a, a ≠ emptyBdAddr → Alternates (mgmtTypes a b)
  parity : ∀ a, a ≠ emptyBdAddr → (a ∈ b.permanentAddrs ↔ (mgmtTypes a b).length % 2 = 1)

theorem Alternates.append {types : List DeviceMgmtType} (h : Alternates types)
    {eType : DeviceMgmtType} (ht : eType = if types.length % 2 = 0 then .added else .removed) :
    Alternates (types ++ [eType]) := by
  intro k eType' hk
  rw [getElem?_append_singleton] at hk
  split_ifs at hk with hlen
  · rw [← Option.some.inj hk, hlen, ht]
  · exact h k eType' hk

theorem isPlugged_append (a : BdAddr) (history : List LinkEvent) (e : LinkEvent) :
    isPlugged a (history ++ [e]) = pluggedAfter a (isPlugged a history) e := by
  simp [isPlugged]

/-- Nothing changes but that clients that are plugged in connect again. -/
theorem CableHistory.same {history es : List LinkEvent} (h : CableHistory history b)
    (hes : ∀ e ∈ es, ∃ a ∈ b.permanentAddrs, e = .connected a)
    (haddrs : b'.permanentAddrs = b.permanentAddrs)
    (hevents : b'.owner.deviceMgmtEvents = b.owner.deviceMgmtEvents) :
    CableHistory (history ++ es) b' := by
  have htypes (a : BdAddr) : mgmtTypes a b' = mgmtTypes a b := by
    rw [mgmtTypes, hevents, mgmtTypes]
  have hplugged (a : BdAddr) (ha : a ≠ emptyBdAddr) :
      isPlugged a (history ++ es) = isPlugged a history := by
    induction es using List.reverseRecOn with
    | nil => rw [List.append_nil]
    | append_singleton es e ih =>
      obtain ⟨a', hmem, rfl⟩ := hes e (List.mem_append_right _ (List.mem_singleton_self e))
      rw [← List.append_assoc, isPlugged_append,
        ih fun e he => hes e (List.mem_append_left _ he), pluggedAfter]
      split_ifs with heq
      · rw [(h.plugged a ha).mp (heq ▸ hmem)]
      · rfl
  refine ⟨fun a ha => ?_, fun a ha => ?_, fun a ha => ?_⟩
  · rw [haddrs, hplugged a ha]
    exact h.plugged a ha
  · rw [htypes]
    exact h.alternates a ha
  · rw [haddrs, htypes]
    exact h.parity a ha

/-- A client is plugged in or unplugged, which it was not before, and the listeners are told. -/
theorem CableHistory.flip {history : List LinkEvent} (h : CableHistory history b)
    (eType : DeviceMgmtType) {e : LinkEvent} (he : ∀ a bPlugged,
      pluggedAfter a bPlugged e = if peer.1 = a then decide (eType = .added) else bPlugged)
    (hwas : peer.1 ∈ b.permanentAddrs ↔ eType = .removed)
    (hmem : ∀ a, a ≠ emptyBdAddr →
      (a ∈ b'.permanentAddrs ↔ if peer.1 = a then eType = .added else a ∈ b.permanentAddrs))
    (hevents : b'.owner.deviceMgmtEvents = b.owner.deviceMgmtEvents ++ [(eType, peer.1)]) :
    CableHistory (history ++ [e]) b' := by
  have htypes (a : BdAddr) : mgmtTypes a b' =
      mgmtTypes a b ++ if peer.1 = a then [eType] else [] := by
    rw [mgmtTypes, hevents, List.filterMap_append, mgmtTypes]
    split_ifs with heq <;> simp [heq]
  -- the number of events so far says which one comes next
  have hparity : eType = .removed ↔ (mgmtTypes peer.1 b).length % 2 = 1 :=
    hwas.symm.trans (h.parity peer.1 peer.2)
  refine ⟨fun a ha => ?_, fun a ha => ?_, fun a ha => ?_⟩
  · rw [hmem a ha, isPlugged_append, he]
    split_ifs with heq
    · exact decide_eq_true_iff.symm
    · exact h.plugged a ha
  · rw [htypes]
    split_ifs with heq
    · subst heq
      refine (h.alternates _ ha).append ?_
      cases eType with
      | added =>
        have hlen := hparity.not.mp (by simp)
        rw [if_pos (by omega)]
      | removed =>
        have hlen := hparity.mp rfl
        rw [if_neg (by omega)]
    · rw [List.append_nil]
      exact h.alternates a ha
  · rw [htypes, hmem a ha]
    split_ifs with heq
    · subst heq
      rw [List.length_append, List.length_singleton]
      cases eType with
      | added =>
        have hlen := hparity.not.mp (by simp)
        exact iff_of_true rfl (by omega)
      | removed =>
        have hlen := hparity.mp rfl
        exact iff_of_false (by simp) (by omega)
    · rw [List.append_nil]
      exact h.parity a ha

theorem CableHistory.step {history es : List LinkEvent} (h : CableHistory history b)
    (hcable : VirtualCable b) (hstep : CableStep b b' es) : CableHistory (history ++ es) b' := by
  cases hstep with
  | same es hes haddrs hevents => exact h.same hes haddrs hevents
  | plug peer i hnew hfree haddrs hevents =>
    refine h.flip .added (fun a bPlugged => by simp [pluggedAfter])
      (iff_of_false hnew (by simp)) (fun a ha => ?_) hevents
    simp only [List.mem_iff_getElem?, haddrs]
    split_ifs with heq
    · exact iff_of_true ⟨i, by rw [if_pos rfl, heq]⟩ trivial
    · refine exists_congr fun j => ?_
      split_ifs with hj
      · subst hj
        exact iff_of_false (fun h => heq (Option.some.inj h)) fun h => ha (hfree a h)
      · rfl
  | unplug peer i hused haddrs hevents =>
    have hlt : i < b.permanentAddrs.length := (List.getElem?_eq_some_iff.mp hused).1
    refine h.flip .removed (fun a bPlugged => by simp [pluggedAfter])
      (iff_of_true (List.mem_of_getElem? hused) rfl) (fun a ha => ?_) hevents
    simp only [haddrs, List.mem_iff_getElem?, List.getElem?_set, hlt, if_true]
    split_ifs with heq
    · subst heq
      refine iff_of_false ?_ (by simp)
      rintro ⟨j, hj⟩
      split_ifs at hj with hij
      · exact ha (Option.some.inj hj).symm
      · exact hij (hcable.distinct i j _ hused hj ha)
    · refine exists_congr fun j => ?_
      split_ifs with hij
      · subst hij
        rw [hused]
        exact iff_of_false (fun h => ha (Option.some.inj h).symm) fun h => heq (Option.some.inj h)
      · rfl

/-- Without a removal a client keeps its id. -/
theorem CableStep.keeps_id {es : List LinkEvent} (hstep : CableStep b b' es) {i : ℕ}
    {a : BdAddr} (hi : b.permanentAddrs[i]? = some a)
    (ha : a ≠ emptyBdAddr) (hno : .removed a ∉ es) : b'.permanentAddrs[i]? = some a := by
  cases hstep with
  | same es hes haddrs hevents => rwa [haddrs]
  | plug peer j hnew hfree haddrs hevents =>
    rw [haddrs, if_neg]
    · exact hi
    · rintro rfl
      exact ha (hfree a hi)
  | unplug peer j hused haddrs hevents =>
    rw [haddrs, List.getElem?_set_ne]
    · exact hi
    · rintro rfl
      rw [hused, Option.some.injEq] at hi
      exact hno (by simp [hi])

/-! ### Runs -/

/-- At most one attached source serves a backend id. -/
theorem VirtualCable.attached_unique (h : VirtualCable b) {sid sid' : SourceId}
    {src src' : BlueServerReceiveSource} (hsrc : b.sources[sid]? = some src)
    (hsrc' : b.sources[sid']? = some src') (hatt : src.attached) (hatt' : src'.attached)
    (hid : src.backendId = src'.backendId) : sid = sid' := by
  have hone := (h.attached sid src hsrc hatt).1
  have htwo := (h.attached sid' src' hsrc' hatt').1
  rw [hid, htwo] at hone
  exact (Option.some.inj (Option.some.inj hone)).symm

theorem VirtualCable.run (h : VirtualCable b) {order : ByteOrder} {ops : List SystemOp}
    (hrun : Run.exec (GtkBackend.step order) b ops = .ok b') : VirtualCable b' :=
  Run.invariant (P := VirtualCable) (fun _ _ _ hb ht => (hb.step ht).1) h hrun

/-- A run that fails uses a null device. -/
theorem VirtualCable.run_eq_error (h : VirtualCable b) {order : ByteOrder} {ops : List SystemOp}
    {e : Fault} (hrun : Run.exec (GtkBackend.step order) b ops = .error e) : e = .nullDevice := by
  obtain ⟨pre, op, post, u, -, hpre, hstep⟩ := Run.exec_eq_error hrun
  have hu := h.run hpre
  obtain ⟨uiOp, rfl, hui⟩ := hu.step_eq_error hstep
  exact (uiStep_eq_error hu.sound.toWindowsTracked hui).1

/-- Along a run in which a client does not ask for its removal it keeps its id. -/
theorem VirtualCable.run_keeps_id (h : VirtualCable b) {order : ByteOrder} {ops : List SystemOp}
    (hrun : Run.exec (GtkBackend.step order) b ops = .ok b') {i : ℕ} {a : BdAddr}
    (hi : b.permanentAddrs[i]? = some a) (ha : a ≠ emptyBdAddr)
    (hno : .removed a ∉ Run.trace (GtkBackend.step order) linkEvents b ops) :
    b'.permanentAddrs[i]? = some a := by
  induction ops generalizing b with
  | nil =>
    cases hrun
    exact hi
  | cons op ops ih =>
    obtain ⟨u, hu, hrest⟩ := Run.exec_cons_eq_ok.mp hrun
    rw [Run.trace_cons_of_ok hu, List.mem_append, not_or] at hno
    obtain ⟨hcable, hstep⟩ := h.step hu
    exact ih hcable hrest (hstep.keeps_id hi ha hno.1) hno.2

/-- **The virtual cable.** Whatever clients, windows and listeners do, no assertion fails, and
after any run the vectors are in order, every backend id has at most one attached source, and the
addresses and what the listeners were told agree with what the clients did. From there on a
client keeps its id until it asks for its removal. -/
theorem virtualCable_run (order : ByteOrder) (enabledEventClasses : EventClass → Bool)
    (windows : Window → WindowState) (ops : List SystemOp) :
    Run.exec (step order) (start (create enabledEventClasses windows)) ops ≠ .error .assertion ∧
      ∀ b, Run.exec (step order) (start (create enabledEventClasses windows)) ops = .ok b →
        VirtualCable b ∧
        CableHistory
          (Run.trace (step order) linkEvents (start (create enabledEventClasses windows)) ops) b ∧
        (∀ (sid sid' : SourceId) src src', b.sources[sid]? = some src →
          b.sources[sid']? = some src' → src.attached → src'.attached →
            src.backendId = src'.backendId → sid = sid') ∧
        ∀ more b', Run.exec (step order) b more = .ok b' → ∀ (i : ℕ) a,
          b.permanentAddrs[i]? = some a → a ≠ emptyBdAddr →
            .removed a ∉ Run.trace (step order) linkEvents b more →
              b'.permanentAddrs[i]? = some a := by
  have hstart := virtualCable_start enabledEventClasses windows
  refine ⟨fun herror => ?_, fun b hrun => ?_⟩
  · cases hstart.run_eq_error herror
  · have hinv := Run.invariant_trace linkEvents
      (P := fun b history => VirtualCable b ∧ CableHistory history b) (l := [])
      (fun b history op u ⟨hcable, hhist⟩ hu =>
        ⟨(hcable.step hu).1, hhist.step hcable (hcable.step hu).2⟩)
      ⟨hstart, by refine ⟨?_, ?_, ?_⟩ <;>
        simp [start, isPlugged, mgmtTypes, deviceMgmtEvents, create, Alternates]⟩ hrun
    exact ⟨hinv.1, hinv.2, fun _ _ _ _ hsrc hsrc' hatt hatt' hid =>
      hinv.1.attached_unique hsrc hsrc' hatt hatt' hid, fun _ _ hmore _ _ hi ha hno =>
      hinv.1.run_keeps_id hmore hi ha hno⟩

/-- A client connects, reconnects while its old socket is open, and asks for its removal. -/
def reconnectAndRemove : List SystemOp :=
  [.accept 5 clientAddr, .accept 6 clientAddr,
    .dispatch 1 ioInOnly (.received pressThenRemove) ⟨0, 0, 0, 0, 0⟩]

/-- A server among active windows, before the first client connects. -/
def startAmongActive : Server := start (create (fun _ => true) fun _ => ⟨true, false⟩)

theorem virtualCable_reconnectAndRemove : ∃ b,
    Run.exec (step .little) startAmongActive reconnectAndRemove = .ok b ∧ VirtualCable b ∧
      mgmtTypes clientAddr b = [.added, .removed] := by
  have hok : (Run.exec (step .little) startAmongActive reconnectAndRemove).toOption.map
    (mgmtTypes clientAddr) = some [.added, .removed] := by decide
  obtain ⟨b, hrun, htypes⟩ := Run.exists_exec_of_view hok
  exact ⟨b, hrun, ((virtualCable_run .little (fun _ => true) (fun _ => ⟨true, false⟩)
    reconnectAndRemove).2 b hrun).1, htypes⟩

end GtkBackend

end StmmInputBt
