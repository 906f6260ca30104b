import StmmInputBt.Foundation.Switches
import StmmInputBt.Server.HandedKeys

/-!
# The keys that are held

`m_oPressedKeys` of a device as its client sees it: a key is in there if the last thing that the
manager was handed for it, while a window was selected, is a press. A window that is deselected lets
go of all keys of all devices, if `KeyEvent` is enabled, and a device that is added has none. Who
was handed what, and when keys are repeated or released without having been pressed, does not
matter.

## Main definitions

* `GtkBackend.heldEvents`: what a step does to the keys of a device.

## Main results

* `GtkBackend.mem_pressedKeys_run`: the keys that a device has pressed after a run.
-/

namespace StmmInputBt

open BtGtkDeviceManager

namespace BtKeysDevice

/-- The keys of a device, as switches. -/
def held (d : BtKeysDevice) (eHK : HardwareKey) : Bool := eHK ∈ d.pressedKeys

theorem held_insert (d : BtKeysDevice) (eHK : HardwareKey) (oKeyData : KeyData) :
    held { d with pressedKeys := d.pressedKeys.insert eHK oKeyData } =
      Function.update d.held eHK true := by
  funext k
  by_cases hk : k = eHK <;> simp [held, hk]

theorem held_erase (d : BtKeysDevice) (eHK : HardwareKey) :
    held { d with pressedKeys := d.pressedKeys.erase eHK } = Function.update d.held eHK false := by
  funext k
  by_cases hk : k = eHK <;> simp [held, hk]

end BtKeysDevice

/-- What a key does to the keys that are held. -/
def heldEvent (k : KeyInputType × HardwareKey) : Switches.Event HardwareKey :=
  .set k.2 (k.1 = keyPress)

/-- What a key does to the keys of a device, if it is for the device and a window is selected. -/
def KeyCall.heldEvent? (nBackendId : ℕ) (c : KeyCall) : Option (Switches.Event HardwareKey) :=
  if c.backendId = nBackendId ∧ c.before.selected.isSome then some (heldEvent (c.type, c.key))
  else none

namespace BtGtkDeviceManager

variable {m t : BtGtkDeviceManager}

/-- A key of the device while a window is selected. -/
theorem exists_device_keyed (hsound : m.Sound) {nBackendId : ℕ} (eType : KeyInputType)
    (eHK : HardwareKey) (hsel : m.selected.isSome) {d : BtKeysDevice}
    (hd : m.device nBackendId = some d) :
    ∃ d', (m.keyed nBackendId eType eHK).device nBackendId = some d' ∧ d'.name = d.name ∧
      d'.held = Switches.step d.held (heldEvent (eType, eHK)) := by
  obtain ⟨refSelected, hsel⟩ := Option.isSome_iff_exists.mp hsel
  have howner := hsound.hasOwner _ _ hd
  by_cases htype : eType = keyPress
  · subst htype
    rw [heldEvent, decide_eq_true rfl, Switches.step]
    by_cases hmem : eHK ∈ d.pressedKeys
    · -- a key repeat
      have hsame : m.keyed nBackendId keyPress eHK = m := by
        simp only [keyed, hsel, hd, howner, hmem, Bool.not_true, Bool.false_eq_true, if_true,
          if_false]
      exact ⟨d, by rw [hsame, hd], rfl,
        (Function.update_eq_self_iff.mpr (decide_eq_true hmem).symm).symm⟩
    · rw [keyed_press hsel hd howner hmem]
      have hdevice := device_pressed nBackendId eHK m nBackendId
      rw [if_pos rfl, hd, Option.map_some] at hdevice
      exact ⟨_, hdevice, rfl, d.held_insert eHK _⟩
  · rw [heldEvent, decide_eq_false htype, Switches.step]
    by_cases hmem : eHK ∈ d.pressedKeys
    · rw [keyed_release hsel hd howner htype hmem]
      have hdevice := device_modifyDevice nBackendId
        (fun d => { d with pressedKeys := d.pressedKeys.erase eHK }) m nBackendId
      rw [if_pos rfl, hd, Option.map_some] at hdevice
      exact ⟨_, hdevice, rfl, d.held_erase eHK⟩
    · -- a release of a key that is not pressed
      have hsame : m.keyed nBackendId eType eHK = m := by
        simp only [keyed, hsel, hd, howner, htype, hmem, Bool.not_true, Bool.false_eq_true,
          if_false]
      exact ⟨d, by rw [hsame, hd], rfl,
        (Function.update_eq_self_iff.mpr (decide_eq_false hmem).symm).symm⟩

theorem device_keyed_of_ne {nBackendId i : ℕ} (hi : i ≠ nBackendId) (eType : KeyInputType)
    (eHK : HardwareKey) (m : BtGtkDeviceManager) :
    (m.keyed nBackendId eType eHK).device i = m.device i := by
  obtain hsame | ⟨refSelected, d, -, -, -, -, hpress⟩ | ⟨-, hrelease⟩ :=
    keyed_cases nBackendId eType eHK m
  · rw [hsame]
  · rw [hpress]
    exact (device_modifyDevice ..).trans (if_neg hi)
  · rw [hrelease]
    exact (device_modifyDevice ..).trans (if_neg hi)

@[simp]
theorem selected_keyed (nBackendId : ℕ) (eType : KeyInputType) (eHK : HardwareKey)
    (m : BtGtkDeviceManager) : (m.keyed nBackendId eType eHK).selected = m.selected := by
  obtain hsame | ⟨refSelected, d, -, -, -, -, hpress⟩ | ⟨-, hrelease⟩ :=
    keyed_cases nBackendId eType eHK m
  · rw [hsame]
  · rw [hpress]
    rfl
  · rw [hrelease]
    rfl

/-- A device after a key, in terms of the device before. -/
theorem held_of_keyed (hsound : m.Sound) {nBackendId : ℕ} (eType : KeyInputType)
    (eHK : HardwareKey) (hdevice : m.selected ≠ none → (m.device nBackendId).isSome) {i : ℕ}
    {d' : BtKeysDevice} (hd' : (m.keyed nBackendId eType eHK).device i = some d') :
    ∃ d, m.device i = some d ∧ d'.name = d.name ∧
      d'.held = if nBackendId = i ∧ m.selected.isSome then
        Switches.step d.held (heldEvent (eType, eHK)) else d.held := by
  by_cases hi : nBackendId = i
  · subst hi
    cases hsel : m.selected with
    | none =>
      rw [keyed_of_idle hsel] at hd'
      exact ⟨d', hd', rfl, by simp⟩
    | some refSelected =>
      obtain ⟨d, hd⟩ := Option.isSome_iff_exists.mp (hdevice (by simp [hsel]))
      obtain ⟨d'', hd'', hname, hheld⟩ := exists_device_keyed hsound eType eHK (by simp [hsel]) hd
      obtain rfl := Option.some.inj (hd''.symm.trans hd')
      exact ⟨d, hd, hname, by simpa using hheld⟩
  · rw [device_keyed_of_ne (Ne.symm hi)] at hd'
    exact ⟨d', hd', rfl, by simp [hi]⟩

end BtGtkDeviceManager

namespace GtkBackend

/-- What a step does to the keys of the device with the given name. -/
def heldEvents (order : ByteOrder) (sName : BdAddr) (b : Server) :
    SystemOp → List (Switches.Event HardwareKey)
  | .accept _ peer =>
    if peer.1 = sName ∧ getBackendId b.permanentAddrs sName = none then [.clear] else []
  | .dispatch sid nIOFlags recv oDummyPacket =>
    if b.owner.selected.isSome then
      (keysNamed sName (handedKeys order b (.dispatch sid nIOFlags recv oDummyPacket))).map
        heldEvent
    else []
  | .ui op =>
    if b.owner.deselects op && b.owner.isEventClassEnabled .keyEvent then [.clear] else []

/-- The devices of `m` after the keys `s.2`, as far as they are still there. -/
structure Follows (m : BtGtkDeviceManager) (s : BtGtkDeviceManager × List KeyCall) : Prop where
  device : ∀ i d, s.1.device i = some d → ∃ d₀, m.device i = some d₀ ∧ d.name = d₀.name ∧
    d.held = (s.2.filterMap (KeyCall.heldEvent? i)).foldl Switches.step d₀.held
  calls : ∀ c ∈ s.2, c.before.selected.isSome → ∃ d₀, m.device c.backendId = some d₀ ∧
    c.name = some d₀.name
  selected : s.1.selected = m.selected
  selectedAt : ∀ c ∈ s.2, c.before.selected = m.selected

variable {m : BtGtkDeviceManager} {s : BtGtkDeviceManager × List KeyCall}

theorem Follows.onBlueKey (h : Follows m s) (hsound : s.1.Sound) {nBackendId : ℕ}
    {eType : KeyInputType} {eHK : HardwareKey} (es : List (ListenerId × KeyEvent))
    (hdevice : s.1.selected ≠ none → (s.1.device nBackendId).isSome) :
    let t := appendKeyEvents es (s.1.keyed nBackendId eType eHK)
    Follows m (t, s.2 ++ [⟨nBackendId, eType, eHK, s.1, t⟩]) := by
  refine ⟨fun i d' hd' => ?_, fun c hc hsel => ?_,
    (selected_keyed nBackendId eType eHK s.1).trans h.selected, fun c hc => ?_⟩
  · obtain ⟨d, hd, hname, hheld⟩ := held_of_keyed hsound eType eHK hdevice hd'
    obtain ⟨d₀, hd₀, hname₀, hheld₀⟩ := h.device i d hd
    refine ⟨d₀, hd₀, hname.trans hname₀, ?_⟩
    simp only [List.filterMap_append, List.foldl_append, ← hheld₀, hheld, List.filterMap_cons,
      KeyCall.heldEvent?, List.filterMap_nil]
    split_ifs <;> rfl
  · rcases List.mem_append.mp hc with hc | hc
    · exact h.calls c hc hsel
    · obtain rfl := List.mem_singleton.mp hc
      obtain ⟨d, hd⟩ := Option.isSome_iff_exists.mp (hdevice (Option.isSome_iff_ne_none.mp hsel))
      obtain ⟨d₀, hd₀, hname, -⟩ := h.device _ d hd
      exact ⟨d₀, hd₀, by simp only [KeyCall.name, hd, Option.map_some, hname]⟩
  · rcases List.mem_append.mp hc with hc | hc
    · exact h.selectedAt c hc
    · obtain rfl := List.mem_singleton.mp hc
      exact h.selected

/-- A manager to which no device has been added since `m`. -/
structure FollowsUnlessAdded (m : BtGtkDeviceManager) (s : BtGtkDeviceManager × List KeyCall) :
    Prop where
  sound : s.1.Sound
  le : m.nextDeviceId ≤ s.1.nextDeviceId
  follows : s.1.nextDeviceId = m.nextDeviceId → Follows m s

theorem sim_followsUnlessAdded (m : BtGtkDeviceManager) :
    (spiedOwner record).Sim (spiedOwner record) fun s t => s = t ∧ FollowsUnlessAdded m s := by
  refine .of_keeps (fun sName nBackendId s t hs ht => ?_) (fun nBackendId s t hs ht => ?_)
    fun nBackendId eType eHK s r hs hr => ?_
  · obtain ⟨u, hu, rfl⟩ := Run.map_eq_ok.mp ht
    have hstep : s.1.step (.deviceAdded sName nBackendId) = .ok u := hu
    have hsound : u.Sound := hs.sound.step hstep
    obtain ⟨-, rfl⟩ := (onDeviceAdded_eq_ok hs.sound.deviceIdsLt).mp hu
    have hlt : m.nextDeviceId < (s.1.deviceAdded sName nBackendId).nextDeviceId :=
      Nat.lt_succ_of_le hs.le
    exact ⟨hsound, hlt.le, fun heq => absurd heq hlt.ne'⟩
  · obtain ⟨u, hu, rfl⟩ := Run.map_eq_ok.mp ht
    have hstep : s.1.step (.deviceRemoved nBackendId) = .ok u := hu
    have hsound : u.Sound := hs.sound.step hstep
    obtain ⟨d, hd, rfl⟩ := onDeviceRemoved_record_eq_ok.mp hu
    refine ⟨hsound, hs.le, fun heq => ⟨fun i d' hd' => ?_, (hs.follows heq).calls,
      (hs.follows heq).selected,
      (hs.follows heq).selectedAt⟩⟩
    rw [device_deviceRemoved] at hd'
    split_ifs at hd'
    exact (hs.follows heq).device i d' hd'
  · obtain ⟨u, hu, rfl⟩ := Run.map_eq_ok.mp hr
    by_cases hok : nBackendId < s.1.btDevices.length ∧
        (s.1.selected ≠ none → (s.1.device nBackendId).isSome)
    · obtain ⟨es, hkey⟩ := onBlueKey_record eType eHK hok.1 hok.2
      obtain rfl := Except.ok.inj (hkey.symm.trans hu)
      have hsame := sameIdentities_keyed nBackendId eType eHK es s.1
      exact ⟨hs.sound.of_sameIdentities (hs.sound.toWindowsTracked.keyed ..) hsame,
        hs.le.trans_eq hsame.nextDeviceId.symm, fun heq =>
          (hs.follows (hsame.nextDeviceId.symm.trans heq)).onBlueKey hs.sound es hok.2⟩
    · rw [onBlueKey_error eType eHK hok] at hu
      cases hu

variable {order : ByteOrder} {b t : Server}

/-- A device has the address of its backend id as its name. -/
theorem VirtualCable.permanentAddrs_of_device (h : VirtualCable b) {i : ℕ} {d : BtKeysDevice}
    (hd : b.owner.device i = some d) :
    b.permanentAddrs[i]? = some d.name ∧ d.name ≠ emptyBdAddr := by
  have hi : i < b.permanentAddrs.length := by
    rw [← h.btDevices_length]
    exact (List.getElem?_eq_some_iff.mp (getElem?_of_device hd)).1
  have hget := List.getElem?_eq_getElem hi
  have hne : b.permanentAddrs[i] ≠ emptyBdAddr := by
    intro hempty
    rw [hempty] at hget
    rw [h.freeDevice i hget] at hd
    cases hd
  obtain ⟨d', hd', hname⟩ := h.usedDevice i _ hget hne
  obtain rfl := Option.some.inj (hd.symm.trans hd')
  exact ⟨by rw [hget, hname], by rwa [hname]⟩

/-- The devices of a server have different names. -/
theorem VirtualCable.name_eq_iff (h : VirtualCable b) {i j : ℕ} {d d' : BtKeysDevice}
    (hd : b.owner.device i = some d) (hd' : b.owner.device j = some d') :
    d.name = d'.name ↔ i = j := by
  obtain ⟨haddr, hne⟩ := h.permanentAddrs_of_device hd
  constructor
  · intro hname
    exact h.distinct i j d.name haddr (hname ▸ (h.permanentAddrs_of_device hd').1) hne
  · rintro rfl
    rw [Option.some.inj (hd.symm.trans hd')]

/-- The devices after a dispatch. -/
theorem VirtualCable.device_dispatch (h : VirtualCable b) {sid : SourceId}
    {nIOFlags : IOCondition} {recv : RecvResult} {oDummyPacket : KeyPacket}
    (ht : b.step order (.dispatch sid nIOFlags recv oDummyPacket) = .ok t) {i : ℕ}
    {d : BtKeysDevice} (hd : t.owner.device i = some d) :
    ∃ d₀, b.owner.device i = some d₀ ∧ d.name = d₀.name ∧
      d.held = (heldEvents order d.name b (.dispatch sid nIOFlags recv oDummyPacket)).foldl
        Switches.step d₀.held := by
  have hnext := (h.keeps_dispatch ht).1
  obtain ⟨c, hc, rfl, hkeys⟩ := exists_spiedStep ht
  have hrel : (b.mapOwner (·, ([] : List KeyCall))).Rel
      (fun s t => s = t ∧ FollowsUnlessAdded b.owner s) (b.mapOwner (·, [])) :=
    ⟨⟨rfl, h.sound, le_rfl, fun _ => ⟨fun i d hd => ⟨d, hd, rfl, rfl⟩, by simp [mapOwner], rfl,
      by simp [mapOwner]⟩⟩,
      rfl, rfl, rfl⟩
  obtain ⟨c', -, hc'⟩ := (rel_dispatchSource (sim_followsUnlessAdded b.owner) hrel order sid
    nIOFlags recv oDummyPacket).exists_ok hc
  have hfollows := hc'.owner.2.follows hnext
  obtain ⟨d₀, hd₀, hname, hheld⟩ := hfollows.device i d hd
  refine ⟨d₀, hd₀, hname, hheld.trans ?_⟩
  congr 1
  cases hsel : b.owner.selected with
  | none =>
    simp only [heldEvents, hsel, Option.isSome_none, Bool.false_eq_true, if_false]
    refine List.filterMap_eq_nil_iff.mpr fun call hcall => ?_
    simp [KeyCall.heldEvent?, hfollows.selectedAt call hcall, hsel]
  | some refSelected =>
    simp only [heldEvents, hsel, Option.isSome_some, if_true, keysNamed, List.map_map, hkeys]
    rw [← List.filterMap_eq_map, List.filterMap_filter]
    refine List.filterMap_congr fun call hcall => ?_
    have hselAt : call.before.selected.isSome := by
      rw [hfollows.selectedAt call hcall, hsel]
      rfl
    obtain ⟨d₁, hd₁, hname₁⟩ := hfollows.calls call hcall hselAt
    have hiff : call.name = some d.name ↔ call.backendId = i := by
      rw [hname₁, hname, Option.some.injEq]
      exact h.name_eq_iff hd₁ hd₀
    simp only [KeyCall.heldEvent?, hselAt, and_true, hiff, decide_eq_true_eq]
    rfl

/-- The devices after an operation of windows and listeners. -/
theorem VirtualCable.device_ui (h : VirtualCable b) {op : UiOp}
    (ht : b.step order (.ui op) = .ok t) {i : ℕ} {d : BtKeysDevice}
    (hd : t.owner.device i = some d) : ∃ d₀, b.owner.device i = some d₀ ∧ d.name = d₀.name ∧
      d.held = (heldEvents order d.name b (.ui op)).foldl Switches.step d₀.held := by
  obtain ⟨owner, howner, rfl⟩ := Run.map_eq_ok.mp ht
  have hsame := sameDevices_prepare b.owner op
  obtain ⟨l, es, canceledKeys, rfl, rfl⟩ | ⟨hdes, rfl⟩ | ⟨hdes, -, es, canceledKeys, rfl⟩ :=
    uiStep_cases h.sound.toWindowsTracked howner
  · exact ⟨d, hd, rfl, rfl⟩
  · refine ⟨d, (device_of_btDevices_eq hsame.btDevices i).symm.trans hd, rfl, ?_⟩
    simp [heldEvents, hdes]
  · have hdevice : (b.owner.device i).map (b.owner.prepare op).releasedDevice = some d :=
      (device_map rfl i).symm.trans hd
    obtain ⟨d₀, hd₀, rfl⟩ := Option.map_eq_some_iff.mp hdevice
    have howner := h.sound.hasOwner i d₀ hd₀
    obtain ⟨refSelected, hsel⟩ :=
      Option.ne_none_iff_exists'.mp (selected_ne_none_of_deselects hdes)
    -- the keys are let go if `KeyEvent` is enabled
    simp only [heldEvents, hdes, isEventClassEnabled, releasedDevice, cancelingAccessor,
      (keeps_prepare (mayDeselect_of_deselects hdes)).1, hsame.selected, hsel, howner,
      Option.map_some, Bool.true_and, Bool.and_true]
    cases b.owner.enabledEventClasses .keyEvent with
    | false => exact ⟨d₀, hd₀, rfl, rfl⟩
    | true => exact ⟨d₀, hd₀, rfl, rfl⟩

/-- The device of a name, after a run in the course of which `es` happened to its keys. -/
structure Holding (sName : BdAddr) (b : Server) (es : List (Switches.Event HardwareKey)) :
    Prop where
  cable : VirtualCable b
  device : ∀ i d, b.owner.device i = some d → d.name = sName → d.held = Switches.after es

/-- **One step.** -/
theorem Holding.step {sName : BdAddr} {es : List (Switches.Event HardwareKey)}
    (h : Holding sName b es) {op : SystemOp} (ht : b.step order op = .ok t) :
    Holding sName t (es ++ heldEvents order sName b op) := by
  refine ⟨(h.cable.step ht).1, ?_⟩
  rintro i d hd rfl
  rw [Switches.after_append]
  -- a device that was there before
  have hold {d₀ : BtKeysDevice} (hd₀ : b.owner.device i = some d₀) (hname : d.name = d₀.name) :
      d₀.held = Switches.after es := h.device i d₀ hd₀ hname.symm
  cases op with
  | accept nClientFD peer =>
    obtain ⟨j, ha⟩ := h.cable.exists_accepted ht
    have hkept (hd₀ : b.owner.device i = some d) :
        d.held = (heldEvents order d.name b (.accept nClientFD peer)).foldl Switches.step
          (Switches.after es) := by
      have hknown : getBackendId b.permanentAddrs d.name ≠ none := fun hnone =>
        getElem?_ne_of_getBackendId hnone i (h.cable.permanentAddrs_of_device hd₀).1
      simp [heldEvents, hknown, hold hd₀ rfl]
    by_cases hi : i = j
    · rcases ha.owner with ⟨-, howner⟩ | ⟨hnew, -, howner⟩
      · exact hkept (howner ▸ hd)
      · rw [howner, device_deviceAdded, if_pos hi, Option.some.injEq] at hd
        subst hd
        have hunknown : getBackendId b.permanentAddrs peer = none :=
          Option.eq_none_iff_forall_ne_some.mpr fun k hk =>
            hnew k (getElem?_of_getBackendId hk)
        simp only [heldEvents, hunknown, and_self, if_true]
        rfl
    · exact hkept (ha.device hi ▸ hd)
  | dispatch sid nIOFlags recv oDummyPacket =>
    obtain ⟨d₀, hd₀, hname, hheld⟩ := h.cable.device_dispatch ht hd
    rw [hheld, hold hd₀ hname]
  | ui uiOp =>
    obtain ⟨d₀, hd₀, hname, hheld⟩ := h.cable.device_ui ht hd
    rw [hheld, hold hd₀ hname]

theorem holding_start (sName : BdAddr) (enabledEventClasses : EventClass → Bool)
    (windows : Window → WindowState) :
    Holding sName (start (create enabledEventClasses windows)) [] :=
  ⟨virtualCable_start enabledEventClasses windows, fun i d hd => by
    simp [start, create, BtGtkDeviceManager.device] at hd⟩

/-- **The keys that are pressed.** After any run of the server, a key is pressed on a device if and
only if the last thing that happened to this key since the device was added is that its press was
handed to the manager while a window was selected: no release followed while a window was selected,
nor was the window deselected while `KeyEvent` was enabled. -/
theorem mem_pressedKeys_run (order : ByteOrder) (enabledEventClasses : EventClass → Bool)
    (windows : Window → WindowState) {ops : List SystemOp} {t : Server}
    (hrun : Run.exec (step order) (start (create enabledEventClasses windows)) ops = .ok t)
    {i : ℕ} {d : BtKeysDevice} (hd : t.owner.device i = some d) (eHK : HardwareKey) :
    eHK ∈ d.pressedKeys ↔ ∃ es₁ es₂,
      Run.trace (step order) (heldEvents order d.name) (start (create enabledEventClasses windows))
        ops = es₁ ++ .set eHK true :: es₂ ∧ ∀ e ∈ es₂, ¬ e.Concerns eHK := by
  have h := Run.invariant_trace (heldEvents order d.name) (P := Holding d.name) (l := [])
    (fun b es op u h hu => h.step hu) (holding_start d.name enabledEventClasses windows) hrun
  rw [List.nil_append] at h
  rw [← Switches.after_eq_true_iff, ← h.device i d hd rfl, BtKeysDevice.held, decide_eq_true_iff]

/-- A client presses the keys `30` and `31` while a window is selected, and releases `31`. -/
def pressTwo : List SystemOp :=
  [.ui (.addAccessor (.gtk 0)), .accept 5 clientAddr,
    .dispatch 0 ioInOnly (.received [magic1, magic2, packetCmdKey, keyPress, 30, 0, 0, 0,
      magic1, magic2, packetCmdKey, keyPress, 31, 0, 0, 0]) ⟨0, 0, 0, 0, 0⟩,
    .dispatch 0 ioInOnly (.received [magic1, magic2, packetCmdKey, keyRelease, 31, 0, 0, 0])
      ⟨0, 0, 0, 0, 0⟩]

theorem mem_pressedKeys_pressTwo : ∃ t d,
    Run.exec (step .little) startAmongActive pressTwo = .ok t ∧ t.owner.device 0 = some d ∧
      30 ∈ d.pressedKeys := by
  have hview : (Run.exec (step .little) startAmongActive pressTwo).toOption.map
      (fun t => (t.owner.device 0).map BtKeysDevice.name) = some (some clientAddr.1) := by
    decide +kernel
  obtain ⟨t, hrun, hname⟩ := Run.exists_exec_of_view hview
  obtain ⟨d, hd, hname⟩ := Option.map_eq_some_iff.mp hname
  have htrace : Run.trace (step .little) (heldEvents .little d.name) startAmongActive pressTwo =
      [.clear] ++ .set 30 true :: [.set 31 true, .set 31 false] := by
    rw [hname]
    decide +kernel
  exact ⟨t, d, hrun, hd, (mem_pressedKeys_run .little _ _ hrun hd 30).mpr
    ⟨[.clear], [.set 31 true, .set 31 false], htrace, by decide⟩⟩

end GtkBackend

end StmmInputBt
