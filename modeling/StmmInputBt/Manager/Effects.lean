import StmmInputBt.Manager.Cancels

/-!
# Effects on devices and pressed keys

What the functions of the manager that touch devices and pressed keys leave behind, when the
listeners do not re-enter. What listeners are handed for a key is known; of the cancels it is only
known here that they are key events. For a key the part before the listeners are called is the same
with any listeners.

## Main results

* `BtGtkDeviceManager.deselectAccessor_eq`, `BtGtkDeviceManager.finalizeListener_eq`: these fail
  exactly when an entry of `m_aBtDevices` is null.
* `BtGtkDeviceManager.onBlueKey_eq`, `BtGtkDeviceManager.onBlueKey_cases`: a key, with any
  listeners.
* `BtGtkDeviceManager.onBlueKey_record_eq`, `BtGtkDeviceManager.keyed_cases`: a key.
* `BtGtkDeviceManager.onDeviceAdded_eq`, `BtGtkDeviceManager.onDeviceRemoved_record`: devices that
  come and go.
-/

namespace StmmInputBt

namespace BtGtkDeviceManager

variable {m t : BtGtkDeviceManager}

/-! ### Entries -/

theorem mem_devices {d : BtKeysDevice} :
    d ∈ m.btDevices.reduceOption ↔ ∃ i, m.device i = some d := by
  rw [List.reduceOption_mem_iff, List.mem_iff_getElem?]
  refine exists_congr fun i => ?_
  rw [device]
  cases m.btDevices[i]? <;> simp

theorem device_modifyDevice (nBackendId : ℕ) (f : BtKeysDevice → BtKeysDevice)
    (m : BtGtkDeviceManager) (i : ℕ) :
    (m.modifyDevice nBackendId f).device i =
      if i = nBackendId then (m.device i).map f else m.device i := by
  simp only [device, modifyDevice]
  rw [List.getElem?_modify]
  by_cases hi : i = nBackendId
  · subst hi
    cases m.btDevices[i]? <;> simp
  · simp [hi, Ne.symm hi]

theorem device_of_btDevices_eq {t : BtGtkDeviceManager} (h : t.btDevices = m.btDevices) (i : ℕ) :
    t.device i = m.device i := by
  simp only [device]
  rw [h]

theorem device_map {f : BtKeysDevice → BtKeysDevice} {t : BtGtkDeviceManager}
    (h : t.btDevices = m.btDevices.map (Option.map f)) (i : ℕ) :
    t.device i = (m.device i).map f := by
  simp only [device]
  rw [h, List.getElem?_map]
  cases m.btDevices[i]? <;> simp

/-! ### Deselecting and finalizing -/

/-- The manager after `deselectAccessor`. -/
def deselected (m : BtGtkDeviceManager) : BtGtkDeviceManager :=
  endCanceling (withMemory (m.memory.cancelAll m.listeners.1 m.pressedCancels)
    { m with
      cancelingNestedDepth := m.cancelingNestedDepth + 1
      selected := none
      btDevices := m.btDevices.map (Option.map m.releasedDevice) })

/-- The manager after `finalizeListener`. -/
def finalized (l : ListenerData) (m : BtGtkDeviceManager) : BtGtkDeviceManager :=
  endCanceling (withMemory (m.memory.cancelAll [l] m.pressedCancels)
    { m with cancelingNestedDepth := m.cancelingNestedDepth + 1 })

/-- The manager after `cancelDeviceKeys`. -/
def deviceCanceled (nBackendId : ℕ) (d : BtKeysDevice) (m : BtGtkDeviceManager) :
    BtGtkDeviceManager :=
  endCanceling (withMemory (m.memory.cancelAll m.listeners.1 (m.deviceCancels d))
    { m with
      cancelingNestedDepth := m.cancelingNestedDepth + 1
      btDevices := m.btDevices.modify nBackendId (Option.map m.releasedDevice) })

/-- Some entry of `m_aBtDevices` is null. -/
def hasNull (m : BtGtkDeviceManager) : Bool := m.btDevices.any Option.isNone

theorem hasNull_eq_true : m.hasNull = true ↔ none ∈ m.btDevices := by
  simp [hasNull]

theorem hasNull_eq_false : m.hasNull = false ↔ none ∉ m.btDevices := by
  rw [← hasNull_eq_true, Bool.not_eq_true]

theorem deselectAccessor_eq (m : BtGtkDeviceManager) :
    deselectAccessor record m =
      if m.hasNull then .error .nullDevice else .ok m.deselected := by
  cases hnull : m.hasNull with
  | true => exact deselectAccessor_record_null (hasNull_eq_true.mp hnull)
  | false => exact deselectAccessor_record (hasNull_eq_false.mp hnull)

theorem finalizeListener_eq (l : ListenerData) (m : BtGtkDeviceManager) :
    finalizeListener record l m =
      if m.hasNull then .error .nullDevice else .ok (m.finalized l) := by
  cases hnull : m.hasNull with
  | true => exact finalizeListener_record_null l (hasNull_eq_true.mp hnull)
  | false => exact finalizeListener_record l (hasNull_eq_false.mp hnull)

theorem deselectAccessor_eq_ok : deselectAccessor record m = .ok t ↔
    m.hasNull = false ∧ t = m.deselected := by
  rw [deselectAccessor_eq]
  cases m.hasNull <;> simp [eq_comm]

theorem finalizeListener_eq_ok {l : ListenerData} : finalizeListener record l m = .ok t ↔
    m.hasNull = false ∧ t = m.finalized l := by
  rw [finalizeListener_eq]
  cases m.hasNull <;> simp [eq_comm]

/-- What is left of a cancelling function that started at the depth of `m`: the events, and some
memories. -/
theorem endCanceling_withMemory (μ : Memory) (m : BtGtkDeviceManager) : ∃ canceledKeys,
    endCanceling (withMemory μ { m with cancelingNestedDepth := m.cancelingNestedDepth + 1 }) =
      { m with canceledKeys := canceledKeys, deliveries := μ.deliveries } := by
  rw [endCanceling, resetExtraDataOfAllListeners, withMemory]
  simp only [add_sub_cancel_right]
  split_ifs <;> exact ⟨_, rfl⟩

/-- Hand out key events. -/
def appendKeyEvents (es : List (ListenerId × KeyEvent)) (m : BtGtkDeviceManager) :
    BtGtkDeviceManager :=
  { m with deliveries := m.deliveries ++ es.map fun e => .key e.1 e.2 }

/-- The key events handed out between `m` and `t` are among `E`. -/
def HandsOut (E : KeyEvent → Prop) (m t : BtGtkDeviceManager) : Prop :=
  ∃ ds, t.deliveries = m.deliveries ++ ds ∧ ∀ l e, .key l e ∈ ds → E e

theorem HandsOut.of_deliveries_eq {E : KeyEvent → Prop} {t : BtGtkDeviceManager}
    (h : t.deliveries = m.deliveries) : HandsOut E m t :=
  ⟨[], by simp [h], by simp⟩

theorem HandsOut.append {E : KeyEvent → Prop} {t u : BtGtkDeviceManager} {ds : List Delivery}
    (h : HandsOut E m t) (hu : u.deliveries = t.deliveries ++ ds)
    (hds : ∀ l e, .key l e ∈ ds → E e) : HandsOut E m u := by
  obtain ⟨ds', hds', hE⟩ := h
  refine ⟨ds' ++ ds, by rw [hu, hds', List.append_assoc], fun l e hmem => ?_⟩
  rcases List.mem_append.mp hmem with hmem | hmem
  · exact hE l e hmem
  · exact hds l e hmem

theorem HandsOut.trans {E : KeyEvent → Prop} {t u : BtGtkDeviceManager} (h : HandsOut E m t)
    (h' : HandsOut E t u) : HandsOut E m u := by
  obtain ⟨ds, hds, hE⟩ := h'
  exact h.append hds hE

theorem HandsOut.congr {E : KeyEvent → Prop} {t u : BtGtkDeviceManager} (h : HandsOut E m t)
    (hu : u.deliveries = t.deliveries) : HandsOut E m u :=
  h.trans (.of_deliveries_eq hu)

theorem endCanceling_cancelAll (ls : List ListenerData) (xs : List Cancel) (μ : Memory)
    (m : BtGtkDeviceManager) (hμ : μ.deliveries = m.deliveries) : ∃ es canceledKeys,
    endCanceling (withMemory (μ.cancelAll ls xs)
      { m with cancelingNestedDepth := m.cancelingNestedDepth + 1 }) =
        appendKeyEvents es { m with canceledKeys := canceledKeys } := by
  obtain ⟨es, hes⟩ := Memory.cancelAll_deliveries ls xs μ
  obtain ⟨canceledKeys, hend⟩ := endCanceling_withMemory (μ.cancelAll ls xs) m
  refine ⟨es, canceledKeys, hend.trans ?_⟩
  rw [hes, hμ]
  rfl

/-- Apart from what the listeners are handed and remember, `deselectAccessor` clears the pressed
keys and the selection. -/
theorem deselected_eq (m : BtGtkDeviceManager) : ∃ es canceledKeys,
    m.deselected = appendKeyEvents es { m with
      selected := none
      btDevices := m.btDevices.map (Option.map m.releasedDevice)
      canceledKeys := canceledKeys } :=
  endCanceling_cancelAll _ _ _ { m with
    selected := none
    btDevices := m.btDevices.map (Option.map m.releasedDevice) } rfl

theorem finalized_eq (l : ListenerData) (m : BtGtkDeviceManager) : ∃ es canceledKeys,
    m.finalized l = appendKeyEvents es { m with canceledKeys := canceledKeys } :=
  endCanceling_cancelAll _ _ _ m rfl

theorem deviceCanceled_eq (nBackendId : ℕ) (d : BtKeysDevice) (m : BtGtkDeviceManager) :
    ∃ es canceledKeys, m.deviceCanceled nBackendId d = appendKeyEvents es { m with
      btDevices := m.btDevices.modify nBackendId (Option.map m.releasedDevice)
      canceledKeys := canceledKeys } :=
  endCanceling_cancelAll _ _ _ { m with
    btDevices := m.btDevices.modify nBackendId (Option.map m.releasedDevice) } rfl

/-! ### Keys -/

/-- What a key does to the pressed keys. -/
def keyed (nBackendId : ℕ) (eType : KeyInputType) (eHK : HardwareKey) (m : BtGtkDeviceManager) :
    BtGtkDeviceManager :=
  match m.selected, m.device nBackendId with
  | some _, some d =>
    if !d.hasOwner then m
    else if eType = keyPress then
      if eHK ∈ d.pressedKeys then m
      else
        { m.modifyDevice nBackendId fun d =>
            { d with pressedKeys := d.pressedKeys.insert eHK ⟨m.nextTimeStamp⟩ } with
          nextTimeStamp := m.nextTimeStamp + 1 }
    else if eHK ∈ d.pressedKeys then
      m.modifyDevice nBackendId fun d => { d with pressedKeys := d.pressedKeys.erase eHK }
    else m
  | _, _ => m

theorem sendKeyToListeners_record {nBackendId nPressedTimeStamp : ℕ} {e : KeyEvent}
    (ls : List ListenerData) (m : BtGtkDeviceManager)
    (hpressed : e.type = keyPress → m.isKeyPressed nBackendId e.key) :
    BtKeysDevice.sendKeyToListeners record nBackendId nPressedTimeStamp e ls m =
      .ok (m.appendKeyEvents ((ls.filter fun l => l.addedTimeStamp ≤ nPressedTimeStamp).map
        fun l => (l.id, e))) := by
  induction ls generalizing m with
  | nil => simp [BtKeysDevice.sendKeyToListeners, appendKeyEvents]
  | cons l ls ih =>
    have hgo : ¬ (e.type = keyPress ∧ !m.isKeyPressed nBackendId e.key) := by
      rintro ⟨ht, hn⟩
      simp [hpressed ht] at hn
    by_cases hts : nPressedTimeStamp < l.addedTimeStamp
    · have hsend : BtKeysDevice.sendKeyEventToListener record l nPressedTimeStamp e m = .ok m :=
        if_pos hts
      have hdue : ¬ l.addedTimeStamp ≤ nPressedTimeStamp := by omega
      simp only [BtKeysDevice.sendKeyToListeners, hsend, bind, Except.bind, if_neg hgo,
        ih m hpressed, List.filter_cons, hdue, decide_false, Bool.false_eq_true, if_false]
    · let m₁ := m.appendKeyEvents [(l.id, e)]
      have hsend : BtKeysDevice.sendKeyEventToListener record l nPressedTimeStamp e m = .ok m₁ :=
        if_neg hts
      have hdue : l.addedTimeStamp ≤ nPressedTimeStamp := by omega
      have hgo₁ : ¬ (e.type = keyPress ∧ !m₁.isKeyPressed nBackendId e.key) := hgo
      simp only [BtKeysDevice.sendKeyToListeners, hsend, bind, Except.bind, if_neg hgo₁,
        ih m₁ hpressed, List.filter_cons, hdue, decide_true, if_true]
      simp [m₁, appendKeyEvents]

/-- The time stamp of the press that a key is handed out for, if it is. -/
def handedSince (nBackendId : ℕ) (eType : KeyInputType) (eHK : HardwareKey)
    (m : BtGtkDeviceManager) : Option ℕ :=
  (m.device nBackendId).bind fun d =>
    if !d.hasOwner then none
    else if eType = keyPress then if eHK ∈ d.pressedKeys then none else some m.nextTimeStamp
    else (d.pressedKeys.lookup eHK).map KeyData.pressedTimeStamp

/-- What the listeners are handed for a key: those get the event that are not younger than the
press. -/
def handedKeys (nBackendId : ℕ) (eType : KeyInputType) (eHK : HardwareKey)
    (m : BtGtkDeviceManager) : List (ListenerId × KeyEvent) :=
  match m.selected, m.device nBackendId, m.handedSince nBackendId eType eHK with
  | some refSelected, some d, some nPressedTimeStamp =>
    (m.listeners.1.filter fun l => l.addedTimeStamp ≤ nPressedTimeStamp).map fun l =>
      (l.id, ⟨(m.windowData refSelected).accessor, d.deviceId, eType, eHK⟩)
  | _, _, _ => []

@[simp]
theorem appendKeyEvents_nil (m : BtGtkDeviceManager) : m.appendKeyEvents [] = m := by
  simp [appendKeyEvents]

/-- The time stamp with which a key of a device is handed out. -/
theorem handedSince_of_device {nBackendId : ℕ} {d : BtKeysDevice}
    (hd : m.device nBackendId = some d) (eType : KeyInputType) (eHK : HardwareKey) :
    m.handedSince nBackendId eType eHK =
      if !d.hasOwner then none
      else if eType = keyPress then if eHK ∈ d.pressedKeys then none else some m.nextTimeStamp
      else (d.pressedKeys.lookup eHK).map KeyData.pressedTimeStamp := by
  rw [handedSince]
  rw [hd, Option.bind_some]

/-- A press is handed out if the key is not held, anything else if it is. -/
theorem handedSince_eq_some {nBackendId : ℕ} {eType : KeyInputType} {eHK : HardwareKey} {s : ℕ}
    {d : BtKeysDevice} (hd : m.device nBackendId = some d) :
    m.handedSince nBackendId eType eHK = some s ↔ d.hasOwner ∧
      ((eType = keyPress ∧ eHK ∉ d.pressedKeys ∧ m.nextTimeStamp = s) ∨
        (eType ≠ keyPress ∧ ⟨s⟩ ∈ d.pressedKeys.lookup eHK)) := by
  rw [handedSince_of_device hd]
  cases d.hasOwner with
  | false => simp
  | true =>
    by_cases htype : eType = keyPress
    · by_cases hmem : eHK ∈ d.pressedKeys <;> simp [htype, hmem]
    · cases d.pressedKeys.lookup eHK with
      | none => simp [htype]
      | some oKeyData =>
        obtain ⟨nPressedTimeStamp⟩ := oKeyData
        simp [htype]

theorem keyed_of_idle (h : m.selected = none) (nBackendId : ℕ) (eType : KeyInputType)
    (eHK : HardwareKey) : m.keyed nBackendId eType eHK = m := by
  rw [keyed]
  rw [h]

/-- A key that is not handed out changes nothing. -/
theorem keyed_of_not_handed {nBackendId : ℕ} {eType : KeyInputType} {eHK : HardwareKey}
    (h : m.handedSince nBackendId eType eHK = none) : m.keyed nBackendId eType eHK = m := by
  rw [keyed]
  cases m.selected with
  | none => rfl
  | some refSelected =>
    cases hd : m.device nBackendId with
    | none => rfl
    | some d =>
      rw [handedSince_of_device hd] at h
      dsimp only
      split_ifs at h ⊢ with howner htype hmem hmem
      · rfl
      · rfl
      · have hnone := Option.map_eq_none_iff.mp h
        exact absurd hmem (AList.lookup_eq_none.mp hnone)
      · rfl

/-- The manager when the loop that hands out a press begins. -/
def pressed (nBackendId : ℕ) (eHK : HardwareKey) (m : BtGtkDeviceManager) : BtGtkDeviceManager :=
  { m.modifyDevice nBackendId fun d =>
      { d with pressedKeys := d.pressedKeys.insert eHK ⟨m.nextTimeStamp⟩ } with
    nextTimeStamp := m.nextTimeStamp + 1 }

theorem keyed_press {nBackendId : ℕ} {eHK : HardwareKey} {refSelected : WindowDataId}
    {d : BtKeysDevice} (hsel : m.selected = some refSelected) (hd : m.device nBackendId = some d)
    (howner : d.hasOwner) (hnew : eHK ∉ d.pressedKeys) :
    m.keyed nBackendId keyPress eHK = m.pressed nBackendId eHK := by
  simp only [keyed, hsel, hd, howner, hnew, Bool.not_true, Bool.false_eq_true, if_true, if_false]
  rfl

theorem keyed_release {nBackendId : ℕ} {eType : KeyInputType} {eHK : HardwareKey}
    {refSelected : WindowDataId} {d : BtKeysDevice} (hsel : m.selected = some refSelected)
    (hd : m.device nBackendId = some d) (howner : d.hasOwner) (htype : eType ≠ keyPress)
    (hmem : eHK ∈ d.pressedKeys) : m.keyed nBackendId eType eHK =
      m.modifyDevice nBackendId fun d => { d with pressedKeys := d.pressedKeys.erase eHK } := by
  simp only [keyed, hsel, hd, howner, htype, hmem, Bool.not_true, Bool.false_eq_true, if_true,
    if_false]

theorem device_pressed (nBackendId : ℕ) (eHK : HardwareKey) (m : BtGtkDeviceManager) (i : ℕ) :
    (m.pressed nBackendId eHK).device i = if i = nBackendId then (m.device i).map fun d =>
      { d with pressedKeys := d.pressedKeys.insert eHK ⟨m.nextTimeStamp⟩ } else m.device i :=
  device_modifyDevice nBackendId _ m i

/-- A key for a device that is there, or while no window is selected: it is pressed or released and
handed out, or nothing happens. -/
theorem onBlueKey_eq (handle : Handler) {nBackendId : ℕ} (eType : KeyInputType)
    (eHK : HardwareKey) (hid : nBackendId < m.btDevices.length)
    (hdevice : m.selected ≠ none → (m.device nBackendId).isSome) :
    onBlueKey handle nBackendId eType eHK m =
      match m.selected, m.device nBackendId, m.handedSince nBackendId eType eHK with
      | some refSelected, some d, some nPressedTimeStamp =>
        (BtKeysDevice.sendKeyToListeners handle nBackendId nPressedTimeStamp
          ⟨(m.windowData refSelected).accessor, d.deviceId, eType, eHK⟩ m.listeners.1
          (m.keyed nBackendId eType eHK)).map (true, ·)
      | _, _, _ =>
        .ok (m.selected.isNone || (m.device nBackendId).any BtKeysDevice.hasOwner, m) := by
  rw [onBlueKey]
  simp only [hid, decide_true, assertThat_true, bind, Except.bind]
  cases hsel : m.selected with
  | none => rfl
  | some refSelected =>
    obtain ⟨d, hd⟩ := Option.isSome_iff_exists.mp (hdevice (by simp [hsel]))
    simp only [hd, Option.isSome_some, assertThat_true, BtKeysDevice.onBlueKey, Option.isNone_some,
      Option.any_some, Bool.false_or, handedSince_of_device hd]
    cases howner : d.hasOwner with
    | false => rfl
    | true =>
      by_cases htype : eType = keyPress
      · subst htype
        by_cases hmem : eHK ∈ d.pressedKeys
        · simp [hmem]
        · rw [keyed_press hsel hd howner hmem]
          simp only [hmem, Bool.not_true, Bool.false_eq_true, if_true, if_false]
          rfl
      · cases hlookup : d.pressedKeys.lookup eHK with
        | none => simp [htype]
        | some oKeyData =>
          have hmem : eHK ∈ d.pressedKeys := AList.lookup_isSome.mp (by simp [hlookup])
          rw [keyed_release hsel hd howner htype hmem]
          simp only [htype, Bool.not_true, Bool.false_eq_true, if_false, Option.map_some]
          rfl

/-- Listeners that do not re-enter the manager are handed the key one by one. -/
theorem onBlueKey_record_eq {nBackendId : ℕ} (eType : KeyInputType) (eHK : HardwareKey)
    (hid : nBackendId < m.btDevices.length)
    (hdevice : m.selected ≠ none → (m.device nBackendId).isSome) :
    onBlueKey record nBackendId eType eHK m =
      .ok (m.selected.isNone || (m.device nBackendId).any BtKeysDevice.hasOwner,
        appendKeyEvents (m.handedKeys nBackendId eType eHK) (m.keyed nBackendId eType eHK)) := by
  rw [onBlueKey_eq record eType eHK hid hdevice, handedKeys]
  cases hsel : m.selected with
  | none => simp only [keyed_of_idle hsel, appendKeyEvents_nil]
  | some refSelected =>
    obtain ⟨d, hd⟩ := Option.isSome_iff_exists.mp (hdevice (by simp [hsel]))
    cases hhanded : m.handedSince nBackendId eType eHK with
    | none => simp only [hd, keyed_of_not_handed hhanded, appendKeyEvents_nil]
    | some nPressedTimeStamp =>
      obtain ⟨howner, hcases⟩ := (handedSince_eq_some hd).mp hhanded
      simp only [hd, Option.any_some, howner, Bool.or_true]
      rw [sendKeyToListeners_record]
      · rfl
      · rintro rfl
        rcases hcases with ⟨-, hnew, -⟩ | ⟨hrelease, -⟩
        · rw [keyed_press hsel hd howner hnew]
          simp [isKeyPressed, device_pressed, hd]
        · exact absurd rfl hrelease

theorem deliveries_keyed (nBackendId : ℕ) (eType : KeyInputType) (eHK : HardwareKey)
    (m : BtGtkDeviceManager) : (m.keyed nBackendId eType eHK).deliveries = m.deliveries := by
  rw [keyed]
  split
  · split_ifs <;> rfl
  · rfl

/-- Some events are handed out. -/
theorem onBlueKey_record {nBackendId : ℕ} (eType : KeyInputType) (eHK : HardwareKey)
    (hid : nBackendId < m.btDevices.length)
    (hdevice : m.selected ≠ none → (m.device nBackendId).isSome) :
    ∃ es, onBlueKey record nBackendId eType eHK m =
      .ok (m.selected.isNone || (m.device nBackendId).any BtKeysDevice.hasOwner,
        appendKeyEvents es (m.keyed nBackendId eType eHK)) :=
  ⟨_, onBlueKey_record_eq eType eHK hid hdevice⟩

/-- Otherwise an assertion fails. -/
theorem onBlueKey_error {handle : Handler} {nBackendId : ℕ} (eType : KeyInputType)
    (eHK : HardwareKey) (h : ¬ (nBackendId < m.btDevices.length ∧
      (m.selected ≠ none → (m.device nBackendId).isSome))) :
    onBlueKey handle nBackendId eType eHK m = .error .assertion := by
  rw [onBlueKey]
  by_cases hid : nBackendId < m.btDevices.length
  · obtain ⟨hsel, hd⟩ := Classical.not_imp.mp fun hdevice => h ⟨hid, hdevice⟩
    obtain ⟨refSelected, hsel⟩ := Option.ne_none_iff_exists'.mp hsel
    simp [hid, hsel, hd, bind, Except.bind, assertThat]
  · simp [hid, assertThat, bind, Except.bind]

/-- A key does nothing, or it is pressed or released and handed to the listeners. -/
theorem onBlueKey_cases {handle : Handler} {nBackendId : ℕ} {eType : KeyInputType}
    {eHK : HardwareKey} {r : Bool × BtGtkDeviceManager}
    (hr : onBlueKey handle nBackendId eType eHK m = .ok r) :
    (r.2 = m ∧ m.keyed nBackendId eType eHK = m) ∨
      ∃ refSelected d nPressedTimeStamp, m.selected = some refSelected ∧
        m.device nBackendId = some d ∧
        m.handedSince nBackendId eType eHK = some nPressedTimeStamp ∧
        BtKeysDevice.sendKeyToListeners handle nBackendId nPressedTimeStamp
          ⟨(m.windowData refSelected).accessor, d.deviceId, eType, eHK⟩ m.listeners.1
          (m.keyed nBackendId eType eHK) = .ok r.2 := by
  by_cases hok : nBackendId < m.btDevices.length ∧
      (m.selected ≠ none → (m.device nBackendId).isSome)
  · rw [onBlueKey_eq handle eType eHK hok.1 hok.2] at hr
    split at hr
    · next refSelected d nPressedTimeStamp hsel hd hhanded =>
      obtain ⟨u, hu, rfl⟩ := Run.map_eq_ok.mp hr
      exact .inr ⟨refSelected, d, nPressedTimeStamp, hsel, hd, hhanded, hu⟩
    · next hnot =>
      obtain rfl := Except.ok.inj hr
      refine .inl ⟨rfl, ?_⟩
      cases hsel : m.selected with
      | none => exact keyed_of_idle hsel ..
      | some refSelected =>
        obtain ⟨d, hd⟩ := Option.isSome_iff_exists.mp (hok.2 (by simp [hsel]))
        cases hhanded : m.handedSince nBackendId eType eHK with
        | none => exact keyed_of_not_handed hhanded
        | some s => exact absurd hhanded (hnot refSelected d s hsel hd)
  · rw [onBlueKey_error eType eHK hok] at hr
    cases hr

/-- What a key can do. -/
theorem keyed_cases (nBackendId : ℕ) (eType : KeyInputType) (eHK : HardwareKey)
    (m : BtGtkDeviceManager) :
    m.keyed nBackendId eType eHK = m ∨
      (∃ refSelected d, m.selected = some refSelected ∧ m.device nBackendId = some d ∧
        eType = keyPress ∧ eHK ∉ d.pressedKeys ∧ m.keyed nBackendId eType eHK =
          { m.modifyDevice nBackendId fun d =>
              { d with pressedKeys := d.pressedKeys.insert eHK ⟨m.nextTimeStamp⟩ } with
            nextTimeStamp := m.nextTimeStamp + 1 }) ∨
      (eType ≠ keyPress ∧ m.keyed nBackendId eType eHK = m.modifyDevice nBackendId fun d =>
        { d with pressedKeys := d.pressedKeys.erase eHK }) := by
  rw [keyed]
  cases hsel : m.selected with
  | none => exact .inl rfl
  | some refSelected =>
    cases hd : m.device nBackendId with
    | none => exact .inl rfl
    | some d =>
      simp only
      split_ifs with howner htype hmem hmem
      · exact .inl rfl
      · exact .inl rfl
      · exact .inr (.inl ⟨refSelected, d, rfl, rfl, htype, hmem, rfl⟩)
      · exact .inr (.inr ⟨htype, rfl⟩)
      · exact .inl rfl

/-! ### Devices -/

/-- The manager after `onDeviceAdded`. -/
def deviceAdded (sName : BdAddr) (nBackendId : ℕ) (m : BtGtkDeviceManager) : BtGtkDeviceManager :=
  sendDeviceMgmtToListeners .added ⟨sName, m.nextDeviceId, true, ∅⟩ { m with
    nextDeviceId := m.nextDeviceId + 1
    btDevices := (resizeDevices nBackendId m.btDevices).set nBackendId
      (some ⟨sName, m.nextDeviceId, true, ∅⟩) }

/-- The device ids that were handed out are smaller than the next one. -/
def DeviceIdsLt (m : BtGtkDeviceManager) : Prop :=
  ∀ d ∈ m.btDevices.reduceOption, d.deviceId < m.nextDeviceId

theorem resizeDevices_getElem? (nBackendId : ℕ) (ds : List (Option BtKeysDevice)) (i : ℕ) :
    (resizeDevices nBackendId ds)[i]?.join = ds[i]?.join := by
  rw [resizeDevices]
  rw [List.getElem?_append]
  split_ifs with hi
  · rfl
  · have hnone : ds[i]? = none := List.getElem?_eq_none (by omega)
    rw [hnone, List.getElem?_replicate]
    split_ifs <;> rfl

theorem lt_length_resizeDevices (nBackendId : ℕ) (ds : List (Option BtKeysDevice)) :
    nBackendId < (resizeDevices nBackendId ds).length := by
  simp only [resizeDevices, List.length_append, List.length_replicate]
  omega

theorem device_deviceAdded (sName : BdAddr) (nBackendId : ℕ) (m : BtGtkDeviceManager) (i : ℕ) :
    (m.deviceAdded sName nBackendId).device i =
      if i = nBackendId then some ⟨sName, m.nextDeviceId, true, ∅⟩ else m.device i := by
  have hlt := lt_length_resizeDevices nBackendId m.btDevices
  unfold device deviceAdded sendDeviceMgmtToListeners
  dsimp only
  rw [List.getElem?_set]
  by_cases hi : i = nBackendId
  · subst hi
    simp [hlt]
  · simpa [hi, Ne.symm hi] using resizeDevices_getElem? nBackendId m.btDevices i

theorem length_deviceAdded (sName : BdAddr) (nBackendId : ℕ) (m : BtGtkDeviceManager) :
    (m.deviceAdded sName nBackendId).btDevices.length =
      max m.btDevices.length (nBackendId + 1) := by
  simp only [deviceAdded, sendDeviceMgmtToListeners, resizeDevices, List.length_set,
    List.length_append, List.length_replicate]
  omega

theorem onDeviceAdded_eq (sName : BdAddr) (nBackendId : ℕ) (hids : m.DeviceIdsLt) :
    onDeviceAdded sName nBackendId m =
      if (m.device nBackendId).isNone then .ok (m.deviceAdded sName nBackendId)
      else .error .assertion := by
  have hfresh : (m.btDevices.all fun d => d.all fun d => d.deviceId ≠ m.nextDeviceId) = true := by
    rw [List.all_eq_true]
    rintro (_ | d) hd
    · rfl
    · have hlt := hids d (List.reduceOption_mem_iff.mpr hd)
      simp [hlt.ne]
  have hdevice : device nBackendId { m with
      nextDeviceId := m.nextDeviceId + 1
      btDevices := resizeDevices nBackendId m.btDevices } = m.device nBackendId :=
    resizeDevices_getElem? nBackendId m.btDevices nBackendId
  rw [onDeviceAdded]
  simp only [hfresh, assertThat_true, bind, Except.bind, hdevice]
  cases (m.device nBackendId).isNone <;> rfl

theorem onDeviceAdded_eq_ok {sName : BdAddr} {nBackendId : ℕ} (hids : m.DeviceIdsLt) :
    onDeviceAdded sName nBackendId m = .ok t ↔
      m.device nBackendId = none ∧ t = m.deviceAdded sName nBackendId := by
  rw [onDeviceAdded_eq sName nBackendId hids]
  cases m.device nBackendId <;> simp [eq_comm]

/-- The manager after `onDeviceRemoved`, apart from the cancels. -/
def deviceRemoved (nBackendId : ℕ) (d : BtKeysDevice) (m : BtGtkDeviceManager) :
    BtGtkDeviceManager :=
  sendDeviceMgmtToListeners .removed d { m with btDevices := m.btDevices.set nBackendId none }

theorem device_deviceRemoved (nBackendId : ℕ) (d : BtKeysDevice) (m : BtGtkDeviceManager)
    (i : ℕ) : (m.deviceRemoved nBackendId d).device i =
      if i = nBackendId then none else m.device i := by
  unfold device deviceRemoved sendDeviceMgmtToListeners
  dsimp only
  rw [List.getElem?_set]
  by_cases hi : i = nBackendId
  · subst hi
    split_ifs <;> rfl
  · simp [hi, Ne.symm hi]

/-- The removal with the memory and the events that the cancels leave. -/
theorem onDeviceRemoved_record_eq {nBackendId : ℕ} {d : BtKeysDevice}
    (hd : m.device nBackendId = some d) : onDeviceRemoved record nBackendId m =
      .ok (deviceRemoved nBackendId d
        (m.withMemory (m.deviceCanceled nBackendId d).memory)) := by
  have hid : nBackendId < m.btDevices.length := by
    by_contra hge
    have hnone : m.btDevices[nBackendId]? = none := List.getElem?_eq_none (by omega)
    simp [device, hnone] at hd
  obtain ⟨es, canceledKeys, hcancel⟩ := deviceCanceled_eq nBackendId d m
  have hkeys : cancelDeviceKeys record nBackendId m = .ok (m.deviceCanceled nBackendId d) :=
    cancelDeviceKeys_record hd
  rw [onDeviceRemoved]
  simp only [hid, hd, Option.isSome_some, decide_true, assertThat_true, bind, Except.bind, hkeys]
  rw [device_modifyDevice, if_pos rfl]
  have hdevice : (m.deviceCanceled nBackendId d).device nBackendId = some (m.releasedDevice d) := by
    rw [hcancel]
    exact (device_modifyDevice nBackendId m.releasedDevice m nBackendId).trans
      (by rw [if_pos rfl, hd]; rfl)
  have hset : (modifyDevice nBackendId (fun d => { d with hasOwner := false })
      (m.deviceCanceled nBackendId d)).btDevices.set nBackendId none =
        m.btDevices.set nBackendId none := by
    rw [hcancel]
    refine List.ext_getElem? fun i => ?_
    by_cases hi : nBackendId = i <;> simp [modifyDevice, appendKeyEvents, List.getElem?_set, hi]
  have hname : (m.releasedDevice d).name = d.name ∧
      (m.releasedDevice d).deviceId = d.deviceId := by
    rw [releasedDevice]
    split_ifs <;> exact ⟨rfl, rfl⟩
  simp only [hdevice, Option.map_some, hset, deviceRemoved, sendDeviceMgmtToListeners, hname]
  simp only [hcancel, modifyDevice, appendKeyEvents]
  rfl

theorem onDeviceRemoved_record {nBackendId : ℕ} {d : BtKeysDevice}
    (hd : m.device nBackendId = some d) : ∃ es canceledKeys,
    onDeviceRemoved record nBackendId m =
      .ok (deviceRemoved nBackendId d (appendKeyEvents es { m with canceledKeys })) := by
  obtain ⟨es, canceledKeys, hcancel⟩ := deviceCanceled_eq nBackendId d m
  refine ⟨es, canceledKeys, ?_⟩
  rw [onDeviceRemoved_record_eq hd, hcancel]
  rfl

theorem onDeviceRemoved_error {nBackendId : ℕ} {handle : Handler}
    (hd : m.device nBackendId = none) :
    onDeviceRemoved handle nBackendId m = .error .assertion := by
  rw [onDeviceRemoved]
  by_cases hid : nBackendId < m.btDevices.length <;>
    simp [hid, hd, assertThat, bind, Except.bind]

theorem onDeviceRemoved_record_eq_ok {nBackendId : ℕ} :
    onDeviceRemoved record nBackendId m = .ok t ↔ ∃ d, m.device nBackendId = some d ∧
      t = deviceRemoved nBackendId d (m.withMemory (m.deviceCanceled nBackendId d).memory) := by
  cases hd : m.device nBackendId with
  | none => simp [onDeviceRemoved_error hd]
  | some d => simp [onDeviceRemoved_record_eq hd, eq_comm]

end BtGtkDeviceManager

end StmmInputBt
