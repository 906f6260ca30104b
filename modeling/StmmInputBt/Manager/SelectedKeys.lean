import StmmInputBt.Manager.Steps

/-!
# Pressed keys belong to the selected window

The class invariant documented beside `m_refSelected`: while no window is selected no key is
pressed, and otherwise all pressed keys were pressed for the selected window. Which window a key
was pressed for is read off the history of presses along a run.

`cancelSelectedAccessorKeys` leaves the pressed keys alone while `KeyEvent` is disabled, although
`onBlueKey` records keys all the same. So the invariant needs that a window is deselected only
while `KeyEvent` is enabled or no key is pressed.

## Main definitions

* `BtGtkDeviceManager.pressOf`: the press that a step records.
* `BtGtkDeviceManager.KeysBelong`: the invariant, given the history of presses.
* `BtGtkDeviceManager.DeselectsCleanly`: the condition on a step.

## Main results

* `BtGtkDeviceManager.keysBelong_of_guarded`: the invariant along runs.
-/

namespace StmmInputBt

/-- A key press that a device recorded, with the window data selected at that time. -/
structure Press where
  nBackendId : ℕ
  eHardwareKey : HardwareKey
  pressedTimeStamp : ℕ
  selected : WindowDataId
  deriving DecidableEq

namespace BtGtkDeviceManager

/-- The press that a step records: neither a key repeat nor a key without a selected window. -/
def pressOf (m : BtGtkDeviceManager) : Op → List Press
  | .blueKey nBackendId eType eHK =>
    match m.selected, m.device nBackendId with
    | some refSelected, some d =>
      if d.hasOwner ∧ eType = keyPress ∧ eHK ∉ d.pressedKeys then
        [⟨nBackendId, eHK, m.nextTimeStamp, refSelected⟩]
      else []
    | _, _ => []
  | _ => []

/-- Every pressed key is in the history as a press for the window data that is selected now. In
particular no key is pressed when no window is selected. -/
def KeysBelong (history : List Press) (m : BtGtkDeviceManager) : Prop :=
  ∀ nBackendId d, m.device nBackendId = some d → ∀ eHK oKeyData,
    d.pressedKeys.lookup eHK = some oKeyData → ∃ refSelected, m.selected = some refSelected ∧
      ⟨nBackendId, eHK, oKeyData.pressedTimeStamp, refSelected⟩ ∈ history

/-- The time stamps of the history increase and are used up, so that each of them tells which
press it was. -/
def HistoryIncreasing (history : List Press) (m : BtGtkDeviceManager) : Prop :=
  (history.map Press.pressedTimeStamp).Pairwise (· < ·) ∧
    ∀ p ∈ history, p.pressedTimeStamp < m.nextTimeStamp

/-- No device has a pressed key. -/
def NoKeyPressed (m : BtGtkDeviceManager) : Prop :=
  ∀ d ∈ m.btDevices.reduceOption, d.pressedKeys = ∅

/-- A step that deselects the window does so while `KeyEvent` is enabled or no key is pressed. -/
def DeselectsCleanly (m : BtGtkDeviceManager) : Op → Prop
  | .ui op => m.deselects op → m.isEventClassEnabled .keyEvent ∨ m.NoKeyPressed
  | _ => True

@[simp] theorem pressOf_deviceAdded (sName : BdAddr) (nBackendId : ℕ) (m : BtGtkDeviceManager) :
    m.pressOf (.deviceAdded sName nBackendId) = [] := rfl

@[simp] theorem pressOf_deviceRemoved (nBackendId : ℕ) (m : BtGtkDeviceManager) :
    m.pressOf (.deviceRemoved nBackendId) = [] := rfl

@[simp] theorem pressOf_ui (op : UiOp) (m : BtGtkDeviceManager) : m.pressOf (.ui op) = [] := rfl

variable {m t : BtGtkDeviceManager} {history : List Press}

theorem KeysBelong.noKeyPressed (h : m.KeysBelong history) (hsel : m.selected = none) :
    m.NoKeyPressed := by
  intro d hd
  obtain ⟨i, hi⟩ := mem_devices.mp hd
  refine AList.ext ?_
  rw [AList.empty_entries, List.eq_nil_iff_forall_not_mem]
  rintro ⟨k, kd⟩ hk
  obtain ⟨refSelected, hsome, -⟩ := h i d hi k kd (AList.mem_lookup_iff.mpr hk)
  rw [hsel] at hsome
  cases hsome

/-! ### One step -/

theorem KeysBelong.append (h : m.KeysBelong history) (more : List Press) :
    m.KeysBelong (history ++ more) := by
  intro i d hd k kd hk
  obtain ⟨refSelected, hsome, hmem⟩ := h i d hd k kd hk
  exact ⟨refSelected, hsome, List.mem_append_left _ hmem⟩

theorem KeysBelong.of_eq (h : m.KeysBelong history) (hdevice : ∀ i, t.device i = m.device i)
    (hsel : t.selected = m.selected) : t.KeysBelong history := by
  intro i d hd k kd hk
  rw [hdevice] at hd
  rw [hsel]
  exact h i d hd k kd hk

/-- A device without pressed keys has nothing to say. -/
theorem keysBelong_of_noKeyPressed (h : t.NoKeyPressed) : t.KeysBelong history := by
  intro i d hd k kd hk
  rw [h d (mem_devices.mpr ⟨i, hd⟩)] at hk
  cases hk

theorem KeysBelong.keyed (h : m.KeysBelong history) (hsound : m.Sound) (nBackendId : ℕ)
    (eType : KeyInputType) (eHK : HardwareKey) (es : List (ListenerId × KeyEvent)) :
    (appendKeyEvents es (m.keyed nBackendId eType eHK)).KeysBelong
      (history ++ m.pressOf (.blueKey nBackendId eType eHK)) := by
  obtain hsame | ⟨refSelected, d, hsel, hd, rfl, hnew, hpress⟩ | ⟨-, hrelease⟩ :=
    keyed_cases nBackendId eType eHK m
  · rw [hsame]
    exact (h.append _).of_eq (fun i => rfl) rfl
  · have hobs : m.pressOf (.blueKey nBackendId keyPress eHK) =
        [⟨nBackendId, eHK, m.nextTimeStamp, refSelected⟩] := by
      simp [pressOf, hsel, hd, hsound.hasOwner _ _ hd, hnew]
    rw [hpress, hobs]
    intro i d' hd' k kd hk
    have hi := (device_modifyDevice nBackendId (fun d =>
      { d with pressedKeys := d.pressedKeys.insert eHK ⟨m.nextTimeStamp⟩ }) m i).symm.trans hd'
    by_cases hib : i = nBackendId
    · rw [if_pos hib, hib, hd] at hi
      cases hi
      by_cases hkk : k = eHK
      · -- the key that is pressed now
        rw [hkk, AList.lookup_insert] at hk
        cases hk
        exact ⟨refSelected, hsel, List.mem_append_right _ (by simp [hib, hkk])⟩
      · rw [AList.lookup_insert_ne hkk] at hk
        obtain ⟨r, hr, hmem⟩ := h i d (hib ▸ hd) k kd hk
        exact ⟨r, hr, List.mem_append_left _ hmem⟩
    · rw [if_neg hib] at hi
      obtain ⟨r, hr, hmem⟩ := h i d' hi k kd hk
      exact ⟨r, hr, List.mem_append_left _ hmem⟩
  · rw [hrelease]
    intro i d' hd' k kd hk
    have hi := (device_modifyDevice nBackendId (fun d =>
      { d with pressedKeys := d.pressedKeys.erase eHK }) m i).symm.trans hd'
    split_ifs at hi with hib
    · obtain ⟨d, hd, rfl⟩ := Option.map_eq_some_iff.mp hi
      by_cases hkk : k = eHK
      · rw [hkk, AList.lookup_erase] at hk
        cases hk
      · rw [AList.lookup_erase_ne hkk] at hk
        obtain ⟨r, hr, hmem⟩ := h i d hd k kd hk
        exact ⟨r, hr, List.mem_append_left _ hmem⟩
    · obtain ⟨r, hr, hmem⟩ := h i d' hi k kd hk
      exact ⟨r, hr, List.mem_append_left _ hmem⟩

/-- While `KeyEvent` is enabled, or when no key is pressed, deselecting leaves no key pressed. -/
theorem noKeyPressed_released (hsound : m.Sound) (op : UiOp) (hsel : m.selected ≠ none)
    (hclean : m.isEventClassEnabled .keyEvent ∨ m.NoKeyPressed)
    (ht : t.btDevices = m.btDevices.map (Option.map (m.prepare op).releasedDevice)) :
    t.NoKeyPressed := by
  have hsame := sameDevices_prepare m op
  intro d hd
  obtain ⟨i, hi⟩ := mem_devices.mp hd
  rw [device_map ht] at hi
  obtain ⟨d', hd', rfl⟩ := Option.map_eq_some_iff.mp hi
  rw [releasedDevice]
  split_ifs with hcan
  · rfl
  · rcases hclean with hen | hno
    · obtain ⟨refSelected, hr⟩ := Option.ne_none_iff_exists'.mp hsel
      refine absurd ?_ hcan
      simp [cancelingAccessor, hsame.enabled _ hen, hsame.selected, hr, hsound.hasOwner i d' hd']
    · exact hno d' (mem_devices.mpr ⟨i, hd'⟩)

theorem KeysBelong.uiStep (h : m.KeysBelong history) (hsound : m.Sound) {op : UiOp}
    (hclean : m.DeselectsCleanly (.ui op)) (ht : m.uiStep op = .ok t) : t.KeysBelong history := by
  have hsame := sameDevices_prepare m op
  obtain ⟨l, es, canceledKeys, rfl, rfl⟩ | ⟨hdes, rfl⟩ | ⟨hdes, -, es, canceledKeys, rfl⟩ :=
    uiStep_cases hsound.toWindowsTracked ht
  · exact h.of_eq (fun i => rfl) rfl
  · cases hsel : m.selects op with
    | none =>
      exact h.of_eq (device_of_btDevices_eq hsame.btDevices) hsame.selected
    | some d =>
      rcases selected_of_selects hdes hsel with hnone | hsome
      · -- a window is selected while none was
        refine keysBelong_of_noKeyPressed fun d' hd' => h.noKeyPressed hnone d' ?_
        rw [← hsame.btDevices]
        exact hd'
      · exact h.of_eq (device_of_btDevices_eq hsame.btDevices) hsome.symm
  · exact keysBelong_of_noKeyPressed
      (noKeyPressed_released hsound op (selected_ne_none_of_deselects hdes) (hclean hdes) rfl)

theorem KeysBelong.step (h : m.KeysBelong history) (hsound : m.Sound) {op : Op}
    (hclean : m.DeselectsCleanly op) (ht : m.step op = .ok t) :
    t.KeysBelong (history ++ m.pressOf op) := by
  obtain ⟨sName, nBackendId, rfl, hnone, rfl⟩ | ⟨nBackendId, d, es, canceledKeys, rfl, hd, rfl⟩ |
    ⟨nBackendId, eType, eHK, es, rfl, rfl⟩ | ⟨uiOp, rfl, hui⟩ := step_cases hsound ht
  · rw [pressOf_deviceAdded, List.append_nil]
    intro i d hd k kd hk
    rw [device_deviceAdded] at hd
    split_ifs at hd
    · cases hd
      cases hk
    · exact h i d hd k kd hk
  · rw [pressOf_deviceRemoved, List.append_nil]
    intro i d' hd' k kd hk
    rw [device_deviceRemoved] at hd'
    split_ifs at hd'
    exact h i d' hd' k kd hk
  · exact h.keyed hsound nBackendId eType eHK es
  · rw [pressOf_ui, List.append_nil]
    exact h.uiStep hsound hclean hui

theorem HistoryIncreasing.mono (h : m.HistoryIncreasing history)
    (hle : m.nextTimeStamp ≤ t.nextTimeStamp) : t.HistoryIncreasing history :=
  ⟨h.1, fun p hp => (h.2 p hp).trans_le hle⟩

/-- A press that is recorded uses up the time stamp. -/
theorem pressOf_blueKey (nBackendId : ℕ) (eType : KeyInputType) (eHK : HardwareKey)
    (m : BtGtkDeviceManager) :
    m.pressOf (.blueKey nBackendId eType eHK) = [] ∨
      ∃ refSelected, m.pressOf (.blueKey nBackendId eType eHK) =
          [⟨nBackendId, eHK, m.nextTimeStamp, refSelected⟩] ∧
        (m.keyed nBackendId eType eHK).nextTimeStamp = m.nextTimeStamp + 1 := by
  cases hsel : m.selected with
  | none => exact .inl (by simp [pressOf, hsel])
  | some refSelected =>
    cases hd : m.device nBackendId with
    | none => exact .inl (by simp [pressOf, hsel, hd])
    | some d =>
      by_cases hpress : d.hasOwner ∧ eType = keyPress ∧ eHK ∉ d.pressedKeys
      · refine .inr ⟨refSelected, by simp [pressOf, hsel, hd, hpress], ?_⟩
        obtain ⟨howner, htype, hnew⟩ := hpress
        simp [keyed, hsel, hd, howner, htype, hnew]
      · refine .inl ?_
        simp only [pressOf, hsel, hd]
        exact if_neg hpress

theorem nextTimeStamp_le_keyed (nBackendId : ℕ) (eType : KeyInputType) (eHK : HardwareKey)
    (m : BtGtkDeviceManager) :
    m.nextTimeStamp ≤ (m.keyed nBackendId eType eHK).nextTimeStamp := by
  obtain hsame | ⟨_, _, -, -, -, -, hpress⟩ | ⟨-, hrelease⟩ :=
    keyed_cases nBackendId eType eHK m
  · rw [hsame]
  · rw [hpress]
    exact Nat.le_succ _
  · rw [hrelease]
    exact le_rfl

theorem HistoryIncreasing.step (h : m.HistoryIncreasing history) (hsound : m.Sound) {op : Op}
    (ht : m.step op = .ok t) : t.HistoryIncreasing (history ++ m.pressOf op) := by
  obtain ⟨sName, nBackendId, rfl, hnone, rfl⟩ | ⟨nBackendId, d, es, canceledKeys, rfl, hd, rfl⟩ |
    ⟨nBackendId, eType, eHK, es, rfl, rfl⟩ | ⟨uiOp, rfl, hui⟩ := step_cases hsound ht
  · rw [pressOf_deviceAdded, List.append_nil]
    exact h.mono le_rfl
  · rw [pressOf_deviceRemoved, List.append_nil]
    exact h.mono le_rfl
  · obtain hobs | ⟨refSelected, hobs, hts⟩ := pressOf_blueKey nBackendId eType eHK m
    · rw [hobs, List.append_nil]
      exact h.mono (nextTimeStamp_le_keyed nBackendId eType eHK m)
    · rw [hobs]
      refine ⟨?_, fun p hp => ?_⟩
      · rw [List.map_append, List.pairwise_append]
        refine ⟨h.1, List.pairwise_singleton _ _, fun ts hts ts' hts' => ?_⟩
        obtain ⟨p, hp, rfl⟩ := List.mem_map.mp hts
        rw [List.mem_singleton.mp hts']
        exact h.2 p hp
      · change p.pressedTimeStamp < (m.keyed nBackendId eType eHK).nextTimeStamp
        rw [hts]
        rcases List.mem_append.mp hp with hp | hp
        · exact (h.2 p hp).trans (Nat.lt_succ_self _)
        · rw [List.mem_singleton.mp hp]
          exact Nat.lt_succ_self _
  · rw [pressOf_ui, List.append_nil]
    have hts := (sameDevices_prepare m uiOp).nextTimeStamp
    obtain ⟨l, es, canceledKeys, rfl, rfl⟩ | ⟨-, rfl⟩ | ⟨-, -, es, canceledKeys, rfl⟩ :=
      uiStep_cases hsound.toWindowsTracked hui
    · exact h.mono le_rfl
    · exact h.mono hts
    · exact h.mono hts

/-! ### Runs -/

/-- **The documented invariant of `m_refSelected`**, after any run, and so after any part of a
run, in which windows are deselected cleanly. The history identifies every press by its time
stamp. -/
theorem keysBelong_of_guarded (enabledEventClasses : EventClass → Bool)
    (windows : Window → WindowState) (ops : List Op)
    (hclean : Run.Guarded step DeselectsCleanly (create enabledEventClasses windows) ops)
    {t : BtGtkDeviceManager}
    (ht : Run.exec step (create enabledEventClasses windows) ops = .ok t) :
    t.KeysBelong (Run.trace step pressOf (create enabledEventClasses windows) ops) ∧
      t.HistoryIncreasing (Run.trace step pressOf (create enabledEventClasses windows) ops) := by
  have hinv := Run.invariant_trace_of_guarded pressOf
    (P := fun m history => m.Sound ∧ m.KeysBelong history ∧ m.HistoryIncreasing history) (l := [])
    (fun m history op u ⟨hsound, hkeys, hhist⟩ hop hu =>
      ⟨hsound.step hu, hkeys.step hsound hop hu, hhist.step hsound hu⟩)
    ⟨sound_create enabledEventClasses windows, fun i d hd => by simp [create, device] at hd,
      List.Pairwise.nil, by simp⟩ hclean ht
  exact hinv.2

/-- No step disables an event class. -/
theorem isEventClassEnabled_step (hsound : m.Sound) {op : Op} (ht : m.step op = .ok t)
    (c : EventClass) (hc : m.isEventClassEnabled c) : t.isEventClassEnabled c := by
  obtain ⟨sName, nBackendId, rfl, hnone, rfl⟩ | ⟨nBackendId, d, es, canceledKeys, rfl, hd, rfl⟩ |
    ⟨nBackendId, eType, eHK, es, rfl, rfl⟩ | ⟨uiOp, rfl, hui⟩ := step_cases hsound ht
  · exact hc
  · exact hc
  · obtain hsame | ⟨_, _, -, -, -, -, hpress⟩ | ⟨-, hrelease⟩ :=
      keyed_cases nBackendId eType eHK m
    · rw [hsame]
      exact hc
    · rw [hpress]
      exact hc
    · rw [hrelease]
      exact hc
  · have hprepare := (sameDevices_prepare m uiOp).enabled c hc
    obtain ⟨l, es, canceledKeys, rfl, rfl⟩ | ⟨-, rfl⟩ | ⟨-, -, es, canceledKeys, rfl⟩ :=
      uiStep_cases hsound.toWindowsTracked hui
    · exact hc
    · exact hprepare
    · exact hprepare

/-- With `KeyEvent` enabled from the start every run deselects cleanly. -/
theorem guarded_of_enabled (hsound : m.Sound) (hen : m.isEventClassEnabled .keyEvent)
    (ops : List Op) : Run.Guarded step DeselectsCleanly m ops := by
  induction ops generalizing m with
  | nil => trivial
  | cons op ops ih =>
    refine ⟨?_, fun t ht => ih (hsound.step ht) (isEventClassEnabled_step hsound ht _ hen)⟩
    cases op with
    | ui uiOp => exact fun _ => .inl hen
    | _ => trivial

/-- A device presses a key while the window `0` is selected; then the window is removed. -/
def pressAndRemove : List Op :=
  [.ui (.addAccessor (.gtk 0)), .deviceAdded 0xA0 0, .blueKey 0 keyPress 30,
    .ui (.removeAccessor (.gtk 0))]

/-- A manager with its event classes enabled or not, among active windows. -/
def amongActive (enabled : Bool) : BtGtkDeviceManager :=
  create (fun _ => enabled) fun _ => ⟨true, false⟩

theorem keysBelong_pressAndRemove : ∃ t,
    Run.exec step (amongActive true) pressAndRemove = .ok t ∧
      t.KeysBelong (Run.trace step pressOf (amongActive true) pressAndRemove) := by
  have hok : (Run.exec step (amongActive true) pressAndRemove).toOption.isSome = true := by decide
  cases ht : Run.exec step (amongActive true) pressAndRemove with
  | error e =>
    rw [ht] at hok
    cases hok
  | ok t =>
    exact ⟨t, rfl, (keysBelong_of_guarded (fun _ => true) (fun _ => ⟨true, false⟩) pressAndRemove
      (guarded_of_enabled (sound_create _ _) rfl _) ht).1⟩

/-- While `KeyEvent` is disabled the key stays pressed though no window is selected. -/
theorem not_keysBelong_disabled : ∃ t,
    Run.exec step (amongActive false) pressAndRemove = .ok t ∧ t.selected = none ∧
      ¬ t.KeysBelong (Run.trace step pressOf (amongActive false) pressAndRemove) := by
  have hok : (Run.exec step (amongActive false) pressAndRemove).toOption.map
    (fun t => (t.selected, (t.device 0).map fun d => d.pressedKeys.lookup 30)) =
      some (none, some (some ⟨0⟩)) := by decide
  obtain ⟨t, ht, hview⟩ := Run.exists_exec_of_view hok
  obtain ⟨hsel, hkey⟩ := Prod.mk.inj hview
  refine ⟨t, ht, hsel, fun hbelong => ?_⟩
  obtain ⟨d, hd, hlookup⟩ := Option.map_eq_some_iff.mp hkey
  obtain ⟨refSelected, hsome, -⟩ := hbelong 0 d hd 30 ⟨0⟩ hlookup
  rw [hsel] at hsome
  cases hsome

end BtGtkDeviceManager

end StmmInputBt
