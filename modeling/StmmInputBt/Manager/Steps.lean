import StmmInputBt.Foundation.Lists
import StmmInputBt.Manager.Effects

/-!
# What a step of the manager does

Every operation on windows and listeners but `finalizeListener` first changes what the manager
knows about windows (`prepare`), then may deselect the window (`deselects`), and then may select
one (`selects`); the three of them are functions of the state before. Keys change the pressed
keys of one device (`keyed`) and are recorded.

## Main definitions

* `BtGtkDeviceManager.WindowsTracked`: the invariant of `m_aGtkWindowData` and `m_refSelected`.

## Main results

* `BtGtkDeviceManager.uiStep_eq`: the normal form of an operation.
* `BtGtkDeviceManager.onBlueKey_record`: a key.
* `BtGtkDeviceManager.WindowsTracked.step`: every step keeps `WindowsTracked`.
-/

namespace StmmInputBt

/-- What a device is, apart from the keys pressed on it. -/
def BtKeysDevice.withoutKeys (d : BtKeysDevice) : BtKeysDevice := { d with pressedKeys := ∅ }

@[simp] theorem BtKeysDevice.withoutKeys_name (d : BtKeysDevice) :
    d.withoutKeys.name = d.name := rfl

@[simp] theorem BtKeysDevice.withoutKeys_deviceId (d : BtKeysDevice) :
    d.withoutKeys.deviceId = d.deviceId := rfl

@[simp] theorem BtKeysDevice.withoutKeys_hasOwner (d : BtKeysDevice) :
    d.withoutKeys.hasOwner = d.hasOwner := rfl

namespace BtGtkDeviceManager

/-! ### Tracked windows -/

/-- The window data of a window in `m_aGtkWindowData`. -/
def entryOf (w : Window) (m : BtGtkDeviceManager) : Option WindowDataId :=
  (m.gtkWindowData.find? (·.1 = w)).map Prod.snd

/-- The windows of `m_aGtkWindowData` are distinct, and their data is enabled and refers to
them. -/
structure WindowDataTracked (m : BtGtkDeviceManager) : Prop where
  nodup : (m.gtkWindowData.map Prod.fst).Nodup
  data : ∀ e ∈ m.gtkWindowData, m.windowData e.2 = ⟨e.1, true⟩
  lt : ∀ e ∈ m.gtkWindowData, e.2 < m.nextWindowData

/-- Moreover the selected data is the data of a tracked window. -/
structure WindowsTracked (m : BtGtkDeviceManager) : Prop extends WindowDataTracked m where
  selected : ∀ d, m.selected = some d → ∃ w, (w, d) ∈ m.gtkWindowData

/-- Stop tracking a window. -/
def untrack (w : Window) (m : BtGtkDeviceManager) : BtGtkDeviceManager :=
  match m.entryOf w with
  | none => m
  | some refData =>
    { m with
      windowData := Function.update m.windowData refData
        { m.windowData refData with isEnabled := false }
      gtkWindowData := m.gtkWindowData.eraseP (·.1 = w) }

/-- The window is tracked, and its data is selected. -/
def isSelectedWindow (w : Window) (m : BtGtkDeviceManager) : Bool :=
  (m.entryOf w).isSome && m.selected = m.entryOf w

/-- The window of the selected data. -/
def selectedWindow (m : BtGtkDeviceManager) : Option Window :=
  m.selected.map fun refSelected => (m.windowData refSelected).accessor

variable {m : BtGtkDeviceManager} {w : Window} {d : WindowDataId}

theorem entryOf_eq_none : m.entryOf w = none ↔ ∀ e ∈ m.gtkWindowData, e.1 ≠ w := by
  simp [entryOf]

theorem WindowDataTracked.entryOf_eq_some (h : m.WindowDataTracked) :
    m.entryOf w = some d ↔ (w, d) ∈ m.gtkWindowData := by
  rw [entryOf]
  constructor
  · intro hfind
    obtain ⟨e, he, rfl⟩ := Option.map_eq_some_iff.mp hfind
    have hw : e.1 = w := by simpa using List.find?_some he
    exact hw ▸ List.mem_of_find?_eq_some he
  · intro hmem
    obtain ⟨e, he⟩ : ∃ e, m.gtkWindowData.find? (·.1 = w) = some e := by
      rw [← Option.isSome_iff_exists, List.find?_isSome]
      exact ⟨(w, d), hmem, by simp⟩
    have hw : e.1 = w := by simpa using List.find?_some he
    have heq : e = (w, d) :=
      List.inj_on_of_nodup_map h.nodup (List.mem_of_find?_eq_some he) hmem hw
    rw [he, heq]
    rfl

theorem findWindow_eq_none : m.findWindow w = none ↔ m.entryOf w = none := by
  simp [findWindow, entryOf]

theorem findWindow_isSome : (m.findWindow w).isSome = (m.entryOf w).isSome := by
  rw [Bool.eq_iff_iff, ← not_iff_not]
  simpa using findWindow_eq_none

theorem getElem?_of_findWindow {itFind : ℕ} (h : m.findWindow w = some itFind) :
    ∃ refData, m.gtkWindowData[itFind]? = some (w, refData) ∧ m.entryOf w = some refData := by
  rw [findWindow] at h
  obtain ⟨hlt, hw, hbefore⟩ := List.findIdx?_eq_some_iff_getElem.mp h
  have hw' : m.gtkWindowData[itFind].1 = w := by simpa using hw
  refine ⟨m.gtkWindowData[itFind].2, by simp [hlt, ← hw'], ?_⟩
  have hfind : m.gtkWindowData.find? (·.1 = w) = some m.gtkWindowData[itFind] :=
    List.find?_eq_some_iff_getElem.mpr ⟨hw, itFind, hlt, rfl, fun j hj => by
      simpa using hbefore j hj⟩
  rw [entryOf, hfind]
  rfl

/-- `removeAccessor` of the entry that `findWindow` finds. -/
theorem removeAccessorAt_eq {handle : Handler} {itFind : ℕ} (h : m.findWindow w = some itFind) :
    removeAccessorAt handle itFind m =
      if m.isSelectedWindow w then deselectAccessor handle (m.untrack w)
      else .ok (m.untrack w) := by
  obtain ⟨refData, hget, hentry⟩ := getElem?_of_findWindow h
  have herase : m.gtkWindowData.eraseP (·.1 = w) = m.gtkWindowData.eraseIdx itFind := by
    rw [List.eraseP_eq_eraseIdx, show m.gtkWindowData.findIdx? (·.1 = w) = some itFind from h]
  simp only [removeAccessorAt, hget, isSelectedWindow, hentry, untrack, herase, Option.isSome_some,
    Bool.true_and, decide_eq_true_eq]

/-! ### The three parts of an operation -/

/-- What an operation does to the windows and the listeners. -/
def prepare (m : BtGtkDeviceManager) : UiOp → BtGtkDeviceManager
  | .addAccessor refAccessor =>
    match refAccessor.gtkWindow with
    | none => m
    | some w =>
      if (m.windows w).isDeleted then m.untrack w
      else if (m.entryOf w).isSome then m
      else match m.selectedWindow with
        | none => m.addWindowData w
        | some selectedWindow =>
          if (m.windows w).isActive && (m.windows selectedWindow).isDeleted then
            (m.addWindowData w).untrack selectedWindow
          else m.addWindowData w
  | .removeAccessor refAccessor =>
    match refAccessor.gtkWindow with
    | none => m
    | some w => m.untrack w
  | .activeChanged w isActive => m.setWindow w { m.windows w with isActive }
  | .windowChanged w state => m.setWindow w state
  | .enableEventClass c =>
    { m with enabledEventClasses := Function.update m.enabledEventClasses c true }
  | .addListener l => m.addListener l
  | .finalizeListener _ => m
  | .removeListener l => m.removeListener l

/-- The operation deselects the selected window. -/
def deselects (m : BtGtkDeviceManager) : UiOp → Bool
  | .addAccessor refAccessor =>
    refAccessor.gtkWindow.any fun w =>
      if (m.windows w).isDeleted then m.isSelectedWindow w
      else (m.entryOf w).isNone && m.selected.isSome
  | .removeAccessor refAccessor => refAccessor.gtkWindow.any fun w => m.isSelectedWindow w
  | .activeChanged w isActive =>
    if isActive && !(m.windows w).isDeleted then
      (m.entryOf w).isSome && m.selected.isSome && !m.isSelectedWindow w
    else m.isSelectedWindow w
  | _ => false

/-- The window data that the operation selects. -/
def selects (m : BtGtkDeviceManager) : UiOp → Option WindowDataId
  | .addAccessor refAccessor =>
    refAccessor.gtkWindow.bind fun w =>
      if !(m.windows w).isDeleted && (m.entryOf w).isNone && (m.windows w).isActive then
        some m.nextWindowData
      else none
  | .activeChanged w isActive =>
    if isActive && !(m.windows w).isDeleted then m.entryOf w else none
  | _ => none

/-- Select some window data, or leave the selection as it is. -/
def select (refData : Option WindowDataId) (m : BtGtkDeviceManager) : BtGtkDeviceManager :=
  { m with selected := refData.or m.selected }

theorem selected_ne_none_of_isSelectedWindow (h : m.isSelectedWindow w) : m.selected ≠ none := by
  simp only [isSelectedWindow, Bool.and_eq_true, decide_eq_true_eq, Option.isSome_iff_ne_none] at h
  rw [h.2]
  exact h.1

theorem selected_ne_none_of_deselects {op : UiOp} (h : m.deselects op) : m.selected ≠ none := by
  cases op with
  | addAccessor refAccessor =>
    cases hw : refAccessor.gtkWindow with
    | none => simp [deselects, hw] at h
    | some w =>
      simp only [deselects, hw, Option.any_some] at h
      split_ifs at h
      · exact selected_ne_none_of_isSelectedWindow h
      · rw [Bool.and_eq_true] at h
        exact Option.isSome_iff_ne_none.mp h.2
  | removeAccessor refAccessor =>
    cases hw : refAccessor.gtkWindow with
    | none => simp [deselects, hw] at h
    | some w =>
      simp only [deselects, hw, Option.any_some] at h
      exact selected_ne_none_of_isSelectedWindow h
  | activeChanged w isActive =>
    simp only [deselects] at h
    split_ifs at h
    · simp only [Bool.and_eq_true] at h
      exact Option.isSome_iff_ne_none.mp h.1.2
    · exact selected_ne_none_of_isSelectedWindow h
  | _ => cases h

/-- Without deselecting, only the selected window or, when there is none, another window is
selected. -/
theorem selected_of_selects {op : UiOp} (hdes : m.deselects op = false)
    (hsel : m.selects op = some d) : m.selected = none ∨ m.selected = some d := by
  cases op with
  | addAccessor refAccessor =>
    obtain ⟨w, hw, hd⟩ := Option.bind_eq_some_iff.mp hsel
    simp only [Option.ite_none_right_eq_some, Bool.and_eq_true, Bool.not_eq_true'] at hd
    simp [deselects, hw, hd.1.1.1, hd.1.1.2] at hdes
    exact .inl hdes
  | activeChanged w isActive =>
    simp only [selects, Option.ite_none_right_eq_some] at hsel
    obtain ⟨ha, hentry⟩ := hsel
    simp only [deselects, ha, if_true, hentry, Option.isSome_some, Bool.true_and, isSelectedWindow,
      Bool.and_eq_false_iff, Bool.not_eq_false', decide_eq_true_eq] at hdes
    rcases hdes with hnone | hsome
    · exact .inl (by simpa using hnone)
    · exact .inr hsome
  | _ => cases hsel

@[simp] theorem select_none (m : BtGtkDeviceManager) : m.select none = m := rfl

@[simp] theorem map_select_none {ε : Type*} (r : Except ε BtGtkDeviceManager) :
    r.map (select none) = r := by
  cases r <;> rfl

theorem untrack_of_none (h : m.entryOf w = none) : m.untrack w = m := by
  simp only [untrack, h]

theorem uiStepWith_removeAccessor (handle : Handler) (refAccessor : Accessor)
    (m : BtGtkDeviceManager) :
    uiStepWith handle m (.removeAccessor refAccessor) =
      if m.deselects (.removeAccessor refAccessor) then
        deselectAccessor handle (m.prepare (.removeAccessor refAccessor))
      else .ok (m.prepare (.removeAccessor refAccessor)) := by
  cases hw : refAccessor.gtkWindow with
  | none => simp [uiStepWith, removeAccessor, deselects, prepare, hw, bind, Except.bind, pure,
      Except.pure]
  | some w =>
    simp only [uiStepWith, removeAccessor, deselects, prepare, hw, Option.bind_some,
      Option.any_some]
    cases hfind : m.findWindow w with
    | none =>
      have hentry := findWindow_eq_none.mp hfind
      rw [untrack_of_none hentry]
      simp [isSelectedWindow, hentry, bind, Except.bind, pure, Except.pure]
    | some itFind =>
      simp only [removeAccessorAt_eq hfind]
      split_ifs
      · cases deselectAccessor handle (m.untrack w) <;> rfl
      · rfl

theorem onIsActiveChanged_eq (handle : Handler) (hdata : m.windowData d = ⟨w, true⟩) :
    onIsActiveChanged handle d m =
      if (m.windows w).isActive && !(m.windows w).isDeleted then
        (if m.selected.isSome && m.selected ≠ some d then deselectAccessor handle m
        else .ok m).map (select (some d))
      else if m.selected = some d then deselectAccessor handle m else .ok m := by
  rw [onIsActiveChanged, isWindowActive]
  simp only [hdata, Bool.not_true, Bool.false_eq_true, if_false, Bool.and_comm]
  by_cases ha : ((m.windows w).isActive && !(m.windows w).isDeleted) = true
  · simp only [ha, if_true]
    cases hsel : m.selected with
    | none => rfl
    | some d' =>
      by_cases hd : d' = d
      · subst hd
        simp [Except.map, select, ← hsel]
      · simp only [Option.some.injEq, hd, if_false, Option.isSome_some, if_true, ne_eq,
          not_false_eq_true, decide_true, Bool.and_self]
        cases deselectAccessor handle m <;> rfl
  · simp only [ha, Bool.false_eq_true, if_false]

theorem uiStepWith_activeChanged (handle : Handler) (h : m.WindowDataTracked) (w : Window)
    (isActive : Bool) : uiStepWith handle m (.activeChanged w isActive) =
      (if m.deselects (.activeChanged w isActive) then
        deselectAccessor handle (m.prepare (.activeChanged w isActive))
      else .ok (m.prepare (.activeChanged w isActive))).map
        (select (m.selects (.activeChanged w isActive))) := by
  let m₁ := m.setWindow w { m.windows w with isActive }
  cases hfind : m.gtkWindowData.find? (·.1 = w) with
  | none =>
    have hfind₁ : m₁.gtkWindowData.find? (·.1 = w) = none := hfind
    simp only [uiStepWith, reportActive, deselects, prepare, selects, isSelectedWindow, entryOf, m₁,
      hfind, hfind₁]
    simp [Except.map]
  | some e =>
    have hmem : (w, e.2) ∈ m.gtkWindowData := by
      have hw : e.1 = w := by simpa using List.find?_some hfind
      exact hw ▸ List.mem_of_find?_eq_some hfind
    have hfind₁ : m₁.gtkWindowData.find? (·.1 = w) = some e := hfind
    have hdata : m₁.windowData e.2 = ⟨w, true⟩ := h.data _ hmem
    have hentry : m.entryOf w = some e.2 := h.entryOf_eq_some.mpr hmem
    have hwin : m₁.windows w = ⟨isActive, (m.windows w).isDeleted⟩ := by simp [m₁, setWindow]
    have hchanged := onIsActiveChanged_eq handle hdata
    simp only [hwin, show m₁.selected = m.selected from rfl] at hchanged
    have hstep : uiStepWith handle m (.activeChanged w isActive) =
        onIsActiveChanged handle e.2 m₁ := by
      simp only [uiStepWith, reportActive]
      rw [hfind₁]
    have hprepare : m.prepare (.activeChanged w isActive) = m₁ := rfl
    rw [hstep, hchanged, hprepare]
    simp only [deselects, selects, isSelectedWindow, hentry]
    by_cases ha : (isActive && !(m.windows w).isDeleted) = true
    · simp only [ha, if_true]
      simp
    · simp only [ha, Bool.false_eq_true, if_false]
      simp

theorem WindowDataTracked.addWindowData (h : m.WindowDataTracked)
    (hdel : (m.windows w).isDeleted = false) (hnew : m.entryOf w = none) :
    (m.addWindowData w).WindowDataTracked where
  nodup := by
    have hne := entryOf_eq_none.mp hnew
    simp only [BtGtkDeviceManager.addWindowData, List.map_append, List.nodup_append, h.nodup,
      true_and]
    simpa using fun w' d hd => hne (w', d) hd
  data := by
    simp only [BtGtkDeviceManager.addWindowData, List.mem_append, List.mem_singleton]
    rintro e (he | rfl)
    · rw [Function.update_of_ne (h.lt e he).ne, h.data e he]
    · simp [hdel]
  lt := by
    simp only [BtGtkDeviceManager.addWindowData, List.mem_append, List.mem_singleton]
    rintro e (he | rfl)
    · exact (h.lt e he).trans (Nat.lt_succ_self _)
    · exact Nat.lt_succ_self _

/-- Two entries with the same data are the same entry. -/
theorem WindowDataTracked.eq_of_snd_eq (h : m.WindowDataTracked) {e e' : Window × WindowDataId}
    (he : e ∈ m.gtkWindowData) (he' : e' ∈ m.gtkWindowData) (heq : e.2 = e'.2) : e = e' := by
  have hdata := h.data e he
  rw [heq, h.data e' he', GtkWindowData.mk.injEq] at hdata
  exact Prod.ext hdata.1.symm heq

theorem WindowDataTracked.mem_untrack (h : m.WindowDataTracked) {e : Window × WindowDataId} :
    e ∈ (m.untrack w).gtkWindowData ↔ e ∈ m.gtkWindowData ∧ e.1 ≠ w := by
  cases hentry : m.entryOf w with
  | none =>
    rw [untrack_of_none hentry, iff_self_and]
    exact entryOf_eq_none.mp hentry e
  | some refData =>
    simp only [BtGtkDeviceManager.untrack, hentry]
    exact mem_eraseP_of_nodup_map h.nodup

theorem WindowDataTracked.untrack (h : m.WindowDataTracked) (w : Window) :
    (m.untrack w).WindowDataTracked := by
  cases hentry : m.entryOf w with
  | none => rwa [untrack_of_none hentry]
  | some refData =>
    have hmem := h.entryOf_eq_some.mp hentry
    have hsub : (m.gtkWindowData.eraseP (·.1 = w)).Sublist m.gtkWindowData := List.eraseP_sublist
    have hrest {e : Window × WindowDataId} (he : e ∈ (m.untrack w).gtkWindowData) :
        (m.untrack w).windowData e.2 = m.windowData e.2 := by
      obtain ⟨he', hew⟩ := h.mem_untrack.mp he
      have hne : e.2 ≠ refData := fun heq => hew (congrArg Prod.fst (h.eq_of_snd_eq he' hmem heq))
      simp only [BtGtkDeviceManager.untrack, hentry, Function.update_of_ne hne]
    refine ⟨?_, fun e he => (hrest he).trans (h.data e (h.mem_untrack.mp he).1), fun e he => ?_⟩
    · simp only [BtGtkDeviceManager.untrack, hentry]
      exact (hsub.map _).nodup h.nodup
    · have hlt := h.lt e (h.mem_untrack.mp he).1
      simpa only [BtGtkDeviceManager.untrack, hentry] using hlt

/-! ### `addAccessor` of a new window -/

@[simp] theorem isWindowActive_addWindowData (w : Window) (m : BtGtkDeviceManager) :
    (m.addWindowData w).isWindowActive m.nextWindowData = (m.windows w).isActive := by
  simp [isWindowActive, addWindowData]

/-- No window is selected: the new one is, if it is active. -/
theorem addAccessor_of_unselected (handle : Handler) {refAccessor : Accessor}
    (hw : refAccessor.gtkWindow = some w) (hdel : (m.windows w).isDeleted = false)
    (hnew : m.entryOf w = none) (hsel : m.selected = none) :
    addAccessor handle refAccessor m = .ok (true, (m.addWindowData w).select
      (if (m.windows w).isActive then some m.nextWindowData else none)) := by
  have hselected : (m.addWindowData w).selected = none := hsel
  simp only [addAccessor, hw, hdel, findWindow_isSome, hnew, hselected,
    isWindowActive_addWindowData, Option.isSome_none, Bool.false_eq_true, if_false]
  split_ifs <;> rfl

/-- A window is selected and the new one is not active: the selected one is deselected. -/
theorem addAccessor_of_idle (handle : Handler) {refAccessor : Accessor}
    (hw : refAccessor.gtkWindow = some w) (hdel : (m.windows w).isDeleted = false)
    (hnew : m.entryOf w = none) {refSelected : WindowDataId} (hsel : m.selected = some refSelected)
    (hidle : (m.windows w).isActive = false) :
    addAccessor handle refAccessor m =
      (deselectAccessor handle (m.addWindowData w)).map (Prod.mk true) := by
  have hselected : (m.addWindowData w).selected = some refSelected := hsel
  simp only [addAccessor, hw, hdel, findWindow_isSome, hnew, hselected,
    isWindowActive_addWindowData, hidle, Option.isSome_none, Bool.false_eq_true, if_false]
  cases deselectAccessor handle (m.addWindowData w) <;> rfl

/-- A window is selected and the new one is active: it takes over. -/
theorem addAccessor_of_active (handle : Handler) (h : m.WindowsTracked) {refAccessor : Accessor}
    (hw : refAccessor.gtkWindow = some w) (hdel : (m.windows w).isDeleted = false)
    (hnew : m.entryOf w = none) {selectedWindow : Window}
    (hsel : m.selectedWindow = some selectedWindow) (hactive : (m.windows w).isActive) :
    addAccessor handle refAccessor m =
      (deselectAccessor handle
        (if (m.windows selectedWindow).isDeleted then (m.addWindowData w).untrack selectedWindow
        else m.addWindowData w)).map fun t => (true, t.select (some m.nextWindowData)) := by
  obtain ⟨refSelected, hrefSelected, haccessor⟩ := Option.map_eq_some_iff.mp hsel
  obtain ⟨w', hmem⟩ := h.selected _ hrefSelected
  obtain rfl : w' = selectedWindow := by rw [← haccessor, h.data _ hmem]
  have hadd := h.toWindowDataTracked.addWindowData hdel hnew
  have hmem₁ : (w', refSelected) ∈ (m.addWindowData w).gtkWindowData :=
    List.mem_append_left _ hmem
  have hentry : (m.addWindowData w).entryOf w' = some refSelected := hadd.entryOf_eq_some.mpr hmem₁
  have hdata : (m.addWindowData w).windowData refSelected = ⟨w', true⟩ := hadd.data _ hmem₁
  have hselected : (m.addWindowData w).selected = some refSelected := hrefSelected
  have hwindows : (m.addWindowData w).windows = m.windows := rfl
  simp only [addAccessor, hw, hdel, findWindow_isSome, hnew, hselected,
    isWindowActive_addWindowData, hactive, hdata, hwindows, Option.isSome_none,
    Bool.false_eq_true, if_false, if_true]
  cases hd : (m.windows w').isDeleted with
  | false =>
    simp only [Bool.false_eq_true, if_false]
    cases deselectAccessor handle (m.addWindowData w) <;> rfl
  | true =>
    -- the selected window is deleted: it is still tracked, and removing it deselects it
    simp only [if_true]
    cases hfind : (m.addWindowData w).findWindow w' with
    | none => exact absurd (findWindow_eq_none.mp hfind) (by simp [hentry])
    | some itSelectedFind =>
      have hsw : (m.addWindowData w).isSelectedWindow w' = true := by
        simp [isSelectedWindow, hentry, hselected]
      simp only [removeAccessorAt_eq hfind, hsw, if_true]
      cases deselectAccessor handle ((m.addWindowData w).untrack w') <;> rfl

/-! ### The normal form -/

/-- Only an `addAccessor` that deselects one window to select another one looks for the window of
the selected data. -/
theorem uiStepWith_addAccessor (handle : Handler) {refAccessor : Accessor}
    (h : m.deselects (.addAccessor refAccessor) → m.selects (.addAccessor refAccessor) ≠ none →
      m.WindowsTracked) :
    uiStepWith handle m (.addAccessor refAccessor) =
      (if m.deselects (.addAccessor refAccessor) then
        deselectAccessor handle (m.prepare (.addAccessor refAccessor))
      else .ok (m.prepare (.addAccessor refAccessor))).map
        (select (m.selects (.addAccessor refAccessor))) := by
  have hstep : uiStepWith handle m (.addAccessor refAccessor) =
      (addAccessor handle refAccessor m).map Prod.snd := by
    simp only [uiStepWith]
    cases addAccessor handle refAccessor m <;> rfl
  rw [hstep]
  cases hw : refAccessor.gtkWindow with
  | none => simp [addAccessor, deselects, prepare, selects, hw, Except.map]
  | some w =>
    simp only [deselects, prepare, selects, hw, Option.bind_some, Option.any_some]
    by_cases hdel : (m.windows w).isDeleted = true
    · -- a deleted window: what is left of it is removed
      simp only [addAccessor, hw, hdel, if_true, Bool.not_true, Bool.false_and, Bool.false_eq_true,
        if_false, map_select_none]
      cases hfind : m.findWindow w with
      | none =>
        have hentry := findWindow_eq_none.mp hfind
        simp [untrack_of_none hentry, isSelectedWindow, hentry, Except.map]
      | some itFind =>
        simp only [removeAccessorAt_eq hfind]
        split_ifs
        · cases deselectAccessor handle (m.untrack w) <;> rfl
        · rfl
    · rw [Bool.not_eq_true] at hdel
      cases hnew : m.entryOf w with
      | some refData =>
        -- a tracked window
        simp [addAccessor, hw, hdel, findWindow_isSome, hnew, Except.map]
      | none =>
        cases hsel : m.selected with
        | none =>
          rw [addAccessor_of_unselected handle hw hdel hnew hsel]
          cases (m.windows w).isActive <;> simp [hdel, selectedWindow, hsel, Except.map]
        | some refSelected =>
          have hselW : m.selectedWindow = some (m.windowData refSelected).accessor := by
            simp [selectedWindow, hsel]
          simp only [hdel, hselW, Option.isSome_some, Option.isNone_none, Bool.not_false,
            Bool.true_and, Bool.false_eq_true, Option.isSome_none, if_false, if_true]
          cases hidle : (m.windows w).isActive with
          | false =>
            rw [addAccessor_of_idle handle hw hdel hnew hsel hidle]
            simp only [Bool.false_and, Bool.false_eq_true, if_false, map_select_none]
            cases deselectAccessor handle (m.addWindowData w) <;> rfl
          | true =>
            have htracked : m.WindowsTracked := h (by simp [deselects, hw, hdel, hnew, hsel])
              (by simp [selects, hw, hdel, hnew, hidle])
            rw [addAccessor_of_active handle htracked hw hdel hnew hselW hidle]
            simp only [Bool.true_and, if_true]
            cases deselectAccessor handle _ <;> rfl

/-- **The normal form of an operation.** What the manager knows about windows changes first, then
the selected window is deselected if at all, and then a window is selected. -/
theorem uiStepWith_eq (handle : Handler) (h : m.WindowsTracked) {op : UiOp}
    (hop : ∀ l, op ≠ .finalizeListener l) : uiStepWith handle m op =
      (if m.deselects op then deselectAccessor handle (m.prepare op)
      else .ok (m.prepare op)).map (select (m.selects op)) := by
  cases op with
  | addAccessor refAccessor => exact uiStepWith_addAccessor handle fun _ _ => h
  | removeAccessor refAccessor =>
    rw [uiStepWith_removeAccessor]
    exact (map_select_none _).symm
  | activeChanged w isActive =>
    exact uiStepWith_activeChanged handle h.toWindowDataTracked w isActive
  | windowChanged w state => rfl
  | enableEventClass c => rfl
  | addListener l => rfl
  | finalizeListener l => exact absurd rfl (hop l)
  | removeListener l => rfl

theorem uiStep_eq (h : m.WindowsTracked) {op : UiOp} (hop : ∀ l, op ≠ .finalizeListener l) :
    m.uiStep op =
      (if m.deselects op then deselectAccessor record (m.prepare op)
      else .ok (m.prepare op)).map (select (m.selects op)) := by
  rw [← uiStepWith_record, uiStepWith_eq record h hop]

/-- The operation calls a method on every entry of `m_aBtDevices`. -/
def traverses (m : BtGtkDeviceManager) : UiOp → Bool
  | .finalizeListener _ => true
  | op => m.deselects op

/-! ### What preparing keeps -/

/-- `t` differs from `m` in its windows and listeners, and more event classes may be enabled. -/
structure SameDevices (m t : BtGtkDeviceManager) : Prop where
  btDevices : t.btDevices = m.btDevices
  nextDeviceId : t.nextDeviceId = m.nextDeviceId
  selected : t.selected = m.selected
  cancelingNestedDepth : t.cancelingNestedDepth = m.cancelingNestedDepth
  deliveries : t.deliveries = m.deliveries
  enabled : ∀ c, m.isEventClassEnabled c → t.isEventClassEnabled c
  nextTimeStamp : m.nextTimeStamp ≤ t.nextTimeStamp

theorem SameDevices.refl (m : BtGtkDeviceManager) : m.SameDevices m :=
  ⟨rfl, rfl, rfl, rfl, rfl, fun _ h => h, le_rfl⟩

theorem sameDevices_addWindowData (w : Window) (m : BtGtkDeviceManager) :
    m.SameDevices (m.addWindowData w) :=
  ⟨rfl, rfl, rfl, rfl, rfl, fun _ h => h, le_rfl⟩

theorem SameDevices.untrack {t : BtGtkDeviceManager} (h : m.SameDevices t) (w : Window) :
    m.SameDevices (t.untrack w) := by
  rw [BtGtkDeviceManager.untrack]
  cases t.entryOf w <;> exact ⟨h.1, h.2, h.3, h.4, h.5, h.6, h.7⟩

theorem sameDevices_prepare (m : BtGtkDeviceManager) (op : UiOp) :
    m.SameDevices (m.prepare op) := by
  cases op with
  | addAccessor refAccessor =>
    have hadd (w : Window) := sameDevices_addWindowData w m
    cases hw : refAccessor.gtkWindow with
    | none =>
      simp only [prepare, hw]
      exact .refl m
    | some w =>
      cases hsel : m.selectedWindow with
      | none =>
        simp only [prepare, hw, hsel]
        split_ifs
        · exact (SameDevices.refl m).untrack w
        · exact .refl m
        · exact hadd w
      | some selectedWindow =>
        simp only [prepare, hw, hsel]
        split_ifs
        · exact (SameDevices.refl m).untrack w
        · exact .refl m
        · exact (hadd w).untrack selectedWindow
        · exact hadd w
  | removeAccessor refAccessor =>
    cases hw : refAccessor.gtkWindow with
    | none =>
      simp only [prepare, hw]
      exact .refl m
    | some w =>
      simp only [prepare, hw]
      exact (SameDevices.refl m).untrack w
  | activeChanged w isActive => exact ⟨rfl, rfl, rfl, rfl, rfl, fun _ h => h, le_rfl⟩
  | windowChanged w state => exact ⟨rfl, rfl, rfl, rfl, rfl, fun _ h => h, le_rfl⟩
  | enableEventClass c =>
    refine ⟨rfl, rfl, rfl, rfl, rfl, fun c' h => ?_, le_rfl⟩
    change Function.update m.enabledEventClasses c true c' = true
    by_cases hc : c' = c
    · simp [hc]
    · rw [Function.update_of_ne hc]
      exact h
  | addListener l =>
    simp only [prepare, addListener]
    split_ifs
    · exact .refl m
    · exact ⟨rfl, rfl, rfl, rfl, rfl, fun _ h => h, Nat.le_succ _⟩
  | finalizeListener l => exact .refl m
  | removeListener l => exact ⟨rfl, rfl, rfl, rfl, rfl, fun _ h => h, le_rfl⟩

/-- The operation is one of those that may deselect the window. -/
def UiOp.mayDeselect : UiOp → Bool
  | .addAccessor _ | .removeAccessor _ | .activeChanged .. => true
  | _ => false

theorem mayDeselect_of_deselects {op : UiOp} (hop : m.deselects op) : op.mayDeselect := by
  cases op with
  | addAccessor | removeAccessor | activeChanged => rfl
  | windowChanged | enableEventClass | addListener | finalizeListener | removeListener => cases hop

/-- These operations enable no event class and leave the listeners alone. -/
theorem keeps_prepare {op : UiOp} (hop : op.mayDeselect) :
    (m.prepare op).enabledEventClasses = m.enabledEventClasses ∧
      (m.prepare op).listeners = m.listeners := by
  have huntrack (m : BtGtkDeviceManager) (w : Window) :
      (m.untrack w).enabledEventClasses = m.enabledEventClasses ∧
        (m.untrack w).listeners = m.listeners := by
    rw [untrack]
    split <;> exact ⟨rfl, rfl⟩
  cases op with
  | addAccessor refAccessor =>
    simp only [prepare]
    split
    · exact ⟨rfl, rfl⟩
    · split_ifs
      · exact huntrack ..
      · exact ⟨rfl, rfl⟩
      · split
        · exact ⟨rfl, rfl⟩
        · split_ifs
          · exact huntrack ..
          · exact ⟨rfl, rfl⟩
  | removeAccessor refAccessor =>
    simp only [prepare]
    split
    · exact ⟨rfl, rfl⟩
    · exact huntrack ..
  | activeChanged => exact ⟨rfl, rfl⟩
  | windowChanged | enableEventClass | addListener | finalizeListener | removeListener => cases hop

/-- What an operation can do. -/
theorem uiStep_cases (h : m.WindowsTracked) {op : UiOp} {t : BtGtkDeviceManager}
    (ht : m.uiStep op = .ok t) :
    (∃ l es canceledKeys, op = .finalizeListener l ∧
      t = appendKeyEvents es { m with canceledKeys }) ∨
    (m.deselects op = false ∧ t = (m.prepare op).select (m.selects op)) ∨
    (m.deselects op = true ∧ m.hasNull = false ∧ ∃ es canceledKeys,
      t = select (m.selects op) (appendKeyEvents es { m.prepare op with
        selected := none
        btDevices := m.btDevices.map (Option.map (m.prepare op).releasedDevice)
        canceledKeys := canceledKeys })) := by
  by_cases hop : ∃ l, op = .finalizeListener l
  · obtain ⟨l, rfl⟩ := hop
    obtain ⟨-, rfl⟩ := finalizeListener_eq_ok.mp ht
    obtain ⟨es, canceledKeys, hfin⟩ := finalized_eq l m
    exact .inl ⟨l, es, canceledKeys, rfl, hfin⟩
  · rw [uiStep_eq h fun l hl => hop ⟨l, hl⟩] at ht
    have hsame := sameDevices_prepare m op
    cases hdes : m.deselects op with
    | false =>
      rw [hdes] at ht
      exact .inr (.inl ⟨rfl, (Except.ok.inj ht).symm⟩)
    | true =>
      rw [hdes, if_pos rfl] at ht
      have hnull : (m.prepare op).hasNull = m.hasNull := by rw [hasNull, hasNull, hsame.btDevices]
      obtain ⟨u, hu, rfl⟩ := Run.map_eq_ok.mp ht
      obtain ⟨hn, rfl⟩ := deselectAccessor_eq_ok.mp hu
      obtain ⟨es, canceledKeys, hd⟩ := deselected_eq (m.prepare op)
      rw [hsame.btDevices] at hd
      exact .inr (.inr ⟨rfl, hnull.symm.trans hn, es, canceledKeys, by rw [hd]⟩)

/-- An operation can only fail by using a null device. -/
theorem uiStep_eq_error (h : m.WindowsTracked) {op : UiOp} {e : Fault}
    (he : m.uiStep op = .error e) :
    e = .nullDevice ∧ m.traverses op = true ∧ m.hasNull = true := by
  by_cases hop : ∃ l, op = .finalizeListener l
  · obtain ⟨l, rfl⟩ := hop
    change finalizeListener record l m = .error e at he
    rw [finalizeListener_eq] at he
    cases hnull : m.hasNull with
    | true =>
      rw [hnull] at he
      exact ⟨(Except.error.inj he).symm, rfl, rfl⟩
    | false =>
      rw [hnull] at he
      cases he
  · have htraverses : m.traverses op = m.deselects op := by
      cases op with
      | finalizeListener l => exact absurd ⟨l, rfl⟩ hop
      | _ => rfl
    rw [uiStep_eq h fun l hl => hop ⟨l, hl⟩, deselectAccessor_eq] at he
    have hnull : (m.prepare op).hasNull = m.hasNull := by
      rw [hasNull, hasNull, (sameDevices_prepare m op).btDevices]
    rw [hnull] at he
    rw [htraverses]
    cases hdes : m.deselects op with
    | false =>
      rw [hdes] at he
      cases he
    | true =>
      cases hn : m.hasNull with
      | false =>
        rw [hdes, hn] at he
        cases he
      | true =>
        rw [hdes, hn] at he
        exact ⟨(Except.error.inj he).symm, rfl, rfl⟩

/-- It does fail when it uses every device and one of them is null. -/
theorem uiStep_of_traverses (h : m.WindowsTracked) {op : UiOp} (htraverses : m.traverses op = true)
    (hnull : m.hasNull = true) : m.uiStep op = .error .nullDevice := by
  by_cases hop : ∃ l, op = .finalizeListener l
  · obtain ⟨l, rfl⟩ := hop
    change finalizeListener record l m = _
    rw [finalizeListener_eq, hnull]
    rfl
  · have hdes : m.deselects op = true := by
      cases op with
      | finalizeListener l => exact absurd ⟨l, rfl⟩ hop
      | _ => exact htraverses
    have hprepare : (m.prepare op).hasNull = true := by
      rw [hasNull, (sameDevices_prepare m op).btDevices]
      exact hnull
    rw [uiStep_eq h fun l hl => hop ⟨l, hl⟩, deselectAccessor_eq, hdes, hprepare]
    rfl

/-- What an operation leaves of the windows and of the selection. -/
theorem uiStep_windows (h : m.WindowsTracked) {op : UiOp} {t : BtGtkDeviceManager}
    (ht : m.uiStep op = .ok t) : t.windows = (m.prepare op).windows ∧
      t.gtkWindowData = (m.prepare op).gtkWindowData ∧
      t.selected = (m.selects op).or (if m.deselects op then none else m.selected) := by
  have hsel := (sameDevices_prepare m op).selected
  obtain ⟨l, es, canceledKeys, rfl, rfl⟩ | ⟨hdes, rfl⟩ | ⟨hdes, -, es, canceledKeys, rfl⟩ :=
    uiStep_cases h ht
  · exact ⟨rfl, rfl, rfl⟩
  · refine ⟨rfl, rfl, ?_⟩
    rw [hdes, ← hsel]
    rfl
  · refine ⟨rfl, rfl, ?_⟩
    rw [hdes]
    rfl

/-! ### Windows stay tracked -/

theorem WindowDataTracked.of_eq {t : BtGtkDeviceManager} (h : m.WindowDataTracked)
    (hentries : t.gtkWindowData = m.gtkWindowData) (hdata : t.windowData = m.windowData)
    (hnext : t.nextWindowData = m.nextWindowData) : t.WindowDataTracked := by
  refine ⟨?_, ?_, ?_⟩
  · rw [hentries]
    exact h.nodup
  · rw [hentries, hdata]
    exact h.data
  · rw [hentries, hnext]
    exact h.lt

theorem WindowDataTracked.prepare (hm : m.WindowDataTracked) (op : UiOp) :
    (m.prepare op).WindowDataTracked := by
  cases op with
  | addAccessor refAccessor =>
    cases hw : refAccessor.gtkWindow with
    | none =>
      simp only [BtGtkDeviceManager.prepare, hw]
      exact hm
    | some w =>
      have hadd (hdel : ¬ (m.windows w).isDeleted) (hnew : ¬ (m.entryOf w).isSome) :
          (m.addWindowData w).WindowDataTracked :=
        hm.addWindowData (by simpa using hdel) (by simpa using hnew)
      cases hsel : m.selectedWindow with
      | none =>
        simp only [BtGtkDeviceManager.prepare, hw, hsel]
        split_ifs with hdel hnew
        · exact hm.untrack w
        · exact hm
        · exact hadd hdel hnew
      | some selectedWindow =>
        simp only [BtGtkDeviceManager.prepare, hw, hsel]
        split_ifs with hdel hnew
        · exact hm.untrack w
        · exact hm
        · exact (hadd hdel hnew).untrack selectedWindow
        · exact hadd hdel hnew
  | removeAccessor refAccessor =>
    cases hw : refAccessor.gtkWindow with
    | none =>
      simp only [BtGtkDeviceManager.prepare, hw]
      exact hm
    | some w =>
      simp only [BtGtkDeviceManager.prepare, hw]
      exact hm.untrack w
  | addListener l =>
    simp only [BtGtkDeviceManager.prepare, addListener]
    split_ifs
    · exact hm
    · exact hm.of_eq rfl rfl rfl
  | activeChanged _ _ => exact hm.of_eq rfl rfl rfl
  | windowChanged _ _ => exact hm.of_eq rfl rfl rfl
  | enableEventClass _ => exact hm.of_eq rfl rfl rfl
  | finalizeListener _ => exact hm
  | removeListener _ => exact hm.of_eq rfl rfl rfl

/-- The data that an operation selects is the data of a tracked window. -/
theorem WindowsTracked.mem_of_selects (h : m.WindowsTracked) {op : UiOp}
    (hd : m.selects op = some d) : ∃ w, (w, d) ∈ (m.prepare op).gtkWindowData := by
  cases op with
  | addAccessor refAccessor =>
    cases hw : refAccessor.gtkWindow with
    | none => simp [selects, hw] at hd
    | some w =>
      simp only [selects, hw, Option.bind_some, Option.ite_none_right_eq_some, Bool.and_eq_true,
        Bool.not_eq_true', Option.isNone_iff_eq_none, Option.some.injEq] at hd
      obtain ⟨⟨⟨hdel, hnew⟩, -⟩, rfl⟩ := hd
      have hmem : (w, m.nextWindowData) ∈ (m.addWindowData w).gtkWindowData :=
        List.mem_append_right _ (List.mem_singleton_self _)
      refine ⟨w, ?_⟩
      cases hsel : m.selectedWindow with
      | none => simpa [BtGtkDeviceManager.prepare, hw, hdel, hnew, hsel] using hmem
      | some selectedWindow =>
        simp only [BtGtkDeviceManager.prepare, hw, hdel, hnew, hsel, Option.isSome_none,
          Bool.false_eq_true, if_false]
        split_ifs
        · -- the selected window is tracked already, so it is another one
          refine ((h.toWindowDataTracked.addWindowData hdel hnew).mem_untrack).mpr ⟨hmem, ?_⟩
          rintro rfl
          obtain ⟨refSelected, hrefSelected, haccessor⟩ := Option.map_eq_some_iff.mp hsel
          obtain ⟨w', hmem'⟩ := h.selected _ hrefSelected
          rw [h.data _ hmem'] at haccessor
          exact entryOf_eq_none.mp hnew _ hmem' haccessor
        · exact hmem
  | activeChanged w isActive =>
    simp only [selects, Option.ite_none_right_eq_some] at hd
    exact ⟨w, h.toWindowDataTracked.entryOf_eq_some.mp hd.2⟩
  | _ => simp [selects] at hd

/-- An operation that does not deselect keeps the selected window tracked. -/
theorem WindowsTracked.mem_of_selected (h : m.WindowsTracked) {op : UiOp}
    (hdes : m.deselects op = false) (hd : m.selected = some d) :
    ∃ w, (w, d) ∈ (m.prepare op).gtkWindowData := by
  obtain ⟨ws, hmem⟩ := h.selected d hd
  have hother {w : Window} (hw : m.isSelectedWindow w = false) :
      (ws, d) ∈ (m.untrack w).gtkWindowData := by
    refine h.toWindowDataTracked.mem_untrack.mpr ⟨hmem, ?_⟩
    rintro rfl
    simp [isSelectedWindow, h.toWindowDataTracked.entryOf_eq_some.mpr hmem, hd] at hw
  refine ⟨ws, ?_⟩
  cases op with
  | addAccessor refAccessor =>
    cases hw : refAccessor.gtkWindow with
    | none => simpa [BtGtkDeviceManager.prepare, hw] using hmem
    | some w =>
      simp only [deselects, hw, Option.any_some] at hdes
      cases hdel : (m.windows w).isDeleted with
      | true =>
        rw [hdel, if_pos rfl] at hdes
        simpa [BtGtkDeviceManager.prepare, hw, hdel] using hother hdes
      | false =>
        rw [hdel] at hdes
        cases hnew : m.entryOf w with
        | none => simp [hnew, hd] at hdes
        | some _ => simpa [BtGtkDeviceManager.prepare, hw, hdel, hnew] using hmem
  | removeAccessor refAccessor =>
    cases hw : refAccessor.gtkWindow with
    | none => simpa [BtGtkDeviceManager.prepare, hw] using hmem
    | some w =>
      simp only [deselects, hw, Option.any_some] at hdes
      simpa [BtGtkDeviceManager.prepare, hw] using hother hdes
  | addListener l =>
    simp only [BtGtkDeviceManager.prepare, addListener]
    split_ifs <;> exact hmem
  | _ => exact hmem

theorem WindowsTracked.of_eq {t : BtGtkDeviceManager} (h : m.WindowsTracked)
    (hentries : t.gtkWindowData = m.gtkWindowData) (hdata : t.windowData = m.windowData)
    (hnext : t.nextWindowData = m.nextWindowData) (hsel : t.selected = m.selected) :
    t.WindowsTracked := by
  refine ⟨h.toWindowDataTracked.of_eq hentries hdata hnext, ?_⟩
  rw [hsel, hentries]
  exact h.selected

theorem WindowsTracked.uiStep (h : m.WindowsTracked) {op : UiOp} {t : BtGtkDeviceManager}
    (ht : m.uiStep op = .ok t) : t.WindowsTracked := by
  have hprepare := h.toWindowDataTracked.prepare op
  obtain ⟨l, es, canceledKeys, rfl, rfl⟩ | ⟨hdes, rfl⟩ | ⟨-, -, es, canceledKeys, rfl⟩ :=
    uiStep_cases h ht
  · exact h.of_eq rfl rfl rfl rfl
  · refine ⟨hprepare.of_eq rfl rfl rfl, fun d hd => ?_⟩
    cases hsel : m.selects op with
    | some d' =>
      rw [hsel] at hd
      cases hd
      exact h.mem_of_selects hsel
    | none =>
      rw [hsel] at hd
      exact h.mem_of_selected hdes ((sameDevices_prepare m op).selected ▸ hd)
  · refine ⟨hprepare.of_eq rfl rfl rfl, fun d hd => ?_⟩
    cases hsel : m.selects op with
    | some d' =>
      rw [hsel] at hd
      cases hd
      exact h.mem_of_selects hsel
    | none =>
      rw [hsel] at hd
      cases hd

/-! ### Steps -/

/-- What holds of a manager between operations whatever the backend and the windows do. -/
structure Sound (m : BtGtkDeviceManager) : Prop extends WindowsTracked m where
  /-- `removingDevice()` resets the owner only of a device whose entry becomes null. -/
  hasOwner : ∀ i d, m.device i = some d → d.hasOwner
  deviceIdsLt : m.DeviceIdsLt

/-- What a step can do. -/
theorem step_cases (h : m.Sound) {op : Op} {t : BtGtkDeviceManager} (ht : m.step op = .ok t) :
    (∃ sName nBackendId, op = .deviceAdded sName nBackendId ∧ m.device nBackendId = none ∧
      t = m.deviceAdded sName nBackendId) ∨
    (∃ nBackendId d es canceledKeys, op = .deviceRemoved nBackendId ∧
      m.device nBackendId = some d ∧
      t = deviceRemoved nBackendId d (appendKeyEvents es { m with canceledKeys })) ∨
    (∃ nBackendId eType eHK es, op = .blueKey nBackendId eType eHK ∧
      t = appendKeyEvents es (m.keyed nBackendId eType eHK)) ∨
    ∃ uiOp, op = .ui uiOp ∧ m.uiStep uiOp = .ok t := by
  cases op with
  | deviceAdded sName nBackendId =>
    obtain ⟨hnone, ht⟩ := (onDeviceAdded_eq_ok h.deviceIdsLt).mp ht
    exact .inl ⟨sName, nBackendId, rfl, hnone, ht⟩
  | deviceRemoved nBackendId =>
    obtain ⟨d, hd, -⟩ := onDeviceRemoved_record_eq_ok.mp ht
    obtain ⟨es, canceledKeys, hrem⟩ := onDeviceRemoved_record hd
    exact .inr (.inl ⟨nBackendId, d, es, canceledKeys, rfl, hd,
      Except.ok.inj (ht.symm.trans hrem)⟩)
  | blueKey nBackendId eType eHK =>
    refine .inr (.inr (.inl ⟨nBackendId, eType, eHK, ?_⟩))
    change (onBlueKey record nBackendId eType eHK m).bind (fun r => .ok r.2) = .ok t at ht
    by_cases hok : nBackendId < m.btDevices.length ∧
        (m.selected ≠ none → (m.device nBackendId).isSome)
    · obtain ⟨es, hkey⟩ := onBlueKey_record eType eHK hok.1 hok.2
      rw [hkey] at ht
      exact ⟨es, rfl, (Except.ok.inj ht).symm⟩
    · rw [onBlueKey_error eType eHK hok] at ht
      cases ht
  | ui uiOp => exact .inr (.inr (.inr ⟨uiOp, rfl, ht⟩))

/-- The device management events among what listeners were handed. -/
def deviceMgmtEvents (m : BtGtkDeviceManager) : List (DeviceMgmtType × BdAddr) :=
  m.deliveries.filterMap fun
    | .key .. => none
    | .deviceMgmt eType sName _ => some (eType, sName)

/-- `t` has the devices of `m`, with other keys pressed, and nothing was said about devices. -/
structure SameIdentities (m t : BtGtkDeviceManager) : Prop where
  length : t.btDevices.length = m.btDevices.length
  device : ∀ i, (t.device i).map BtKeysDevice.withoutKeys =
    (m.device i).map BtKeysDevice.withoutKeys
  nextDeviceId : t.nextDeviceId = m.nextDeviceId
  deviceMgmtEvents : t.deviceMgmtEvents = m.deviceMgmtEvents

theorem SameIdentities.refl (m : BtGtkDeviceManager) : m.SameIdentities m :=
  ⟨rfl, fun _ => rfl, rfl, rfl⟩

theorem SameIdentities.trans {t u : BtGtkDeviceManager} (h : m.SameIdentities t)
    (h' : t.SameIdentities u) : m.SameIdentities u :=
  ⟨h'.1.trans h.1, fun i => (h'.2 i).trans (h.2 i), h'.3.trans h.3, h'.4.trans h.4⟩

theorem SameIdentities.device_eq_none {t : BtGtkDeviceManager} (h : m.SameIdentities t) {i : ℕ} :
    t.device i = none ↔ m.device i = none := by
  rw [← Option.map_eq_none_iff (f := BtKeysDevice.withoutKeys), h.device i, Option.map_eq_none_iff]

theorem SameIdentities.device_isSome {t : BtGtkDeviceManager} (h : m.SameIdentities t) {i : ℕ}
    (hdevice : (m.device i).isSome) : (t.device i).isSome := by
  rw [Option.isSome_iff_ne_none] at hdevice ⊢
  exact fun hnone => hdevice (h.device_eq_none.mp hnone)

theorem SameIdentities.device_eq_some {t : BtGtkDeviceManager} (h : m.SameIdentities t) {i : ℕ}
    {d : BtKeysDevice} (hd : m.device i = some d) :
    ∃ d', t.device i = some d' ∧ d'.name = d.name ∧ d'.deviceId = d.deviceId := by
  have hi := h.device i
  rw [hd] at hi
  obtain ⟨d', hd', heq⟩ := Option.map_eq_some_iff.mp hi
  exact ⟨d', hd', by simpa using congrArg BtKeysDevice.name heq,
    by simpa using congrArg BtKeysDevice.deviceId heq⟩

theorem deviceMgmtEvents_appendKeyEvents (es : List (ListenerId × KeyEvent))
    (m : BtGtkDeviceManager) :
    (m.appendKeyEvents es).deviceMgmtEvents = m.deviceMgmtEvents := by
  simp [deviceMgmtEvents, appendKeyEvents, List.filterMap_append, List.filterMap_map]

theorem withoutKeys_releasedDevice (m : BtGtkDeviceManager) (d : BtKeysDevice) :
    (m.releasedDevice d).withoutKeys = d.withoutKeys := by
  rw [releasedDevice]
  split_ifs <;> rfl

theorem sameIdentities_keyed (nBackendId : ℕ) (eType : KeyInputType) (eHK : HardwareKey)
    (es : List (ListenerId × KeyEvent)) (m : BtGtkDeviceManager) :
    m.SameIdentities (appendKeyEvents es (m.keyed nBackendId eType eHK)) := by
  have hmodify {f : BtKeysDevice → BtKeysDevice} (hf : ∀ d, (f d).withoutKeys = d.withoutKeys)
      {t : BtGtkDeviceManager} (hdevices : t.btDevices = (m.modifyDevice nBackendId f).btDevices)
      (hnext : t.nextDeviceId = m.nextDeviceId) (hdel : t.deliveries = m.deliveries) :
      m.SameIdentities (appendKeyEvents es t) := by
    refine ⟨?_, fun i => ?_, hnext, ?_⟩
    · change t.btDevices.length = _
      rw [hdevices]
      exact List.length_modify ..
    · have hi : (appendKeyEvents es t).device i = (m.modifyDevice nBackendId f).device i :=
        device_of_btDevices_eq hdevices i
      rw [hi, device_modifyDevice]
      split_ifs
      · cases m.device i <;> simp [hf]
      · rfl
    · rw [deviceMgmtEvents_appendKeyEvents, BtGtkDeviceManager.deviceMgmtEvents, hdel]
      rfl
  obtain hsame | ⟨_, _, -, -, -, -, hpress⟩ | ⟨-, hrelease⟩ :=
    keyed_cases nBackendId eType eHK m
  · rw [hsame]
    refine ⟨rfl, fun i => rfl, rfl, deviceMgmtEvents_appendKeyEvents es m⟩
  · rw [hpress]
    exact hmodify (f := fun d =>
      { d with pressedKeys := d.pressedKeys.insert eHK ⟨m.nextTimeStamp⟩ }) (fun d => rfl)
      rfl rfl rfl
  · rw [hrelease]
    exact hmodify (f := fun d => { d with pressedKeys := d.pressedKeys.erase eHK })
      (fun d => rfl) rfl rfl rfl

theorem sameIdentities_uiStep (h : m.WindowsTracked) {op : UiOp} {t : BtGtkDeviceManager}
    (ht : m.uiStep op = .ok t) : m.SameIdentities t := by
  have hsame := sameDevices_prepare m op
  obtain ⟨l, es, canceledKeys, rfl, rfl⟩ | ⟨-, rfl⟩ | ⟨-, -, es, canceledKeys, rfl⟩ :=
    uiStep_cases h ht
  · exact ⟨rfl, fun i => rfl, rfl, deviceMgmtEvents_appendKeyEvents es _⟩
  · refine ⟨congrArg _ hsame.btDevices, fun i => ?_, hsame.nextDeviceId, ?_⟩
    · exact congrArg _ (device_of_btDevices_eq hsame.btDevices i)
    · exact congrArg (List.filterMap _) hsame.deliveries
  · refine ⟨List.length_map .., fun i => ?_, hsame.nextDeviceId, ?_⟩
    · rw [device_map (m := m) (f := (m.prepare op).releasedDevice) rfl i]
      cases m.device i <;> simp [withoutKeys_releasedDevice]
    · exact (deviceMgmtEvents_appendKeyEvents es _).trans
        (congrArg (List.filterMap _) hsame.deliveries)

/-- Devices that are only changed in their keys keep what `Sound` says of them. -/
theorem Sound.of_sameIdentities (h : m.Sound) {t : BtGtkDeviceManager} (hw : t.WindowsTracked)
    (hs : m.SameIdentities t) : t.Sound := by
  have hback {i : ℕ} {d : BtKeysDevice} (hd : t.device i = some d) :
      ∃ d', m.device i = some d' ∧ d'.withoutKeys = d.withoutKeys := by
    have hi := hs.device i
    rw [hd] at hi
    exact Option.map_eq_some_iff.mp hi.symm
  refine ⟨hw, fun i d hd => ?_, fun d hd => ?_⟩
  · obtain ⟨d', hd', heq⟩ := hback hd
    have howner : d'.hasOwner = d.hasOwner := by simpa using congrArg BtKeysDevice.hasOwner heq
    exact howner ▸ h.hasOwner i d' hd'
  · obtain ⟨i, hi⟩ := mem_devices.mp hd
    obtain ⟨d', hd', heq⟩ := hback hi
    have hid : d'.deviceId = d.deviceId := by simpa using congrArg BtKeysDevice.deviceId heq
    rw [hs.nextDeviceId, ← hid]
    exact h.deviceIdsLt d' (mem_devices.mpr ⟨i, hd'⟩)

theorem WindowsTracked.keyed (h : m.WindowsTracked) (nBackendId : ℕ) (eType : KeyInputType)
    (eHK : HardwareKey) (es : List (ListenerId × KeyEvent)) :
    (appendKeyEvents es (m.keyed nBackendId eType eHK)).WindowsTracked := by
  obtain hsame | ⟨_, _, -, -, -, -, hpress⟩ | ⟨-, hrelease⟩ :=
    keyed_cases nBackendId eType eHK m
  · rw [hsame]
    exact h.of_eq rfl rfl rfl rfl
  · rw [hpress]
    exact h.of_eq rfl rfl rfl rfl
  · rw [hrelease]
    exact h.of_eq rfl rfl rfl rfl

theorem Sound.deviceAdded (h : m.Sound) (sName : BdAddr) (nBackendId : ℕ) :
    (m.deviceAdded sName nBackendId).Sound := by
  refine ⟨h.toWindowsTracked.of_eq rfl rfl rfl rfl, fun i d hd => ?_, fun d hd => ?_⟩
  · rw [device_deviceAdded] at hd
    split_ifs at hd
    · cases hd
      rfl
    · exact h.hasOwner i d hd
  · obtain ⟨i, hi⟩ := mem_devices.mp hd
    rw [device_deviceAdded] at hi
    split_ifs at hi
    · cases hi
      exact Nat.lt_succ_self _
    · exact (h.deviceIdsLt d (mem_devices.mpr ⟨i, hi⟩)).trans (Nat.lt_succ_self _)

theorem Sound.deviceRemoved (h : m.Sound) (nBackendId : ℕ) (d : BtKeysDevice)
    (es : List (ListenerId × KeyEvent)) (canceledKeys : ListenerId → List HardwareKey) :
    (deviceRemoved nBackendId d (appendKeyEvents es { m with canceledKeys })).Sound := by
  have hrest {i : ℕ} {d' : BtKeysDevice} (hi : (BtGtkDeviceManager.deviceRemoved nBackendId d
      (appendKeyEvents es { m with canceledKeys })).device i = some d') : m.device i = some d' := by
    rw [device_deviceRemoved] at hi
    split_ifs at hi
    exact hi
  refine ⟨h.toWindowsTracked.of_eq rfl rfl rfl rfl, fun i d' hd' => h.hasOwner i d' (hrest hd'),
    fun d' hd' => ?_⟩
  obtain ⟨i, hi⟩ := mem_devices.mp hd'
  exact h.deviceIdsLt d' (mem_devices.mpr ⟨i, hrest hi⟩)

/-- Every step keeps the invariants. -/
theorem Sound.step (h : m.Sound) {op : Op} {t : BtGtkDeviceManager} (ht : m.step op = .ok t) :
    t.Sound := by
  obtain ⟨sName, nBackendId, rfl, -, rfl⟩ | ⟨nBackendId, d, es, canceledKeys, rfl, -, rfl⟩ |
    ⟨nBackendId, eType, eHK, es, rfl, rfl⟩ | ⟨uiOp, rfl, hui⟩ := step_cases h ht
  · exact h.deviceAdded sName nBackendId
  · exact h.deviceRemoved nBackendId d es canceledKeys
  · exact h.of_sameIdentities (h.toWindowsTracked.keyed ..) (sameIdentities_keyed ..)
  · exact h.of_sameIdentities (h.toWindowsTracked.uiStep hui)
      (sameIdentities_uiStep h.toWindowsTracked hui)

theorem sound_create (enabledEventClasses : EventClass → Bool) (windows : Window → WindowState) :
    (create enabledEventClasses windows).Sound where
  nodup := List.nodup_nil
  data := by simp [create]
  lt := by simp [create]
  selected := by simp [create]
  hasOwner := by simp [create, device]
  deviceIdsLt := by simp [DeviceIdsLt, create]

end BtGtkDeviceManager

end StmmInputBt
