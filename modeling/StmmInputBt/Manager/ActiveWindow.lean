import StmmInputBt.Manager.Steps

/-!
# The selected window and the active window

`m_refSelected` is documented as the currently active accessor. As long as at most one tracked
window is active, no tracked window is deleted and every change of an active flag is reported,
it stays the data of the tracked window that is active, provided no window is added that is
neither active nor tracked while another one is selected: in that case `addAccessor` deselects
the other one.

## Main definitions

* `BtGtkDeviceManager.Agrees`: the selected data is the data of the active tracked window.
* `BtGtkDeviceManager.Orderly`: what is assumed of windows and devices at a step.
* `BtGtkDeviceManager.NoIdleAdd`: the step adds no idle window while one is selected.

## Main results

* `BtGtkDeviceManager.agrees_iff`: the selection agrees along a run exactly when no idle window
  is added while one is selected.
-/

namespace StmmInputBt

namespace BtGtkDeviceManager

/-- The selected data is the data of the tracked window that is active, if there is one. -/
def Agrees (m : BtGtkDeviceManager) : Prop :=
  ∀ d, m.selected = some d ↔ ∃ w, (w, d) ∈ m.gtkWindowData ∧ (m.windows w).isActive

/-- No tracked window is deleted, at most one is active, and no entry of `m_aBtDevices` is
null. -/
structure WindowsInOrder (m : BtGtkDeviceManager) : Prop where
  notDeleted : ∀ e ∈ m.gtkWindowData, (m.windows e.1).isDeleted = false
  oneActive : ∀ e ∈ m.gtkWindowData, ∀ e' ∈ m.gtkWindowData, (m.windows e.1).isActive →
    (m.windows e'.1).isActive → e.1 = e'.1
  noNull : none ∉ m.btDevices

/-- The step changes the active flag of no tracked window without a report. -/
def ReportsActive (m : BtGtkDeviceManager) : Op → Prop
  | .ui (.windowChanged w state) =>
    (m.entryOf w).isSome → state.isActive = (m.windows w).isActive
  | _ => True

/-- The windows are in order before and after the step, and changes of active flags are
reported. -/
structure Orderly (m : BtGtkDeviceManager) (op : Op) : Prop where
  before : m.WindowsInOrder
  after : ∀ t, m.step op = .ok t → t.WindowsInOrder
  reported : m.ReportsActive op

/-- The window of an accessor that is handed to `addAccessor` or `removeAccessor`. -/
def Op.accessorWindow : Op → Option Window
  | .ui (.addAccessor refAccessor) => refAccessor.gtkWindow
  | .ui (.removeAccessor refAccessor) => refAccessor.gtkWindow
  | _ => none

/-- Adding or removing a window that is not active changes neither the selection nor any pressed
key. -/
def IdleKeeps (m : BtGtkDeviceManager) (op : Op) : Prop :=
  ∀ w, op.accessorWindow = some w → (m.windows w).isActive = false → ∀ t, m.step op = .ok t →
    t.selected = m.selected ∧ t.btDevices = m.btDevices

/-- A step that adds a window which is neither tracked nor deleted does so while no window is
selected, or the window is active. -/
def NoIdleAdd (m : BtGtkDeviceManager) : Op → Prop
  | .ui (.addAccessor refAccessor) =>
    ∀ w ∈ refAccessor.gtkWindow, (m.windows w).isDeleted = false → m.entryOf w = none →
      (m.windows w).isActive = true ∨ m.selected = none
  | _ => True

instance (m : BtGtkDeviceManager) : Decidable m.WindowsInOrder :=
  decidable_of_iff ((∀ e ∈ m.gtkWindowData, (m.windows e.1).isDeleted = false) ∧
      (∀ e ∈ m.gtkWindowData, ∀ e' ∈ m.gtkWindowData, (m.windows e.1).isActive →
        (m.windows e'.1).isActive → e.1 = e'.1) ∧ m.hasNull = false)
    ⟨fun h => ⟨h.1, h.2.1, hasNull_eq_false.mp h.2.2⟩, fun h =>
      ⟨h.notDeleted, h.oneActive, hasNull_eq_false.mpr h.noNull⟩⟩

instance (m : BtGtkDeviceManager) : (op : Op) → Decidable (m.ReportsActive op)
  | .ui (.windowChanged w state) =>
    inferInstanceAs (Decidable ((m.entryOf w).isSome → state.isActive = (m.windows w).isActive))
  | .deviceAdded .. | .deviceRemoved .. | .blueKey .. | .ui (.addAccessor ..)
  | .ui (.removeAccessor ..) | .ui (.activeChanged ..) | .ui (.enableEventClass ..)
  | .ui (.addListener ..) | .ui (.finalizeListener ..) | .ui (.removeListener ..) => isTrue trivial

instance (m : BtGtkDeviceManager) (op : Op) : Decidable (m.Orderly op) :=
  decidable_of_iff (m.WindowsInOrder ∧ (∀ t, m.step op = .ok t → t.WindowsInOrder) ∧
      m.ReportsActive op)
    ⟨fun h => ⟨h.1, h.2.1, h.2.2⟩, fun h => ⟨h.before, h.after, h.reported⟩⟩

instance (m : BtGtkDeviceManager) : (op : Op) → Decidable (m.NoIdleAdd op)
  | .ui (.addAccessor refAccessor) =>
    inferInstanceAs (Decidable (∀ w ∈ refAccessor.gtkWindow, (m.windows w).isDeleted = false →
      m.entryOf w = none → (m.windows w).isActive = true ∨ m.selected = none))
  | .deviceAdded .. | .deviceRemoved .. | .blueKey .. | .ui (.windowChanged ..)
  | .ui (.removeAccessor ..) | .ui (.activeChanged ..) | .ui (.enableEventClass ..)
  | .ui (.addListener ..) | .ui (.finalizeListener ..) | .ui (.removeListener ..) => isTrue trivial

variable {m t : BtGtkDeviceManager}

theorem Agrees.of_eq (h : m.Agrees) (hentries : t.gtkWindowData = m.gtkWindowData)
    (hsel : t.selected = m.selected)
    (hactive : ∀ e ∈ m.gtkWindowData, (t.windows e.1).isActive = (m.windows e.1).isActive) :
    t.Agrees := by
  intro d
  rw [hsel, h d, hentries]
  refine exists_congr fun w => and_congr_right fun hmem => ?_
  rw [hactive _ hmem]

/-- Without a selected window no tracked window is active. -/
theorem Agrees.not_active (h : m.Agrees) (hsel : m.selected = none) {w : Window}
    {d : WindowDataId} (hmem : (w, d) ∈ m.gtkWindowData) : (m.windows w).isActive = false := by
  by_contra hactive
  have hd := (h d).mpr ⟨w, hmem, by simpa using hactive⟩
  rw [hsel] at hd
  cases hd

/-! ### One step -/

/-- The selected data is that of a given tracked window exactly when that window is active. -/
theorem Agrees.isSelectedWindow_iff (h : m.Agrees) (hw : m.WindowsTracked) {w : Window}
    {d : WindowDataId} (hmem : (w, d) ∈ m.gtkWindowData) :
    m.isSelectedWindow w = (m.windows w).isActive := by
  have hentry := hw.toWindowDataTracked.entryOf_eq_some.mpr hmem
  rw [Bool.eq_iff_iff]
  simp only [isSelectedWindow, hentry, Option.isSome_some, Bool.true_and, decide_eq_true_eq]
  rw [h d]
  constructor
  · rintro ⟨w', hmem', hactive⟩
    have heq := hw.toWindowDataTracked.eq_of_snd_eq hmem' hmem rfl
    rwa [show w' = w from congrArg Prod.fst heq] at hactive
  · exact fun hactive => ⟨w, hmem, hactive⟩

theorem WindowsInOrder.entryOf_eq_none (h : m.WindowsInOrder) (hw : m.WindowsTracked)
    {w : Window} (hdel : (m.windows w).isDeleted = true) : m.entryOf w = none := by
  by_contra hne
  obtain ⟨d, hd⟩ := Option.ne_none_iff_exists'.mp hne
  have hnot := h.notDeleted _ (hw.toWindowDataTracked.entryOf_eq_some.mp hd)
  rw [hdel] at hnot
  cases hnot

theorem windows_untrack (w : Window) (m : BtGtkDeviceManager) :
    (m.untrack w).windows = m.windows := by
  rw [untrack]
  cases m.entryOf w <;> rfl

/-- An operation that leaves the windows and the selection alone. -/
theorem Agrees.uiStep_of_idle (h : m.Agrees) (hw : m.WindowsTracked) {op : UiOp}
    (ht : m.uiStep op = .ok t) (hprepare : m.prepare op = m) (hdes : m.deselects op = false)
    (hsel : m.selects op = none) : t.Agrees := by
  obtain ⟨hwindows, hentries, hselected⟩ := uiStep_windows hw ht
  rw [hprepare] at hwindows hentries
  rw [hdes, hsel] at hselected
  exact h.of_eq hentries hselected fun e _ => by rw [hwindows]

/-- A window that is not tracked yet is added while no window is selected. -/
theorem Agrees.addAccessor_of_none (h : m.Agrees) {w : Window} (hsel : m.selected = none)
    (hwindows : t.windows = m.windows)
    (hentries : t.gtkWindowData = m.gtkWindowData ++ [(w, m.nextWindowData)])
    (hselected : t.selected = if (m.windows w).isActive then some m.nextWindowData else none) :
    t.Agrees := by
  intro d
  rw [hselected, hentries, hwindows, Option.ite_none_right_eq_some]
  constructor
  · rintro ⟨hactive, hd⟩
    cases hd
    exact ⟨w, List.mem_append_right _ (List.mem_singleton_self _), hactive⟩
  · rintro ⟨w', hmem, hactive⟩
    rcases List.mem_append.mp hmem with hmem | hmem
    · rw [h.not_active hsel hmem] at hactive
      cases hactive
    · cases List.mem_singleton.mp hmem
      exact ⟨hactive, rfl⟩

/-- A window that is not tracked yet is added while another one is selected: it is not active, and
the other one is deselected although it stays active. -/
theorem Agrees.addAccessor_of_some (h : m.Agrees) (hw : m.WindowsTracked) {refAccessor : Accessor}
    (horder : m.WindowsInOrder) (hafter : t.WindowsInOrder) {w : Window}
    (hgw : refAccessor.gtkWindow = some w) (hdel : (m.windows w).isDeleted = false)
    (hnew : m.entryOf w = none) {s : WindowDataId} (hsel : m.selected = some s)
    (ht : m.uiStep (.addAccessor refAccessor) = .ok t) :
    (m.windows w).isActive = false ∧ ¬ t.Agrees := by
  obtain ⟨hwindows, hentries, hselected⟩ := uiStep_windows hw ht
  obtain ⟨ws, hmem, hactive⟩ := (h s).mp hsel
  have hselW : m.selectedWindow = some ws := by simp [selectedWindow, hsel, hw.data _ hmem]
  have hprepare : m.prepare (.addAccessor refAccessor) = m.addWindowData w := by
    simp [prepare, hgw, hdel, hnew, hselW, horder.notDeleted _ hmem]
  rw [hprepare] at hwindows hentries
  have hmem' : (ws, s) ∈ t.gtkWindowData := by
    rw [hentries]
    exact List.mem_append_left _ hmem
  have hactive' : (t.windows ws).isActive = true := by
    rw [hwindows]
    exact hactive
  have hidle : (m.windows w).isActive = false := by
    by_contra ha
    rw [Bool.not_eq_false] at ha
    have heq := hafter.oneActive (w, m.nextWindowData)
      (by rw [hentries]; exact List.mem_append_right _ (List.mem_singleton_self _)) _ hmem'
      (by rw [hwindows]; exact ha) hactive'
    exact entryOf_eq_none.mp hnew _ hmem heq.symm
  have hnone : t.selected = none := by
    rw [hselected]
    simp [selects, deselects, hgw, hdel, hnew, hsel, hidle]
  refine ⟨hidle, fun hagrees => ?_⟩
  rw [hagrees.not_active hnone hmem'] at hactive'
  cases hactive'

theorem Agrees.addAccessor_iff (h : m.Agrees) (hw : m.WindowsTracked) {refAccessor : Accessor}
    (horder : m.WindowsInOrder) (hafter : t.WindowsInOrder)
    (ht : m.uiStep (.addAccessor refAccessor) = .ok t) :
    t.Agrees ↔ m.NoIdleAdd (.ui (.addAccessor refAccessor)) := by
  have hdone (hidle : t.Agrees) (hno : m.NoIdleAdd (.ui (.addAccessor refAccessor))) :
      t.Agrees ↔ m.NoIdleAdd (.ui (.addAccessor refAccessor)) := iff_of_true hidle hno
  cases hgw : refAccessor.gtkWindow with
  | none =>
    refine hdone (h.uiStep_of_idle hw ht ?_ ?_ ?_) fun w hw' => ?_
    · simp [prepare, hgw]
    · simp [deselects, hgw]
    · simp [selects, hgw]
    · rw [hgw] at hw'
      cases hw'
  | some w =>
    cases hdel : (m.windows w).isDeleted with
    | true =>
      have hnone := horder.entryOf_eq_none hw hdel
      refine hdone (h.uiStep_of_idle hw ht ?_ ?_ ?_) fun w' hw' hdel' => ?_
      · simp [prepare, hgw, hdel, untrack_of_none hnone]
      · simp [deselects, hgw, hdel, isSelectedWindow, hnone]
      · simp [selects, hgw, hdel]
      · cases hgw.symm.trans hw'
        rw [hdel] at hdel'
        cases hdel'
    | false =>
      cases hnew : m.entryOf w with
      | some d =>
        refine hdone (h.uiStep_of_idle hw ht ?_ ?_ ?_) fun w' hw' _ hnew' => ?_
        · simp [prepare, hgw, hdel, hnew]
        · simp [deselects, hgw, hdel, hnew]
        · simp [selects, hgw, hnew]
        · cases hgw.symm.trans hw'
          rw [hnew] at hnew'
          cases hnew'
      | none =>
        obtain ⟨hwindows, hentries, hselected⟩ := uiStep_windows hw ht
        cases hsel : m.selected with
        | none =>
          have hprepare : m.prepare (.addAccessor refAccessor) = m.addWindowData w := by
            simp [prepare, hgw, hdel, hnew, selectedWindow, hsel]
          rw [hprepare] at hwindows hentries
          refine hdone (h.addAccessor_of_none hsel hwindows hentries ?_) fun _ _ _ _ => .inr hsel
          rw [hselected]
          simp [selects, deselects, hgw, hdel, hnew, hsel]
        | some s =>
          obtain ⟨hidle, hnot⟩ := h.addAccessor_of_some hw horder hafter hgw hdel hnew hsel ht
          refine iff_of_false hnot fun hno => ?_
          rcases hno w hgw hdel hnew with hactive | hnone
          · rw [hidle] at hactive
            cases hactive
          · rw [hsel] at hnone
            cases hnone

theorem Agrees.removeAccessor (h : m.Agrees) (hw : m.WindowsTracked) {refAccessor : Accessor}
    (horder : m.WindowsInOrder) (ht : m.uiStep (.removeAccessor refAccessor) = .ok t) :
    t.Agrees := by
  cases hgw : refAccessor.gtkWindow with
  | none =>
    refine h.uiStep_of_idle hw ht ?_ ?_ ?_
    · simp [prepare, hgw]
    · simp [deselects, hgw]
    · simp [selects]
  | some w =>
    obtain ⟨hwindows, hentries, hselected⟩ := uiStep_windows hw ht
    have hprepare : m.prepare (.removeAccessor refAccessor) = m.untrack w := by
      simp [prepare, hgw]
    rw [hprepare] at hwindows hentries
    rw [windows_untrack] at hwindows
    have hsel : t.selected = if m.isSelectedWindow w then none else m.selected := by
      rw [hselected]
      simp [selects, deselects, hgw]
    intro d
    rw [hsel, hentries, hwindows]
    simp only [hw.toWindowDataTracked.mem_untrack]
    cases hs : m.isSelectedWindow w with
    | true =>
      -- the active window is removed, and no other one is active
      rw [if_pos rfl]
      refine iff_of_false (by simp) ?_
      rintro ⟨w', ⟨hmem, hne⟩, hactive⟩
      obtain ⟨d', hd'⟩ : ∃ d', m.entryOf w = some d' := by
        rw [isSelectedWindow, Bool.and_eq_true] at hs
        exact Option.isSome_iff_exists.mp hs.1
      have hmem' := hw.toWindowDataTracked.entryOf_eq_some.mp hd'
      rw [h.isSelectedWindow_iff hw hmem'] at hs
      exact hne (horder.oneActive _ hmem _ hmem' hactive hs)
    | false =>
      rw [if_neg (by simp), h d]
      refine exists_congr fun w' => ?_
      constructor
      · rintro ⟨hmem, hactive⟩
        refine ⟨⟨hmem, ?_⟩, hactive⟩
        rintro rfl
        rw [h.isSelectedWindow_iff hw hmem, hactive] at hs
        cases hs
      · rintro ⟨⟨hmem, -⟩, hactive⟩
        exact ⟨hmem, hactive⟩

/-- The state of a window after its active flag has changed, and that of the others. -/
theorem windows_activeChanged (hw : m.WindowsTracked) {w : Window} {isActive : Bool}
    (ht : m.uiStep (.activeChanged w isActive) = .ok t) :
    (t.windows w).isActive = isActive ∧ ∀ w' ≠ w, t.windows w' = m.windows w' := by
  rw [(uiStep_windows hw ht).1]
  exact ⟨by simp [prepare, setWindow], fun w' hne => Function.update_of_ne hne _ _⟩

/-- A tracked window becomes active, and so it is the only active one. -/
theorem Agrees.activeChanged_true (hw : m.WindowsTracked) {w : Window} {d : WindowDataId}
    (hmem : (w, d) ∈ m.gtkWindowData) (hdel : (m.windows w).isDeleted = false)
    (hafter : t.WindowsInOrder) (ht : m.uiStep (.activeChanged w true) = .ok t) : t.Agrees := by
  obtain ⟨-, hentries, hselected⟩ := uiStep_windows hw ht
  have hentries' : t.gtkWindowData = m.gtkWindowData := hentries
  have hself := (windows_activeChanged hw ht).1
  have hentry := hw.toWindowDataTracked.entryOf_eq_some.mpr hmem
  have hsel : t.selected = some d := by
    rw [hselected]
    simp [selects, hdel, hentry]
  intro d'
  rw [hsel, hentries']
  constructor
  · intro hd
    cases hd
    exact ⟨w, hmem, hself⟩
  · rintro ⟨w', hmem', hactive⟩
    have heq : w = w' := hafter.oneActive _ (hentries'.symm ▸ hmem) _ (hentries'.symm ▸ hmem')
      hself hactive
    subst heq
    exact hentry.symm.trans (hw.toWindowDataTracked.entryOf_eq_some.mpr hmem')

/-- A tracked window becomes idle. -/
theorem Agrees.activeChanged_false (h : m.Agrees) (hw : m.WindowsTracked) {w : Window}
    {d : WindowDataId} (hmem : (w, d) ∈ m.gtkWindowData) (horder : m.WindowsInOrder)
    (ht : m.uiStep (.activeChanged w false) = .ok t) : t.Agrees := by
  obtain ⟨-, hentries, hselected⟩ := uiStep_windows hw ht
  have hentries' : t.gtkWindowData = m.gtkWindowData := hentries
  obtain ⟨hself, hother⟩ := windows_activeChanged hw ht
  have hsel : t.selected = if m.isSelectedWindow w then none else m.selected := by
    rw [hselected]
    simp [selects, deselects]
  intro d'
  rw [hsel, hentries', h.isSelectedWindow_iff hw hmem]
  cases ha : (m.windows w).isActive with
  | true =>
    rw [if_pos rfl]
    refine iff_of_false (by simp) ?_
    rintro ⟨w', hmem', hactive⟩
    by_cases hne : w' = w
    · rw [hne, hself] at hactive
      cases hactive
    · rw [hother w' hne] at hactive
      exact hne (horder.oneActive _ hmem' _ hmem hactive ha)
  | false =>
    rw [if_neg (by simp), h d']
    refine exists_congr fun w' => and_congr_right fun hmem' => ?_
    by_cases hne : w' = w
    · rw [hne, hself, ha]
    · rw [hother w' hne]

theorem Agrees.activeChanged (h : m.Agrees) (hw : m.WindowsTracked) {w : Window}
    {isActive : Bool} (horder : m.WindowsInOrder) (hafter : t.WindowsInOrder)
    (ht : m.uiStep (.activeChanged w isActive) = .ok t) : t.Agrees := by
  cases hentry : m.entryOf w with
  | none =>
    obtain ⟨-, hentries, hselected⟩ := uiStep_windows hw ht
    have hsel : t.selected = m.selected := by
      rw [hselected]
      simp [selects, deselects, isSelectedWindow, hentry]
    refine h.of_eq hentries hsel fun e he => ?_
    rw [(windows_activeChanged hw ht).2 e.1 (entryOf_eq_none.mp hentry e he)]
  | some d =>
    have hmem := hw.toWindowDataTracked.entryOf_eq_some.mp hentry
    cases isActive with
    | true => exact Agrees.activeChanged_true hw hmem (horder.notDeleted _ hmem) hafter ht
    | false => exact h.activeChanged_false hw hmem horder ht

/-- Under the assumptions on windows an operation keeps the agreement exactly when it adds no idle
window while one is selected. -/
theorem Agrees.uiStep_iff (h : m.Agrees) (hw : m.WindowsTracked) {op : UiOp}
    (horder : m.WindowsInOrder) (hafter : t.WindowsInOrder) (hreport : m.ReportsActive (.ui op))
    (ht : m.uiStep op = .ok t) : t.Agrees ↔ m.NoIdleAdd (.ui op) := by
  obtain ⟨hwindows, hentries, hselected⟩ := uiStep_windows hw ht
  cases op with
  | addAccessor refAccessor => exact h.addAccessor_iff hw horder hafter ht
  | removeAccessor refAccessor => exact iff_of_true (h.removeAccessor hw horder ht) trivial
  | activeChanged w isActive =>
    exact iff_of_true (h.activeChanged hw horder hafter ht) trivial
  | windowChanged w state =>
    refine iff_of_true (h.of_eq hentries hselected fun e he => ?_) trivial
    rw [hwindows]
    by_cases hew : e.1 = w
    · have hsome : (m.entryOf w).isSome := by
        rw [Option.isSome_iff_ne_none]
        intro hnone
        exact entryOf_eq_none.mp hnone e he hew
      have hsame := hreport hsome
      simp [prepare, setWindow, hew, hsame]
    · simp [prepare, setWindow, Function.update_of_ne hew]
  | enableEventClass c =>
    refine iff_of_true (h.of_eq hentries hselected fun _ _ => ?_) trivial
    rw [hwindows]
    rfl
  | addListener l =>
    have hadd : (m.addListener l).windows = m.windows ∧
        (m.addListener l).gtkWindowData = m.gtkWindowData := by
      rw [addListener]
      split_ifs <;> exact ⟨rfl, rfl⟩
    refine iff_of_true (h.of_eq (hentries.trans hadd.2) hselected fun _ _ => ?_) trivial
    rw [hwindows]
    change ((m.addListener l).windows _).isActive = _
    rw [hadd.1]
  | finalizeListener l =>
    refine iff_of_true (h.of_eq hentries hselected fun _ _ => ?_) trivial
    rw [hwindows]
    rfl
  | removeListener l =>
    refine iff_of_true (h.of_eq hentries hselected fun _ _ => ?_) trivial
    rw [hwindows]
    rfl

/-- Under the assumptions on windows a step keeps the agreement exactly when it adds no idle
window while one is selected. -/
theorem Agrees.step_iff (h : m.Agrees) (hsound : m.Sound) {op : Op} (horderly : m.Orderly op)
    (ht : m.step op = .ok t) : t.Agrees ↔ m.NoIdleAdd op := by
  have hafter := horderly.after t ht
  obtain ⟨sName, nBackendId, rfl, hnone, rfl⟩ | ⟨nBackendId, d, es, canceledKeys, rfl, hd, rfl⟩ |
    ⟨nBackendId, eType, eHK, es, rfl, rfl⟩ | ⟨uiOp, rfl, hui⟩ := step_cases hsound ht
  · exact iff_of_true (h.of_eq rfl rfl fun _ _ => rfl) trivial
  · exact iff_of_true (h.of_eq rfl rfl fun _ _ => rfl) trivial
  · refine iff_of_true ?_ trivial
    obtain hsame | ⟨_, _, -, -, -, -, hpress⟩ | ⟨-, hrelease⟩ :=
      keyed_cases nBackendId eType eHK m
    · rw [hsame]
      exact h.of_eq rfl rfl fun _ _ => rfl
    · rw [hpress]
      exact h.of_eq rfl rfl fun _ _ => rfl
    · rw [hrelease]
      exact h.of_eq rfl rfl fun _ _ => rfl
  · exact h.uiStep_iff hsound.toWindowsTracked horderly.before hafter horderly.reported hui

theorem Agrees.idleKeeps (h : m.Agrees) (hsound : m.Sound) {op : Op} (horderly : m.Orderly op)
    (hno : m.NoIdleAdd op) : m.IdleKeeps op := by
  intro w hacc hidle t ht
  have hw := hsound.toWindowsTracked
  have hkeep {uiOp : UiOp} (hui : m.uiStep uiOp = .ok t) (hdes : m.deselects uiOp = false)
      (hsel : m.selects uiOp = none) : t.selected = m.selected ∧ t.btDevices = m.btDevices := by
    have hsame := sameDevices_prepare m uiOp
    obtain ⟨l, es, canceledKeys, rfl, rfl⟩ | ⟨-, rfl⟩ | ⟨hdes', -⟩ := uiStep_cases hw hui
    · exact ⟨rfl, rfl⟩
    · rw [hsel]
      exact ⟨hsame.selected, hsame.btDevices⟩
    · rw [hdes] at hdes'
      cases hdes'
  have hnotsel : m.isSelectedWindow w = false := by
    cases hentry : m.entryOf w with
    | none => simp [isSelectedWindow, hentry]
    | some d =>
      rw [h.isSelectedWindow_iff hw (hw.toWindowDataTracked.entryOf_eq_some.mp hentry), hidle]
  obtain ⟨_, _, rfl, -, -⟩ | ⟨_, _, _, _, rfl, -, -⟩ | ⟨_, _, _, _, rfl, -⟩ | ⟨uiOp, rfl, hui⟩ :=
    step_cases hsound ht
  · cases hacc
  · cases hacc
  · cases hacc
  · cases uiOp with
    | addAccessor refAccessor =>
      have hgw : refAccessor.gtkWindow = some w := hacc
      refine hkeep hui ?_ (by simp [selects, hgw, hidle])
      cases hdel : (m.windows w).isDeleted with
      | true => simp [deselects, hgw, hdel, hnotsel]
      | false =>
        cases hnew : m.entryOf w with
        | some d => simp [deselects, hgw, hdel, hnew]
        | none =>
          rcases hno w hgw hdel hnew with hyes | hnone
          · rw [hidle] at hyes
            cases hyes
          · simp [deselects, hgw, hdel, hnone]
    | removeAccessor refAccessor =>
      have hgw : refAccessor.gtkWindow = some w := hacc
      exact hkeep hui (by simp [deselects, hgw, hnotsel]) rfl
    | _ => cases hacc

/-! ### Runs -/

/-- **The selected window is the active window** in every state of a run, and adding or removing
an idle window changes neither the selection nor a pressed key, exactly when no idle window is
added while one is selected. -/
theorem agrees_iff (enabledEventClasses : EventClass → Bool) (windows : Window → WindowState)
    (ops : List Op)
    (horderly : Run.Guarded step Orderly (create enabledEventClasses windows) ops) :
    (Run.Always step Agrees (create enabledEventClasses windows) ops ∧
        Run.Guarded step IdleKeeps (create enabledEventClasses windows) ops) ↔
      Run.Guarded step NoIdleAdd (create enabledEventClasses windows) ops := by
  have hagrees : (create enabledEventClasses windows).Agrees := by simp [Agrees, create]
  have hsound := sound_create enabledEventClasses windows
  have hiff : Run.Always step Agrees (create enabledEventClasses windows) ops ↔
      Run.Guarded step NoIdleAdd (create enabledEventClasses windows) ops :=
    Run.always_iff_guarded (R := Orderly) (I := Sound) (fun _ _ _ hs ht => hs.step ht)
      (fun _ _ _ hs hr hp ht => hp.step_iff hs hr ht) (fun s op e hs hr hp he => ?_) hsound
      hagrees horderly
  · rw [hiff, and_iff_left_iff_imp]
    exact fun hguard => Run.Always.guarded (I := Sound) (fun _ _ _ hs ht => hs.step ht)
      (fun s op hs hr hp hg => hp.idleKeeps hs hr hg) hsound horderly (hiff.mpr hguard) hguard
  · cases op with
    | ui uiOp =>
      have hnull := (uiStep_eq_error hs.toWindowsTracked he).2.2
      exact absurd (hasNull_eq_true.mp hnull) hr.before.noNull
    | _ => trivial

/-- Two windows, of which the first and then the second one becomes active. -/
def twoWindows : List Op :=
  [.ui (.addAccessor (.gtk 0)), .ui (.addAccessor (.gtk 1)), .ui (.activeChanged 0 true),
    .deviceAdded 0xA0 0, .blueKey 0 keyPress 30, .ui (.activeChanged 0 false),
    .ui (.activeChanged 1 true), .ui (.removeAccessor (.gtk 0))]

/-- A manager among windows of which at most the given one is active. -/
def amongWindows (active : Option Window) : BtGtkDeviceManager :=
  create (fun _ => true) fun w => ⟨active = some w, false⟩

theorem agrees_twoWindows : Run.Always step Agrees (amongWindows none) twoWindows ∧
    Run.Guarded step IdleKeeps (amongWindows none) twoWindows :=
  (agrees_iff (fun _ => true) (fun w => ⟨none = some w, false⟩) twoWindows (by decide)).mpr
    (by decide)

/-- An idle window is added while the active one is selected. -/
theorem not_agrees_idleAdd :
    Run.Guarded step Orderly (amongWindows (some 0))
        [.ui (.addAccessor (.gtk 0)), .ui (.addAccessor (.gtk 1))] ∧
      ¬ Run.Always step Agrees (amongWindows (some 0))
        [.ui (.addAccessor (.gtk 0)), .ui (.addAccessor (.gtk 1))] := by
  refine ⟨by decide, fun halways => ?_⟩
  have hok : (Run.exec step (amongWindows (some 0))
      [.ui (.addAccessor (.gtk 0)), .ui (.addAccessor (.gtk 1))]).toOption.map
        (fun t => (t.selected, t.gtkWindowData, (t.windows 0).isActive)) =
      some (none, [(0, 0), (1, 1)], true) := by decide
  obtain ⟨t, ht, hview⟩ := Run.exists_exec_of_view hok
  simp only [Prod.mk.injEq] at hview
  obtain ⟨hsel, hentries, hactive⟩ := hview
  have hzero : ((0, 0) : Window × WindowDataId) ∈ t.gtkWindowData := by
    rw [hentries]
    exact List.mem_cons_self ..
  rw [(halways.last ht).not_active hsel hzero] at hactive
  cases hactive

end BtGtkDeviceManager

end StmmInputBt
