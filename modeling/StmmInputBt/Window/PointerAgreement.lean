import StmmInputBt.Window.CellLookup

/-!
# Mouse and touch

`onMouseButtonPressed` and `onTouchEvent` decide on their own what a press means: the one tests the
exit button before it looks for a key, the other one only looks for a key.

## Main definitions

* `KeyboardScreen.drawn`: an open keyboard after its drawing.
* `KeyboardScreen.Press`, `KeyboardScreen.Meant`: what a press at a point is meant for.
* `KeyboardScreen.ClassifiedAlike`: both handlers do what is meant.

## Main results

* `KeyboardScreen.classifiedAlike_iff`.
-/

namespace StmmInputBt

/-- The positions of the cells of a grid increase. -/
theorem monotoneOn_cellPositions (oSize : CellSize) {aWeight : List ℤ} {nTot : ℕ} {nPix : ℤ}
    (hlength : aWeight.length = nTot) (hweight : ∀ n ∈ aWeight, 0 < n) (hpix : 0 ≤ nPix) :
    MonotoneOn (fun i => (((cellPositions oSize aWeight nTot nPix).getD i 0 : ℤ) : ℚ))
      (Set.Iic nTot) := by
  have hsizes := bounds_cellSizes oSize hlength hweight hpix
  have hmono := Strips.monotoneOn_scanl (fun n hn => (hsizes n hn).1) 0
  rw [List.length_map, List.length_range] at hmono
  exact Int.cast_mono.comp_monotoneOn hmono

namespace KeyboardScreen

/-- The open keyboard after the drawing of a grid. -/
def drawn (oSize : CellSize) (oAllocation : Allocation) (g : EditGrid) (w : BtkbWindow) :
    KeyboardScreen where
  btkbWindow := w
  grid := g.cellGrid
  layout := g.drawLayout oSize oAllocation
  running := true

/-- What a press can be meant for. -/
inductive Press
  | close
  | key (eKey : HardwareKey)
  | nothing

/-- A press at a point of the canvas is meant for the exit button, or for the key of the cell that
contains the point. -/
inductive Meant (s : KeyboardScreen) (fX fY : ℚ) : Press → Prop
  | close (hexit : s.onExitButton fX fY) : Meant s fX fY .close
  | key {cell : ℕ × ℕ} (hexit : s.onExitButton fX fY = false) (hcell : cell ∈ s.cells)
      (hin : s.inCell fX fY cell) (hkey : s.cellKey cell ≠ hkNull) :
      Meant s fX fY (.key (s.cellKey cell))
  | nothing (hexit : s.onExitButton fX fY = false)
      (hnone : ∀ cell ∈ s.cells, s.inCell fX fY cell → s.cellKey cell = hkNull) :
      Meant s fX fY .nothing

/-- What the press does if it is one of the mouse. -/
def pressMouse (s : KeyboardScreen) : Press → KeyboardScreen
  | .close => { s with running := false }
  | .key eKey => s.setWindow (s.btkbWindow.pressMouseKey eKey)
  | .nothing => s

/-- What the press does if it is one of a finger. -/
def pressFinger (p0Finger : ℕ) (s : KeyboardScreen) : Press → KeyboardScreen
  | .close => { s with running := false }
  | .key eKey => s.setWindow (s.btkbWindow.pressFingerKey eKey p0Finger)
  | .nothing => s

/-- A press of the mouse and one of a finger at a point of the window are meant for the same, and
both do it. -/
def ClassifiedAlike (p0Finger : ℕ) (fX fY : ℚ) (s : KeyboardScreen) : Prop :=
  ∃ press, s.Meant (fX - s.layout.canvasX) (fY - s.layout.canvasY) press ∧
    (s.onMouseButtonPressed ⟨true, fX, fY⟩).2 = s.pressMouse press ∧
    (s.onTouchEvent .begin p0Finger ⟨true, fX, fY⟩).2 = s.pressFinger p0Finger press

variable {s : KeyboardScreen} {g : EditGrid} {oSize : CellSize} {fX fY : ℚ} {press press' : Press}
  {p0Finger : ℕ}

/-- The exit button is where it is drawn. -/
theorem onExitButton_iff_rectangle (oCairo : CairoContext) : s.onExitButton fX fY ↔
    oCairo.rectangle (s.layout.exitButtonCenterX - exitButtonPix / 2)
      (s.layout.exitButtonCenterY - exitButtonPix / 2) exitButtonPix exitButtonPix fX fY := by
  have hend : ∀ n : ℤ, n - exitButtonPix / 2 + exitButtonPix = n + exitButtonPix / 2 := by
    intro n
    rw [exitButtonPix]
    omega
  rw [oCairo.rectangle_iff (by decide) (by decide), hend, hend, onExitButton]
  simp only [Bool.and_eq_true, decide_eq_true_eq, Set.mem_Ico]
  tauto

theorem spaced_drawn (hg : g.WellFormed) (oAllocation : Allocation) (w : BtkbWindow) :
    (drawn oSize oAllocation g w).Spaced := by
  have hpix : ∀ {nSize : ℤ}, nSize ≤ maxWindowPix → 0 ≤ max nSize 50 + screenMargin :=
    fun h => add_nonneg (maxPix_bounds h).1 (by decide)
  exact ⟨monotoneOn_cellPositions oSize hg.columnsWeight_length
      (fun n hn => (hg.columnsWeight n hn).1) (hpix oAllocation.width_le),
    monotoneOn_cellPositions oSize hg.rowsWeight_length
      (fun n hn => (hg.rowsWeight n hn).1) (hpix oAllocation.height_le)⟩

/-- What is meant is determined by the point. -/
theorem Meant.unique (hs : s.Spaced) (h : s.Meant fX fY press) (h' : s.Meant fX fY press') :
    press = press' := by
  cases h with
  | close hexit =>
    cases h' with
    | close _ => rfl
    | key hno => exact absurd (hexit.symm.trans hno) (by decide)
    | nothing hno => exact absurd (hexit.symm.trans hno) (by decide)
  | key hno hcell hin hkey =>
    cases h' with
    | close hexit => exact absurd (hexit.symm.trans hno) (by decide)
    | key _ hcell' hin' _ => rw [hs.eq_of_inCell hcell hcell' hin hin']
    | nothing _ hnone => exact absurd (hnone _ hcell hin) hkey
  | nothing hno hnone =>
    cases h' with
    | close hexit => exact absurd (hexit.symm.trans hno) (by decide)
    | key _ hcell hin hkey => exact absurd (hnone _ hcell hin) hkey
    | nothing _ _ => rfl

/-- Beside the exit button the press is meant for the key that the lookup finds. -/
theorem meant_getKeyFromCoords (hs : s.Spaced) (hexit : s.onExitButton fX fY = false) :
    s.Meant fX fY (if s.getKeyFromCoords fX fY = hkNull then .nothing
      else .key (s.getKeyFromCoords fX fY)) := by
  by_cases hfound : ∃ cell ∈ s.cells, s.inCell fX fY cell
  · obtain ⟨cell, hcell, hin⟩ := hfound
    rw [hs.getKeyFromCoords_eq_cellKey hcell hin]
    split_ifs with hkey
    · refine .nothing hexit fun cell' hcell' hin' => ?_
      rw [hs.eq_of_inCell hcell hcell' hin hin', hkey]
    · exact .key hexit hcell hin hkey
  · have hnone : ∀ cell ∈ s.cells, s.inCell fX fY cell = false := fun cell hcell =>
      Bool.eq_false_of_not_eq_true fun hin => hfound ⟨cell, hcell, hin⟩
    rw [if_pos (getKeyFromCoords_eq_hkNull hnone)]
    exact .nothing hexit fun cell hcell hin => absurd hin (by simp [hnone cell hcell])

theorem onMouseButtonPressed_eq (hrunning : s.running)
    (hexit : s.onExitButton (fX - s.layout.canvasX) (fY - s.layout.canvasY) = false) :
    (s.onMouseButtonPressed ⟨true, fX, fY⟩).2 = s.pressMouse
      (if s.getKeyFromCoords (fX - s.layout.canvasX) (fY - s.layout.canvasY) = hkNull then .nothing
        else .key (s.getKeyFromCoords (fX - s.layout.canvasX) (fY - s.layout.canvasY))) := by
  rw [onMouseButtonPressed]
  simp only [hrunning, hexit, Bool.not_true, Bool.false_eq_true, if_false, ne_eq, ite_not]
  split_ifs <;> rfl

theorem onTouchEvent_begin_eq (hrunning : s.running) :
    (s.onTouchEvent .begin p0Finger ⟨true, fX, fY⟩).2 = s.pressFinger p0Finger
      (if s.getKeyFromCoords (fX - s.layout.canvasX) (fY - s.layout.canvasY) = hkNull then .nothing
        else .key (s.getKeyFromCoords (fX - s.layout.canvasX) (fY - s.layout.canvasY))) := by
  rw [onTouchEvent]
  simp only [hrunning, Bool.not_true, Bool.false_eq_true, if_false, ne_eq, ite_not]
  split_ifs <;> rfl

/-- A touch does not close the keyboard, not even on the exit button. -/
theorem not_classifiedAlike_of_onExitButton (hrunning : s.running)
    (hexit : s.onExitButton (fX - s.layout.canvasX) (fY - s.layout.canvasY)) :
    ¬ s.ClassifiedAlike p0Finger fX fY := by
  rintro ⟨press, hmeant, -, htouch⟩
  have hopen : (s.onTouchEvent .begin p0Finger ⟨true, fX, fY⟩).2.running = s.running := by
    rw [onTouchEvent_begin_eq hrunning]
    split_ifs <;> rfl
  cases hmeant with
  | close =>
    rw [htouch, hrunning] at hopen
    cases hopen
  | key hno => exact absurd (hexit.symm.trans hno) (by decide)
  | nothing hno => exact absurd (hexit.symm.trans hno) (by decide)

/-- On every drawn keyboard a press of the mouse and one of a finger at the same point are meant
for the same, and both do it, exactly if the point is not in the rectangle of the exit button. -/
theorem classifiedAlike_iff (oSize : CellSize) (oAllocation : Allocation)
    (g : {g : EditGrid // g.WellFormed}) (w : BtkbWindow) (p0Finger : ℕ) (fX fY : ℚ) :
    (drawn oSize oAllocation g w).ClassifiedAlike p0Finger fX fY ↔
      (drawn oSize oAllocation g w).onExitButton (fX - oAllocation.x) (fY - oAllocation.y) =
        false := by
  have hrunning : (drawn oSize oAllocation g.1 w).running := rfl
  constructor
  · intro hagree
    exact Bool.eq_false_of_not_eq_true fun hexit =>
      not_classifiedAlike_of_onExitButton hrunning hexit hagree
  · intro hexit
    exact ⟨_, meant_getKeyFromCoords (spaced_drawn g.2 oAllocation w) hexit,
      onMouseButtonPressed_eq hrunning hexit, onTouchEvent_begin_eq hrunning⟩

/-- A canvas of 300 by 200 pixels. -/
def smallCanvas : Allocation := ⟨0, 0, 300, 200, by decide, by decide⟩

/-- On the keyboard as it is without settings, a finger on the exit button does not close it. -/
theorem not_classifiedAlike_defaults :
    ¬ (drawn .exact smallCanvas (EditGrid.new .defaults) .new).ClassifiedAlike 0 150 100 :=
  not_classifiedAlike_of_onExitButton rfl (by decide +kernel)

end KeyboardScreen

end StmmInputBt
