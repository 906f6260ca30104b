import StmmInputBt.Foundation.Strips
import StmmInputBt.Window.GridAccess

/-!
# The cell under a point

`getKeyFromCoords` looks for a cell that contains the point, while `onCustomDraw` passes the same
corner with the width and the height of the cell to Cairo. For a cell that is smaller than the
margin these are negative: Cairo then draws to the left of the corner or above it, where the lookup
finds nothing.

What Cairo fills is here that of any `CairoContext`, with what is documented of the path of a
rectangle.

## Main definitions

* `CairoContext`: what is filled for a rectangle.
* `KeyboardScreen.drawnIn`: what is filled for a cell.
* `KeyboardScreen.withCells`: a keyboard with cells of any sizes.
* `KeyboardScreen.LookupAgrees`: the lookup agrees with the drawing.
* `KeyboardScreen.SmallCellsBlank`: the condition on the cells.

## Main results

* `KeyboardScreen.lookupAgrees_iff`.
-/

namespace StmmInputBt

/-- `rectangle` followed by `fill` of a `Cairo::Context`: the points that are covered. -/
structure CairoContext where
  rectangle (nX nY nW nH : ℤ) (fX fY : ℚ) : Bool
  rectangle_iff : ∀ {nX nY nW nH : ℤ} {fX fY : ℚ}, 0 ≤ nW → 0 ≤ nH →
    (rectangle nX nY nW nH fX fY ↔
      fX ∈ Set.Ico (nX : ℚ) (nX + nW : ℤ) ∧ fY ∈ Set.Ico (nY : ℚ) (nY + nH : ℤ))
  /-- The path goes from the corner by the width, in the direction of its sign. -/
  rectangle_neg_width : ∀ nX nY nW nH : ℤ,
    rectangle nX nY (-nW) nH = rectangle (nX - nW) nY nW nH
  rectangle_neg_height : ∀ nX nY nW nH : ℤ,
    rectangle nX nY nW (-nH) = rectangle nX (nY - nH) nW nH

namespace CairoContext

variable {nX nY nW nH : ℤ} {fX fY : ℚ}

theorem rectangle_abs_width (oCairo : CairoContext) (nX nY nW nH : ℤ) :
    oCairo.rectangle nX nY nW nH = oCairo.rectangle (min nX (nX + nW)) nY |nW| nH := by
  rcases le_total 0 nW with hW | hW
  · rw [abs_of_nonneg hW, min_eq_left (by omega)]
  · rw [abs_of_nonpos hW, min_eq_right (by omega), oCairo.rectangle_neg_width,
      add_sub_cancel_right]

theorem rectangle_abs_height (oCairo : CairoContext) (nX nY nW nH : ℤ) :
    oCairo.rectangle nX nY nW nH = oCairo.rectangle nX (min nY (nY + nH)) nW |nH| := by
  rcases le_total 0 nH with hH | hH
  · rw [abs_of_nonneg hH, min_eq_left (by omega)]
  · rw [abs_of_nonpos hH, min_eq_right (by omega), oCairo.rectangle_neg_height,
      add_sub_cancel_right]

/-- The rectangle lies between its corners, wherever these are. -/
theorem rectangle_iff_minMax (oCairo : CairoContext) : oCairo.rectangle nX nY nW nH fX fY ↔
    fX ∈ Set.Ico ((min nX (nX + nW) : ℤ) : ℚ) (max nX (nX + nW) : ℤ) ∧
      fY ∈ Set.Ico ((min nY (nY + nH) : ℤ) : ℚ) (max nY (nY + nH) : ℤ) := by
  have hend : ∀ n nSize : ℤ, min n (n + nSize) + |nSize| = max n (n + nSize) := by
    intro n nSize
    have hsize := max_sub_min_eq_abs n (n + nSize)
    rw [add_sub_cancel_left] at hsize
    omega
  rw [rectangle_abs_width, rectangle_abs_height,
    oCairo.rectangle_iff (abs_nonneg nW) (abs_nonneg nH), hend, hend]

/-- The rectangles as sets of points. -/
def exact : CairoContext where
  rectangle nX nY nW nH fX fY :=
    (min nX (nX + nW) : ℤ) ≤ fX && fX < (max nX (nX + nW) : ℤ) &&
      (min nY (nY + nH) : ℤ) ≤ fY && fY < (max nY (nY + nH) : ℤ)
  rectangle_iff {nX nY nW nH fX fY} hW hH := by
    have hX : nX ≤ nX + nW := by omega
    have hY : nY ≤ nY + nH := by omega
    simp only [min_eq_left hX, max_eq_right hX, min_eq_left hY, max_eq_right hY, Set.mem_Ico,
      Bool.and_eq_true, decide_eq_true_eq, and_assoc]
  rectangle_neg_width nX nY nW nH := by
    funext fX fY
    rw [sub_add_cancel, ← sub_eq_add_neg, min_comm, max_comm]
  rectangle_neg_height nX nY nW nH := by
    funext fX fY
    rw [sub_add_cancel, ← sub_eq_add_neg, min_comm nY, max_comm nY]

end CairoContext

namespace KeyboardScreen

/-- The point is in what `onCustomDraw` fills for the cell. -/
def drawnIn (oCairo : CairoContext) (fX fY : ℚ) (s : KeyboardScreen) (cell : ℕ × ℕ) : Bool :=
  let nX := s.layout.columnPosX.getD cell.1 0
  let nY := s.layout.rowPosY.getD cell.2 0
  let nX2 := s.layout.columnPosX.getD (cell.1 + 1) 0 - screenMargin
  let nY2 := s.layout.rowPosY.getD (cell.2 + 1) 0 - screenMargin
  oCairo.rectangle nX nY (nX2 - nX) (nY2 - nY) fX fY

/-- The key of a cell. -/
def cellKey (s : KeyboardScreen) (cell : ℕ × ℕ) : HardwareKey :=
  s.grid.editHK.getD (cell.1 + s.grid.totColumns * cell.2) hkNull

/-- `getKeyFromCoords` with the cells in any order. -/
def getKeyInOrder (aCells : List (ℕ × ℕ)) (fX fY : ℚ) (s : KeyboardScreen) : HardwareKey :=
  match aCells.find? (s.inCell fX fY) with
  | some cell => s.cellKey cell
  | none => hkNull

/-- The keyboard with cells of the widths and heights, as `calcCellPositions` adds them up. -/
def withCells (aCellW aCellH : List ℕ) (s : KeyboardScreen) : KeyboardScreen :=
  { s with
    grid := { s.grid with totColumns := aCellW.length, totRows := aCellH.length }
    layout :=
      { s.layout with
        columnPosX := (aCellW.map Int.ofNat).scanl (· + ·) 0
        rowPosY := (aCellH.map Int.ofNat).scanl (· + ·) 0 } }

/-- The lookup agrees with the drawing at a point. -/
structure LookupAgrees (oCairo : CairoContext) (fX fY : ℚ) (s : KeyboardScreen) : Prop where
  unique : ∀ c ∈ s.cells, ∀ d ∈ s.cells, s.inCell fX fY c → s.inCell fX fY d → c = d
  order : ∀ aCells, aCells.Perm s.cells →
    s.getKeyInOrder aCells fX fY = s.getKeyFromCoords fX fY
  found : ∀ c ∈ s.cells, s.inCell fX fY c → s.getKeyFromCoords fX fY = s.cellKey c ∧
    ∀ d ∈ s.cells, s.drawnIn oCairo fX fY d ↔ d = c
  null : s.getKeyFromCoords fX fY = hkNull ↔
    ∀ c ∈ s.cells, s.drawnIn oCairo fX fY c → s.cellKey c = hkNull

/-- The cell is narrower or lower than the margin. -/
def smallerThanMargin (s : KeyboardScreen) (cell : ℕ × ℕ) : Bool :=
  s.layout.columnPosX.getD (cell.1 + 1) 0 < s.layout.columnPosX.getD cell.1 0 + screenMargin ||
    s.layout.rowPosY.getD (cell.2 + 1) 0 < s.layout.rowPosY.getD cell.2 0 + screenMargin

/-- No cell that is smaller than the margin has a key and is drawn at the point. -/
def SmallCellsBlank (oCairo : CairoContext) (fX fY : ℚ) (s : KeyboardScreen) : Prop :=
  ∀ c ∈ s.cells, s.smallerThanMargin c → s.drawnIn oCairo fX fY c → s.cellKey c = hkNull

/-! ### Columns and rows -/

/-- The left end of a column. -/
def columnX (s : KeyboardScreen) (nCol : ℕ) : ℚ := (s.layout.columnPosX.getD nCol 0 : ℤ)

/-- The upper end of a row. -/
def rowY (s : KeyboardScreen) (nRow : ℕ) : ℚ := (s.layout.rowPosY.getD nRow 0 : ℤ)

/-- The positions of the columns and of the rows increase. -/
structure Spaced (s : KeyboardScreen) : Prop where
  columns : MonotoneOn s.columnX (Set.Iic s.grid.totColumns)
  rows : MonotoneOn s.rowY (Set.Iic s.grid.totRows)

variable {oCairo : CairoContext} {s : KeyboardScreen} {c d : ℕ × ℕ} {fX fY : ℚ}
  {aCells : List (ℕ × ℕ)}

theorem inCell_iff : s.inCell fX fY c ↔
    fX ∈ Strips.strip s.columnX screenMargin c.1 ∧ fY ∈ Strips.strip s.rowY screenMargin c.2 := by
  simp only [inCell, Strips.strip, columnX, rowY, Set.mem_Ico, Bool.and_eq_true,
    decide_eq_true_eq, and_assoc]
  push_cast
  rfl

theorem drawnIn_iff : s.drawnIn oCairo fX fY c ↔
    fX ∈ Strips.span s.columnX screenMargin c.1 ∧ fY ∈ Strips.span s.rowY screenMargin c.2 := by
  simp only [drawnIn, oCairo.rectangle_iff_minMax, Strips.span, columnX, rowY, add_sub_cancel]
  push_cast
  rfl

theorem margin_nonneg : (0 : ℚ) ≤ screenMargin := by
  norm_num [screenMargin]

theorem drawnIn_of_inCell (h : s.inCell fX fY c) : s.drawnIn oCairo fX fY c :=
  drawnIn_iff.mpr ((inCell_iff.mp h).imp (fun hx => Strips.strip_subset_span hx)
    fun hy => Strips.strip_subset_span hy)

/-- A cell that is not smaller than the margin is drawn where the lookup finds it. -/
theorem inCell_of_drawnIn (hsize : s.smallerThanMargin c = false) (h : s.drawnIn oCairo fX fY c) :
    s.inCell fX fY c := by
  rw [smallerThanMargin, Bool.or_eq_false_iff, decide_eq_false_iff_not, decide_eq_false_iff_not,
    not_lt, not_lt] at hsize
  have hcolumn : s.columnX c.1 ≤ s.columnX (c.1 + 1) - screenMargin := by
    rw [columnX, columnX, le_sub_iff_add_le]
    exact_mod_cast hsize.1
  have hrow : s.rowY c.2 ≤ s.rowY (c.2 + 1) - screenMargin := by
    rw [rowY, rowY, le_sub_iff_add_le]
    exact_mod_cast hsize.2
  rw [inCell_iff, ← Strips.span_eq_strip hcolumn, ← Strips.span_eq_strip hrow]
  exact drawnIn_iff.mp h

/-- The lookup finds no cell that is smaller than the margin. -/
theorem not_inCell_of_smallerThanMargin (hsize : s.smallerThanMargin c) : ¬ s.inCell fX fY c := by
  intro hin
  obtain ⟨hcolumn, hrow⟩ := inCell_iff.mp hin
  have hwidth := hcolumn.1.trans_lt hcolumn.2
  have hheight := hrow.1.trans_lt hrow.2
  rw [columnX, columnX, lt_sub_iff_add_lt] at hwidth
  rw [rowY, rowY, lt_sub_iff_add_lt] at hheight
  rw [smallerThanMargin, Bool.or_eq_true, decide_eq_true_eq, decide_eq_true_eq] at hsize
  rcases hsize with hsize | hsize
  · exact lt_asymm hsize (by exact_mod_cast hwidth)
  · exact lt_asymm hsize (by exact_mod_cast hheight)

namespace Spaced

variable (h : s.Spaced)
include h

/-- No other cell has the point between its corners where one is found. -/
theorem eq_of_mem_span (hc : c ∈ s.cells) (hd : d ∈ s.cells) (hin : s.inCell fX fY c)
    (hcolumn' : fX ∈ Strips.span s.columnX screenMargin d.1)
    (hrow' : fY ∈ Strips.span s.rowY screenMargin d.2) : d = c := by
  obtain ⟨hcolumn, hrow⟩ := inCell_iff.mp hin
  obtain ⟨hcCol, hcRow⟩ := mem_cells.mp hc
  obtain ⟨hdCol, hdRow⟩ := mem_cells.mp hd
  refine Prod.ext ?_ ?_
  · exact (Strips.eq_of_mem_strip_of_mem_span h.columns margin_nonneg hcCol hdCol hcolumn
      hcolumn').symm
  · exact (Strips.eq_of_mem_strip_of_mem_span h.rows margin_nonneg hcRow hdRow hrow hrow').symm

/-- A cell that is found is the only one that is drawn at the point. -/
theorem eq_of_drawnIn (hc : c ∈ s.cells) (hd : d ∈ s.cells) (hin : s.inCell fX fY c)
    (hdrawn : s.drawnIn oCairo fX fY d) : d = c := by
  obtain ⟨hcolumn, hrow⟩ := drawnIn_iff.mp hdrawn
  exact h.eq_of_mem_span hc hd hin hcolumn hrow

theorem eq_of_inCell (hc : c ∈ s.cells) (hd : d ∈ s.cells) (hin : s.inCell fX fY c)
    (hin' : s.inCell fX fY d) : d = c := by
  obtain ⟨hcolumn, hrow⟩ := inCell_iff.mp hin'
  exact h.eq_of_mem_span hc hd hin (Strips.strip_subset_span hcolumn)
    (Strips.strip_subset_span hrow)

/-- The order of the lookup does not matter. -/
theorem getKeyInOrder_eq (hperm : aCells.Perm s.cells) (hc : c ∈ s.cells)
    (hin : s.inCell fX fY c) : s.getKeyInOrder aCells fX fY = s.cellKey c := by
  rw [getKeyInOrder]
  cases hfind : aCells.find? (s.inCell fX fY) with
  | none => exact absurd hin (List.find?_eq_none.mp hfind c (hperm.mem_iff.mpr hc))
  | some d =>
    have hd : d ∈ s.cells := hperm.mem_iff.mp (List.mem_of_find?_eq_some hfind)
    rw [h.eq_of_inCell hc hd hin (List.find?_some hfind)]

end Spaced

theorem getKeyFromCoords_eq : s.getKeyFromCoords fX fY = s.getKeyInOrder s.cells fX fY := by
  rw [getKeyFromCoords, getKeyInOrder]
  cases s.cells.find? (s.inCell fX fY) <;> rfl

theorem getKeyInOrder_eq_hkNull (hperm : aCells.Perm s.cells)
    (hnone : ∀ c ∈ s.cells, s.inCell fX fY c = false) :
    s.getKeyInOrder aCells fX fY = hkNull := by
  have hfind : aCells.find? (s.inCell fX fY) = none := by
    rw [List.find?_eq_none]
    intro c hc
    simp [hnone c (hperm.mem_iff.mp hc)]
  rw [getKeyInOrder, hfind]

theorem getKeyFromCoords_eq_hkNull (hnone : ∀ c ∈ s.cells, s.inCell fX fY c = false) :
    s.getKeyFromCoords fX fY = hkNull :=
  getKeyFromCoords_eq.trans (getKeyInOrder_eq_hkNull (.refl _) hnone)

theorem Spaced.getKeyFromCoords_eq_cellKey (h : s.Spaced) (hc : c ∈ s.cells)
    (hin : s.inCell fX fY c) : s.getKeyFromCoords fX fY = s.cellKey c :=
  getKeyFromCoords_eq.trans (h.getKeyInOrder_eq (.refl _) hc hin)

/-- Nothing is found exactly where the drawing shows no key, if no key is drawn for a cell that is
smaller than the margin. -/
theorem Spaced.getKeyFromCoords_eq_hkNull_iff (h : s.Spaced)
    (hblank : s.SmallCellsBlank oCairo fX fY) : s.getKeyFromCoords fX fY = hkNull ↔
      ∀ c ∈ s.cells, s.drawnIn oCairo fX fY c → s.cellKey c = hkNull := by
  by_cases hfound : ∃ c ∈ s.cells, s.inCell fX fY c
  · obtain ⟨c, hc, hin⟩ := hfound
    rw [h.getKeyFromCoords_eq_cellKey hc hin]
    constructor
    · intro hnull d hd hdrawn
      rw [h.eq_of_drawnIn hc hd hin hdrawn, hnull]
    · exact fun hall => hall c hc (drawnIn_of_inCell hin)
  · have hnone : ∀ c ∈ s.cells, s.inCell fX fY c = false := by
      intro c hc
      exact Bool.eq_false_of_not_eq_true fun hin => hfound ⟨c, hc, hin⟩
    refine iff_of_true (getKeyFromCoords_eq_hkNull hnone) fun c hc hdrawn => ?_
    cases hsize : s.smallerThanMargin c with
    | true => exact hblank c hc hsize hdrawn
    | false => exact absurd (inCell_of_drawnIn hsize hdrawn) (by simp [hnone c hc])

theorem Spaced.lookupAgrees_iff_smallCellsBlank (h : s.Spaced) :
    s.LookupAgrees oCairo fX fY ↔ s.SmallCellsBlank oCairo fX fY := by
  constructor
  · intro hagrees c hc hsize hdrawn
    by_contra hkey
    -- a cell that is found would be this one, which has no points for the lookup
    have hnone : ∀ d ∈ s.cells, s.inCell fX fY d = false := by
      intro d hd
      refine Bool.eq_false_of_not_eq_true fun hin => ?_
      rw [h.eq_of_drawnIn hd hc hin hdrawn] at hsize
      exact not_inCell_of_smallerThanMargin hsize hin
    exact hkey (hagrees.null.mp (getKeyFromCoords_eq_hkNull hnone) c hc hdrawn)
  · intro hblank
    refine ⟨fun c hc d hd hin hin' => h.eq_of_inCell hd hc hin' hin, fun aCells hperm => ?_,
      fun c hc hin => ⟨h.getKeyFromCoords_eq_cellKey hc hin, fun d hd => ⟨fun hdrawn => ?_, ?_⟩⟩,
      h.getKeyFromCoords_eq_hkNull_iff hblank⟩
    · by_cases hfound : ∃ c ∈ s.cells, s.inCell fX fY c
      · obtain ⟨c, hc, hin⟩ := hfound
        rw [h.getKeyInOrder_eq hperm hc hin, h.getKeyFromCoords_eq_cellKey hc hin]
      · have hnone : ∀ c ∈ s.cells, s.inCell fX fY c = false := by
          intro c hc
          exact Bool.eq_false_of_not_eq_true fun hin => hfound ⟨c, hc, hin⟩
        rw [getKeyInOrder_eq_hkNull hperm hnone, getKeyFromCoords_eq_hkNull hnone]
    · exact h.eq_of_drawnIn hc hd hin hdrawn
    · rintro rfl
      exact drawnIn_of_inCell hin

/-! ### Cells of any sizes -/

theorem spaced_withCells (s : KeyboardScreen) (aCellW aCellH : List ℕ) :
    (s.withCells aCellW aCellH).Spaced := by
  have hpositions : ∀ l : List ℕ, MonotoneOn
      (fun i => ((((l.map Int.ofNat).scanl (· + ·) 0).getD i 0 : ℤ) : ℚ)) (Set.Iic l.length) := by
    intro l
    have hnonneg : ∀ n ∈ l.map Int.ofNat, 0 ≤ n := by
      intro n hn
      obtain ⟨m, -, rfl⟩ := List.mem_map.mp hn
      exact Int.natCast_nonneg m
    have hmono := Strips.monotoneOn_scanl hnonneg 0
    rw [List.length_map] at hmono
    exact Int.cast_mono.comp_monotoneOn hmono
  exact ⟨hpositions aCellW, hpositions aCellH⟩

/-- For cells of any widths and heights, the lookup agrees with the drawing at a point exactly if
no cell with a key that is smaller than the margin is drawn there. -/
theorem lookupAgrees_iff (oCairo : CairoContext) (s : KeyboardScreen) (aCellW aCellH : List ℕ)
    (fX fY : ℚ) : (s.withCells aCellW aCellH).LookupAgrees oCairo fX fY ↔
      (s.withCells aCellW aCellH).SmallCellsBlank oCairo fX fY :=
  (s.spaced_withCells aCellW aCellH).lookupAgrees_iff_smallCellsBlank

/-- Two columns, the second one without any room: its key is drawn over the end of the first one's
margin, but not found there. -/
theorem not_lookupAgrees_emptyColumn :
    ¬ ((new ⟨0, 0, [30, 31]⟩).withCells [302, 0] [203]).LookupAgrees .exact 299 20 := by
  intro h
  have hnull := h.null.mp (by decide +kernel) (1, 0) (by decide +kernel) (by decide +kernel)
  revert hnull
  decide +kernel

end KeyboardScreen

end StmmInputBt
