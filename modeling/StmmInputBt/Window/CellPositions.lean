import Mathlib.Data.List.GetD
import StmmInputBt.Window.GridInvariant
import StmmInputBt.Window.KeyboardScreen

/-!
# Drawing the keyboard

What `onCustomDraw` of `keyboardscreen.cc` computes from the grid and from the allocation of the
canvas: the positions of the columns and of the rows, and where the exit button is.

The size of a cell is computed in floating point, so it is a parameter.

## Main definitions

* `Allocation`, `CellSize`: what GTK and the floating-point arithmetic bring.
* `cellPositions`: the loops of `calcCellPositions`.
* `EditGrid.drawLayout`.

## Main results

* `EditGrid.WellFormed.isNearCanvas`: the exit button stays close to the canvas.
-/

namespace StmmInputBt

/-- The largest size of a window that GDK supports. -/
def maxWindowPix : ℤ := 65535

/-- The allocation of the canvas. -/
structure Allocation where
  x : ℤ
  y : ℤ
  width : ℤ
  height : ℤ
  width_le : width ≤ maxWindowPix
  height_le : height ≤ maxWindowPix

/-- The pixels of a cell by its weight: the part `nWeight / nTotWeight` of `nPix`, computed as a
`double` and cut to an integer. -/
structure CellSize where
  ofWeight (nWeight nTotWeight nPix : ℤ) : ℤ
  bounds {nWeight nTotWeight nPix : ℤ} (hweight : 0 ≤ nWeight) (hle : nWeight ≤ nTotWeight)
    (htot : 0 < nTotWeight) (hpix : 0 ≤ nPix) :
    0 ≤ ofWeight nWeight nTotWeight nPix ∧ ofWeight nWeight nTotWeight nPix ≤ nPix

/-- Computed without rounding. -/
def CellSize.exact : CellSize where
  ofWeight nWeight nTotWeight nPix := nWeight * nPix / nTotWeight
  bounds hweight hle htot hpix := by
    refine ⟨Int.ediv_nonneg (mul_nonneg hweight hpix) htot.le, ?_⟩
    exact Int.ediv_le_of_le_mul htot (by nlinarith)

/-- The positions of the columns or of the rows: each one is the size of a cell after the one
before. -/
def cellPositions (oSize : CellSize) (aWeight : List ℤ) (nTot : ℕ) (nPix : ℤ) : List ℤ :=
  ((List.range nTot).map fun n => oSize.ofWeight (aWeight.getD n 0) aWeight.sum nPix).scanl
    (· + ·) 0

/-- A coordinate of the canvas, or not far from it. -/
def IsNearCanvas (n : ℤ) : Prop := -2 ^ 20 ≤ n ∧ n ≤ 2 ^ 20

/-- A coordinate of the centre of the exit button. -/
def exitButtonCenter (aPos : List ℤ) (bInCell : Bool) (nInCell nPix nPerc : ℤ) : ℤ :=
  if bInCell then
    let nX := aPos.getD nInCell.toNat 0
    let nX2 := aPos.getD (nInCell.toNat + 1) 0 - screenMargin
    let nW := nX2 - nX
    nX + (nW * nPerc).tdiv 100
  else (nPix * nPerc).tdiv 100

namespace EditGrid

/-- What `onCustomDraw` computes. -/
def drawLayout (oSize : CellSize) (oAllocation : Allocation) (g : EditGrid) : CanvasLayout :=
  let nWidth := max oAllocation.width 50
  let nHeight := max oAllocation.height 50
  let aColumnPosX :=
    cellPositions oSize g.editColumnsWeight g.totColumns (nWidth + screenMargin)
  let aRowPosY := cellPositions oSize g.editRowsWeight g.totRows (nHeight + screenMargin)
  { columnPosX := aColumnPosX
    rowPosY := aRowPosY
    canvasX := oAllocation.x
    canvasY := oAllocation.y
    exitButtonCenterX := exitButtonCenter aColumnPosX g.keysExitInCell
      g.keysExitButtonInCellColumn nWidth g.keysExitButtonPercX
    exitButtonCenterY := exitButtonCenter aRowPosY g.keysExitInCell g.keysExitButtonInCellRow
      nHeight g.keysExitButtonPercY }

end EditGrid

variable {oSize : CellSize} {aWeight aPos : List ℤ} {nTot : ℕ} {nPix nPerc nBound n : ℤ}

@[simp]
theorem length_cellPositions : (cellPositions oSize aWeight nTot nPix).length = nTot + 1 := by
  rw [cellPositions, List.length_scanl, List.length_map, List.length_range]

/-- Sums of numbers between zero and a bound. -/
theorem bounds_of_mem_scanl {l : List ℤ} (h : ∀ n ∈ l, 0 ≤ n ∧ n ≤ nBound) {nStart : ℤ}
    (hn : n ∈ l.scanl (· + ·) nStart) : nStart ≤ n ∧ n ≤ nStart + l.length * nBound := by
  induction l generalizing nStart with
  | nil =>
    rw [List.scanl_nil, List.mem_singleton] at hn
    simp [hn]
  | cons m l ih =>
    obtain ⟨hm, hle⟩ := h m (List.mem_cons_self ..)
    rw [List.scanl_cons, List.mem_cons] at hn
    rw [List.length_cons]
    push_cast
    rcases hn with rfl | hn
    · constructor
      · rfl
      · have hbound : 0 ≤ nBound := hm.trans hle
        nlinarith [Int.natCast_nonneg l.length]
    · obtain ⟨hstart, hend⟩ := ih (fun k hk => h k (List.mem_cons_of_mem m hk)) hn
      constructor
      · omega
      · linarith

variable (oSize) in
/-- A cell has no negative size, and fits the canvas. -/
theorem bounds_cellSizes (hlength : aWeight.length = nTot) (hweight : ∀ n ∈ aWeight, 0 < n)
    (hpix : 0 ≤ nPix) :
    ∀ n ∈ (List.range nTot).map fun n => oSize.ofWeight (aWeight.getD n 0) aWeight.sum nPix,
      0 ≤ n ∧ n ≤ nPix := by
  intro n hn
  obtain ⟨i, hi, rfl⟩ := List.mem_map.mp hn
  have hlt : i < aWeight.length := hlength ▸ List.mem_range.mp hi
  have hmem : aWeight.getD i 0 ∈ aWeight := by
    rw [List.getD_eq_getElem _ _ hlt]
    exact List.getElem_mem hlt
  have hpos := hweight _ hmem
  have hle := List.single_le_sum (fun n hn => (hweight n hn).le) _ hmem
  exact oSize.bounds hpos.le hle (hpos.trans_le hle) hpix

variable (oSize) in
/-- The positions are not left of the canvas, and no further right than all cells can be. -/
theorem bounds_getD_cellPositions (hlength : aWeight.length = nTot)
    (hweight : ∀ n ∈ aWeight, 0 < n) (hpix : 0 ≤ nPix) (nIdx : ℕ) :
    0 ≤ (cellPositions oSize aWeight nTot nPix).getD nIdx 0 ∧
      (cellPositions oSize aWeight nTot nPix).getD nIdx 0 ≤ nTot * nPix := by
  have hsizes := bounds_cellSizes oSize hlength hweight hpix
  by_cases hlt : nIdx < (cellPositions oSize aWeight nTot nPix).length
  · rw [List.getD_eq_getElem _ _ hlt]
    have hbounds := bounds_of_mem_scanl hsizes (List.getElem_mem hlt)
    rwa [List.length_map, List.length_range, zero_add] at hbounds
  · rw [List.getD_eq_default _ _ (Nat.le_of_not_lt hlt)]
    exact ⟨le_rfl, mul_nonneg (Int.natCast_nonneg nTot) hpix⟩

/-- A part of a number is not further from zero. -/
theorem bounds_tdiv_hundred (hn : -nBound ≤ n ∧ n ≤ nBound) (hperc : 0 ≤ nPerc ∧ nPerc ≤ 100) :
    -nBound ≤ (n * nPerc).tdiv 100 ∧ (n * nPerc).tdiv 100 ≤ nBound := by
  have hlow : -nBound * 100 ≤ n * nPerc := by nlinarith
  have hhigh : n * nPerc ≤ nBound * 100 := by nlinarith
  generalize n * nPerc = m at hlow hhigh
  rcases le_total 0 m with hm | hm
  · rw [Int.tdiv_eq_ediv_of_nonneg hm]
    omega
  · have hneg : (-m).tdiv 100 = -m / 100 := Int.tdiv_eq_ediv_of_nonneg (by omega)
    rw [Int.neg_tdiv] at hneg
    omega

/-- The exit button is close to the canvas. -/
theorem bounds_exitButtonCenter (bInCell : Bool) (nInCell : ℤ)
    (hpos : ∀ nIdx, 0 ≤ aPos.getD nIdx 0 ∧ aPos.getD nIdx 0 ≤ nBound)
    (hpix : 0 ≤ nPix ∧ nPix ≤ nBound) (hperc : 0 ≤ nPerc ∧ nPerc ≤ 100) :
    -(nBound + screenMargin) ≤ exitButtonCenter aPos bInCell nInCell nPix nPerc ∧
      exitButtonCenter aPos bInCell nInCell nPix nPerc ≤ 2 * nBound + screenMargin := by
  have hmargin : (0 : ℤ) ≤ screenMargin := by decide
  rw [exitButtonCenter]
  split_ifs
  · have hleft := hpos nInCell.toNat
    have hright := hpos (nInCell.toNat + 1)
    dsimp only
    have hsize : -(nBound + screenMargin) ≤
        aPos.getD (nInCell.toNat + 1) 0 - screenMargin - aPos.getD nInCell.toNat 0 ∧
        aPos.getD (nInCell.toNat + 1) 0 - screenMargin - aPos.getD nInCell.toNat 0 ≤
          nBound + screenMargin := by
      constructor <;> linarith
    have hpart := bounds_tdiv_hundred hsize hperc
    constructor <;> linarith
  · have hsize : -nBound ≤ nPix ∧ nPix ≤ nBound := ⟨by linarith, hpix.2⟩
    have hpart := bounds_tdiv_hundred hsize hperc
    constructor <;> linarith

/-- The pixels of a canvas. -/
theorem maxPix_bounds {nSize : ℤ} (h : nSize ≤ maxWindowPix) :
    0 ≤ max nSize 50 ∧ max nSize 50 ≤ maxWindowPix := by
  rw [maxWindowPix] at h ⊢
  omega

/-- The exit button of a drawn grid of at most five columns or rows. -/
theorem isNearCanvas_exitButtonCenter {bInCell : Bool} {nInCell nSize : ℤ}
    (hlength : aWeight.length = nTot) (hweight : ∀ n ∈ aWeight, 0 < n) (htot : nTot ≤ editMaxGrid)
    (hsize : nSize ≤ maxWindowPix) (hperc : 0 ≤ nPerc ∧ nPerc ≤ 100) :
    IsNearCanvas (exitButtonCenter (cellPositions oSize aWeight nTot (max nSize 50 + screenMargin))
      bInCell nInCell (max nSize 50) nPerc) := by
  obtain ⟨hpix, hmax⟩ := maxPix_bounds hsize
  have hmargin : (0 : ℤ) ≤ max nSize 50 + screenMargin := add_nonneg hpix (by decide)
  have htotal : (nTot : ℤ) * (max nSize 50 + screenMargin) ≤ 5 * (maxWindowPix + screenMargin) :=
    mul_le_mul (Int.ofNat_le.mpr htot) (by linarith) hmargin (by decide)
  have hpos : ∀ nIdx, 0 ≤ (cellPositions oSize aWeight nTot
      (max nSize 50 + screenMargin)).getD nIdx 0 ∧ (cellPositions oSize aWeight nTot
        (max nSize 50 + screenMargin)).getD nIdx 0 ≤ 5 * (maxWindowPix + screenMargin) := by
    intro nIdx
    obtain ⟨hstart, hend⟩ := bounds_getD_cellPositions oSize hlength hweight hmargin nIdx
    exact ⟨hstart, hend.trans htotal⟩
  obtain ⟨hlow, hhigh⟩ := bounds_exitButtonCenter bInCell nInCell hpos
    ⟨hpix, hmax.trans (by decide)⟩ hperc
  exact ⟨le_trans (by decide) hlow, hhigh.trans (by decide)⟩

namespace EditGrid

variable {g : EditGrid}

theorem length_drawLayout (oAllocation : Allocation) :
    (g.drawLayout oSize oAllocation).columnPosX.length = g.totColumns + 1 ∧
      (g.drawLayout oSize oAllocation).rowPosY.length = g.totRows + 1 :=
  ⟨length_cellPositions, length_cellPositions⟩

/-- The exit button of a drawn keyboard is close to the canvas. -/
theorem WellFormed.isNearCanvas (hg : g.WellFormed) (oAllocation : Allocation) :
    IsNearCanvas (g.drawLayout oSize oAllocation).exitButtonCenterX ∧
      IsNearCanvas (g.drawLayout oSize oAllocation).exitButtonCenterY :=
  ⟨isNearCanvas_exitButtonCenter hg.columnsWeight_length (fun n hn => (hg.columnsWeight n hn).1)
      hg.totColumns_le oAllocation.width_le hg.percX,
    isNearCanvas_exitButtonCenter hg.rowsWeight_length (fun n hn => (hg.rowsWeight n hn).1)
      hg.totRows_le oAllocation.height_le hg.percY⟩

end EditGrid

end StmmInputBt
