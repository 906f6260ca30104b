import StmmInputBt.Window.EditGrid

/-!
# The invariant of the grid

Whatever the settings hold and whatever the user does, the vectors of the grid fit its size, and
every key in them has a name.

## Main definitions

* `EditGrid.WellFormed`.

## Main results

* `EditGrid.wellFormed_run`: the invariant holds in every reachable state.
* `EditGrid.onSpinNrColumnsChanged_eq`, `EditGrid.onSpinNrRowsChanged_eq`: what a new size does.
* `EditGrid.vectors_fit`: so all indices that drawing and key lookup use are valid.
-/

namespace StmmInputBt

variable {α : Type*} {a x : α} {l : List α} {i n : ℕ}

theorem getElem?_takeD (n : ℕ) (l : List α) (a : α) (i : ℕ) :
    (l.takeD n a)[i]? = if i < n then some (l[i]?.getD a) else none := by
  induction n generalizing l i with
  | zero => simp
  | succ n ih =>
    cases i with
    | zero => cases l <;> simp
    | succ i => cases l <;> simp [ih, -List.takeD_nil]

theorem mem_takeD (h : x ∈ l.takeD n a) : x ∈ l ∨ x = a := by
  obtain ⟨i, hi⟩ := List.mem_iff_getElem?.mp h
  rw [getElem?_takeD] at hi
  split_ifs at hi
  rw [Option.some.injEq] at hi
  cases hl : l[i]? with
  | none =>
    rw [hl, Option.getD_none] at hi
    exact .inr hi.symm
  | some y =>
    rw [hl, Option.getD_some] at hi
    exact .inl (hi ▸ List.mem_of_getElem? hl)

/-- A number that is already between the limits stays. -/
theorem clampValue_eq_self {nMin nMax n : ℤ} (hmin : nMin ≤ n) (hmax : n ≤ nMax) :
    clampValue nMin nMax n = n := by
  rw [clampValue, if_neg (by omega), if_neg (by omega)]

theorem clampValue_bounds {nMin nMax : ℤ} (h : nMin ≤ nMax) (n : ℤ) :
    nMin ≤ clampValue nMin nMax n ∧ clampValue nMin nMax n ≤ nMax := by
  rw [clampValue]
  split_ifs <;> omega

/-- A column or a row of the grid is in it. -/
theorem clampIndex_bounds (hn : 1 ≤ n) (m : ℤ) :
    0 ≤ clampValue 0 (n - 1) m ∧ clampValue 0 (n - 1) m < n := by
  have h := clampValue_bounds (show (0 : ℤ) ≤ n - 1 by omega) m
  omega

/-- The limits of the weights of `n` columns or rows. -/
def weightLimits (n : ℕ) (hn : 1 ≤ n) : VectorLimits where
  nMinSize := n
  nMaxSize := n
  nMinValue := editMinWeight
  nMaxValue := editMaxWeight
  nDefaultValue := editDefaultWeight
  nMinSize_nonneg := by omega
  nMinSize_le := le_refl _
  one_le_nMaxSize := by omega
  nMinValue_le := by decide
  nDefaultValue_le := by decide
  int32Min_le := by decide
  nMaxValue_le := by decide

/-- The limits of the codes of `n` cells. -/
def cellKeyLimits (n : ℕ) (hn : 1 ≤ n) : VectorLimits where
  nMinSize := n
  nMaxSize := n
  nMinValue := -1
  nMaxValue := int32Max
  nDefaultValue := -1
  nMinSize_nonneg := by omega
  nMinSize_le := le_refl _
  one_le_nMaxSize := by omega
  nMinValue_le := by decide
  nDefaultValue_le := by decide
  int32Min_le := by decide
  nMaxValue_le := le_refl _

namespace EditGrid

/-- The vectors fit the size of the grid, all weights are within their limits, all keys have a name,
and the exit button is in a cell. -/
structure WellFormed (g : EditGrid) : Prop where
  one_le_totColumns : 1 ≤ g.totColumns
  totColumns_le : g.totColumns ≤ editMaxGrid
  one_le_totRows : 1 ≤ g.totRows
  totRows_le : g.totRows ≤ editMaxGrid
  columnsWeight_length : g.editColumnsWeight.length = g.totColumns
  rowsWeight_length : g.editRowsWeight.length = g.totRows
  columnsWeight : ∀ n ∈ g.editColumnsWeight, editMinWeight ≤ n ∧ n ≤ editMaxWeight
  rowsWeight : ∀ n ∈ g.editRowsWeight, editMinWeight ≤ n ∧ n ≤ editMaxWeight
  names_length : g.editNames.length = g.editHK.length
  cells_le : g.totColumns * g.totRows ≤ g.editHK.length
  named : ∀ eKey ∈ g.editHK, InputStrings.Named eKey
  percX : 0 ≤ g.keysExitButtonPercX ∧ g.keysExitButtonPercX ≤ 100
  percY : 0 ≤ g.keysExitButtonPercY ∧ g.keysExitButtonPercY ≤ 100
  inCellColumn : 0 ≤ g.keysExitButtonInCellColumn ∧ g.keysExitButtonInCellColumn < g.totColumns
  inCellRow : 0 ≤ g.keysExitButtonInCellRow ∧ g.keysExitButtonInCellRow < g.totRows

variable {g : EditGrid} {eKey : HardwareKey} {nTot nNewTot : ℕ} {aWeight : List ℤ}

/-- The size of the grid that is loaded or entered. -/
theorem gridSize_bounds (n : ℤ) :
    1 ≤ (clampValue 1 editMaxGrid n).toNat ∧ (clampValue 1 editMaxGrid n).toNat ≤ editMaxGrid := by
  have h := clampValue_bounds (show (1 : ℤ) ≤ editMaxGrid by decide) n
  omega

/-! ### Loading -/

theorem length_loadWeights (hn : 1 ≤ n) (s : List Char) :
    (stringToVector s n n editMinWeight editMaxWeight editDefaultWeight).length = n := by
  obtain ⟨hmin, hmax⟩ := (weightLimits n hn).length_parse s
  exact Nat.le_antisymm (Int.ofNat_le.mp hmax) (Int.ofNat_le.mp hmin)

theorem bounds_loadWeights (hn : 1 ≤ n) (s : List Char) :
    ∀ m ∈ stringToVector s n n editMinWeight editMaxWeight editDefaultWeight,
      editMinWeight ≤ m ∧ m ≤ editMaxWeight :=
  fun _ hm => (weightLimits n hn).bounds_of_mem_parse hm

theorem named_loadKey (h : InputStrings.Named eKey) (nHkCode : ℤ) :
    InputStrings.Named (loadKey nHkCode eKey) := by
  rw [loadKey]
  split
  · exact h
  · dsimp only
    split
    · exact InputStrings.named_hkNull
    · next hname => exact hname

theorem length_loadKeys (aCellKeys : List ℤ) (aEditHK : List HardwareKey) :
    (loadKeys aCellKeys aEditHK).length = aEditHK.length :=
  List.length_mapIdx

theorem named_loadKeys {aCellKeys : List ℤ} {aEditHK : List HardwareKey}
    (h : ∀ eKey ∈ aEditHK, InputStrings.Named eKey) :
    ∀ eKey ∈ loadKeys aCellKeys aEditHK, InputStrings.Named eKey := by
  intro eKey hmem
  obtain ⟨nIdx, hlt, rfl⟩ := List.mem_mapIdx.mp hmem
  split
  · exact named_loadKey (h _ (List.getElem_mem hlt)) _
  · exact h _ (List.getElem_mem hlt)

/-- Loading makes the grid well-formed, whatever the settings hold. -/
theorem wellFormed_loadStateFromConfig (hnamed : ∀ eKey ∈ g.editHK, InputStrings.Named eKey)
    (oConf : GridConfig) : (g.loadStateFromConfig oConf).WellFormed := by
  obtain ⟨hcolumns, hcolumnsMax⟩ := gridSize_bounds oConf.totColumns
  obtain ⟨hrows, hrowsMax⟩ := gridSize_bounds oConf.totRows
  refine ⟨hcolumns, hcolumnsMax, hrows, hrowsMax, length_loadWeights hcolumns _,
    length_loadWeights hrows _, bounds_loadWeights hcolumns _, bounds_loadWeights hrows _,
    List.length_map _, ?_, named_loadKeys fun eKey hmem => ?_, clampValue_bounds (by decide) _,
    clampValue_bounds (by decide) _, clampIndex_bounds hcolumns _, clampIndex_bounds hrows _⟩
  · rw [loadStateFromConfig, length_loadKeys, List.takeD_length]
  · rcases mem_takeD hmem with hmem | rfl
    · exact hnamed eKey hmem
    · exact InputStrings.named_hkNull

theorem wellFormed_new (oConf : GridConfig) : (new oConf).WellFormed := by
  have hnamed : initial.editHK.all fun eKey => InputStrings.Named eKey := by
    decide +kernel
  exact wellFormed_loadStateFromConfig (by simpa using hnamed) oConf

/-! ### What the user does -/

/-- As many weights stay as there is room for. -/
theorem resizeWeights_eq (h : aWeight.length = nTot) :
    resizeWeights nTot nNewTot aWeight = aWeight.takeD nNewTot editDefaultWeight := by
  have hdrop : ∀ (k : ℕ) (l : List ℤ), List.dropLast^[k] l = l.take (l.length - k) := by
    intro k l
    induction k with
    | zero => simp
    | succ k ih =>
      rw [Function.iterate_succ_apply', ih, List.dropLast_eq_take, List.take_take,
        List.length_take]
      congr 1
      omega
  refine List.ext_getElem? fun i => ?_
  rw [resizeWeights, hdrop, List.getElem?_take, getElem?_takeD, List.length_append,
    List.length_replicate, List.getElem?_append, List.getElem?_replicate]
  by_cases hnew : i < nNewTot
  · rw [if_pos (by omega), if_pos hnew]
    by_cases hold : i < aWeight.length
    · rw [if_pos hold, List.getElem?_eq_getElem hold, Option.getD_some]
    · rw [if_neg hold, if_pos (by omega), List.getElem?_eq_none (by omega), Option.getD_none]
  · rw [if_neg (by omega), if_neg hnew]

/-- The grid with other numbers of columns and rows. -/
def resized (nColumns nRows : ℕ) (g : EditGrid) : EditGrid :=
  let nKeys := max (nColumns * nRows) g.editHK.length
  { g with
    totColumns := nColumns
    totRows := nRows
    editColumnsWeight := g.editColumnsWeight.takeD nColumns editDefaultWeight
    editRowsWeight := g.editRowsWeight.takeD nRows editDefaultWeight
    editHK := g.editHK.takeD nKeys hkNull
    editNames := g.editNames.takeD nKeys ""
    keysExitButtonInCellColumn := min g.keysExitButtonInCellColumn (nColumns - 1)
    keysExitButtonInCellRow := min g.keysExitButtonInCellRow (nRows - 1) }

theorem takeD_length_self (l : List α) (a : α) : l.takeD l.length a = l := by
  rw [List.takeD_eq_take a le_rfl, List.take_length]

theorem recreateCellsKeyList_eq (h : g.editNames.length = g.editHK.length) :
    g.recreateCellsKeyList =
      { g with
        editHK := g.editHK.takeD (max (g.totColumns * g.totRows) g.editHK.length) hkNull
        editNames := g.editNames.takeD (max (g.totColumns * g.totRows) g.editHK.length) "" } := by
  rw [recreateCellsKeyList]
  split_ifs with hgrows
  · rw [max_eq_left (by omega)]
  · rw [max_eq_right (by omega), takeD_length_self, ← h, takeD_length_self]

theorem onSpinNrColumnsChanged_eq (hg : g.WellFormed) (nValue : ℤ) :
    g.onSpinNrColumnsChanged nValue =
      g.resized (clampValue 1 editMaxGrid nValue).toNat g.totRows := by
  have hrow := hg.inCellRow.2
  have hweights : g.editRowsWeight.takeD g.totRows editDefaultWeight = g.editRowsWeight := by
    rw [← hg.rowsWeight_length, takeD_length_self]
  have hmin : min g.keysExitButtonInCellRow (g.totRows - 1) = g.keysExitButtonInCellRow :=
    min_eq_left (by omega)
  have hkeys := recreateCellsKeyList_eq
    (g := { g with
      totColumns := (clampValue 1 editMaxGrid nValue).toNat
      editColumnsWeight := g.editColumnsWeight.takeD (clampValue 1 editMaxGrid nValue).toNat
        editDefaultWeight }) hg.names_length
  simp only [onSpinNrColumnsChanged, resizeWeights_eq hg.columnsWeight_length, hkeys, resized,
    hweights, hmin]
  split_ifs with hout
  · rw [min_eq_right (by omega)]
  · rw [min_eq_left (by omega)]

theorem onSpinNrRowsChanged_eq (hg : g.WellFormed) (nValue : ℤ) :
    g.onSpinNrRowsChanged nValue =
      g.resized g.totColumns (clampValue 1 editMaxGrid nValue).toNat := by
  have hcolumn := hg.inCellColumn.2
  have hweights : g.editColumnsWeight.takeD g.totColumns editDefaultWeight =
      g.editColumnsWeight := by
    rw [← hg.columnsWeight_length, takeD_length_self]
  have hmin : min g.keysExitButtonInCellColumn (g.totColumns - 1) = g.keysExitButtonInCellColumn :=
    min_eq_left (by omega)
  have hkeys := recreateCellsKeyList_eq
    (g := { g with
      totRows := (clampValue 1 editMaxGrid nValue).toNat
      editRowsWeight := g.editRowsWeight.takeD (clampValue 1 editMaxGrid nValue).toNat
        editDefaultWeight }) hg.names_length
  simp only [onSpinNrRowsChanged, resizeWeights_eq hg.rowsWeight_length, hkeys, resized,
    hweights, hmin]
  split_ifs with hout
  · rw [min_eq_right (by omega)]
  · rw [min_eq_left (by omega)]

theorem WellFormed.resized {nColumns nRows : ℕ} (hg : g.WellFormed)
    (hcolumns : 1 ≤ nColumns ∧ nColumns ≤ editMaxGrid) (hrows : 1 ≤ nRows ∧ nRows ≤ editMaxGrid) :
    (g.resized nColumns nRows).WellFormed := by
  have hcolumn := hg.inCellColumn.1
  have hrow := hg.inCellRow.1
  refine ⟨hcolumns.1, hcolumns.2, hrows.1, hrows.2, List.takeD_length .., List.takeD_length ..,
    fun n hn => ?_, fun n hn => ?_, ?_, ?_, fun eKey hmem => ?_, hg.percX, hg.percY, ?_, ?_⟩
  · rcases mem_takeD hn with hn | rfl
    · exact hg.columnsWeight n hn
    · decide
  · rcases mem_takeD hn with hn | rfl
    · exact hg.rowsWeight n hn
    · decide
  · rw [EditGrid.resized, List.takeD_length, List.takeD_length]
  · rw [EditGrid.resized, List.takeD_length]
    exact le_max_left _ _
  · rcases mem_takeD hmem with hmem | rfl
    · exact hg.named eKey hmem
    · exact InputStrings.named_hkNull
  · simp only [EditGrid.resized]
    omega
  · simp only [EditGrid.resized]
    omega

theorem WellFormed.setWeight (hg : g.WellFormed) (nWeight : ℤ) (bColumn : Bool) (nColRow : ℕ) :
    (g.setWeight nWeight bColumn nColRow).WellFormed := by
  have hweight : ∀ {l : List ℤ}, (∀ n ∈ l, editMinWeight ≤ n ∧ n ≤ editMaxWeight) →
      ∀ n ∈ l.set nColRow (clampValue editMinWeight editMaxWeight nWeight),
        editMinWeight ≤ n ∧ n ≤ editMaxWeight := by
    intro l hl n hn
    rcases List.mem_or_eq_of_mem_set hn with hn | rfl
    · exact hl n hn
    · exact clampValue_bounds (by decide) _
  cases bColumn with
  | false =>
    exact { hg with
      rowsWeight_length := (List.length_set ..).trans hg.rowsWeight_length
      rowsWeight := hweight hg.rowsWeight }
  | true =>
    exact { hg with
      columnsWeight_length := (List.length_set ..).trans hg.columnsWeight_length
      columnsWeight := hweight hg.columnsWeight }

theorem WellFormed.setKey (hg : g.WellFormed) (hkey : InputStrings.Named eKey) (nColumn nRow : ℕ) :
    (g.setKey eKey nColumn nRow).WellFormed := by
  refine { hg with
    names_length := ?_, cells_le := ?_, named := fun eKey' hmem => ?_ }
  · simpa [EditGrid.setKey] using hg.names_length
  · simpa [EditGrid.setKey] using hg.cells_le
  · rcases List.mem_or_eq_of_mem_set hmem with hmem | rfl
    · exact hg.named eKey' hmem
    · exact hkey

theorem WellFormed.enterKey (hg : g.WellFormed) (sKeyName : String) (nColumn nRow : ℕ) :
    (g.enterKey sKeyName nColumn nRow).WellFormed := by
  rw [EditGrid.enterKey]
  split_ifs
  · split
    · exact hg
    · next hname => exact hg.setKey (InputStrings.named_of_getStringKey hname) nColumn nRow
  · exact hg

/-- Every operation keeps the invariant. -/
theorem WellFormed.perform (hg : g.WellFormed) (op : GridOp) : (g.perform op).WellFormed := by
  cases op with
  | onSpinNrColumnsChanged nValue =>
    rw [EditGrid.perform, onSpinNrColumnsChanged_eq hg]
    exact hg.resized (gridSize_bounds nValue) ⟨hg.one_le_totRows, hg.totRows_le⟩
  | onSpinNrRowsChanged nValue =>
    rw [EditGrid.perform, onSpinNrRowsChanged_eq hg]
    exact hg.resized ⟨hg.one_le_totColumns, hg.totColumns_le⟩ (gridSize_bounds nValue)
  | setWeight nWeight bColumn nColRow => exact hg.setWeight nWeight bColumn nColRow
  | setKey sKeyName nColumn nRow => exact hg.enterKey sKeyName nColumn nRow
  | onKeysFullscreenChanged bActive => exact { hg with }
  | onSpinExitPositionXChanged nValue =>
    have h := clampValue_bounds (show (1 : ℤ) ≤ 100 by decide) nValue
    exact { hg with percX := ⟨zero_le_one.trans h.1, h.2⟩ }
  | onSpinExitPositionYChanged nValue =>
    have h := clampValue_bounds (show (1 : ℤ) ≤ 100 by decide) nValue
    exact { hg with percY := ⟨zero_le_one.trans h.1, h.2⟩ }
  | onKeysExitInCellChanged bActive => exact { hg with }
  | onSpinExitInCellColumnChanged nValue =>
    exact { hg with inCellColumn := clampIndex_bounds hg.one_le_totColumns nValue }
  | onSpinExitInCellRowChanged nValue =>
    exact { hg with inCellRow := clampIndex_bounds hg.one_le_totRows nValue }
  | onKeysLogSentKeysChanged bActive => exact { hg with }

/-- The invariant holds in every reachable state. -/
theorem wellFormed_run (oConf : GridConfig) (ops : List GridOp) : (run oConf ops).WellFormed := by
  have hfold : ∀ (g : EditGrid), g.WellFormed → (ops.foldl EditGrid.perform g).WellFormed := by
    induction ops with
    | nil => exact fun _ hg => hg
    | cons op ops ih => exact fun g hg => ih _ (hg.perform op)
  exact hfold _ (wellFormed_new oConf)

theorem index_lt_of_lt {nColumn nRow nColumns nRows : ℕ} (hcolumn : nColumn < nColumns)
    (hrow : nRow < nRows) : nColumn + nRow * nColumns < nColumns * nRows := by
  calc nColumn + nRow * nColumns < nColumns + nRow * nColumns := by omega
    _ = nColumns * (nRow + 1) := by ring
    _ ≤ nColumns * nRows := Nat.mul_le_mul_left _ hrow

/-- The index of a cell is in the vector of keys. -/
theorem WellFormed.index_lt (hg : g.WellFormed) {nColumn nRow : ℕ}
    (hcolumn : nColumn < g.totColumns) (hrow : nRow < g.totRows) :
    nColumn + nRow * g.totColumns < g.editHK.length :=
  (index_lt_of_lt hcolumn hrow).trans_le hg.cells_le

/-- In every reachable state the vectors fit the size of the grid, so that all indices that drawing
and key lookup use are valid. -/
theorem vectors_fit (oConf : GridConfig) (ops : List GridOp) :
    let g := run oConf ops
    (g.editColumnsWeight.length = g.totColumns ∧ g.editRowsWeight.length = g.totRows) ∧
      (∀ n ∈ g.editColumnsWeight ++ g.editRowsWeight, editMinWeight ≤ n ∧ n ≤ editMaxWeight) ∧
      (g.editHK.length = g.editNames.length ∧ g.totColumns * g.totRows ≤ g.editHK.length) ∧
      (∀ eKey ∈ g.editHK, InputStrings.getKeyString eKey ≠ "") ∧
      (0 ≤ g.keysExitButtonInCellColumn ∧ g.keysExitButtonInCellColumn < g.totColumns) ∧
      (0 ≤ g.keysExitButtonInCellRow ∧ g.keysExitButtonInCellRow < g.totRows) ∧
      ∀ nColumn nRow, nColumn < g.totColumns → nRow < g.totRows →
        nColumn + nRow * g.totColumns < g.editHK.length ∧
          nColumn + nRow * g.totColumns < g.editNames.length := by
  have hg := wellFormed_run oConf ops
  refine ⟨⟨hg.columnsWeight_length, hg.rowsWeight_length⟩, fun n hn => ?_,
    ⟨hg.names_length.symm, hg.cells_le⟩, hg.named, hg.inCellColumn, hg.inCellRow,
    fun nColumn nRow hcolumn hrow => ?_⟩
  · exact (List.mem_append.mp hn).elim (hg.columnsWeight n) (hg.rowsWeight n)
  · have hlt := hg.index_lt hcolumn hrow
    exact ⟨hlt, hg.names_length.symm ▸ hlt⟩

end EditGrid

end StmmInputBt
