import StmmInputBt.Window.GridInvariant

/-!
# Saving and loading the grid

What `saveStateToConfig` stores of a reachable grid, a new window restores. The vector of keys may
be longer than the grid; of it, the keys of the cells come back.

## Main results

* `EditGrid.restored_by_new`.
-/

namespace StmmInputBt

namespace EditGrid

variable {g : EditGrid} {n : ℕ} {eKey eCurrent : HardwareKey} {aWeight : List ℤ}

/-- No limit changes the size of a well-formed grid. -/
theorem gridSize_eq_self (hmin : 1 ≤ n) (hmax : n ≤ editMaxGrid) :
    (clampValue 1 editMaxGrid n).toNat = n := by
  rw [clampValue_eq_self (by omega) (by omega), Int.toNat_natCast]

theorem loadWeights_eq_self (hn : 1 ≤ n) (hlength : aWeight.length = n)
    (hweights : ∀ m ∈ aWeight, editMinWeight ≤ m ∧ m ≤ editMaxWeight) :
    stringToVector (vectorToString aWeight) n n editMinWeight editMaxWeight editDefaultWeight =
      aWeight :=
  VectorLimits.parse_vectorToString_eq_self (l := weightLimits n hn) (Int.ofNat_le.mpr hlength.ge)
    (Int.ofNat_le.mpr hlength.le) hweights

/-- The code of a key that has a name. -/
theorem code_bounds (h : InputStrings.Named eKey) : 0 ≤ eKey.toInt ∧ eKey.toInt ≤ int32Max := by
  obtain ⟨hcode, hsmall⟩ := InputStrings.toInt_of_named h
  rw [hcode, int32Max]
  omega

theorem loadKey_eq_self (h : InputStrings.Named eKey) : loadKey eKey.toInt eCurrent = eKey := by
  have hcode : (BitVec.ofInt 32 eKey.toInt : HardwareKey) = eKey := BitVec.ofInt_toInt
  rw [loadKey, if_neg (not_lt.mpr (code_bounds h).1), hcode]
  exact if_neg h

/-- The codes of the first `n` keys are loaded. -/
theorem loadCodes_eq (hn : 1 ≤ n) (hlength : n ≤ g.editHK.length)
    (hnamed : ∀ eKey ∈ g.editHK, InputStrings.Named eKey) :
    stringToVector (vectorToString (g.editHK.map BitVec.toInt)) n n (-1) int32Max (-1) =
      (g.editHK.map BitVec.toInt).take n := by
  have hcodes : ∀ m ∈ g.editHK.map BitVec.toInt, (-1 : ℤ) ≤ m ∧ m ≤ int32Max := by
    intro m hm
    obtain ⟨eKey, hmem, rfl⟩ := List.mem_map.mp hm
    have h := code_bounds (hnamed eKey hmem)
    omega
  have hmin : (n : ℤ) ≤ (g.editHK.map BitVec.toInt).length := by
    rw [List.length_map]
    exact Int.ofNat_le.mpr hlength
  have hparse := VectorLimits.parse_vectorToString (l := cellKeyLimits n hn) hcodes
  rw [VectorLimits.fit_eq_take hmin] at hparse
  exact hparse

/-- The keys of the cells are loaded, whatever is in the vector before. -/
theorem loadKeys_getElem? {aEditHK : List HardwareKey} {i : ℕ} (hi : i < n)
    (hlength : n ≤ g.editHK.length) (hloaded : aEditHK.length = n)
    (hnamed : ∀ eKey ∈ g.editHK, InputStrings.Named eKey) :
    (loadKeys ((g.editHK.map BitVec.toInt).take n) aEditHK)[i]? = g.editHK[i]? := by
  have hold : i < aEditHK.length := hloaded ▸ hi
  have hkey : i < g.editHK.length := hi.trans_le hlength
  have hcode : ((g.editHK.map BitVec.toInt).take n)[i]? = some g.editHK[i].toInt := by
    rw [List.getElem?_take_of_lt hi, List.getElem?_map, List.getElem?_eq_getElem hkey]
    rfl
  rw [loadKeys, List.getElem?_mapIdx, List.getElem?_eq_getElem hold, Option.map_some, hcode,
    List.getElem?_eq_getElem hkey]
  exact congrArg some (loadKey_eq_self (hnamed _ (List.getElem_mem hkey)))

/-- Whatever grid the user has made, a new window restores what was saved of it. This rests on
`stringToVector` being the inverse of `vectorToString` within its limits. -/
theorem restored_by_new (oConf : GridConfig) (ops : List GridOp) :
    let g := run oConf ops
    let t := new g.saveStateToConfig
    (t.totColumns = g.totColumns ∧ t.totRows = g.totRows) ∧
      (t.editColumnsWeight = g.editColumnsWeight ∧ t.editRowsWeight = g.editRowsWeight) ∧
      (∀ nColumn nRow, nColumn < g.totColumns → nRow < g.totRows →
        t.editHK[nColumn + nRow * t.totColumns]? = g.editHK[nColumn + nRow * g.totColumns]?) ∧
      (t.keysExitButtonPercX = g.keysExitButtonPercX ∧
        t.keysExitButtonPercY = g.keysExitButtonPercY) ∧
      (t.keysFullscreen = g.keysFullscreen ∧ t.keysExitInCell = g.keysExitInCell ∧
        t.keysLogSentKeys = g.keysLogSentKeys) ∧
      (t.keysExitButtonInCellColumn = g.keysExitButtonInCellColumn ∧
        t.keysExitButtonInCellRow = g.keysExitButtonInCellRow) ∧
      ∀ (l : VectorLimits) (aArr : List ℤ), l.nMinSize ≤ aArr.length → aArr.length ≤ l.nMaxSize →
        (∀ n ∈ aArr, l.nMinValue ≤ n ∧ n ≤ l.nMaxValue) →
        stringToVector (vectorToString aArr) l.nMinSize l.nMaxSize l.nMinValue l.nMaxValue
          l.nDefaultValue = aArr := by
  have hg := wellFormed_run oConf ops
  generalize run oConf ops = g at hg
  have hcolumns := gridSize_eq_self hg.one_le_totColumns hg.totColumns_le
  have hrows := gridSize_eq_self hg.one_le_totRows hg.totRows_le
  have hcells : 1 ≤ g.totColumns * g.totRows :=
    Nat.mul_pos hg.one_le_totColumns hg.one_le_totRows
  have hcodes := loadCodes_eq hcells hg.cells_le hg.named
  dsimp only [new, loadStateFromConfig, saveStateToConfig]
  rw [hcolumns, hrows]
  refine ⟨⟨rfl, rfl⟩, ⟨loadWeights_eq_self hg.one_le_totColumns hg.columnsWeight_length
    hg.columnsWeight, loadWeights_eq_self hg.one_le_totRows hg.rowsWeight_length hg.rowsWeight⟩,
    fun nColumn nRow hcolumn hrow => ?_, ⟨clampValue_eq_self hg.percX.1 hg.percX.2,
    clampValue_eq_self hg.percY.1 hg.percY.2⟩, ⟨rfl, rfl, rfl⟩, ⟨clampValue_eq_self
    hg.inCellColumn.1 (Int.le_sub_one_of_lt hg.inCellColumn.2), clampValue_eq_self hg.inCellRow.1
    (Int.le_sub_one_of_lt hg.inCellRow.2)⟩,
    fun l aArr hmin hmax hvalues => VectorLimits.parse_vectorToString_eq_self hmin hmax hvalues⟩
  rw [hcodes]
  exact loadKeys_getElem? (index_lt_of_lt hcolumn hrow) hg.cells_le (List.takeD_length ..) hg.named

end EditGrid

end StmmInputBt
