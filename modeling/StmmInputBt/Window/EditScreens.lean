import StmmInputBt.Foundation.Lists
import StmmInputBt.Foundation.Run
import StmmInputBt.Window.GridInvariant

/-!
# The screens on which the grid is edited

The lists of the tab "Edit" and the two screens that a row of them opens (`btkbwindow.cc`,
`weightscreen.cc`, `keyscreen.cc`): a weight or a key is changed on its own screen, which remembers
the path of the row, and `Ok` writes it to the vectors of the window and to the list. The other
screens are left out, as they change neither.

A path is the index of a row. Widgets only get events while their screen is shown, except for the
timeout that takes an error message back.

## Main definitions

* `EditScreens`, `EditOp`, `EditScreens.step`: what is shown, and what can happen.
* `EditScreens.Synced`: the lists show the vectors, and what is edited is there.

## Main results

* `EditScreens.exec_ok`: no assertion fails, and the grid is one of `EditGrid.run`.
* `EditScreens.answerOk_unchanged`: to open a row and press `Ok` at once keeps the settings.
-/

namespace StmmInputBt

/-- An assertion fails, or a list has no row at the path. -/
inductive EditFault
  | assertion
  | invalidPath
  deriving DecidableEq

/-- `assert`. -/
def EditFault.check (b : Bool) : Except EditFault Unit := if b then .ok () else .error .assertion

inductive EditScreen
  | main
  | enterWeight
  | enterKey
  deriving DecidableEq

/-- A row of `m_refTreeModelColumnWeight` or `m_refTreeModelRowWeight`. -/
structure WeightRow where
  idx : ℕ
  weight : ℤ

/-- A row of `m_refTreeModelCellKey`. -/
structure CellKeyRow where
  x : ℕ
  y : ℕ
  keyName : String
  hiddenHardwareKey : HardwareKey

structure WeightScreen where
  weight : ℤ
  column : Bool
  colRow : ℕ
  path : ℕ
  labelWeightDesc : String

structure KeyScreen where
  path : ℕ
  column : ℕ
  row : ℕ
  baseLabelString : String
  labelChooseKey : String
  entryKey : String

structure EditScreens where
  grid : EditGrid
  columnWeightRows : List WeightRow
  rowWeightRows : List WeightRow
  cellKeyRows : List CellKeyRow
  currentScreen : EditScreen
  weightScreen : WeightScreen
  keyScreen : KeyScreen

/-- What can happen on the main screen but the choice of a row. -/
def GridOp.onMainScreen : GridOp → Bool
  | .setWeight .. | .setKey .. => false
  | _ => true

inductive EditOp
  | grid (op : GridOp) (hop : op.onMainScreen)
  | onColumnWeightActivated (nPath : ℕ)
  | onRowWeightActivated (nPath : ℕ)
  | onCellNameActivated (nPath : ℕ)
  /-- A number is entered on the weight screen. -/
  | onSpinWeightChanged (nValue : ℤ)
  | weightAnswerOk
  | weightAnswerCancel
  /-- A text is entered on the key screen. -/
  | changeEntryKey (sText : String)
  | onKeySelectionChanged (nPath : ℕ)
  | keyAnswerOk
  | keyAnswerCancel
  | onErrorOneSecond

/-- Where it happens. -/
def EditOp.screen : EditOp → Option EditScreen
  | .grid .. | .onColumnWeightActivated _ | .onRowWeightActivated _ | .onCellNameActivated _ =>
    some .main
  | .onSpinWeightChanged _ | .weightAnswerOk | .weightAnswerCancel => some .enterWeight
  | .changeEntryKey _ | .onKeySelectionChanged _ | .keyAnswerOk | .keyAnswerCancel => some .enterKey
  | .onErrorOneSecond => none

namespace EditScreens

open EditFault

/-- `get_iter`, and the row that it leads to. -/
def rowAt {α : Type} (aRows : List α) (nPath : ℕ) : Except EditFault α :=
  match aRows[nPath]? with
  | some oRow => .ok oRow
  | none => .error .invalidPath

/-! ### The lists -/

/-- The rows for a vector of weights. -/
def weightRows (aWeight : List ℤ) : List WeightRow :=
  aWeight.mapIdx fun nIdx nWeight => ⟨nIdx, nWeight⟩

def recreateWeightsList (s : EditScreens) : EditScreens :=
  { s with
    columnWeightRows := weightRows s.grid.editColumnsWeight
    rowWeightRows := weightRows s.grid.editRowsWeight }

/-- The cells in the order of the loops of `recreateCellsKeyList`. -/
def cells (g : EditGrid) : List (ℕ × ℕ) :=
  List.range g.totColumns ×ˢ List.range g.totRows

/-- The index of a cell in the vectors. -/
def cellIdx (g : EditGrid) (oCell : ℕ × ℕ) : ℕ := oCell.1 + oCell.2 * g.totColumns

def cellKeyRow (g : EditGrid) (oCell : ℕ × ℕ) : CellKeyRow :=
  ⟨oCell.1, oCell.2, g.editNames.getD (cellIdx g oCell) "",
    g.editHK.getD (cellIdx g oCell) hkNull⟩

/-- The loops of `recreateCellsKeyList`, after the vectors have grown. -/
def showCells (s : EditScreens) : Except EditFault EditScreens := do
  check ((cells s.grid).all fun oCell =>
    cellIdx s.grid oCell < s.grid.editNames.length && cellIdx s.grid oCell < s.grid.editHK.length)
  return { s with cellKeyRows := (cells s.grid).map (cellKeyRow s.grid) }

/-! ### The screens -/

def changeScreen (eToScreen : EditScreen) (s : EditScreens) : EditScreens :=
  { s with currentScreen := eToScreen }

/-- `WeightScreen::changeTo`. The spin button then holds the weight. -/
def weightChangeTo (nWeight : ℤ) (bColumn : Bool) (nColRow nPath : ℕ) (s : EditScreens) :
    Except EditFault EditScreens := do
  check (editMinWeight ≤ nWeight && nWeight ≤ editMaxWeight)
  return { s with
    weightScreen :=
      { weight := nWeight
        column := bColumn
        colRow := nColRow
        path := nPath
        labelWeightDesc :=
          "Weight of " ++ (if bColumn then "column" else "row") ++ " " ++ toString nColRow } }

/-- The weight screen for a row of one of the lists of weights. -/
def onWeightActivated (bColumn : Bool) (aRows : List WeightRow) (aWeight : List ℤ) (nPath : ℕ)
    (s : EditScreens) : Except EditFault EditScreens := do
  let s := s.changeScreen .enterWeight
  let oRow ← rowAt aRows nPath
  check (oRow.idx < aWeight.length)
  check (aWeight[oRow.idx]? = some oRow.weight)
  s.weightChangeTo oRow.weight bColumn oRow.idx nPath

def onColumnWeightActivated (nPath : ℕ) (s : EditScreens) : Except EditFault EditScreens :=
  s.onWeightActivated true s.columnWeightRows s.grid.editColumnsWeight nPath

def onRowWeightActivated (nPath : ℕ) (s : EditScreens) : Except EditFault EditScreens :=
  s.onWeightActivated false s.rowWeightRows s.grid.editRowsWeight nPath

/-- `KeyScreen::findKeyRow` among all keys, and the name in the row. -/
def findKeyRow (eKey : HardwareKey) : Option String :=
  (InputStrings.keyStringMap.find? fun oRow => oRow.1 = eKey.toNat).map Prod.snd

/-- `KeyScreen::changeTo`. -/
def keyChangeTo (eKey : HardwareKey) (nColumn nRow nPath : ℕ) (s : EditScreens) :
    Except EditFault EditScreens := do
  check (InputStrings.getKeyString eKey ≠ "")
  let sBaseLabelString := "Key of column " ++ toString nColumn ++ "  row " ++ toString nRow
  match findKeyRow eKey with
  | none => .error .assertion
  | some sKeyName =>
    return { s with
      keyScreen :=
        { path := nPath
          column := nColumn
          row := nRow
          baseLabelString := sBaseLabelString
          labelChooseKey := sBaseLabelString
          entryKey := sKeyName } }

def onCellNameActivated (nPath : ℕ) (s : EditScreens) : Except EditFault EditScreens := do
  let s := s.changeScreen .enterKey
  let oRow ← rowAt s.cellKeyRows nPath
  check (oRow.x < s.grid.editColumnsWeight.length)
  check (oRow.y < s.grid.editRowsWeight.length)
  let nIdx := oRow.x + oRow.y * s.grid.editColumnsWeight.length
  check (nIdx < s.grid.editHK.length)
  check (s.grid.editHK[nIdx]? = some oRow.hiddenHardwareKey)
  s.keyChangeTo oRow.hiddenHardwareKey oRow.x oRow.y nPath

def setWeight (nWeight : ℤ) (bColumn : Bool) (nColRow nPath : ℕ) (s : EditScreens) :
    Except EditFault EditScreens := do
  if bColumn then
    check (nColRow < s.grid.editColumnsWeight.length)
    let oRow ← rowAt s.columnWeightRows nPath
    return { s with
      grid := { s.grid with editColumnsWeight := s.grid.editColumnsWeight.set nColRow nWeight }
      columnWeightRows := s.columnWeightRows.set nPath { oRow with weight := nWeight } }
  else
    check (nColRow < s.grid.editRowsWeight.length)
    let oRow ← rowAt s.rowWeightRows nPath
    return { s with
      grid := { s.grid with editRowsWeight := s.grid.editRowsWeight.set nColRow nWeight }
      rowWeightRows := s.rowWeightRows.set nPath { oRow with weight := nWeight } }

/-- An index that is not in the vectors would be undefined behaviour. -/
def setKey (eKey : HardwareKey) (nColumn nRow nPath : ℕ) (s : EditScreens) :
    Except EditFault EditScreens := do
  let oRow ← rowAt s.cellKeyRows nPath
  let nIdx := nColumn + nRow * s.grid.editColumnsWeight.length
  check (nIdx < s.grid.editHK.length && nIdx < s.grid.editNames.length)
  let sName := InputStrings.getKeyString eKey
  return { s with
    grid :=
      { s.grid with
        editHK := s.grid.editHK.set nIdx eKey
        editNames := s.grid.editNames.set nIdx sName }
    cellKeyRows := s.cellKeyRows.set nPath
      { oRow with hiddenHardwareKey := eKey, keyName := sName } }

/-- `WeightScreen::onButtonAnswerOk`. -/
def weightAnswerOk (s : EditScreens) : Except EditFault EditScreens := do
  let s ← s.setWeight s.weightScreen.weight s.weightScreen.column s.weightScreen.colRow
    s.weightScreen.path
  return s.changeScreen .main

/-- `KeyScreen::onButtonAnswerOk`. -/
def keyAnswerOk (s : EditScreens) : Except EditFault EditScreens :=
  match InputStrings.getStringKey s.keyScreen.entryKey with
  | none =>
    return { s with keyScreen.labelChooseKey := s.keyScreen.baseLabelString ++ "\nInvalid key!" }
  | some eKey => do
    let s ← s.setKey eKey s.keyScreen.column s.keyScreen.row s.keyScreen.path
    return s.changeScreen .main

/-- `KeyScreen::onKeySelectionChanged`, with a row of the list of all keys. -/
def onKeySelectionChanged (nPath : ℕ) (s : EditScreens) : EditScreens :=
  match InputStrings.keyStringMap[nPath]? with
  | none => s
  | some oRow => { s with keyScreen.entryKey := oRow.2 }

/-- The change of a number on the main screen. -/
def changeGrid (op : GridOp) (s : EditScreens) : Except EditFault EditScreens :=
  let s := { s with grid := s.grid.perform op }
  match op with
  | .onSpinNrColumnsChanged _ | .onSpinNrRowsChanged _ => s.recreateWeightsList.showCells
  | _ => return s

def perform (s : EditScreens) : EditOp → Except EditFault EditScreens
  | .grid op _ => s.changeGrid op
  | .onColumnWeightActivated nPath =>
    if nPath < s.columnWeightRows.length then s.onColumnWeightActivated nPath else return s
  | .onRowWeightActivated nPath =>
    if nPath < s.rowWeightRows.length then s.onRowWeightActivated nPath else return s
  | .onCellNameActivated nPath =>
    if nPath < s.cellKeyRows.length then s.onCellNameActivated nPath else return s
  | .onSpinWeightChanged nValue =>
    return { s with weightScreen.weight := clampValue editMinWeight editMaxWeight nValue }
  | .weightAnswerOk => s.weightAnswerOk
  | .weightAnswerCancel => return s.changeScreen .main
  | .changeEntryKey sText => return { s with keyScreen.entryKey := sText }
  | .onKeySelectionChanged nPath => return s.onKeySelectionChanged nPath
  | .keyAnswerOk => s.keyAnswerOk
  | .keyAnswerCancel => return s.changeScreen .main
  | .onErrorOneSecond =>
    return { s with keyScreen.labelChooseKey := s.keyScreen.baseLabelString }

/-- One thing happens, if its screen is shown. -/
def step (s : EditScreens) (op : EditOp) : Except EditFault EditScreens :=
  if op.screen.all (· = s.currentScreen) then s.perform op else return s

/-- A new window. -/
def start (oConf : GridConfig) : Except EditFault EditScreens :=
  let s : EditScreens :=
    { grid := (EditGrid.new oConf).recreateCellsKeyList
      columnWeightRows := []
      rowWeightRows := []
      cellKeyRows := []
      currentScreen := .main
      weightScreen := ⟨editMinWeight, false, 0, 0, "Weight of column/row"⟩
      keyScreen := ⟨0, 0, 0, "", "Key of column/row", ""⟩ }
  s.recreateWeightsList.showCells

/-! ### The lists show the vectors -/

variable {s t : EditScreens} {g : EditGrid} {nPath : ℕ}

@[simp] theorem check_true : check true = .ok () := rfl

theorem check_of {p : Prop} [Decidable p] (h : p) : check (decide p) = .ok () := by
  rw [decide_eq_true h]
  rfl

theorem rowAt_of {α : Type} {aRows : List α} {oRow : α} (h : aRows[nPath]? = some oRow) :
    rowAt aRows nPath = .ok oRow := by
  rw [rowAt, h]

theorem length_weightRows (aWeight : List ℤ) : (weightRows aWeight).length = aWeight.length :=
  List.length_mapIdx

theorem weightRows_getElem? {aWeight : List ℤ} {nWeight : ℤ} (h : aWeight[nPath]? = some nWeight) :
    (weightRows aWeight)[nPath]? = some ⟨nPath, nWeight⟩ := by
  rw [weightRows, List.getElem?_mapIdx, h, Option.map_some]

/-- A weight is changed in the vector and in the list. -/
theorem weightRows_set (aWeight : List ℤ) (n : ℕ) (nWeight : ℤ) :
    (weightRows aWeight).set n ⟨n, nWeight⟩ = weightRows (aWeight.set n nWeight) := by
  refine List.ext_getElem? fun i => ?_
  simp only [weightRows, List.getElem?_set, List.getElem?_mapIdx, List.length_mapIdx]
  split_ifs with hi hlt
  · subst hi
    rfl
  · rfl
  · rfl

theorem mem_cells {oCell : ℕ × ℕ} :
    oCell ∈ cells g ↔ oCell.1 < g.totColumns ∧ oCell.2 < g.totRows := by
  rw [← List.mem_range, ← List.mem_range]
  exact List.pair_mem_product

theorem nodup_cells (g : EditGrid) : (cells g).Nodup :=
  List.nodup_range.product List.nodup_range

/-- Different cells have different indices. -/
theorem cellIdx_inj {oCell oCell' : ℕ × ℕ} (h : oCell ∈ cells g) (h' : oCell' ∈ cells g)
    (hidx : cellIdx g oCell = cellIdx g oCell') : oCell = oCell' := by
  have hlt := (mem_cells.mp h).1
  have hlt' := (mem_cells.mp h').1
  have hpos : 0 < g.totColumns := Nat.zero_lt_of_lt hlt
  have hcolumn : oCell.1 = oCell'.1 := by
    have hmod := congrArg (· % g.totColumns) hidx
    simpa [cellIdx, Nat.mod_eq_of_lt hlt, Nat.mod_eq_of_lt hlt'] using hmod
  have hrow : oCell.2 = oCell'.2 := by
    rw [cellIdx, cellIdx, hcolumn, Nat.add_left_cancel_iff] at hidx
    exact Nat.eq_of_mul_eq_mul_right hpos hidx
  exact Prod.ext hcolumn hrow

/-- A key is set in the vectors and in the list. -/
theorem cellKeyRows_set (hg : g.WellFormed) {oCell : ℕ × ℕ} (hcell : (cells g)[nPath]? = some oCell)
    (eKey : HardwareKey) :
    ((cells g).map (cellKeyRow g)).set nPath
        ⟨oCell.1, oCell.2, InputStrings.getKeyString eKey, eKey⟩ =
      (cells (g.setKey eKey oCell.1 oCell.2)).map (cellKeyRow (g.setKey eKey oCell.1 oCell.2)) := by
  have hmem := List.mem_of_getElem? hcell
  have hlt : cellIdx g oCell < g.editHK.length :=
    hg.index_lt (mem_cells.mp hmem).1 (mem_cells.mp hmem).2
  have hlt' : cellIdx g oCell < g.editNames.length := hg.names_length.symm ▸ hlt
  -- the cells and their indices stay
  have hrow (oOther : ℕ × ℕ) : cellKeyRow (g.setKey eKey oCell.1 oCell.2) oOther =
      ⟨oOther.1, oOther.2,
        (g.editNames.set (cellIdx g oCell) (InputStrings.getKeyString eKey)).getD
          (cellIdx g oOther) "",
        (g.editHK.set (cellIdx g oCell) eKey).getD (cellIdx g oOther) hkNull⟩ := by
    rw [EditGrid.setKey, hg.columnsWeight_length]
    rfl
  have hcells : cells (g.setKey eKey oCell.1 oCell.2) = cells g := rfl
  rw [hcells]
  refine List.ext_getElem? fun i => ?_
  rw [List.getElem?_set, List.length_map, List.getElem?_map, List.getElem?_map]
  have hpath : nPath < (cells g).length := (List.getElem?_eq_some_iff.mp hcell).1
  by_cases hi : nPath = i
  · subst hi
    rw [if_pos rfl, if_pos hpath, hcell, Option.map_some, hrow]
    simp [hlt, hlt']
  · rw [if_neg hi]
    cases hother : (cells g)[i]? with
    | none => rfl
    | some oOther =>
      have hne : cellIdx g oCell ≠ cellIdx g oOther := fun heq => hi <| by
        obtain rfl := cellIdx_inj hmem (List.mem_of_getElem? hother) heq
        exact (List.getElem?_inj hpath (nodup_cells g)).mp (hcell.trans hother.symm)
      rw [Option.map_some, Option.map_some, hrow]
      simp [cellKeyRow, List.getElem?_set_ne hne]

/-- What holds between two operations. -/
structure Synced (s : EditScreens) : Prop where
  wellFormed : s.grid.WellFormed
  columnWeightRows : s.columnWeightRows = weightRows s.grid.editColumnsWeight
  rowWeightRows : s.rowWeightRows = weightRows s.grid.editRowsWeight
  cellKeyRows : s.cellKeyRows = (cells s.grid).map (cellKeyRow s.grid)
  weightScreen : s.currentScreen = .enterWeight →
    s.weightScreen.path = s.weightScreen.colRow ∧
    s.weightScreen.colRow <
      (if s.weightScreen.column then s.grid.totColumns else s.grid.totRows) ∧
    editMinWeight ≤ s.weightScreen.weight ∧ s.weightScreen.weight ≤ editMaxWeight
  keyScreen : s.currentScreen = .enterKey →
    (cells s.grid)[s.keyScreen.path]? = some (s.keyScreen.column, s.keyScreen.row)

/-- The loops find all cells in the vectors. -/
theorem showCells_eq (hg : s.grid.WellFormed) :
    s.showCells = .ok { s with cellKeyRows := (cells s.grid).map (cellKeyRow s.grid) } := by
  have hall : ((cells s.grid).all fun oCell =>
      cellIdx s.grid oCell < s.grid.editNames.length &&
        cellIdx s.grid oCell < s.grid.editHK.length) = true := by
    refine List.all_eq_true.mpr fun oCell hmem => ?_
    have hlt := hg.index_lt (mem_cells.mp hmem).1 (mem_cells.mp hmem).2
    simp only [hg.names_length, Bool.and_self, decide_eq_true_eq]
    exact hlt
  rw [showCells, hall]
  rfl

/-! ### What an operation does -/

theorem Synced.changeGrid (h : s.Synced) (op : GridOp) (hop : op.onMainScreen)
    (hscreen : s.currentScreen = .main) :
    ∃ t, s.changeGrid op = .ok t ∧ t.Synced ∧ t.grid = s.grid.perform op := by
  have hg := h.wellFormed.perform op
  -- nothing is edited
  have hnone {P : Prop} {eScreen : EditScreen} (hne : EditScreen.main ≠ eScreen) :
      s.currentScreen = eScreen → P := fun heq => absurd (hscreen.symm.trans heq) hne
  cases op with
  | onSpinNrColumnsChanged nValue =>
    exact ⟨_, showCells_eq hg, ⟨hg, rfl, rfl, rfl, hnone (by decide), hnone (by decide)⟩, rfl⟩
  | onSpinNrRowsChanged nValue =>
    exact ⟨_, showCells_eq hg, ⟨hg, rfl, rfl, rfl, hnone (by decide), hnone (by decide)⟩, rfl⟩
  | setWeight | setKey => cases hop
  | _ =>
    exact ⟨_, rfl, ⟨hg, h.columnWeightRows, h.rowWeightRows, h.cellKeyRows, hnone (by decide),
      hnone (by decide)⟩, rfl⟩

/-- The weight screen for a listed weight. -/
theorem Synced.onWeightActivated (h : s.Synced) (bColumn : Bool) {aWeight : List ℤ} {nWeight : ℤ}
    (hweight : aWeight[nPath]? = some nWeight)
    (hlimits : ∀ n ∈ aWeight, editMinWeight ≤ n ∧ n ≤ editMaxWeight)
    (hlength : aWeight.length = if bColumn then s.grid.totColumns else s.grid.totRows) :
    ∃ t, s.onWeightActivated bColumn (weightRows aWeight) aWeight nPath = .ok t ∧ t.Synced ∧
      t.currentScreen = .enterWeight ∧ t.grid = s.grid ∧ t.weightScreen.weight = nWeight ∧
      t.weightScreen.column = bColumn ∧ t.weightScreen.colRow = nPath := by
  have hlt := (List.getElem?_eq_some_iff.mp hweight).1
  obtain ⟨hmin, hmax⟩ := hlimits nWeight (List.mem_of_getElem? hweight)
  simp only [EditScreens.onWeightActivated, rowAt_of (weightRows_getElem? hweight), weightChangeTo,
    bind, Except.bind, hlt, hweight, hmin, hmax, decide_true, Bool.and_self, check_true]
  refine ⟨_, rfl, { h with weightScreen := fun _ => ⟨rfl, ?_, hmin, hmax⟩, keyScreen := ?_ }, rfl,
    rfl, rfl, rfl, rfl⟩
  · exact hlt.trans_eq hlength
  · rintro ⟨⟩

theorem findKeyRow_of_named {eKey : HardwareKey} (h : InputStrings.Named eKey) :
    findKeyRow eKey = some (InputStrings.getKeyString eKey) := by
  rw [findKeyRow, InputStrings.getKeyString]
  cases hfind : InputStrings.keyStringMap.find? fun p => p.1 = eKey.toNat with
  | none => exact absurd (by rw [InputStrings.getKeyString, hfind]) h
  | some p => rfl

theorem keyChangeTo_eq {eKey : HardwareKey} (h : InputStrings.Named eKey) (nColumn nRow nPath : ℕ)
    (s : EditScreens) : ∃ sLabel, s.keyChangeTo eKey nColumn nRow nPath = .ok { s with
      keyScreen := ⟨nPath, nColumn, nRow, sLabel, sLabel, InputStrings.getKeyString eKey⟩ } := by
  have hname : InputStrings.getKeyString eKey ≠ "" := h
  simp only [keyChangeTo, check_of hname, bind, Except.bind, findKeyRow_of_named h]
  exact ⟨_, rfl⟩

/-- The key screen for a listed cell. -/
theorem Synced.onCellNameActivated (h : s.Synced) {nColumn nRow : ℕ}
    (hcell : (cells s.grid)[nPath]? = some (nColumn, nRow)) :
    ∃ eKey sLabel, s.grid.editHK[cellIdx s.grid (nColumn, nRow)]? = some eKey ∧
      InputStrings.Named eKey ∧ s.onCellNameActivated nPath = .ok { s with
        currentScreen := .enterKey
        keyScreen :=
          ⟨nPath, nColumn, nRow, sLabel, sLabel, InputStrings.getKeyString eKey⟩ } := by
  obtain ⟨hcolumn, hrow⟩ := mem_cells.mp (List.mem_of_getElem? hcell)
  have hlt : cellIdx s.grid (nColumn, nRow) < s.grid.editHK.length :=
    h.wellFormed.index_lt hcolumn hrow
  obtain ⟨eKey, hkey⟩ : ∃ eKey, s.grid.editHK[cellIdx s.grid (nColumn, nRow)]? = some eKey :=
    ⟨_, List.getElem?_eq_getElem hlt⟩
  have hnamed := h.wellFormed.named eKey (List.mem_of_getElem? hkey)
  obtain ⟨sKeyName, hoRow⟩ : ∃ sKeyName,
      s.cellKeyRows[nPath]? = some ⟨nColumn, nRow, sKeyName, eKey⟩ := by
    refine ⟨s.grid.editNames.getD (cellIdx s.grid (nColumn, nRow)) "", ?_⟩
    rw [h.cellKeyRows, List.getElem?_map, hcell]
    simp [cellKeyRow, hkey]
  obtain ⟨sLabel, hscreen⟩ :=
    keyChangeTo_eq hnamed nColumn nRow nPath (s.changeScreen .enterKey)
  refine ⟨eKey, sLabel, hkey, hnamed, ?_⟩
  have hidx :
      nColumn + nRow * s.grid.editColumnsWeight.length = cellIdx s.grid (nColumn, nRow) := by
    rw [h.wellFormed.columnsWeight_length]
    rfl
  have hx : nColumn < s.grid.editColumnsWeight.length :=
    hcolumn.trans_eq h.wellFormed.columnsWeight_length.symm
  have hy : nRow < s.grid.editRowsWeight.length :=
    hrow.trans_eq h.wellFormed.rowsWeight_length.symm
  simp only [EditScreens.onCellNameActivated, changeScreen, rowAt_of hoRow, bind, Except.bind, hidx,
    hkey, hlt, hx, hy, decide_true, check_true]
  exact hscreen

/-- `Ok` on the weight screen. -/
theorem Synced.weightAnswerOk (h : s.Synced) (hscreen : s.currentScreen = .enterWeight) :
    ∃ t, s.weightAnswerOk = .ok t ∧ t.Synced ∧ t.currentScreen = .main ∧
      t.grid = s.grid.setWeight s.weightScreen.weight s.weightScreen.column
        s.weightScreen.colRow := by
  obtain ⟨hpath, hlt, hmin, hmax⟩ := h.weightScreen hscreen
  have hg := h.wellFormed
  have hclamp := clampValue_eq_self hmin hmax
  have hwf := hg.setWeight s.weightScreen.weight s.weightScreen.column s.weightScreen.colRow
  cases hcolumn : s.weightScreen.column with
  | true =>
    rw [hcolumn, if_pos rfl, ← hg.columnsWeight_length] at hlt
    obtain ⟨nWeight, hweight⟩ : ∃ nWeight,
        s.grid.editColumnsWeight[s.weightScreen.colRow]? = some nWeight :=
      ⟨_, List.getElem?_eq_getElem hlt⟩
    have hgrid : s.grid.setWeight s.weightScreen.weight true s.weightScreen.colRow =
        { s.grid with editColumnsWeight :=
          s.grid.editColumnsWeight.set s.weightScreen.colRow s.weightScreen.weight } := by
      rw [EditGrid.setWeight, hclamp]
      rfl
    rw [hcolumn, hgrid] at hwf
    simp only [EditScreens.weightAnswerOk, setWeight, hcolumn, if_true, bind, Except.bind, hlt,
      decide_true, check_true, h.columnWeightRows, hpath, rowAt_of (weightRows_getElem? hweight),
      hgrid]
    refine ⟨_, rfl, ⟨hwf, weightRows_set .., h.rowWeightRows, h.cellKeyRows, ?_, ?_⟩, rfl, rfl⟩
    · rintro ⟨⟩
    · rintro ⟨⟩
  | false =>
    rw [hcolumn, if_neg Bool.false_ne_true, ← hg.rowsWeight_length] at hlt
    obtain ⟨nWeight, hweight⟩ : ∃ nWeight,
        s.grid.editRowsWeight[s.weightScreen.colRow]? = some nWeight :=
      ⟨_, List.getElem?_eq_getElem hlt⟩
    have hgrid : s.grid.setWeight s.weightScreen.weight false s.weightScreen.colRow =
        { s.grid with editRowsWeight :=
          s.grid.editRowsWeight.set s.weightScreen.colRow s.weightScreen.weight } := by
      rw [EditGrid.setWeight, hclamp]
      rfl
    rw [hcolumn, hgrid] at hwf
    simp only [EditScreens.weightAnswerOk, setWeight, hcolumn, if_false, Bool.false_eq_true, bind,
      Except.bind, hlt, decide_true, check_true, h.rowWeightRows, hpath,
      rowAt_of (weightRows_getElem? hweight), hgrid]
    refine ⟨_, rfl, ⟨hwf, h.columnWeightRows, weightRows_set .., h.cellKeyRows, ?_, ?_⟩, rfl, rfl⟩
    · rintro ⟨⟩
    · rintro ⟨⟩

/-- `Ok` on the key screen, when the text is the name of a key. -/
theorem Synced.keyAnswerOk (h : s.Synced) (hscreen : s.currentScreen = .enterKey)
    {eKey : HardwareKey} (hkey : InputStrings.getStringKey s.keyScreen.entryKey = some eKey) :
    ∃ t, s.keyAnswerOk = .ok t ∧ t.Synced ∧ t.currentScreen = .main ∧
      t.grid = s.grid.setKey eKey s.keyScreen.column s.keyScreen.row := by
  have hcell := h.keyScreen hscreen
  have hg := h.wellFormed
  obtain ⟨hcolumn, hrow⟩ := mem_cells.mp (List.mem_of_getElem? hcell)
  have hlt := hg.index_lt hcolumn hrow
  have hlt' := hlt.trans_eq hg.names_length.symm
  rw [← hg.columnsWeight_length] at hlt hlt'
  have hoRow : s.cellKeyRows[s.keyScreen.path]? =
      some (cellKeyRow s.grid (s.keyScreen.column, s.keyScreen.row)) := by
    rw [h.cellKeyRows, List.getElem?_map, hcell, Option.map_some]
  simp only [EditScreens.keyAnswerOk, hkey, setKey, rowAt_of hoRow, bind, Except.bind, hlt, hlt',
    decide_true, Bool.and_self, check_true]
  refine ⟨_, rfl, ⟨hg.setKey (InputStrings.named_of_getStringKey hkey) _ _, h.columnWeightRows,
    h.rowWeightRows, ?_, ?_, ?_⟩, rfl, rfl⟩
  · exact (congrArg (List.set · s.keyScreen.path _) h.cellKeyRows).trans
      (cellKeyRows_set hg hcell eKey)
  · rintro ⟨⟩
  · rintro ⟨⟩

/-- The grid is that of the window after other operations on it. -/
def Refines (oConf : GridConfig) (s : EditScreens) : Prop :=
  ∃ gridOps, s.grid = EditGrid.run oConf gridOps

theorem Refines.of_grid_eq {oConf : GridConfig} (h : s.Refines oConf) (ht : t.grid = s.grid) :
    t.Refines oConf := by
  obtain ⟨gridOps, hs⟩ := h
  exact ⟨gridOps, ht.trans hs⟩

theorem Refines.perform {oConf : GridConfig} (h : s.Refines oConf) {op : GridOp}
    (ht : t.grid = s.grid.perform op) : t.Refines oConf := by
  obtain ⟨gridOps, hs⟩ := h
  refine ⟨gridOps ++ [op], ?_⟩
  rw [ht, hs, EditGrid.run, EditGrid.run, List.foldl_append]
  rfl

/-- **One step.** Every operation is carried out, and it is one of those on the grid or leaves the
grid as it is. -/
theorem Synced.step (h : s.Synced) (op : EditOp) : ∃ t, s.step op = .ok t ∧ t.Synced ∧
    (t.grid = s.grid ∨ ∃ gridOp, t.grid = s.grid.perform gridOp) := by
  rw [EditScreens.step]
  split_ifs with hscreen
  · have hat {eScreen : EditScreen} (heq : op.screen = some eScreen) :
        s.currentScreen = eScreen := by
      simpa [heq, eq_comm] using hscreen
    have hg := h.wellFormed
    cases op with
    | grid op hop =>
      obtain ⟨t, ht, hsynced, hgrid⟩ := h.changeGrid op hop (hat rfl)
      exact ⟨t, ht, hsynced, .inr ⟨op, hgrid⟩⟩
    | onColumnWeightActivated nPath =>
      rw [EditScreens.perform, EditScreens.onColumnWeightActivated, h.columnWeightRows,
        length_weightRows]
      split_ifs with hlt
      · obtain ⟨t, ht, hsynced, -, hgrid, -⟩ := h.onWeightActivated true
          (List.getElem?_eq_getElem hlt) hg.columnsWeight hg.columnsWeight_length
        exact ⟨t, ht, hsynced, .inl hgrid⟩
      · exact ⟨s, rfl, h, .inl rfl⟩
    | onRowWeightActivated nPath =>
      rw [EditScreens.perform, EditScreens.onRowWeightActivated, h.rowWeightRows,
        length_weightRows]
      split_ifs with hlt
      · obtain ⟨t, ht, hsynced, -, hgrid, -⟩ := h.onWeightActivated false
          (List.getElem?_eq_getElem hlt) hg.rowsWeight hg.rowsWeight_length
        exact ⟨t, ht, hsynced, .inl hgrid⟩
      · exact ⟨s, rfl, h, .inl rfl⟩
    | onCellNameActivated nPath =>
      rw [EditScreens.perform, h.cellKeyRows, List.length_map]
      split_ifs with hlt
      · obtain ⟨⟨nColumn, nRow⟩, hcell⟩ : ∃ oCell, (cells s.grid)[nPath]? = some oCell :=
          ⟨_, List.getElem?_eq_getElem hlt⟩
        obtain ⟨eKey, sLabel, -, -, ht⟩ := h.onCellNameActivated hcell
        refine ⟨_, ht, { h with weightScreen := ?_, keyScreen := fun _ => hcell }, .inl rfl⟩
        rintro ⟨⟩
      · exact ⟨s, rfl, h, .inl rfl⟩
    | onSpinWeightChanged nValue =>
      refine ⟨_, rfl, { h with weightScreen := fun heq => ?_ }, .inl rfl⟩
      obtain ⟨hpath, hlt, -⟩ := h.weightScreen heq
      exact ⟨hpath, hlt, clampValue_bounds (by decide) nValue⟩
    | weightAnswerOk =>
      obtain ⟨t, ht, hsynced, -, hgrid⟩ := h.weightAnswerOk (hat rfl)
      exact ⟨t, ht, hsynced, .inr ⟨.setWeight .., hgrid⟩⟩
    | weightAnswerCancel =>
      refine ⟨_, rfl, { h with weightScreen := ?_, keyScreen := ?_ }, .inl rfl⟩
      · rintro ⟨⟩
      · rintro ⟨⟩
    | changeEntryKey sText => exact ⟨_, rfl, { h with keyScreen := h.keyScreen }, .inl rfl⟩
    | onKeySelectionChanged nPath =>
      refine ⟨_, rfl, ?_⟩
      rw [EditScreens.onKeySelectionChanged]
      cases InputStrings.keyStringMap[nPath]? with
      | none => exact ⟨h, .inl rfl⟩
      | some oRow => exact ⟨{ h with keyScreen := h.keyScreen }, .inl rfl⟩
    | keyAnswerOk =>
      cases hkey : InputStrings.getStringKey s.keyScreen.entryKey with
      | none =>
        rw [EditScreens.perform, EditScreens.keyAnswerOk, hkey]
        exact ⟨_, rfl, { h with keyScreen := h.keyScreen }, .inl rfl⟩
      | some eKey =>
        obtain ⟨t, ht, hsynced, -, hgrid⟩ := h.keyAnswerOk (hat rfl) hkey
        obtain ⟨hcolumn, hrow⟩ := mem_cells.mp (List.mem_of_getElem? (h.keyScreen (hat rfl)))
        refine ⟨t, ht, hsynced, .inr ⟨.setKey s.keyScreen.entryKey s.keyScreen.column
          s.keyScreen.row, hgrid.trans ?_⟩⟩
        rw [EditGrid.perform, EditGrid.enterKey, if_pos ⟨hcolumn, hrow⟩, hkey]
    | keyAnswerCancel =>
      refine ⟨_, rfl, { h with weightScreen := ?_, keyScreen := ?_ }, .inl rfl⟩
      · rintro ⟨⟩
      · rintro ⟨⟩
    | onErrorOneSecond => exact ⟨_, rfl, { h with keyScreen := h.keyScreen }, .inl rfl⟩
  · exact ⟨s, rfl, h, .inl rfl⟩

theorem synced_start (oConf : GridConfig) :
    ∃ s, start oConf = .ok s ∧ s.Synced ∧ s.grid = EditGrid.new oConf ∧
      s.currentScreen = .main := by
  have hg := EditGrid.wellFormed_new oConf
  have hcells : (EditGrid.new oConf).recreateCellsKeyList = EditGrid.new oConf := by
    rw [EditGrid.recreateCellsKeyList, if_neg]
    exact not_lt.mpr (hg.cells_le.trans_eq hg.names_length.symm)
  rw [start, hcells]
  refine ⟨_, showCells_eq hg, ⟨hg, rfl, rfl, rfl, ?_, ?_⟩, rfl, rfl⟩
  · rintro ⟨⟩
  · rintro ⟨⟩

/-- **Editing.** Whatever the settings hold and whatever the user does, no assertion fails and every
path leads to a row. The lists show the vectors of the window, and the grid is what `EditGrid.run`
makes of the changes that the user has confirmed. -/
theorem exec_ok (oConf : GridConfig) (ops : List EditOp) : ∃ s t,
    start oConf = .ok s ∧ Run.exec step s ops = .ok t ∧
      t.columnWeightRows = weightRows t.grid.editColumnsWeight ∧
      t.rowWeightRows = weightRows t.grid.editRowsWeight ∧
      t.cellKeyRows = (cells t.grid).map (cellKeyRow t.grid) ∧
      ∃ gridOps, t.grid = EditGrid.run oConf gridOps := by
  obtain ⟨s, hs, hsynced, hnew, -⟩ := synced_start oConf
  have hrun : ∃ t, Run.exec step s ops = .ok t ∧ (t.Synced ∧ t.Refines oConf) :=
    Run.exists_exec (fun s op ⟨h, hrefines⟩ => by
      obtain ⟨t, ht, hsynced, heq | ⟨gridOp, hperform⟩⟩ := h.step op
      · exact ⟨t, ht, hsynced, hrefines.of_grid_eq heq⟩
      · exact ⟨t, ht, hsynced, hrefines.perform hperform⟩) ⟨hsynced, [], hnew⟩
  obtain ⟨t, ht, h, hgrid⟩ := hrun
  exact ⟨s, t, hs, ht, h.columnWeightRows, h.rowWeightRows, h.cellKeyRows, hgrid⟩

/-! ### Confirming what is there -/

/-- A row opens its screen, and `Ok` there goes back to the same settings. -/
def Confirms (s : EditScreens) (opRow opOk : EditOp) : Prop :=
  ∃ u t, s.step opRow = .ok u ∧ u.currentScreen ≠ .main ∧ u.step opOk = .ok t ∧
    t.currentScreen = .main ∧ t.grid.saveStateToConfig = s.grid.saveStateToConfig

theorem step_of_screen {op : EditOp} {eScreen : EditScreen} (hop : op.screen = some eScreen)
    (hscreen : s.currentScreen = eScreen) : s.step op = s.perform op := by
  rw [EditScreens.step, hop, if_pos]
  exact decide_eq_true hscreen.symm

/-- The weight of a listed column or row is opened and confirmed. -/
theorem Synced.weightOk (h : s.Synced) (bColumn : Bool) {aWeight : List ℤ} {nWeight : ℤ}
    (hweight : aWeight[nPath]? = some nWeight)
    (hlimits : ∀ n ∈ aWeight, editMinWeight ≤ n ∧ n ≤ editMaxWeight)
    (hlength : aWeight.length = if bColumn then s.grid.totColumns else s.grid.totRows)
    (hsame : s.grid.setWeight nWeight bColumn nPath = s.grid) :
    ∃ u t, s.onWeightActivated bColumn (weightRows aWeight) aWeight nPath = .ok u ∧
      u.currentScreen ≠ .main ∧ u.step .weightAnswerOk = .ok t ∧ t.currentScreen = .main ∧
      t.grid.saveStateToConfig = s.grid.saveStateToConfig := by
  obtain ⟨u, hu, hsynced, hscreen, hgrid, hnWeight, hcolumn, hcolRow⟩ :=
    h.onWeightActivated bColumn hweight hlimits hlength
  obtain ⟨t, ht, -, hmain, htgrid⟩ := hsynced.weightAnswerOk hscreen
  have hstep : u.step .weightAnswerOk = .ok t := by
    rw [step_of_screen rfl hscreen]
    exact ht
  refine ⟨u, t, hu, ?_, hstep, hmain, ?_⟩
  · rw [hscreen]
    decide
  · rw [htgrid, hgrid, hnWeight, hcolumn, hcolRow, hsame]

theorem Synced.confirms_columnWeight (h : s.Synced) (hscreen : s.currentScreen = .main)
    (hlt : nPath < s.columnWeightRows.length) :
    s.Confirms (.onColumnWeightActivated nPath) .weightAnswerOk := by
  have hg := h.wellFormed
  have hlt' := hlt
  rw [h.columnWeightRows, length_weightRows] at hlt'
  have hweight := List.getElem?_eq_getElem hlt'
  have hlimits := hg.columnsWeight _ (List.getElem_mem hlt')
  have hstep : s.step (.onColumnWeightActivated nPath) = s.onWeightActivated true
      (weightRows s.grid.editColumnsWeight) s.grid.editColumnsWeight nPath := by
    rw [step_of_screen rfl hscreen, EditScreens.perform, if_pos hlt,
      EditScreens.onColumnWeightActivated, h.columnWeightRows]
  rw [Confirms, hstep]
  refine h.weightOk true hweight hg.columnsWeight hg.columnsWeight_length ?_
  rw [EditGrid.setWeight, clampValue_eq_self hlimits.1 hlimits.2]
  exact congrArg (fun aWeight => { s.grid with editColumnsWeight := aWeight })
    (set_of_getElem? hweight)

theorem Synced.confirms_rowWeight (h : s.Synced) (hscreen : s.currentScreen = .main)
    (hlt : nPath < s.rowWeightRows.length) :
    s.Confirms (.onRowWeightActivated nPath) .weightAnswerOk := by
  have hg := h.wellFormed
  have hlt' := hlt
  rw [h.rowWeightRows, length_weightRows] at hlt'
  have hweight := List.getElem?_eq_getElem hlt'
  have hlimits := hg.rowsWeight _ (List.getElem_mem hlt')
  have hstep : s.step (.onRowWeightActivated nPath) = s.onWeightActivated false
      (weightRows s.grid.editRowsWeight) s.grid.editRowsWeight nPath := by
    rw [step_of_screen rfl hscreen, EditScreens.perform, if_pos hlt,
      EditScreens.onRowWeightActivated, h.rowWeightRows]
  rw [Confirms, hstep]
  refine h.weightOk false hweight hg.rowsWeight hg.rowsWeight_length ?_
  rw [EditGrid.setWeight, clampValue_eq_self hlimits.1 hlimits.2]
  exact congrArg (fun aWeight => { s.grid with editRowsWeight := aWeight })
    (set_of_getElem? hweight)

/-- The entry holds the name of the key, which stands for this key. -/
theorem Synced.confirms_cellName (h : s.Synced) (hscreen : s.currentScreen = .main)
    (hlt : nPath < s.cellKeyRows.length) :
    s.Confirms (.onCellNameActivated nPath) .keyAnswerOk := by
  have hlt' := hlt
  rw [h.cellKeyRows, List.length_map] at hlt'
  obtain ⟨⟨nColumn, nRow⟩, hcell⟩ : ∃ oCell, (cells s.grid)[nPath]? = some oCell :=
    ⟨_, List.getElem?_eq_getElem hlt'⟩
  obtain ⟨eKey, sLabel, hkey, hnamed, hu⟩ := h.onCellNameActivated hcell
  have hsynced : Synced { s with
      currentScreen := .enterKey
      keyScreen := ⟨nPath, nColumn, nRow, sLabel, sLabel, InputStrings.getKeyString eKey⟩ } := by
    refine { h with weightScreen := ?_, keyScreen := fun _ => hcell }
    rintro ⟨⟩
  obtain ⟨t, ht, -, hmain, hgrid⟩ :=
    hsynced.keyAnswerOk rfl (InputStrings.getStringKey_getKeyString hnamed)
  have hstep : s.step (.onCellNameActivated nPath) = s.onCellNameActivated nPath := by
    rw [step_of_screen rfl hscreen, EditScreens.perform, if_pos hlt]
  refine ⟨_, t, hstep.trans hu, ?_, (step_of_screen rfl rfl).trans ht, hmain, ?_⟩
  · rintro ⟨⟩
  · rw [hgrid, EditGrid.setKey, h.wellFormed.columnsWeight_length, EditGrid.saveStateToConfig,
      EditGrid.saveStateToConfig]
    exact congrArg (fun aEditHK => { s.grid.saveStateToConfig with
      cellKeys := vectorToString (aEditHK.map BitVec.toInt) }) (set_of_getElem? hkey)

/-- **Confirming.** Whenever the lists are shown, each row opens its screen, and to press `Ok` there
at once keeps the settings. -/
theorem answerOk_unchanged (oConf : GridConfig) (ops : List EditOp)
    (hs : start oConf = .ok s) (ht : Run.exec step s ops = .ok t)
    (hscreen : t.currentScreen = .main) :
    (∀ nPath < t.columnWeightRows.length,
      t.Confirms (.onColumnWeightActivated nPath) .weightAnswerOk) ∧
    (∀ nPath < t.rowWeightRows.length,
      t.Confirms (.onRowWeightActivated nPath) .weightAnswerOk) ∧
    ∀ nPath < t.cellKeyRows.length, t.Confirms (.onCellNameActivated nPath) .keyAnswerOk := by
  obtain ⟨s', hs', hsynced, -⟩ := synced_start oConf
  obtain rfl : s' = s := Except.ok.inj (hs'.symm.trans hs)
  have h : t.Synced := Run.invariant (fun s op t h hstep => by
    obtain ⟨t', ht', hsynced, -⟩ := h.step op
    obtain rfl : t' = t := Except.ok.inj (ht'.symm.trans hstep)
    exact hsynced) hsynced ht
  exact ⟨fun nPath hlt => h.confirms_columnWeight hscreen hlt,
    fun nPath hlt => h.confirms_rowWeight hscreen hlt,
    fun nPath hlt => h.confirms_cellName hscreen hlt⟩

theorem answerOk_unchanged_defaults : ∃ s, start .defaults = .ok s ∧
    s.cellKeyRows.length = 9 ∧ s.Confirms (.onCellNameActivated 4) .keyAnswerOk := by
  obtain ⟨s, hs, hsynced, hnew, hscreen⟩ := synced_start .defaults
  have hrows : s.cellKeyRows.length = 9 := by
    rw [hsynced.cellKeyRows, hnew]
    rfl
  refine ⟨s, hs, hrows, (answerOk_unchanged .defaults [] hs rfl hscreen).2.2 4 ?_⟩
  rw [hrows]
  decide

end EditScreens

end StmmInputBt
