import Mathlib.Data.List.TakeDrop
import StmmInputBt.Settings.NumberList
import StmmInputBt.Window.InputStrings

/-!
# The grid of the virtual keyboard

The part of `BtkbWindow` that the user edits and that the settings keep (`btkbwindow.cc`): the
numbers of columns and rows, their weights, the keys of the cells and where the exit button is.

The keys are in one vector, the key of a cell at index `nColumn + nRow * m_nTotColumns`. The vector
grows when there are more cells than names, and it never shrinks but by loading.

A spin button holds a number between its limits whatever is entered. The lists on the screen show
the vectors, so that only an existing column, row or cell can be chosen. The window itself, its
size and the log are left out; the selected server is in its own module.

## Main definitions

* `EditGrid`, `GridOp`, `EditGrid.perform`: the data and what the user can do with it.
* `GridConfig`, `EditGrid.saveStateToConfig`, `EditGrid.loadStateFromConfig`: the settings.
* `EditGrid.new`: a new window.
-/

namespace StmmInputBt

/-- `s_nEditInitialGridW` and `s_nEditInitialGridH`. -/
def editInitialGrid : ℕ := 3

/-- `s_nEditMaxGridW` and `s_nEditMaxGridH`. -/
def editMaxGrid : ℕ := 5

def editDefaultWeight : ℤ := 10
def editMinWeight : ℤ := 1
def editMaxWeight : ℤ := 1000

/-- What the user edits in the tabs of the window. -/
structure EditGrid where
  totColumns : ℕ
  totRows : ℕ
  editColumnsWeight : List ℤ
  editRowsWeight : List ℤ
  editHK : List HardwareKey
  editNames : List String
  keysFullscreen : Bool
  keysExitButtonPercX : ℤ
  keysExitButtonPercY : ℤ
  keysExitInCell : Bool
  keysExitButtonInCellColumn : ℤ
  keysExitButtonInCellRow : ℤ
  keysLogSentKeys : Bool
  deriving DecidableEq

/-- What the settings hold of it. -/
structure GridConfig where
  totColumns : ℤ
  totRows : ℤ
  columnWeights : List Char
  rowWeights : List Char
  cellKeys : List Char
  fullscreen : Bool
  exitButtonPercX : ℤ
  exitButtonPercY : ℤ
  exitInCell : Bool
  exitButtonInCellColumn : ℤ
  exitButtonInCellRow : ℤ
  logSentKeys : Bool

/-- The settings that nothing has been stored in. -/
def GridConfig.defaults : GridConfig where
  totColumns := 3
  totRows := 3
  columnWeights := []
  rowWeights := []
  cellKeys := []
  fullscreen := false
  exitButtonPercX := 50
  exitButtonPercY := 50
  exitInCell := false
  exitButtonInCellColumn := 1
  exitButtonInCellRow := 1
  logSentKeys := false

/-- What the user can do. A spin button is given the number that is entered. -/
inductive GridOp
  | onSpinNrColumnsChanged (nValue : ℤ)
  | onSpinNrRowsChanged (nValue : ℤ)
  /-- The weight entered for a listed column or row. -/
  | setWeight (nWeight : ℤ) (bColumn : Bool) (nColRow : ℕ)
  /-- The name of a key entered for a listed cell. -/
  | setKey (sKeyName : String) (nColumn nRow : ℕ)
  | onKeysFullscreenChanged (bActive : Bool)
  | onSpinExitPositionXChanged (nValue : ℤ)
  | onSpinExitPositionYChanged (nValue : ℤ)
  | onKeysExitInCellChanged (bActive : Bool)
  | onSpinExitInCellColumnChanged (nValue : ℤ)
  | onSpinExitInCellRowChanged (nValue : ℤ)
  | onKeysLogSentKeysChanged (bActive : Bool)

/-- The number moved between the limits, as in `loadStateFromConfig` and by a spin button. -/
def clampValue (nMin nMax n : ℤ) : ℤ :=
  if n < nMin then nMin else if n > nMax then nMax else n

namespace EditGrid

/-- The data before the settings are loaded. -/
def initial : EditGrid :=
  let aEditHK : List HardwareKey :=
    -- A, UP, B, LEFT, SPACE, RIGHT, LEFTCTRL, DOWN, LEFTALT
    [30, 103, 48, 105, 57, 106, 29, 108, 56,
     -- BTN_A, BTN_B, BTN_C, BTN_X, BTN_Y, BTN_Z
     304, 305, 306, 307, 308, 309] ++
      -- BTN_SELECT
      List.replicate (editMaxGrid * editMaxGrid - 15) 314
  { totColumns := editInitialGrid
    totRows := editInitialGrid
    editColumnsWeight := List.replicate editInitialGrid editDefaultWeight
    editRowsWeight := List.replicate editInitialGrid editDefaultWeight
    editHK := aEditHK
    editNames := aEditHK.map InputStrings.getKeyString
    keysFullscreen := false
    keysExitButtonPercX := 50
    keysExitButtonPercY := 50
    keysExitInCell := false
    keysExitButtonInCellColumn := (editInitialGrid / 2 : ℕ)
    keysExitButtonInCellRow := (editInitialGrid / 2 : ℕ)
    keysLogSentKeys := true }

/-- The key of a cell after loading: a stored code that is negative keeps the key, one without a
name stands for `HK_NULL`. -/
def loadKey (nHkCode : ℤ) (eCurrent : HardwareKey) : HardwareKey :=
  if nHkCode < 0 then eCurrent
  else
    let eHK : HardwareKey := BitVec.ofInt 32 nHkCode
    if InputStrings.getKeyString eHK = "" then hkNull else eHK

/-- The loop over the loaded codes. -/
def loadKeys (aCellKeys : List ℤ) (aEditHK : List HardwareKey) : List HardwareKey :=
  aEditHK.mapIdx fun nIdx eCurrent =>
    match aCellKeys[nIdx]? with
    | some nHkCode => loadKey nHkCode eCurrent
    | none => eCurrent

def loadStateFromConfig (oConf : GridConfig) (g : EditGrid) : EditGrid :=
  let nTotColumns := (clampValue 1 editMaxGrid oConf.totColumns).toNat
  let nTotRows := (clampValue 1 editMaxGrid oConf.totRows).toNat
  let nTotCells := nTotColumns * nTotRows
  let aCellKeys := stringToVector oConf.cellKeys nTotCells nTotCells (-1) int32Max (-1)
  let aEditHK := loadKeys aCellKeys (g.editHK.takeD nTotCells hkNull)
  { totColumns := nTotColumns
    totRows := nTotRows
    editColumnsWeight := stringToVector oConf.columnWeights nTotColumns nTotColumns editMinWeight
      editMaxWeight editDefaultWeight
    editRowsWeight := stringToVector oConf.rowWeights nTotRows nTotRows editMinWeight editMaxWeight
      editDefaultWeight
    editHK := aEditHK
    editNames := aEditHK.map InputStrings.getKeyString
    keysFullscreen := oConf.fullscreen
    keysExitButtonPercX := clampValue 0 100 oConf.exitButtonPercX
    keysExitButtonPercY := clampValue 0 100 oConf.exitButtonPercY
    keysExitInCell := oConf.exitInCell
    keysExitButtonInCellColumn := clampValue 0 (nTotColumns - 1) oConf.exitButtonInCellColumn
    keysExitButtonInCellRow := clampValue 0 (nTotRows - 1) oConf.exitButtonInCellRow
    keysLogSentKeys := oConf.logSentKeys }

/-- The constructor of the window. -/
def new (oConf : GridConfig) : EditGrid := initial.loadStateFromConfig oConf

def saveStateToConfig (g : EditGrid) : GridConfig where
  totColumns := g.totColumns
  totRows := g.totRows
  columnWeights := vectorToString g.editColumnsWeight
  rowWeights := vectorToString g.editRowsWeight
  cellKeys := vectorToString (g.editHK.map BitVec.toInt)
  fullscreen := g.keysFullscreen
  exitButtonPercX := g.keysExitButtonPercX
  exitButtonPercY := g.keysExitButtonPercY
  exitInCell := g.keysExitInCell
  exitButtonInCellColumn := g.keysExitButtonInCellColumn
  exitButtonInCellRow := g.keysExitButtonInCellRow
  logSentKeys := g.keysLogSentKeys

/-- The vectors of `recreateCellsKeyList`. -/
def recreateCellsKeyList (g : EditGrid) : EditGrid :=
  let nTotElements := g.totColumns * g.totRows
  if nTotElements > g.editNames.length then
    { g with
      editNames := g.editNames.takeD nTotElements ""
      editHK := g.editHK.takeD nTotElements hkNull }
  else g

/-- The two loops that push and pop weights until there are `nNewTot`. -/
def resizeWeights (nTot nNewTot : ℕ) (aWeight : List ℤ) : List ℤ :=
  List.dropLast^[nTot - nNewTot] (aWeight ++ List.replicate (nNewTot - nTot) editDefaultWeight)

def onSpinNrColumnsChanged (nValue : ℤ) (g : EditGrid) : EditGrid :=
  let nNewTotColumns := (clampValue 1 editMaxGrid nValue).toNat
  let g := recreateCellsKeyList
    { g with
      totColumns := nNewTotColumns
      editColumnsWeight := resizeWeights g.totColumns nNewTotColumns g.editColumnsWeight }
  if g.keysExitButtonInCellColumn ≥ g.totColumns then
    { g with keysExitButtonInCellColumn := g.totColumns - 1 }
  else g

def onSpinNrRowsChanged (nValue : ℤ) (g : EditGrid) : EditGrid :=
  let nNewTotRows := (clampValue 1 editMaxGrid nValue).toNat
  let g := recreateCellsKeyList
    { g with
      totRows := nNewTotRows
      editRowsWeight := resizeWeights g.totRows nNewTotRows g.editRowsWeight }
  if g.keysExitButtonInCellRow ≥ g.totRows then
    { g with keysExitButtonInCellRow := g.totRows - 1 }
  else g

/-- `setWeight`, with the weight of the spin button of `WeightScreen`. -/
def setWeight (nWeight : ℤ) (bColumn : Bool) (nColRow : ℕ) (g : EditGrid) : EditGrid :=
  let nWeight := clampValue editMinWeight editMaxWeight nWeight
  if bColumn then { g with editColumnsWeight := g.editColumnsWeight.set nColRow nWeight }
  else { g with editRowsWeight := g.editRowsWeight.set nColRow nWeight }

def setKey (eKey : HardwareKey) (nColumn nRow : ℕ) (g : EditGrid) : EditGrid :=
  let nIdx := nColumn + nRow * g.editColumnsWeight.length
  { g with
    editHK := g.editHK.set nIdx eKey
    editNames := g.editNames.set nIdx (InputStrings.getKeyString eKey) }

/-- The key of `KeyScreen::onButtonAnswerOk` is set. -/
def enterKey (sKeyName : String) (nColumn nRow : ℕ) (g : EditGrid) : EditGrid :=
  if nColumn < g.totColumns ∧ nRow < g.totRows then
    match InputStrings.getStringKey sKeyName with
    | none => g
    | some eKey => g.setKey eKey nColumn nRow
  else g

def perform (g : EditGrid) : GridOp → EditGrid
  | .onSpinNrColumnsChanged nValue => g.onSpinNrColumnsChanged nValue
  | .onSpinNrRowsChanged nValue => g.onSpinNrRowsChanged nValue
  | .setWeight nWeight bColumn nColRow => g.setWeight nWeight bColumn nColRow
  | .setKey sKeyName nColumn nRow => g.enterKey sKeyName nColumn nRow
  | .onKeysFullscreenChanged bActive => { g with keysFullscreen := bActive }
  | .onSpinExitPositionXChanged nValue => { g with keysExitButtonPercX := clampValue 1 100 nValue }
  | .onSpinExitPositionYChanged nValue => { g with keysExitButtonPercY := clampValue 1 100 nValue }
  | .onKeysExitInCellChanged bActive => { g with keysExitInCell := bActive }
  | .onSpinExitInCellColumnChanged nValue =>
    { g with keysExitButtonInCellColumn := clampValue 0 (g.totColumns - 1) nValue }
  | .onSpinExitInCellRowChanged nValue =>
    { g with keysExitButtonInCellRow := clampValue 0 (g.totRows - 1) nValue }
  | .onKeysLogSentKeysChanged bActive => { g with keysLogSentKeys := bActive }

/-- The grid of a new window after what the user has done. -/
def run (oConf : GridConfig) (ops : List GridOp) : EditGrid := ops.foldl perform (new oConf)

end EditGrid

end StmmInputBt
