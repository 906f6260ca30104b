import StmmInputBt.Window.CellPositions

/-!
# The keyboard and its grid

The keyboard over a session: the user edits the grid, opens and closes the keyboard and presses on
it, and it is drawn. The positions of the cells are computed only when it is drawn, while the
handlers of the presses take the numbers of columns and rows from the grid.

Between the opening and the next drawing the positions are those of the last drawing, or none.

## Main definitions

* `KeyboardSession`, `KeyboardOp`, `KeyboardSession.perform`.
* `KeyboardSession.AccessFits`: the property of a step.
* `KeyboardSession.DrawnBefore`: the condition on a step.

## Main results

* `KeyboardSession.accessFits_iff`.
-/

namespace StmmInputBt

/-- The cells that the keyboard shows. -/
def EditGrid.cellGrid (g : EditGrid) : CellGrid := ⟨g.totColumns, g.totRows, g.editHK⟩

/-- What happens to the keyboard, but for the drawing and the editing of its cells. -/
def ScreenOp.isInput : ScreenOp → Bool
  | .onCustomDraw _ => false
  | .setGrid _ => false
  | _ => true

namespace KeyboardScreen

/-- `onMouseButtonPressed` computes the rectangle of the exit button. -/
def testsExitButton (s : KeyboardScreen) : ScreenOp → Bool
  | .onMouseButtonPressed oEvent => s.running && oEvent.ownWindow
  | _ => false

/-- `getKeyFromCoords` is called. -/
def looksUpKey (s : KeyboardScreen) : ScreenOp → Bool
  | .onMouseButtonPressed oEvent =>
    s.running && oEvent.ownWindow &&
      !s.onExitButton (oEvent.x - s.layout.canvasX) (oEvent.y - s.layout.canvasY)
  | .onTouchEvent eType _ oEvent => s.running && oEvent.ownWindow && eType = .begin
  | _ => false

/-- The vectors that `getKeyFromCoords` reads have the sizes of the grid. -/
structure FitsGrid (s : KeyboardScreen) : Prop where
  columnPosX : s.layout.columnPosX.length = s.grid.totColumns + 1
  rowPosY : s.layout.rowPosY.length = s.grid.totRows + 1
  indices : ∀ cell ∈ s.cells,
    cell.1 + 1 < s.layout.columnPosX.length ∧ cell.2 + 1 < s.layout.rowPosY.length ∧
      cell.1 + s.grid.totColumns * cell.2 < s.grid.editHK.length

/-- The rectangle of the exit button is computed without overflow. -/
def ExitFits (nCenter : ℤ) : Prop :=
  lowest ≤ nCenter - exitButtonPix / 2 ∧ nCenter + exitButtonPix / 2 ≤ int32Max

variable {s : KeyboardScreen} {op : ScreenOp} {cell : ℕ × ℕ}

theorem mem_cells : cell ∈ s.cells ↔ cell.1 < s.grid.totColumns ∧ cell.2 < s.grid.totRows := by
  obtain ⟨nCol, nRow⟩ := cell
  simp [cells]

/-- The handlers leave the cells and the drawing alone. -/
theorem perform_of_isInput (h : op.isInput) :
    (s.perform op).grid = s.grid ∧ (s.perform op).layout = s.layout := by
  have hite : ∀ {b : Prop} [Decidable b] {x y : Bool × KeyboardScreen},
      (x.2.grid = s.grid ∧ x.2.layout = s.layout) → (y.2.grid = s.grid ∧ y.2.layout = s.layout) →
      (if b then x else y).2.grid = s.grid ∧ (if b then x else y).2.layout = s.layout := by
    intro b _ x y hx hy
    split_ifs
    · exact hx
    · exact hy
  cases op with
  | onButtonKeyboard => exact ⟨rfl, rfl⟩
  | onMouseButtonPressed oEvent =>
    exact hite ⟨rfl, rfl⟩ (hite ⟨rfl, rfl⟩ (hite ⟨rfl, rfl⟩ (hite ⟨rfl, rfl⟩ ⟨rfl, rfl⟩)))
  | onMouseButtonReleased oEvent => exact hite ⟨rfl, rfl⟩ (hite ⟨rfl, rfl⟩ ⟨rfl, rfl⟩)
  | onTouchEvent eType p0Finger oEvent =>
    refine hite ⟨rfl, rfl⟩ (hite ⟨rfl, rfl⟩ ?_)
    cases eType with
    | begin => exact hite ⟨rfl, rfl⟩ ⟨rfl, rfl⟩
    | update | finish | cancel => exact ⟨rfl, rfl⟩
  | onKeyPressEvent nGdkKeycode =>
    refine hite ⟨rfl, rfl⟩ ?_
    cases convertKeyCodeToHardwareKey nGdkKeycode with
    | none => exact ⟨rfl, rfl⟩
    | some eKey => exact hite ⟨rfl, rfl⟩ ⟨rfl, rfl⟩
  | onKeyReleaseEvent nGdkKeycode =>
    refine hite ⟨rfl, rfl⟩ ?_
    cases convertKeyCodeToHardwareKey nGdkKeycode with
    | none => exact ⟨rfl, rfl⟩
    | some eKey => exact hite ⟨rfl, rfl⟩ ⟨rfl, rfl⟩
  | onSigIsActiveChanged bWindowActive =>
    rw [perform, onSigIsActiveChanged]
    split_ifs
    · exact ⟨rfl, rfl⟩
    · exact ⟨rfl, rfl⟩
  | onButtonRemove => exact ⟨rfl, rfl⟩
  | onCustomDraw layout => cases h
  | setGrid grid => cases h

end KeyboardScreen

/-- The keyboard with the grid of the window. -/
structure KeyboardSession where
  grid : EditGrid
  screen : KeyboardScreen
  /-- The numbers of columns and rows that were drawn last. -/
  drawnSize : Option (ℕ × ℕ)

inductive KeyboardOp
  | edit (op : GridOp)
  | onCustomDraw (oAllocation : Allocation)
  | input (op : {op : ScreenOp // op.isInput})

namespace KeyboardSession

/-- The window of a program that starts with the settings. -/
def new (oConf : GridConfig) : KeyboardSession :=
  let oGrid := EditGrid.new oConf
  ⟨oGrid, .new oGrid.cellGrid, none⟩

def perform (oSize : CellSize) (s : KeyboardSession) : KeyboardOp → KeyboardSession
  | .edit op =>
    let oGrid := s.grid.perform op
    { s with grid := oGrid, screen := s.screen.perform (.setGrid oGrid.cellGrid) }
  | .onCustomDraw oAllocation =>
    { s with
      screen := s.screen.perform (.onCustomDraw (s.grid.drawLayout oSize oAllocation))
      drawnSize :=
        if s.screen.running then some (s.grid.totColumns, s.grid.totRows) else s.drawnSize }
  | .input op => { s with screen := s.screen.perform op }

/-- One thing happens; nothing fails. -/
def step (oSize : CellSize) (s : KeyboardSession) (op : KeyboardOp) :
    Except Empty KeyboardSession :=
  .ok (s.perform oSize op)

/-- The key lookup stays in its vectors, and the exit test in the range of its integers. -/
def AccessFits (s : KeyboardSession) (op : KeyboardOp) : Prop :=
  match op with
  | .input op =>
    (s.screen.looksUpKey op → s.screen.FitsGrid) ∧
      (s.screen.testsExitButton op →
        KeyboardScreen.ExitFits s.screen.layout.exitButtonCenterX ∧
          KeyboardScreen.ExitFits s.screen.layout.exitButtonCenterY)
  | _ => True

/-- A press on the keyboard comes after a drawing, and a press on its cells after a drawing of a
grid of the present size. -/
def DrawnBefore (s : KeyboardSession) (op : KeyboardOp) : Prop :=
  match op with
  | .input op =>
    (s.screen.looksUpKey op → s.drawnSize = some (s.grid.totColumns, s.grid.totRows)) ∧
      (s.screen.testsExitButton op → s.drawnSize ≠ none)
  | _ => True

/-- What the last drawing has left behind, or the constructor before the first one. -/
inductive Drawn (layout : CanvasLayout) : Option (ℕ × ℕ) → Prop
  | never (hcolumns : layout.columnPosX = [])
      (hexit : layout.exitButtonCenterX = KeyboardScreen.lowest) : Drawn layout none
  | last {nColumns nRows : ℕ} (hcolumns : layout.columnPosX.length = nColumns + 1)
      (hrows : layout.rowPosY.length = nRows + 1)
      (hexit : IsNearCanvas layout.exitButtonCenterX ∧ IsNearCanvas layout.exitButtonCenterY) :
      Drawn layout (some (nColumns, nRows))

/-- The invariant: the keyboard shows the grid. -/
structure Shows (s : KeyboardSession) : Prop where
  wellFormed : s.grid.WellFormed
  grid : s.screen.grid = s.grid.cellGrid
  drawn : Drawn s.screen.layout s.drawnSize

variable {oSize : CellSize} {s : KeyboardSession} {nCenter : ℤ}

theorem shows_new (oConf : GridConfig) : (new oConf).Shows :=
  ⟨EditGrid.wellFormed_new oConf, rfl, .never rfl rfl⟩

theorem Shows.perform (h : s.Shows) (op : KeyboardOp) : (s.perform oSize op).Shows := by
  cases op with
  | edit op => exact ⟨h.wellFormed.perform op, rfl, h.drawn⟩
  | onCustomDraw oAllocation =>
    rw [KeyboardSession.perform, KeyboardScreen.perform, KeyboardScreen.onCustomDraw]
    cases s.screen.running with
    | false => exact ⟨h.wellFormed, h.grid, h.drawn⟩
    | true =>
      obtain ⟨hcolumns, hrows⟩ := s.grid.length_drawLayout oAllocation
      exact ⟨h.wellFormed, h.grid, .last hcolumns hrows (h.wellFormed.isNearCanvas oAllocation)⟩
  | input op =>
    obtain ⟨hgrid, hlayout⟩ := KeyboardScreen.perform_of_isInput (s := s.screen) op.2
    exact ⟨h.wellFormed, hgrid.trans h.grid, by
      rw [KeyboardSession.perform, hlayout]
      exact h.drawn⟩

theorem exitFits_of_isNearCanvas (h : IsNearCanvas nCenter) : KeyboardScreen.ExitFits nCenter := by
  obtain ⟨hlow, hhigh⟩ := h
  rw [KeyboardScreen.ExitFits, KeyboardScreen.lowest, exitButtonPix, int32Max]
  omega

theorem not_exitFits_lowest : ¬ KeyboardScreen.ExitFits KeyboardScreen.lowest := by
  rw [KeyboardScreen.ExitFits, exitButtonPix]
  omega

/-- The vectors fit exactly if the present size is drawn. -/
theorem Shows.fitsGrid_iff (h : s.Shows) :
    s.screen.FitsGrid ↔ s.drawnSize = some (s.grid.totColumns, s.grid.totRows) := by
  have hcolumnsEq : s.screen.grid.totColumns = s.grid.totColumns := congrArg _ h.grid
  have hrowsEq : s.screen.grid.totRows = s.grid.totRows := congrArg _ h.grid
  constructor
  · intro hfits
    have hcolumnsFit := hfits.columnPosX
    have hrowsFit := hfits.rowPosY
    cases hdrawn : s.drawnSize with
    | none =>
      cases hdrawn ▸ h.drawn with
      | never hcolumns => simp [hcolumns] at hcolumnsFit
    | some size =>
      cases hdrawn ▸ h.drawn with
      | last hcolumns hrows =>
        congr 2
        · omega
        · omega
  · intro hdrawn
    cases hdrawn ▸ h.drawn with
    | last hcolumns hrows =>
      refine ⟨by omega, by omega, fun cell hcell => ?_⟩
      obtain ⟨hcolumn, hrow⟩ := KeyboardScreen.mem_cells.mp hcell
      have hindex := h.wellFormed.index_lt (hcolumnsEq ▸ hcolumn) (hrowsEq ▸ hrow)
      refine ⟨by omega, by omega, ?_⟩
      rw [h.grid, mul_comm]
      exact hindex

/-- The exit test fits exactly if the keyboard has been drawn. -/
theorem Shows.exitFits_iff (h : s.Shows) :
    (KeyboardScreen.ExitFits s.screen.layout.exitButtonCenterX ∧
      KeyboardScreen.ExitFits s.screen.layout.exitButtonCenterY) ↔ s.drawnSize ≠ none := by
  cases hdrawn : s.drawnSize with
  | none =>
    cases hdrawn ▸ h.drawn with
    | never _ hexit =>
      rw [hexit]
      simp [not_exitFits_lowest]
  | some size =>
    cases hdrawn ▸ h.drawn with
    | last _ _ hexit =>
      have hfits := hexit.imp exitFits_of_isNearCanvas exitFits_of_isNearCanvas
      simp [hfits]

theorem Shows.accessFits_step_iff (h : s.Shows) (op : KeyboardOp) :
    s.AccessFits op ↔ s.DrawnBefore op := by
  cases op with
  | edit op => exact Iff.rfl
  | onCustomDraw oAllocation => exact Iff.rfl
  | input op =>
    exact and_congr (imp_congr_right fun _ => h.fitsGrid_iff)
      (imp_congr_right fun _ => h.exitFits_iff)

/-- In every session every key lookup and every exit test fits exactly if each press comes after a
drawing, and each one on the cells after a drawing of a grid of the same size. -/
theorem accessFits_iff (oSize : CellSize) (oConf : GridConfig) (ops : List KeyboardOp) :
    Run.Guarded (step oSize) AccessFits (new oConf) ops ↔
      Run.Guarded (step oSize) DrawnBefore (new oConf) ops := by
  refine Run.guarded_congr_of_invariant (fun s op h => h.accessFits_step_iff op) ?_
    (shows_new oConf)
  rintro s op t h ⟨⟩
  exact h.perform op

/-- The keyboard is opened and pressed on before it is drawn. -/
def pressUndrawn : List KeyboardOp :=
  [.input ⟨.onButtonKeyboard, rfl⟩, .input ⟨.onMouseButtonPressed ⟨true, 50, 50⟩, rfl⟩]

/-- The press reads from an empty vector. -/
theorem not_accessFits_pressUndrawn :
    ¬ Run.Guarded (step .exact) AccessFits (new .defaults) pressUndrawn := by
  intro h
  have hpress := (h.2 _ rfl).1
  have hfits := hpress.1 (by decide +kernel)
  have hcolumns := hfits.columnPosX
  revert hcolumns
  decide +kernel

end KeyboardSession

end StmmInputBt
