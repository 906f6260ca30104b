import StmmInputBt.Foundation.Run
import StmmInputBt.Window.BtkbWindow

/-!
# The virtual keyboard

`KeyboardScreen` (`keyboardscreen.cc`) with its window. While the keyboard is open, presses on its
cells and on the real keyboard press and release keys; while it is closed they are ignored. When
the window stops being active, and when the removal of the device is requested, all keys are
canceled. The exit button, however, only closes the keyboard: what another input holds at that
moment stays pressed.

Coordinates are rational numbers. What the last drawing has left behind, the positions of the
cells and of the exit button, is any `CanvasLayout`. What GTK is asked to draw, to resize or to
show is left out.

## Main definitions

* `KeyboardScreen`, `ScreenOp`, `KeyboardScreen.step`: the event handlers.
* `KeyboardScreen.KeysReleased`: no key is held while the keyboard is closed.
* `KeyboardScreen.ExitsReleased`: the condition on a step.

## Main results

* `KeyboardScreen.keysReleased_iff`.
-/

namespace StmmInputBt

/-- What `onCustomDraw` computes. -/
structure CanvasLayout where
  columnPosX : List ℤ
  rowPosY : List ℤ
  canvasX : ℤ
  canvasY : ℤ
  exitButtonCenterX : ℤ
  exitButtonCenterY : ℤ

/-- The cells of the keyboard as the user has set them up. -/
structure CellGrid where
  totColumns : ℕ
  totRows : ℕ
  editHK : List HardwareKey

/-- `s_nMargin`. -/
def screenMargin : ℤ := 3

/-- `s_nExitButtonPixW` and `s_nExitButtonPixH`. -/
def exitButtonPix : ℤ := 16

/-- The event of a pointer. -/
structure PointerEvent where
  /-- The event is for the window of the keyboard. -/
  ownWindow : Bool
  x : ℚ
  y : ℚ

/-- The type of a `GdkEventTouch`. -/
inductive TouchType
  | begin
  | update
  | finish
  | cancel
  deriving DecidableEq

structure KeyboardScreen where
  btkbWindow : BtkbWindow
  grid : CellGrid
  layout : CanvasLayout
  running : Bool

/-- What can happen to the keyboard. -/
inductive ScreenOp
  | onButtonKeyboard
  | onMouseButtonPressed (oEvent : PointerEvent)
  | onMouseButtonReleased (oEvent : PointerEvent)
  | onTouchEvent (eType : TouchType) (p0Finger : ℕ) (oEvent : PointerEvent)
  | onKeyPressEvent (nGdkKeycode : BitVec 16)
  | onKeyReleaseEvent (nGdkKeycode : BitVec 16)
  /-- The signal, with what `isWindowActive` returns. -/
  | onSigIsActiveChanged (bWindowActive : Bool)
  | onButtonRemove
  | onCustomDraw (layout : CanvasLayout)
  /-- The user changes the cells. -/
  | setGrid (grid : CellGrid)

namespace KeyboardScreen

/-- The coordinate that a window has before anything is drawn. -/
def lowest : ℤ := -2 ^ 31

def new (grid : CellGrid) : KeyboardScreen where
  btkbWindow := .new
  grid
  layout := ⟨[], [], 0, 0, lowest, lowest⟩
  running := false

def convertKeyCodeToHardwareKey (nGdkKeycode : BitVec 16) : Option HardwareKey :=
  let nLinuxCode : ℤ := nGdkKeycode.toNat - 8
  if nLinuxCode < 0 then none else some (BitVec.ofInt 32 nLinuxCode)

/-- The cells in the order in which `getKeyFromCoords` looks at them. -/
def cells (s : KeyboardScreen) : List (ℕ × ℕ) :=
  (List.range s.grid.totColumns).flatMap fun nCol =>
    (List.range s.grid.totRows).map fun nRow => (nCol, nRow)

def inCell (fX fY : ℚ) (s : KeyboardScreen) (cell : ℕ × ℕ) : Bool :=
  let nX := s.layout.columnPosX.getD cell.1 0
  let nY := s.layout.rowPosY.getD cell.2 0
  let nX2 := s.layout.columnPosX.getD (cell.1 + 1) 0 - screenMargin
  let nY2 := s.layout.rowPosY.getD (cell.2 + 1) 0 - screenMargin
  nX ≤ fX && fX < nX2 && nY ≤ fY && fY < nY2

def getKeyFromCoords (fX fY : ℚ) (s : KeyboardScreen) : HardwareKey :=
  match s.cells.find? (s.inCell fX fY) with
  | some (nCol, nRow) => s.grid.editHK.getD (nCol + s.grid.totColumns * nRow) hkNull
  | none => hkNull

/-- The pointer is on the exit button. -/
def onExitButton (fX fY : ℚ) (s : KeyboardScreen) : Bool :=
  let nX := s.layout.exitButtonCenterX
  let nY := s.layout.exitButtonCenterY
  (nX - exitButtonPix / 2 : ℤ) ≤ fX && (nY - exitButtonPix / 2 : ℤ) ≤ fY &&
    fX < (nX + exitButtonPix / 2 : ℤ) && fY < (nY + exitButtonPix / 2 : ℤ)

/-- Act on the keys of the window. -/
def setWindow (w : Bool × BtkbWindow) (s : KeyboardScreen) : KeyboardScreen :=
  { s with btkbWindow := w.2 }

def changeTo (s : KeyboardScreen) : KeyboardScreen := { s with running := true }

def onMouseButtonPressed (oEvent : PointerEvent) (s : KeyboardScreen) : Bool × KeyboardScreen :=
  if !s.running then (false, s)
  else if !oEvent.ownWindow then (false, s)
  else
    let fX := oEvent.x - s.layout.canvasX
    let fY := oEvent.y - s.layout.canvasY
    if s.onExitButton fX fY then (true, { s with running := false })
    else
      let eKey := s.getKeyFromCoords fX fY
      if eKey ≠ hkNull then (true, s.setWindow (s.btkbWindow.pressMouseKey eKey)) else (true, s)

def onMouseButtonReleased (oEvent : PointerEvent) (s : KeyboardScreen) : Bool × KeyboardScreen :=
  if !s.running then (false, s)
  else if !oEvent.ownWindow then (false, s)
  else (true, s.setWindow s.btkbWindow.releaseMouseKey)

def onTouchEvent (eType : TouchType) (p0Finger : ℕ) (oEvent : PointerEvent) (s : KeyboardScreen) :
    Bool × KeyboardScreen :=
  if !s.running then (false, s)
  else if !oEvent.ownWindow then (false, s)
  else match eType with
    | .begin =>
      let eKey := s.getKeyFromCoords (oEvent.x - s.layout.canvasX) (oEvent.y - s.layout.canvasY)
      if eKey ≠ hkNull then (true, s.setWindow (s.btkbWindow.pressFingerKey eKey p0Finger))
      else (true, s)
    | .finish => (true, s.setWindow (s.btkbWindow.releaseFingerKey p0Finger false))
    | .cancel => (true, s.setWindow (s.btkbWindow.releaseFingerKey p0Finger true))
    | .update => (true, s)

def onKeyPressEvent (nGdkKeycode : BitVec 16) (s : KeyboardScreen) : Bool × KeyboardScreen :=
  if !s.running then (false, s)
  else match convertKeyCodeToHardwareKey nGdkKeycode with
    | none => (false, s)
    | some eKey =>
      if eKey ≠ hkNull then (true, s.setWindow (s.btkbWindow.pressKeyboardKey eKey)) else (true, s)

def onKeyReleaseEvent (nGdkKeycode : BitVec 16) (s : KeyboardScreen) : Bool × KeyboardScreen :=
  if !s.running then (false, s)
  else match convertKeyCodeToHardwareKey nGdkKeycode with
    | none => (false, s)
    | some eKey =>
      if eKey ≠ hkNull then (true, s.setWindow (s.btkbWindow.releaseKeyboardKey eKey))
      else (true, s)

def onSigIsActiveChanged (bWindowActive : Bool) (s : KeyboardScreen) : KeyboardScreen :=
  if s.running && !bWindowActive then { s with btkbWindow := s.btkbWindow.finalizeKeys } else s

/-- Nothing is drawn while the keyboard is closed. -/
def onCustomDraw (layout : CanvasLayout) (s : KeyboardScreen) : KeyboardScreen :=
  if !s.running then s else { s with layout }

def perform (s : KeyboardScreen) : ScreenOp → KeyboardScreen
  | .onButtonKeyboard => s.changeTo
  | .onMouseButtonPressed oEvent => (s.onMouseButtonPressed oEvent).2
  | .onMouseButtonReleased oEvent => (s.onMouseButtonReleased oEvent).2
  | .onTouchEvent eType p0Finger oEvent => (s.onTouchEvent eType p0Finger oEvent).2
  | .onKeyPressEvent nGdkKeycode => (s.onKeyPressEvent nGdkKeycode).2
  | .onKeyReleaseEvent nGdkKeycode => (s.onKeyReleaseEvent nGdkKeycode).2
  | .onSigIsActiveChanged bWindowActive => s.onSigIsActiveChanged bWindowActive
  | .onButtonRemove => { s with btkbWindow := s.btkbWindow.onButtonRemove }
  | .onCustomDraw layout => s.onCustomDraw layout
  | .setGrid grid => { s with grid }

/-- One thing happens; no handler fails. -/
def step (s : KeyboardScreen) (op : ScreenOp) : Except Empty KeyboardScreen := .ok (s.perform op)

/-- While the keyboard is closed no key is held, and the last event sent for a key, if any, is its
release or its cancel. -/
def KeysReleased (s : KeyboardScreen) : Prop :=
  s.running = false → s.btkbWindow.pressedKeys = [] ∧
    ∀ eKey, ∀ eType ∈ (s.btkbWindow.keyEvents eKey).getLast?, BtkbWindow.IsRelease eType

/-- The exit button of an open keyboard is pressed. -/
def exits (s : KeyboardScreen) : ScreenOp → Bool
  | .onMouseButtonPressed oEvent =>
    s.running && oEvent.ownWindow &&
      s.onExitButton (oEvent.x - s.layout.canvasX) (oEvent.y - s.layout.canvasY)
  | _ => false

/-- The exit button is only pressed while no key is held. -/
def ExitsReleased (s : KeyboardScreen) (op : ScreenOp) : Prop :=
  s.exits op → s.btkbWindow.pressedKeys = []

instance (s : KeyboardScreen) (op : ScreenOp) : Decidable (s.ExitsReleased op) :=
  inferInstanceAs (Decidable (_ → _))

variable {s t : KeyboardScreen} {op : ScreenOp}

/-! ### What a handler does -/

/-- What a handler does: it leaves the window and the running flag alone, it opens the keyboard, it
acts on the keys while the keyboard is open, or the exit button closes it. -/
inductive ScreenCase (s : KeyboardScreen) (op : ScreenOp) (t : KeyboardScreen) : Prop
  | idle (hexits : s.exits op = false) (hwindow : t.btkbWindow = s.btkbWindow)
      (hrunning : t.running = s.running)
  | opened (hexits : s.exits op = false) (hwindow : t.btkbWindow = s.btkbWindow)
      (hrunning : t.running)
  | keys (hexits : s.exits op = false) (hs : s.running) (hrunning : t.running)
      (windowOp : WindowOp) (hwindow : t.btkbWindow = s.btkbWindow.perform windowOp)
  | removed (hexits : s.exits op = false) (hrunning : t.running = s.running)
      (hwindow : t.btkbWindow = s.btkbWindow.onButtonRemove)
  | exited (hexits : s.exits op) (hwindow : t.btkbWindow = s.btkbWindow)
      (hrunning : t.running = false)

theorem screenCase_refl (hexits : s.exits op = false) : ScreenCase s op s := .idle hexits rfl rfl

/-- A handler that acts on the keys of an open keyboard. -/
theorem screenCase_keys (hexits : s.exits op = false) (hs : s.running) (windowOp : WindowOp)
    {w : Bool × BtkbWindow} (hw : w.2 = s.btkbWindow.perform windowOp) :
    ScreenCase s op (s.setWindow w) :=
  .keys hexits hs hs windowOp hw

theorem screenCase_onMouseButtonPressed (oEvent : PointerEvent) :
    ScreenCase s (.onMouseButtonPressed oEvent) (s.onMouseButtonPressed oEvent).2 := by
  rw [onMouseButtonPressed]
  cases hs : s.running with
  | false => exact screenCase_refl (by simp [exits, hs])
  | true =>
    cases hown : oEvent.ownWindow with
    | false => exact screenCase_refl (by simp [exits, hown])
    | true =>
      simp only [Bool.not_true, Bool.false_eq_true, if_false]
      split_ifs with hexit hkey
      · exact .exited (by simp [exits, hs, hown, hexit]) rfl rfl
      · exact screenCase_keys (by simp [exits, hexit]) hs (.pressMouseKey _) rfl
      · exact screenCase_refl (by simp [exits, hexit])

theorem screenCase_onTouchEvent (eType : TouchType) (p0Finger : ℕ) (oEvent : PointerEvent) :
    ScreenCase s (.onTouchEvent eType p0Finger oEvent)
      (s.onTouchEvent eType p0Finger oEvent).2 := by
  rw [onTouchEvent.eq_def]
  cases hs : s.running with
  | false => exact screenCase_refl rfl
  | true =>
    cases oEvent.ownWindow with
    | false => exact screenCase_refl rfl
    | true =>
      simp only [Bool.not_true, Bool.false_eq_true, if_false]
      cases eType with
      | begin =>
        dsimp only
        split_ifs
        · exact screenCase_keys rfl hs (.pressFingerKey _ p0Finger) rfl
        · exact screenCase_refl rfl
      | update => exact screenCase_refl rfl
      | finish => exact screenCase_keys rfl hs (.releaseFingerKey p0Finger false) rfl
      | cancel => exact screenCase_keys rfl hs (.releaseFingerKey p0Finger true) rfl

/-- The two handlers for keys of a real keyboard differ in what they ask of the window. -/
theorem screenCase_onKeyEvent (hexits : s.exits op = false) (nGdkKeycode : BitVec 16)
    {onKey : HardwareKey → Bool × BtkbWindow} (windowOp : HardwareKey → WindowOp)
    (hkey : ∀ eKey, (onKey eKey).2 = s.btkbWindow.perform (windowOp eKey)) :
    ScreenCase s op
      (if !s.running then (false, s)
      else match convertKeyCodeToHardwareKey nGdkKeycode with
        | none => (false, s)
        | some eKey =>
          if eKey ≠ hkNull then (true, s.setWindow (onKey eKey)) else (true, s)).2 := by
  cases hs : s.running with
  | false => exact screenCase_refl hexits
  | true =>
    simp only [Bool.not_true, Bool.false_eq_true, if_false]
    cases convertKeyCodeToHardwareKey nGdkKeycode with
    | none => exact screenCase_refl hexits
    | some eKey =>
      dsimp only
      split_ifs
      · exact screenCase_keys hexits hs (windowOp eKey) (hkey eKey)
      · exact screenCase_refl hexits

/-- **What happens to the keyboard.** -/
theorem perform_cases (s : KeyboardScreen) (op : ScreenOp) : ScreenCase s op (s.perform op) := by
  cases op with
  | onButtonKeyboard => exact .opened rfl rfl rfl
  | onMouseButtonPressed oEvent => exact screenCase_onMouseButtonPressed oEvent
  | onMouseButtonReleased oEvent =>
    rw [perform, onMouseButtonReleased]
    cases hs : s.running with
    | false => exact screenCase_refl rfl
    | true =>
      cases oEvent.ownWindow with
      | false => exact screenCase_refl rfl
      | true => exact screenCase_keys rfl hs .releaseMouseKey rfl
  | onTouchEvent eType p0Finger oEvent => exact screenCase_onTouchEvent eType p0Finger oEvent
  | onKeyPressEvent nGdkKeycode =>
    exact screenCase_onKeyEvent rfl nGdkKeycode .pressKeyboardKey fun _ => rfl
  | onKeyReleaseEvent nGdkKeycode =>
    exact screenCase_onKeyEvent rfl nGdkKeycode .releaseKeyboardKey fun _ => rfl
  | onSigIsActiveChanged bWindowActive =>
    rw [perform, onSigIsActiveChanged]
    split_ifs with hinactive
    · rw [Bool.and_eq_true] at hinactive
      exact .keys rfl hinactive.1 hinactive.1 .finalizeKeys rfl
    · exact screenCase_refl rfl
  | onButtonRemove => exact .removed rfl rfl rfl
  | onCustomDraw layout =>
    rw [perform, onCustomDraw]
    split_ifs
    · exact screenCase_refl rfl
    · exact .idle rfl rfl rfl
  | setGrid grid => exact .idle rfl rfl rfl

/-! ### Runs -/

/-- The keys are merged, and none is held while the keyboard is closed. -/
structure Quiet (s : KeyboardScreen) : Prop where
  merged : s.btkbWindow.Merged
  closed : s.running = false → s.btkbWindow.pressedKeys = []

theorem Quiet.keysReleased (h : s.Quiet) : s.KeysReleased := by
  refine fun hs => ⟨h.closed hs, fun eKey eType hlast => ?_⟩
  have hnot : ¬ s.btkbWindow.isKeyPressed eKey := by
    rw [BtkbWindow.isKeyPressed, h.closed hs]
    exact Bool.false_ne_true
  exact ((h.merged.alternates eKey).of_iff (iff_false_intro hnot)).closes_last hlast

theorem Quiet.perform (h : s.Quiet) (hguard : s.ExitsReleased op) : (s.perform op).Quiet := by
  cases s.perform_cases op with
  | idle _ hwindow hrunning =>
    refine ⟨by rw [hwindow]; exact h.merged, fun ht => ?_⟩
    rw [hwindow]
    exact h.closed (hrunning ▸ ht)
  | opened _ hwindow hrunning =>
    refine ⟨by rw [hwindow]; exact h.merged, fun ht => ?_⟩
    exact absurd (ht.symm.trans hrunning) Bool.false_ne_true
  | keys _ _ hrunning windowOp hwindow =>
    refine ⟨by rw [hwindow]; exact h.merged.perform windowOp, fun ht => ?_⟩
    exact absurd (ht.symm.trans hrunning) Bool.false_ne_true
  | removed _ hrunning hwindow =>
    refine ⟨by rw [hwindow]; exact h.merged.perform .onButtonRemove, fun _ => ?_⟩
    rw [hwindow]
    exact (BtkbWindow.finalized_finalizeKeys _).pressedKeys
  | exited hexits hwindow _ =>
    refine ⟨by rw [hwindow]; exact h.merged, fun _ => ?_⟩
    rw [hwindow]
    exact hguard hexits

/-- **No key is held while the keyboard is closed**, along a run, if and only if the exit button is
only pressed while no key is held. -/
theorem keysReleased_iff (grid : CellGrid) (ops : List ScreenOp) :
    Run.Always step KeysReleased (new grid) ops ↔
      Run.Guarded step ExitsReleased (new grid) ops := by
  refine Run.always_iff_guarded_of_invariant (J := Quiet) (fun _ h => h.keysReleased) ?_ ?_
    ⟨BtkbWindow.merged_run [], fun _ => rfl⟩
  · intro s op t h hguard hstep
    cases hstep
    exact h.perform hguard
  · intro s op h hguard
    rw [ExitsReleased, Classical.not_imp] at hguard
    obtain ⟨hexits, hheld⟩ := hguard
    refine ⟨_, rfl, fun hreleased => hheld ?_⟩
    cases s.perform_cases op with
    | exited _ hwindow hrunning => exact hwindow ▸ (hreleased hrunning).1
    | idle hno | opened hno | keys hno | removed hno =>
      exact absurd (hno.symm.trans hexits) Bool.false_ne_true

/-- One cell with the key `30` on a canvas of 100 by 100, the exit button in its middle. -/
def oneCellLayout : CanvasLayout := ⟨[0, 103], [0, 103], 0, 0, 50, 50⟩

/-- A key of the real keyboard is held while the exit button is clicked. -/
def exitWhileHeld : List ScreenOp :=
  [.onButtonKeyboard, .onCustomDraw oneCellLayout, .onKeyPressEvent 38,
    .onMouseButtonPressed ⟨true, 50, 50⟩]

theorem not_keysReleased_exitWhileHeld :
    ¬ Run.Always step KeysReleased (new ⟨1, 1, [30]⟩) exitWhileHeld := by
  intro h
  have hrun : (Run.exec step (new ⟨1, 1, [30]⟩) exitWhileHeld).toOption.map
      (fun s => (s.running, s.btkbWindow.pressedKeys)) =
        some (false, [⟨30, .keyboard, none⟩]) := by decide +kernel
  obtain ⟨s, hexec, hview⟩ := Run.exists_exec_of_view hrun
  rw [Prod.mk.injEq] at hview
  have hempty := (h.last hexec hview.1).1
  rw [hview.2] at hempty
  cases hempty

end KeyboardScreen

end StmmInputBt
