import StmmInputBt.Server.VirtualCable

/-!
# Null devices

`m_aBtDevices` holds null for the slot of a removed device until the slot is reused, and
`deselectAccessor` and `finalizeListener` call a method on every entry. So they use a null device
whenever a slot is free.

## Main definitions

* `GtkBackend.TraversesFull`: the condition on a step.

## Main results

* `GtkBackend.noNullDevice_iff`: no null device is used along a run exactly when no window is
  deselected and no listener finalized while a slot is free.
-/

namespace StmmInputBt

namespace GtkBackend

open BtGtkDeviceManager

/-- When the step deselects a window or finalizes a listener no slot is free. -/
def TraversesFull (b : Server) : SystemOp → Prop
  | .ui op => b.owner.traverses op → emptyBdAddr ∉ b.permanentAddrs
  | _ => True

variable {b : Server} {order : ByteOrder}

/-- The null entries of `m_aBtDevices` are the free slots. -/
theorem VirtualCable.hasNull_iff (h : VirtualCable b) :
    b.owner.hasNull ↔ emptyBdAddr ∈ b.permanentAddrs := by
  rw [hasNull_eq_true, List.mem_iff_getElem?, List.mem_iff_getElem?]
  refine exists_congr fun i => ⟨fun hi => ?_, fun hi => ?_⟩
  · have hlt : i < b.permanentAddrs.length := by
      rw [← h.btDevices_length]
      exact (List.getElem?_eq_some_iff.mp hi).1
    have hdevice : b.owner.device i = none := by simp [device, hi]
    rw [List.getElem?_eq_getElem hlt]
    by_contra hne
    obtain ⟨d, hd, -⟩ :=
      h.usedDevice i _ (List.getElem?_eq_getElem hlt) fun heq => hne (by rw [heq])
    rw [hdevice] at hd
    cases hd
  · have hlt : i < b.owner.btDevices.length := by
      rw [h.btDevices_length]
      exact (List.getElem?_eq_some_iff.mp hi).1
    have hdevice := h.freeDevice i hi
    rw [List.getElem?_eq_getElem hlt]
    simpa [device, hlt] using hdevice

/-- A step succeeds exactly when it does not traverse a null device. -/
theorem VirtualCable.step_ok_iff (h : VirtualCable b) (op : SystemOp) :
    (∃ t, b.step order op = .ok t) ↔ b.TraversesFull op := by
  constructor
  · rintro ⟨t, ht⟩
    cases op with
    | ui uiOp =>
      intro htraverses hfree
      have hui := uiStep_of_traverses h.sound.toWindowsTracked htraverses (h.hasNull_iff.mpr hfree)
      have hstep : b.step order (.ui uiOp) = .error .nullDevice := by
        simp only [GtkBackend.step, hui]
        rfl
      cases hstep.symm.trans ht
    | _ => trivial
  · intro hfull
    cases ht : b.step order op with
    | ok t => exact ⟨t, rfl⟩
    | error e =>
      obtain ⟨uiOp, rfl, hui⟩ := h.step_eq_error ht
      obtain ⟨-, htraverses, hnull⟩ := uiStep_eq_error h.sound.toWindowsTracked hui
      exact absurd (h.hasNull_iff.mp hnull) (hfull htraverses)

/-- **No null device is used** along a run exactly when no window is deselected and no listener
finalized while a slot is free. -/
theorem noNullDevice_iff (order : ByteOrder) (enabledEventClasses : EventClass → Bool)
    (windows : Window → WindowState) (ops : List SystemOp) :
    Run.exec (step order) (start (create enabledEventClasses windows)) ops ≠ .error .nullDevice ↔
      Run.Guarded (step order) TraversesFull (start (create enabledEventClasses windows)) ops := by
  have hstart := virtualCable_start enabledEventClasses windows
  rw [← Run.exec_ok_iff_guarded (I := VirtualCable) (fun _ _ _ hb ht => (hb.step ht).1)
    (fun _ op hb => hb.step_ok_iff op) hstart]
  cases hrun : Run.exec (step order) (start (create enabledEventClasses windows)) ops with
  | ok b => simp
  | error e => simp [hstart.run_eq_error hrun]

/-- A client connects and is removed; then the selected window is removed. -/
def removeThenDeselect : List SystemOp :=
  [.ui (.addAccessor (.gtk 0)), .accept 5 clientAddr,
    .dispatch 0 ioInOnly (.received pressThenRemove) ⟨0, 0, 0, 0, 0⟩,
    .ui (.removeAccessor (.gtk 0))]

/-- The same, but a listener is finalized. -/
def removeThenFinalize : List SystemOp :=
  [.accept 5 clientAddr,
    .dispatch 0 ioInOnly (.received pressThenRemove) ⟨0, 0, 0, 0, 0⟩,
    .ui (.finalizeListener ⟨0, 0⟩)]

theorem nullDevice_removeThenDeselect :
    Run.exec (step .little) startAmongActive removeThenDeselect = .error .nullDevice ∧
      Run.exec (step .little) startAmongActive removeThenFinalize = .error .nullDevice :=
  ⟨rfl, rfl⟩

end GtkBackend

end StmmInputBt
