import StmmInputBt.Foundation.Avoids
import StmmInputBt.Manager.Reentry

/-!
# A manager without null entries

As long as no entry of `m_aBtDevices` is null, no null device is used, whatever the listeners call
while they are handed an event: the calls of a listener remove no device.

## Main definitions

* `BtGtkDeviceManager.Full`: no entry is null.
* `BtGtkDeviceManager.KeepsFull`: listeners that use no null device.

## Main results

* `BtGtkDeviceManager.keepsFull_reenter`: the listeners that re-enter the manager.
* `BtGtkDeviceManager.KeepsFull.uiStepWith`, `BtGtkDeviceManager.KeepsFull.onBlueKey`,
  `BtGtkDeviceManager.KeepsFull.onDeviceRemoved`: the functions that call listeners.
-/

namespace StmmInputBt

namespace BtGtkDeviceManager

/-- None of the `n` entries of `m_aBtDevices` is null. -/
structure Full (n : ℕ) (m : BtGtkDeviceManager) : Prop where
  length : m.btDevices.length = n
  noNull : none ∉ m.btDevices

/-- No entry is null while a window is selected. -/
def Ready (n : ℕ) (m : BtGtkDeviceManager) : Prop := m.selected = none ∨ Full n m

variable {handle : Handler} {m t : BtGtkDeviceManager} {n nBackendId : ℕ}

theorem full_of_hasNull (h : m.hasNull = false) : Full m.btDevices.length m :=
  ⟨rfl, hasNull_eq_false.mp h⟩

namespace Full

variable (h : Full n m)
include h

theorem of_eq (heq : t.btDevices = m.btDevices) : Full n t :=
  ⟨by rw [heq, h.length], by rw [heq]; exact h.noNull⟩

theorem exists_device (hlt : nBackendId < n) : ∃ d, m.device nBackendId = some d := by
  rw [← h.length] at hlt
  cases hget : m.btDevices[nBackendId] with
  | none => exact absurd (hget ▸ List.getElem_mem hlt) h.noNull
  | some d => exact ⟨d, by simp [device, hlt, hget]⟩

theorem modifyDevice (nBackendId : ℕ) (f : BtKeysDevice → BtKeysDevice) :
    Full n (m.modifyDevice nBackendId f) := by
  refine ⟨by simp [BtGtkDeviceManager.modifyDevice, h.length], fun hmem => ?_⟩
  obtain ⟨i, hi⟩ := List.mem_iff_getElem?.mp hmem
  simp only [BtGtkDeviceManager.modifyDevice, List.getElem?_modify] at hi
  split_ifs at hi with heq
  · obtain ⟨o, ho, hnone⟩ := Option.map_eq_some_iff.mp hi
    obtain rfl := Option.map_eq_none_iff.mp hnone
    exact h.noNull (List.mem_of_getElem? ho)
  · rw [id_map'] at hi
    exact h.noNull (List.mem_of_getElem? hi)

end Full

/-- While no entry is null, the listeners use no null device and remove none. -/
def KeepsFull (n : ℕ) (handle : Handler) : Prop :=
  ∀ l e m, Full n m → Avoids .nullDevice (Full n) (handle l e m)

theorem avoids_assertion {α : Type} {Q : α → Prop} :
    Avoids Fault.nullDevice Q (.error .assertion) := by
  rw [Avoids]
  decide

theorem avoids_assertThat (b : Bool) :
    Avoids Fault.nullDevice (fun _ => b = true) (assertThat b) := by
  cases b with
  | true => exact rfl
  | false => exact avoids_assertion

theorem btDevices_endCanceling (m : BtGtkDeviceManager) :
    m.endCanceling.btDevices = m.btDevices := by
  rw [endCanceling]
  dsimp only
  split_ifs <;> rfl

theorem Full.endCanceling (h : Full n m) : Full n m.endCanceling :=
  h.of_eq (btDevices_endCanceling m)

/-- Nothing is cancelled while nothing is selected. -/
theorem cancelDeviceKeys_of_unselected (handle : Handler) {d : BtKeysDevice}
    (hd : m.device nBackendId = some d) (hsel : m.selected = none) :
    cancelDeviceKeys handle nBackendId m =
      .ok { m with cancelingNestedDepth := m.cancelingNestedDepth + 1 }.endCanceling := by
  let m₁ := { m with cancelingNestedDepth := m.cancelingNestedDepth + 1 }
  have hcancel : BtKeysDevice.cancelSelectedAccessorKeys handle nBackendId m₁ = .ok m₁ := by
    have hd₁ : m₁.device nBackendId = some d := hd
    have hsel₁ : m₁.selected = none := hsel
    simp only [BtKeysDevice.cancelSelectedAccessorKeys, hd₁, hsel₁]
    split_ifs <;> rfl
  exact congrArg (· >>= fun u => .ok u.endCanceling) hcancel

namespace KeepsFull

variable (hh : KeepsFull n handle)
include hh

/-! ### Cancels -/

theorem sendKeyEventToListener (l : ListenerData) (nPressedTimeStamp : ℕ) (e : KeyEvent)
    (h : Full n m) :
    Avoids .nullDevice (Full n)
      (BtKeysDevice.sendKeyEventToListener handle l nPressedTimeStamp e m) := by
  rw [BtKeysDevice.sendKeyEventToListener]
  split_ifs
  · exact h
  · exact hh l e m h

theorem cancelKey (l : ListenerData) (nPressedTimeStamp : ℕ) (e : KeyEvent) (h : Full n m) :
    Avoids .nullDevice (Full n) (BtKeysDevice.cancelKey handle l nPressedTimeStamp e m) := by
  rw [BtKeysDevice.cancelKey]
  split_ifs
  · exact h
  · exact hh.sendKeyEventToListener l nPressedTimeStamp e (h.of_eq rfl)

theorem cancelSelectedAccessorKeys (h : Full n m) (hlt : nBackendId < n) :
    Avoids .nullDevice (Full n) (BtKeysDevice.cancelSelectedAccessorKeys handle nBackendId m) := by
  obtain ⟨d, hd⟩ := h.exists_device hlt
  simp only [BtKeysDevice.cancelSelectedAccessorKeys, hd]
  split_ifs
  · exact h
  · exact h
  · cases m.selected with
    | none => exact h
    | some refSelected =>
      refine Avoids.bind (Q := Full n) ?_ fun u hu => hu.modifyDevice nBackendId _
      refine Avoids.foldlM (fun u x _ hu => ?_) h
      exact Avoids.foldlM (fun u l _ hu => hh.cancelKey l _ _ hu) hu

theorem cancelKeysOfListener (d : BtKeysDevice) (w : Window) (l : ListenerData)
    (xs : List (Sigma fun _ : HardwareKey => KeyData)) (h : Full n m) :
    Avoids .nullDevice (Full n) (BtKeysDevice.cancelKeysOfListener handle d w l xs m) := by
  induction xs generalizing m with
  | nil => exact h
  | cons x xs ih =>
    rw [BtKeysDevice.cancelKeysOfListener]
    split_ifs
    · exact ih h
    · have hcanceled : Full n (m.setKeyCanceled l.id x.1) := h.of_eq rfl
      refine (hh.sendKeyEventToListener l _ _ hcanceled).bind fun u hu => ?_
      split_ifs
      · exact hu
      · exact ih hu

theorem finalizeListener_device (l : ListenerData) (h : Full n m) (hlt : nBackendId < n) :
    Avoids .nullDevice (Full n) (BtKeysDevice.finalizeListener handle nBackendId l m) := by
  obtain ⟨d, hd⟩ := h.exists_device hlt
  simp only [BtKeysDevice.finalizeListener, hd]
  split_ifs
  · exact h
  · exact h
  · cases m.selected with
    | none => exact h
    | some refSelected => exact hh.cancelKeysOfListener d _ l _ h

omit hh in
theorem forEachDevice {f : ℕ → BtGtkDeviceManager → Except Fault BtGtkDeviceManager}
    (hf : ∀ nBackendId m, nBackendId < n → Full n m →
      Avoids .nullDevice (Full n) (f nBackendId m)) (h : Full n m) :
    Avoids .nullDevice (Full n) (m.forEachDevice f) := by
  rw [BtGtkDeviceManager.forEachDevice, h.length]
  exact Avoids.foldlM (fun u i hi hu => hf i u (List.mem_range.mp hi) hu) h

theorem deselectAccessor (h : Full n m) :
    Avoids .nullDevice (Full n) (BtGtkDeviceManager.deselectAccessor handle m) := by
  refine Avoids.bind (Q := Full n) ?_ fun u hu => ?_
  · exact forEachDevice (fun i u hlt hu => hh.cancelSelectedAccessorKeys hu hlt) (h.of_eq rfl)
  · exact Full.endCanceling (hu.of_eq rfl)

theorem finalizeListener (l : ListenerData) (h : Full n m) :
    Avoids .nullDevice (Full n) (BtGtkDeviceManager.finalizeListener handle l m) := by
  refine Avoids.bind (Q := Full n) ?_ fun u hu => hu.endCanceling
  exact forEachDevice (fun i u hlt hu => hh.finalizeListener_device l hu hlt) (h.of_eq rfl)

theorem cancelDeviceKeys (h : Full n m) (hlt : nBackendId < n) :
    Avoids .nullDevice (Full n) (BtGtkDeviceManager.cancelDeviceKeys handle nBackendId m) := by
  refine Avoids.bind (Q := Full n) ?_ fun u hu => hu.endCanceling
  exact hh.cancelSelectedAccessorKeys (h.of_eq rfl) hlt

/-! ### Keys and removals -/

theorem sendKeyToListeners (nPressedTimeStamp : ℕ) (e : KeyEvent) (ls : List ListenerData)
    (h : Full n m) : Avoids .nullDevice (Full n)
      (BtKeysDevice.sendKeyToListeners handle nBackendId nPressedTimeStamp e ls m) := by
  induction ls generalizing m with
  | nil => exact h
  | cons l ls ih =>
    refine (hh.sendKeyEventToListener l nPressedTimeStamp e h).bind fun u hu => ?_
    split_ifs
    · exact hu
    · exact ih hu

theorem onBlueKey_device (eType : KeyInputType) (eHK : HardwareKey) (refWindowData : WindowDataId)
    (h : Full n m) (hlt : nBackendId < n) :
    Avoids .nullDevice (fun r => Full n r.2)
      (BtKeysDevice.onBlueKey handle nBackendId eType eHK refWindowData m) := by
  obtain ⟨d, hd⟩ := h.exists_device hlt
  simp only [BtKeysDevice.onBlueKey, hd]
  split_ifs
  · exact h
  · exact h
  · refine Avoids.bind (Q := Full n) ?_ fun u hu => hu
    refine hh.sendKeyToListeners _ _ _ (Full.modifyDevice ?_ nBackendId _)
    exact h.of_eq rfl
  · cases d.pressedKeys.lookup eHK with
    | none => exact h
    | some oKeyData =>
      refine Avoids.bind (Q := Full n) ?_ fun u hu => hu
      exact hh.sendKeyToListeners _ _ _ (h.modifyDevice nBackendId _)

/-- A key is dropped while nothing is selected. -/
theorem onBlueKey (eType : KeyInputType) (eHK : HardwareKey) (h : Ready n m) :
    Avoids .nullDevice (fun r => Ready n r.2)
      (BtGtkDeviceManager.onBlueKey handle nBackendId eType eHK m) := by
  refine (avoids_assertThat _).bind fun _ hlt => ?_
  cases hsel : m.selected with
  | none => exact .inl hsel
  | some refSelected =>
    have hfull : Full n m := h.resolve_left (by simp [hsel])
    rw [decide_eq_true_eq, hfull.length] at hlt
    refine (avoids_assertThat _).bind fun _ _ => ?_
    exact (hh.onBlueKey_device eType eHK refSelected hfull hlt).mono fun _ => .inr

/-- The cancels of a device that is removed leave it where it is. -/
theorem cancelDeviceKeys_ready (h : Ready n m) (hd : (m.device nBackendId).isSome)
    (hlt : nBackendId < m.btDevices.length) :
    Avoids .nullDevice (fun t => (t.device nBackendId).isSome)
      (BtGtkDeviceManager.cancelDeviceKeys handle nBackendId m) := by
  rcases h with hsel | hfull
  · obtain ⟨d, hd⟩ := Option.isSome_iff_exists.mp hd
    rw [cancelDeviceKeys_of_unselected handle hd hsel]
    change (BtGtkDeviceManager.device _ _).isSome
    rw [device_of_btDevices_eq (btDevices_endCanceling _)]
    exact Option.isSome_of_eq_some hd
  · rw [hfull.length] at hlt
    refine (hh.cancelDeviceKeys hfull hlt).mono fun t ht => ?_
    obtain ⟨d, hd⟩ := ht.exists_device hlt
    simp [hd]

theorem onDeviceRemoved (h : Ready n m) :
    Avoids .nullDevice (fun _ => True)
      (BtGtkDeviceManager.onDeviceRemoved handle nBackendId m) := by
  refine (avoids_assertThat _).bind fun _ hlt => ?_
  refine (avoids_assertThat _).bind fun _ hd => ?_
  rw [decide_eq_true_eq] at hlt
  refine (hh.cancelDeviceKeys_ready h hd hlt).bind fun t ht => ?_
  obtain ⟨d, hd⟩ := Option.isSome_iff_exists.mp ht
  simp only [device_modifyDevice, if_true, hd, Option.map_some]
  trivial

/-! ### Windows -/

theorem removeAccessorAt (itGtkData : ℕ) (h : Ready n m) :
    Avoids .nullDevice (fun t => Full n m → Full n t)
      (BtGtkDeviceManager.removeAccessorAt handle itGtkData m) := by
  rw [BtGtkDeviceManager.removeAccessorAt]
  cases m.gtkWindowData[itGtkData]? with
  | none => exact avoids_assertion
  | some e =>
    dsimp only
    split_ifs with hsel
    · have hfull : Full n m := h.resolve_left (by simp_all)
      refine (hh.deselectAccessor ?_).mono fun t ht _ => ht
      exact hfull.of_eq rfl
    · exact fun hfull => hfull.of_eq rfl

theorem addAccessor (refAccessor : Accessor) (h : Ready n m) :
    Avoids .nullDevice (fun r => Full n m → Full n r.2)
      (BtGtkDeviceManager.addAccessor handle refAccessor m) := by
  rw [BtGtkDeviceManager.addAccessor]
  cases refAccessor.gtkWindow with
  | none => exact id
  | some w =>
    dsimp only
    split_ifs
    · -- a deleted window
      cases m.findWindow w with
      | none => exact id
      | some itFind => exact (hh.removeAccessorAt itFind h).bind fun u hu => hu
    · exact id
    · -- the new window is active
      cases hsel : (m.addWindowData w).selected with
      | none => exact fun hfull => hfull.of_eq rfl
      | some refSelected =>
        have hfull : Full n (m.addWindowData w) :=
          Full.of_eq (h.resolve_left fun hnone => by cases hnone.symm.trans hsel) rfl
        dsimp only
        split_ifs
        · cases (m.addWindowData w).findWindow _ with
          | none => exact avoids_assertion
          | some itSelectedFind =>
            refine (hh.removeAccessorAt itSelectedFind (.inr hfull)).bind fun u hu => ?_
            exact fun _ => (hu hfull).of_eq rfl
        · refine (hh.deselectAccessor hfull).bind fun u hu => ?_
          exact fun _ => hu.of_eq rfl
    · cases hsel : (m.addWindowData w).selected with
      | none => exact fun hfull => hfull.of_eq rfl
      | some refSelected =>
        have hfull : Full n (m.addWindowData w) :=
          Full.of_eq (h.resolve_left fun hnone => by cases hnone.symm.trans hsel) rfl
        exact (hh.deselectAccessor hfull).bind fun u hu _ => hu

theorem removeAccessor (refAccessor : Accessor) (h : Ready n m) :
    Avoids .nullDevice (fun r => Full n m → Full n r.2)
      (BtGtkDeviceManager.removeAccessor handle refAccessor m) := by
  rw [BtGtkDeviceManager.removeAccessor]
  cases refAccessor.gtkWindow.bind fun w => m.findWindow w with
  | none => exact id
  | some itFind => exact (hh.removeAccessorAt itFind h).bind fun u hu => hu

theorem onIsActiveChanged (refWindowData : WindowDataId) (h : Ready n m) :
    Avoids .nullDevice (fun t => Full n m → Full n t)
      (BtGtkDeviceManager.onIsActiveChanged handle refWindowData m) := by
  rw [BtGtkDeviceManager.onIsActiveChanged]
  dsimp only
  split_ifs with henabled hactive hsame hsel hsame
  · exact id
  · exact id
  · have hfull : Full n m := h.resolve_left (Option.isSome_iff_ne_none.mp hsel)
    exact (hh.deselectAccessor hfull).bind fun u hu _ => hu.of_eq rfl
  · exact fun hfull => hfull.of_eq rfl
  · have hfull : Full n m := h.resolve_left (by simp_all)
    exact (hh.deselectAccessor hfull).mono fun u hu _ => hu
  · exact id

/-- An operation on windows or listeners. A listener is only finalized while no entry is null. -/
theorem uiStepWith {op : UiOp} (hfinalize : ∀ l, op = .finalizeListener l → Full n m)
    (h : Ready n m) :
    Avoids .nullDevice (fun t => Full n m → Full n t)
      (BtGtkDeviceManager.uiStepWith handle m op) := by
  cases op with
  | addAccessor refAccessor => exact (hh.addAccessor refAccessor h).bind fun u hu => hu
  | removeAccessor refAccessor => exact (hh.removeAccessor refAccessor h).bind fun u hu => hu
  | activeChanged w isActive =>
    rw [BtGtkDeviceManager.uiStepWith, reportActive]
    cases (m.setWindow w { m.windows w with isActive }).gtkWindowData.find? (·.1 = w) with
    | none => exact fun hfull => hfull.of_eq rfl
    | some e =>
      have hset : Ready n (m.setWindow w { m.windows w with isActive }) :=
        h.imp id fun hfull => hfull.of_eq rfl
      exact (hh.onIsActiveChanged e.2 hset).mono fun t ht hfull => ht (hfull.of_eq rfl)
  | windowChanged | enableEventClass | removeListener => exact fun hfull => hfull.of_eq rfl
  | addListener l =>
    refine fun hfull => hfull.of_eq ?_
    rw [BtGtkDeviceManager.addListener]
    split_ifs <;> rfl
  | finalizeListener l => exact (hh.finalizeListener l (hfinalize l rfl)).mono fun t ht _ => ht

theorem makeCalls (next : ℕ → BtGtkDeviceManager → Option Call) (calls : ℕ) (h : Full n m) :
    Avoids .nullDevice (Full n) (BtGtkDeviceManager.makeCalls handle next calls m) := by
  induction calls generalizing m with
  | zero => exact h
  | succ calls ih =>
    rw [BtGtkDeviceManager.makeCalls]
    cases next calls m with
    | none => exact h
    | some c =>
      refine (hh.uiStepWith (fun l hl => h) (.inr h)).bind fun u hu => ih (hu h)

end KeepsFull

/-- Listeners that re-enter the manager use no null device, however deep their calls are nested. -/
theorem keepsFull_reenter (n : ℕ) (react : Reaction) (calls : ℕ) (deselecting : Bool)
    (depth : ℕ) : KeepsFull n (reenter react calls deselecting depth) := by
  induction depth generalizing deselecting with
  | zero => exact fun l e m h => h.of_eq rfl
  | succ depth ih =>
    intro l e m h
    exact (ih true).makeCalls _ calls (h.of_eq (t := m.recorded l e) rfl)

end BtGtkDeviceManager

end StmmInputBt
