import StmmInputBt.Manager.DeviceManager
import Mathlib.Data.List.ReduceOption

/-!
# Cancels with listeners that do not re-enter

With the handler `record` the loops over devices, pressed keys and listeners only change the
memory of the listeners and the record of what they were handed (`Memory`), and the pressed keys
of the devices. This file computes the result of every function that cancels keys.

* `Memory.cancelAll` is the effect of the loops over keys and listeners.
* `BtGtkDeviceManager.pressedCancels` lists the cancels of all pressed keys, in the order in
  which the loops visit them.

## Main results

* `BtGtkDeviceManager.deselectAccessor_record`, `BtGtkDeviceManager.finalizeListener_record`,
  `BtGtkDeviceManager.cancelDeviceKeys_record`: the results as closed terms.
* `BtGtkDeviceManager.deselectAccessor_record_null`,
  `BtGtkDeviceManager.finalizeListener_record_null`: a null entry of `m_aBtDevices` is used.
-/

namespace StmmInputBt

/-- What the listeners remember, and what they were handed. -/
structure Memory where
  canceledKeys : ListenerId → List HardwareKey
  deliveries : List Delivery

/-- A cancel with the time stamp of the press it cancels. -/
structure Cancel where
  pressedTimeStamp : ℕ
  event : KeyEvent
  deriving DecidableEq

namespace Memory

/-- Offer a cancel to one listener. -/
def cancel (l : ListenerData) (x : Cancel) (μ : Memory) : Memory :=
  if x.event.key ∈ μ.canceledKeys l.id then μ
  else
    { canceledKeys :=
        Function.update μ.canceledKeys l.id (μ.canceledKeys l.id ++ [x.event.key])
      deliveries :=
        if x.pressedTimeStamp < l.addedTimeStamp then μ.deliveries
        else μ.deliveries ++ [.key l.id x.event] }

/-- Offer cancels, one after the other, to every listener. -/
def cancelAll (ls : List ListenerData) (xs : List Cancel) (μ : Memory) : Memory :=
  xs.foldl (fun μ x => ls.foldl (fun μ l => μ.cancel l x) μ) μ

@[simp] theorem cancelAll_nil (ls : List ListenerData) (μ : Memory) : μ.cancelAll ls [] = μ := rfl

theorem cancelAll_append (ls : List ListenerData) (xs ys : List Cancel) (μ : Memory) :
    μ.cancelAll ls (xs ++ ys) = (μ.cancelAll ls xs).cancelAll ls ys :=
  List.foldl_append

/-- Only key events are handed out. -/
theorem cancel_deliveries (l : ListenerData) (x : Cancel) (μ : Memory) :
    ∃ es : List (ListenerId × KeyEvent),
      (μ.cancel l x).deliveries = μ.deliveries ++ es.map fun e => .key e.1 e.2 := by
  rw [cancel]
  split_ifs
  · exact ⟨[], by simp⟩
  · exact ⟨[], by simp⟩
  · exact ⟨[(l.id, x.event)], by simp⟩

theorem cancelAll_deliveries (ls : List ListenerData) (xs : List Cancel) (μ : Memory) :
    ∃ es : List (ListenerId × KeyEvent),
      (μ.cancelAll ls xs).deliveries = μ.deliveries ++ es.map fun e => .key e.1 e.2 := by
  induction xs generalizing μ with
  | nil => exact ⟨[], by simp⟩
  | cons x xs ih =>
    obtain ⟨es, hes⟩ : ∃ es : List (ListenerId × KeyEvent),
        (ls.foldl (fun μ l => μ.cancel l x) μ).deliveries =
          μ.deliveries ++ es.map fun e => .key e.1 e.2 := by
      clear ih
      induction ls generalizing μ with
      | nil => exact ⟨[], by simp⟩
      | cons l ls ih =>
        obtain ⟨fs, hfs⟩ := cancel_deliveries l x μ
        obtain ⟨gs, hgs⟩ := ih (μ.cancel l x)
        exact ⟨fs ++ gs, by rw [List.foldl_cons, hgs, hfs, List.map_append, List.append_assoc]⟩
    obtain ⟨fs, hfs⟩ := ih (ls.foldl (fun μ l => μ.cancel l x) μ)
    refine ⟨es ++ fs, ?_⟩
    rw [List.map_append, ← List.append_assoc, ← hes]
    exact hfs

end Memory

/-- The cancels of the keys pressed on a device, in the order of the list. That of the
`unordered_map` is unspecified, and the main results are stated free of it. -/
def BtKeysDevice.cancels (d : BtKeysDevice) (refSelectedAccessor : Window) : List Cancel :=
  d.pressedKeys.entries.map fun oPair =>
    ⟨oPair.2.pressedTimeStamp, d.cancelEvent refSelectedAccessor oPair.1⟩

namespace BtGtkDeviceManager

def memory (m : BtGtkDeviceManager) : Memory := ⟨m.canceledKeys, m.deliveries⟩

def withMemory (μ : Memory) (m : BtGtkDeviceManager) : BtGtkDeviceManager :=
  { m with canceledKeys := μ.canceledKeys, deliveries := μ.deliveries }

@[simp] theorem memory_withMemory (μ : Memory) (m : BtGtkDeviceManager) :
    (m.withMemory μ).memory = μ := rfl

@[simp] theorem withMemory_withMemory (μ ν : Memory) (m : BtGtkDeviceManager) :
    (m.withMemory μ).withMemory ν = m.withMemory ν := rfl

@[simp] theorem withMemory_memory (m : BtGtkDeviceManager) : m.withMemory m.memory = m := rfl

@[simp] theorem device_withMemory (nBackendId : ℕ) (μ : Memory) (m : BtGtkDeviceManager) :
    (m.withMemory μ).device nBackendId = m.device nBackendId := rfl

/-! ### Loops over keys and listeners -/

open BtKeysDevice

theorem cancelKey_record (l : ListenerData) (x : Cancel) (m : BtGtkDeviceManager) :
    cancelKey record l x.pressedTimeStamp x.event m = .ok (m.withMemory (m.memory.cancel l x)) := by
  rw [cancelKey, isKeyCanceled, sendKeyEventToListener, Memory.cancel, memory]
  by_cases hmem : x.event.key ∈ m.canceledKeys l.id
  · simp [hmem, withMemory]
  · by_cases hts : x.pressedTimeStamp < l.addedTimeStamp <;>
      simp [hmem, hts, setKeyCanceled, record, withMemory]

theorem cancelKeysOfListeners_record (d : BtKeysDevice) (refSelectedAccessor : Window)
    (ls : List ListenerData) (ks : List (Sigma fun _ : HardwareKey => KeyData))
    (m : BtGtkDeviceManager) :
    cancelKeysOfListeners record d refSelectedAccessor ls ks m =
      .ok (m.withMemory (m.memory.cancelAll ls (ks.map fun k =>
        ⟨k.2.pressedTimeStamp, d.cancelEvent refSelectedAccessor k.1⟩))) := by
  -- one key offered to all listeners
  have hkey (x : Cancel) (m : BtGtkDeviceManager) :
      ls.foldlM (fun m l => cancelKey record l x.pressedTimeStamp x.event m) m =
        .ok (m.withMemory (ls.foldl (fun μ l => μ.cancel l x) m.memory)) := by
    induction ls generalizing m with
    | nil => rfl
    | cons l ls ih => rw [List.foldlM_cons, cancelKey_record]; exact ih _
  induction ks generalizing m with
  | nil => rfl
  | cons k ks ih =>
    have hk := hkey ⟨k.2.pressedTimeStamp, d.cancelEvent refSelectedAccessor k.1⟩ m
    rw [cancelKeysOfListeners, List.foldlM_cons, hk]
    exact ih _

/-- A listener that is finalized is offered the same cancels as all the others together. -/
theorem cancelKeysOfListener_record (d : BtKeysDevice) (refSelectedAccessor : Window)
    (l : ListenerData) (ks : List (Sigma fun _ : HardwareKey => KeyData))
    (m : BtGtkDeviceManager) (hsel : m.selected ≠ none) :
    cancelKeysOfListener record d refSelectedAccessor l ks m =
      cancelKeysOfListeners record d refSelectedAccessor [l] ks m := by
  induction ks generalizing m with
  | nil => rfl
  | cons k ks ih =>
    have hcancel := cancelKey_record l
      ⟨k.2.pressedTimeStamp, d.cancelEvent refSelectedAccessor k.1⟩ m
    have hrest : cancelKeysOfListeners record d refSelectedAccessor [l] (k :: ks) m =
        cancelKeysOfListener record d refSelectedAccessor l ks (m.withMemory
          (m.memory.cancel l ⟨k.2.pressedTimeStamp, d.cancelEvent refSelectedAccessor k.1⟩)) := by
      rw [ih (m.withMemory _) hsel]
      simp only [cancelKeysOfListeners, List.foldlM_cons, List.foldlM_nil, hcancel]
      rfl
    rw [hrest, cancelKeysOfListener]
    by_cases hmem : m.isKeyCanceled l.id k.1
    · rw [if_pos hmem]
      have hsame : m.memory.cancel l
          ⟨k.2.pressedTimeStamp, d.cancelEvent refSelectedAccessor k.1⟩ = m.memory :=
        if_pos (List.contains_iff_mem.mp hmem)
      rw [hsame, withMemory_memory]
    · rw [if_neg hmem]
      have hsend : sendKeyEventToListener record l k.2.pressedTimeStamp
          (d.cancelEvent refSelectedAccessor k.1) (m.setKeyCanceled l.id k.1) =
            .ok (m.withMemory (m.memory.cancel l
              ⟨k.2.pressedTimeStamp, d.cancelEvent refSelectedAccessor k.1⟩)) :=
        (if_neg hmem).symm.trans hcancel
      rw [hsend]
      exact if_neg hsel

/-! ### Loops over devices -/

/-- The window whose keys are cancelled, when keys are cancelled at all. -/
def cancelingAccessor (m : BtGtkDeviceManager) : Option Window :=
  if m.isEventClassEnabled .keyEvent then
    m.selected.map fun refSelected => (m.windowData refSelected).accessor
  else none

/-- The cancels of a device in the present state of the manager. -/
def deviceCancels (m : BtGtkDeviceManager) (d : BtKeysDevice) : List Cancel :=
  match m.cancelingAccessor with
  | none => []
  | some refSelectedAccessor => if d.hasOwner then d.cancels refSelectedAccessor else []

/-- What cancelling leaves of a device. -/
def releasedDevice (m : BtGtkDeviceManager) (d : BtKeysDevice) : BtKeysDevice :=
  if m.cancelingAccessor.isSome && d.hasOwner then { d with pressedKeys := ∅ } else d

/-- The cancels of all pressed keys, in the order in which the loops visit them. -/
def pressedCancels (m : BtGtkDeviceManager) : List Cancel :=
  m.btDevices.reduceOption.flatMap m.deviceCancels

theorem getElem?_of_device {nBackendId : ℕ} {m : BtGtkDeviceManager} {d : BtKeysDevice}
    (hd : m.device nBackendId = some d) : m.btDevices[nBackendId]? = some (some d) :=
  Option.join_eq_some_iff.mp hd

/-- Only the device at the index matters. -/
theorem modifyDevice_congr {nBackendId : ℕ} {f g : BtKeysDevice → BtKeysDevice}
    {m : BtGtkDeviceManager} {d : BtKeysDevice} (hd : m.device nBackendId = some d)
    (hfg : f d = g d) : m.modifyDevice nBackendId f = m.modifyDevice nBackendId g := by
  have hmodify : m.btDevices.modify nBackendId (Option.map f) =
      m.btDevices.modify nBackendId (Option.map g) := by
    refine List.ext_getElem? fun i => ?_
    rw [List.getElem?_modify, List.getElem?_modify]
    by_cases hi : nBackendId = i
    · subst hi
      simp [getElem?_of_device hd, hfg]
    · simp [hi]
  rw [modifyDevice, hmodify, modifyDevice]

theorem modifyDevice_eq_self {nBackendId : ℕ} {f : BtKeysDevice → BtKeysDevice}
    {m : BtGtkDeviceManager} {d : BtKeysDevice} (hd : m.device nBackendId = some d)
    (hf : f d = d) : m.modifyDevice nBackendId f = m := by
  rw [modifyDevice_congr (g := id) hd hf, modifyDevice, Option.map_id]
  simp

theorem cancelSelectedAccessorKeys_record {nBackendId : ℕ} {m : BtGtkDeviceManager}
    {d : BtKeysDevice} (hd : m.device nBackendId = some d) :
    cancelSelectedAccessorKeys record nBackendId m =
      .ok ((m.modifyDevice nBackendId m.releasedDevice).withMemory
        (m.memory.cancelAll m.listeners.1 (m.deviceCancels d))) := by
  have hkeep (h : (m.cancelingAccessor.isSome && d.hasOwner) = false)
      (h' : m.deviceCancels d = []) : m = (m.modifyDevice nBackendId m.releasedDevice).withMemory
        (m.memory.cancelAll m.listeners.1 (m.deviceCancels d)) := by
    rw [modifyDevice_eq_self hd (by simp [releasedDevice, h]), h']
    rfl
  rw [cancelSelectedAccessorKeys]
  simp only [hd]
  by_cases howner : d.hasOwner
  · by_cases hen : m.isEventClassEnabled .keyEvent
    · cases hsel : m.selected with
      | none =>
        simp only [howner, hen, Bool.not_true, Bool.false_eq_true, ↓reduceIte]
        exact congrArg _ (hkeep (by simp [cancelingAccessor, hen, hsel])
          (by simp [deviceCancels, cancelingAccessor, hen, hsel]))
      | some refSelected =>
        have hacc : m.cancelingAccessor = some (m.windowData refSelected).accessor := by
          simp [cancelingAccessor, hen, hsel]
        have hreleased : m.modifyDevice nBackendId m.releasedDevice =
            m.modifyDevice nBackendId fun d => { d with pressedKeys := ∅ } :=
          modifyDevice_congr hd (by simp [releasedDevice, hacc, howner])
        rw [hreleased]
        simp only [howner, hen, Bool.not_true, Bool.false_eq_true, ↓reduceIte,
          cancelKeysOfListeners_record, deviceCancels, hacc, BtKeysDevice.cancels]
        rfl
    · simp only [howner, hen, Bool.not_true, Bool.not_false, Bool.false_eq_true, ↓reduceIte]
      exact congrArg _ (hkeep (by simp [cancelingAccessor, hen])
        (by simp [deviceCancels, cancelingAccessor, hen]))
  · simp only [howner, Bool.not_false, ↓reduceIte]
    refine congrArg _ (hkeep (by simp [howner]) ?_)
    rw [deviceCancels]
    cases m.cancelingAccessor <;> simp [howner]

theorem finalizeListener_device_record {nBackendId : ℕ} {l : ListenerData}
    {m : BtGtkDeviceManager} {d : BtKeysDevice} (hd : m.device nBackendId = some d) :
    BtKeysDevice.finalizeListener record nBackendId l m =
      .ok (m.withMemory (m.memory.cancelAll [l] (m.deviceCancels d))) := by
  rw [BtKeysDevice.finalizeListener, deviceCancels, cancelingAccessor]
  simp only [hd]
  by_cases howner : d.hasOwner
  · by_cases hen : m.isEventClassEnabled .keyEvent
    · cases hsel : m.selected with
      | none => simp [howner, hen]
      | some refSelected =>
        have hne : m.selected ≠ none := by simp [hsel]
        simp [howner, hen, cancelKeysOfListener_record _ _ _ _ _ hne,
          cancelKeysOfListeners_record, BtKeysDevice.cancels]
    · simp [howner, hen]
  · cases m.isEventClassEnabled .keyEvent <;> cases m.selected <;> simp [howner]

/-- The first `n` rounds of a loop over the devices of which every step is known. -/
theorem foldlM_range_eq_ok (f : ℕ → BtGtkDeviceManager → Except Fault BtGtkDeviceManager)
    (state : ℕ → BtGtkDeviceManager) {n : ℕ}
    (hstep : ∀ i < n, f i (state i) = .ok (state (i + 1))) :
    (List.range n).foldlM (fun m i => f i m) (state 0) = .ok (state n) := by
  induction n with
  | zero => rfl
  | succ n ih =>
    rw [List.range_succ, List.foldlM_append, ih fun i hi => hstep i (by omega)]
    simp only [List.foldlM_cons, List.foldlM_nil, bind, Except.bind]
    rw [hstep n (by omega)]
    rfl

/-- A loop over the devices that faults at the device `k`. -/
theorem forEachDevice_eq_error (f : ℕ → BtGtkDeviceManager → Except Fault BtGtkDeviceManager)
    (state : ℕ → BtGtkDeviceManager) {k : ℕ} {e : Fault}
    (hk : k < (state 0).btDevices.length) (hstep : ∀ i < k, f i (state i) = .ok (state (i + 1)))
    (herror : f k (state k) = .error e) : forEachDevice f (state 0) = .error e := by
  obtain ⟨rest, hsplit⟩ : ∃ rest, List.range (state 0).btDevices.length =
      List.range k ++ k :: rest := by
    obtain ⟨n, hn⟩ := Nat.exists_eq_add_of_lt hk
    exact ⟨_, by rw [hn, Nat.add_assoc, List.range_add, List.range_succ_eq_map, List.map_cons]; rfl⟩
  rw [forEachDevice]
  rw [hsplit, List.foldlM_append, foldlM_range_eq_ok f state hstep]
  simp only [List.foldlM_cons, bind, Except.bind, herror]

/-- The manager after the first `n` devices were cancelled for the listeners `ls`; `release`
says whether the devices forget the keys. -/
def canceled (ls : List ListenerData) (release : Bool) (m : BtGtkDeviceManager) (n : ℕ) :
    BtGtkDeviceManager :=
  withMemory (m.memory.cancelAll ls ((m.btDevices.take n).reduceOption.flatMap m.deviceCancels))
    { m with btDevices := m.btDevices.mapIdx fun i d =>
        if i < n ∧ release then d.map m.releasedDevice else d }

theorem canceled_zero (ls : List ListenerData) (release : Bool) (m : BtGtkDeviceManager) :
    m.canceled ls release 0 = m := by
  have hid : (m.btDevices.mapIdx fun i d =>
      if i < 0 ∧ release = true then d.map m.releasedDevice else d) = m.btDevices := by
    simp [List.mapIdx_eq_iff]
  rw [canceled]
  rw [hid]
  rfl

theorem device_canceled {ls : List ListenerData} {release : Bool} {m : BtGtkDeviceManager}
    {n i : ℕ} (hi : n ≤ i) : (m.canceled ls release n).device i = m.device i := by
  simp [device, canceled, withMemory, List.getElem?_mapIdx, show ¬ i < n by omega]

theorem cancels_take_succ {m : BtGtkDeviceManager} {n : ℕ} {d : BtKeysDevice}
    (hd : m.device n = some d) :
    (m.btDevices.take (n + 1)).reduceOption.flatMap m.deviceCancels =
      (m.btDevices.take n).reduceOption.flatMap m.deviceCancels ++ m.deviceCancels d := by
  rw [List.take_add_one, getElem?_of_device hd, List.reduceOption_append, List.flatMap_append]
  simp

/-- One round of the loop of `deselectAccessor`. -/
theorem cancelSelectedAccessorKeys_canceled {m : BtGtkDeviceManager} {n : ℕ} {d : BtKeysDevice}
    (hd : m.device n = some d) :
    cancelSelectedAccessorKeys record n (m.canceled m.listeners.1 true n) =
      .ok (m.canceled m.listeners.1 true (n + 1)) := by
  rw [cancelSelectedAccessorKeys_record ((device_canceled le_rfl).trans hd)]
  have hdevices : (m.btDevices.mapIdx fun i d =>
        if i < n ∧ true = true then d.map m.releasedDevice else d).modify n
          (Option.map m.releasedDevice) =
      m.btDevices.mapIdx fun i d =>
        if i < n + 1 ∧ true = true then d.map m.releasedDevice else d := by
    refine List.ext_getElem? fun i => ?_
    rw [List.getElem?_modify, List.getElem?_mapIdx, List.getElem?_mapIdx]
    rcases lt_trichotomy i n with hi | hi | hi
    · simp [hi, show i < n + 1 by omega, show ¬ n = i by omega]
    · simp [hi]
    · simp [show ¬ i < n by omega, show ¬ i < n + 1 by omega, show ¬ n = i by omega]
  have hmem : (m.memory.cancelAll m.listeners.1
        ((m.btDevices.take n).reduceOption.flatMap m.deviceCancels)).cancelAll m.listeners.1
          (m.deviceCancels d) =
      m.memory.cancelAll m.listeners.1
        ((m.btDevices.take (n + 1)).reduceOption.flatMap m.deviceCancels) := by
    rw [cancels_take_succ hd, Memory.cancelAll_append]
  unfold canceled
  rw [← hmem, ← hdevices]
  rfl

/-- One round of the loop of `finalizeListener`. -/
theorem finalizeListener_canceled {m : BtGtkDeviceManager} {n : ℕ} {d : BtKeysDevice}
    (l : ListenerData) (hd : m.device n = some d) :
    BtKeysDevice.finalizeListener record n l (m.canceled [l] false n) =
      .ok (m.canceled [l] false (n + 1)) := by
  rw [finalizeListener_device_record ((device_canceled le_rfl).trans hd)]
  simp only [canceled]
  rw [cancels_take_succ hd, Memory.cancelAll_append]
  simp only [Bool.false_eq_true, and_false]
  rfl

/-! ### Results -/

theorem canceled_length_release (ls : List ListenerData) (m : BtGtkDeviceManager) :
    m.canceled ls true m.btDevices.length = withMemory (m.memory.cancelAll ls m.pressedCancels)
      { m with btDevices := m.btDevices.map (Option.map m.releasedDevice) } := by
  have hall : (m.btDevices.mapIdx fun i d =>
      if i < m.btDevices.length ∧ true = true then d.map m.releasedDevice else d) =
        m.btDevices.map (Option.map m.releasedDevice) := by
    refine List.ext_getElem (by simp) fun i hi _ => ?_
    rw [List.length_mapIdx] at hi
    simp [hi]
  rw [canceled, pressedCancels]
  rw [hall, List.take_length]

theorem canceled_length_keep (ls : List ListenerData) (m : BtGtkDeviceManager) :
    m.canceled ls false m.btDevices.length =
      m.withMemory (m.memory.cancelAll ls m.pressedCancels) := by
  have hnone : (m.btDevices.mapIdx fun i d =>
      if i < m.btDevices.length ∧ false = true then d.map m.releasedDevice else d) =
        m.btDevices := by
    simp [List.mapIdx_eq_iff]
  rw [canceled, pressedCancels]
  rw [hnone, List.take_length]

theorem device_of_not_mem {m : BtGtkDeviceManager} {n : ℕ} (hnull : none ∉ m.btDevices)
    (hn : n < m.btDevices.length) : ∃ d, m.device n = some d := by
  cases hd : m.btDevices[n] with
  | none => exact absurd (hd ▸ List.getElem_mem hn) hnull
  | some d => exact ⟨d, by simp [device, hn, hd]⟩

/-- `deselectAccessor` without null entries. -/
theorem deselectAccessor_record {m : BtGtkDeviceManager} (hnull : none ∉ m.btDevices) :
    deselectAccessor record m = .ok (endCanceling (withMemory
      (m.memory.cancelAll m.listeners.1 m.pressedCancels)
      { m with
        cancelingNestedDepth := m.cancelingNestedDepth + 1
        selected := none
        btDevices := m.btDevices.map (Option.map m.releasedDevice) })) := by
  let m₁ := { m with cancelingNestedDepth := m.cancelingNestedDepth + 1 }
  have hloop : forEachDevice (cancelSelectedAccessorKeys record) m₁ =
      .ok (m₁.canceled m₁.listeners.1 true m₁.btDevices.length) := by
    have h := foldlM_range_eq_ok (n := m₁.btDevices.length)
      (cancelSelectedAccessorKeys record) (m₁.canceled m₁.listeners.1 true) fun i hi => by
        obtain ⟨d, hd⟩ := device_of_not_mem (m := m₁) hnull hi
        exact cancelSelectedAccessorKeys_canceled hd
    rwa [canceled_zero] at h
  rw [canceled_length_release] at hloop
  change (forEachDevice (cancelSelectedAccessorKeys record) m₁).bind _ = _
  rw [hloop]
  rfl

/-- `finalizeListener` without null entries. -/
theorem finalizeListener_record {m : BtGtkDeviceManager} (l : ListenerData)
    (hnull : none ∉ m.btDevices) :
    finalizeListener record l m = .ok (endCanceling (withMemory
      (m.memory.cancelAll [l] m.pressedCancels)
      { m with cancelingNestedDepth := m.cancelingNestedDepth + 1 })) := by
  let m₁ := { m with cancelingNestedDepth := m.cancelingNestedDepth + 1 }
  have hloop : forEachDevice (fun n => BtKeysDevice.finalizeListener record n l) m₁ =
      .ok (m₁.canceled [l] false m₁.btDevices.length) := by
    have h := foldlM_range_eq_ok (n := m₁.btDevices.length)
      (fun n => BtKeysDevice.finalizeListener record n l) (m₁.canceled [l] false) fun i hi => by
        obtain ⟨d, hd⟩ := device_of_not_mem (m := m₁) hnull hi
        exact finalizeListener_canceled l hd
    rwa [canceled_zero] at h
  rw [canceled_length_keep] at hloop
  change (forEachDevice (fun n => BtKeysDevice.finalizeListener record n l) m₁).bind _ = _
  rw [hloop]
  rfl

/-- `cancelDeviceKeys` of a device that is there. -/
theorem cancelDeviceKeys_record {m : BtGtkDeviceManager} {nBackendId : ℕ} {d : BtKeysDevice}
    (hd : m.device nBackendId = some d) :
    cancelDeviceKeys record nBackendId m = .ok (endCanceling (withMemory
      (m.memory.cancelAll m.listeners.1 (m.deviceCancels d))
      { m with
        cancelingNestedDepth := m.cancelingNestedDepth + 1
        btDevices := m.btDevices.modify nBackendId (Option.map m.releasedDevice) })) := by
  let m₁ := { m with cancelingNestedDepth := m.cancelingNestedDepth + 1 }
  change (cancelSelectedAccessorKeys record nBackendId m₁).bind _ = _
  rw [cancelSelectedAccessorKeys_record (m := m₁) hd]
  rfl

/-- The first null entry. -/
theorem exists_first_null {m : BtGtkDeviceManager} (hnull : none ∈ m.btDevices) :
    ∃ k < m.btDevices.length, m.device k = none ∧ ∀ i < k, ∃ d, m.device i = some d := by
  have hk : m.btDevices.findIdx Option.isNone < m.btDevices.length :=
    List.findIdx_lt_length_of_exists ⟨none, hnull, rfl⟩
  refine ⟨m.btDevices.findIdx Option.isNone, hk, ?_, fun i hi => ?_⟩
  · have hnone := List.findIdx_getElem (w := hk)
    simpa [device, hk] using hnone
  · have hsome := List.not_of_lt_findIdx hi
    simp only [Option.isNone_eq_false_iff, Option.isSome_iff_exists] at hsome
    obtain ⟨d, hd⟩ := hsome
    exact ⟨d, by simp [device, hi.trans hk, hd]⟩

/-- With a null entry `deselectAccessor` calls a method on a null device. -/
theorem deselectAccessor_record_null {m : BtGtkDeviceManager} (hnull : none ∈ m.btDevices) :
    deselectAccessor record m = .error .nullDevice := by
  let m₁ := { m with cancelingNestedDepth := m.cancelingNestedDepth + 1 }
  obtain ⟨k, hk, hkd, hlt⟩ := exists_first_null (m := m₁) hnull
  have hloop := forEachDevice_eq_error (cancelSelectedAccessorKeys record)
    (m₁.canceled m₁.listeners.1 true) (k := k) (e := .nullDevice)
    (by rwa [canceled_zero])
    (fun i hi => by
      obtain ⟨d, hd⟩ := hlt i hi
      exact cancelSelectedAccessorKeys_canceled hd)
    (by simp only [cancelSelectedAccessorKeys, device_canceled le_rfl, hkd])
  rw [canceled_zero] at hloop
  change (forEachDevice (cancelSelectedAccessorKeys record) m₁).bind _ = _
  rw [hloop]
  rfl

/-- With a null entry `finalizeListener` calls a method on a null device. -/
theorem finalizeListener_record_null {m : BtGtkDeviceManager} (l : ListenerData)
    (hnull : none ∈ m.btDevices) : finalizeListener record l m = .error .nullDevice := by
  let m₁ := { m with cancelingNestedDepth := m.cancelingNestedDepth + 1 }
  obtain ⟨k, hk, hkd, hlt⟩ := exists_first_null (m := m₁) hnull
  have hloop := forEachDevice_eq_error
    (fun n => BtKeysDevice.finalizeListener record n l) (m₁.canceled [l] false) (k := k)
    (e := .nullDevice)
    (by rwa [canceled_zero])
    (fun i hi => by
      obtain ⟨d, hd⟩ := hlt i hi
      exact finalizeListener_canceled l hd)
    (by simp only [BtKeysDevice.finalizeListener, device_canceled le_rfl, hkd])
  rw [canceled_zero] at hloop
  change (forEachDevice (fun n => BtKeysDevice.finalizeListener record n l) m₁).bind _ = _
  rw [hloop]
  rfl

end BtGtkDeviceManager

end StmmInputBt
