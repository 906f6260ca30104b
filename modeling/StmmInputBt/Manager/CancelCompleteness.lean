import StmmInputBt.Foundation.FirstOccurrence
import StmmInputBt.Foundation.Lists
import StmmInputBt.Manager.Cancels
import Mathlib.Data.List.Pairwise

/-!
# Completeness of cancels

Which cancels a listener gets out of `deselectAccessor` and `finalizeListener`, compared with the
cancels that the pressed keys call for: one for each pressed key of each device that was pressed
since the listener was added.

The memory of a listener holds hardware keys and not pairs of a device and a key, so the key of a
second device passes for one that is cancelled already.

## Main definitions

* `BtGtkDeviceManager.owedCancels`: the cancels that a listener should get.
* `BtGtkDeviceManager.NoKeyHeldTwice`: no device holds a key that an earlier one holds as well,
  as far as the listener is concerned.

## Main results

* `BtGtkDeviceManager.keyEvents_cancelAll`: what one listener is handed by the loops.
* `BtGtkDeviceManager.cancels_complete_iff`: the cancels are complete exactly when no key is held
  twice.
-/

namespace StmmInputBt

/-- The key events that a listener was handed. -/
def keyEventsOf (l : ListenerId) (ds : List Delivery) : List KeyEvent :=
  ds.filterMap fun
    | .key l' e => if l' = l then some e else none
    | .deviceMgmt .. => none

/-- The press was not before the listener was added. -/
def Cancel.isDue (l : ListenerData) (x : Cancel) : Bool := l.addedTimeStamp ≤ x.pressedTimeStamp

namespace Memory

/-- The key of a cancel, which is all that the memory keeps of it. -/
abbrev key (x : Cancel) : HardwareKey := x.event.key

/-- What the listener `l` remembers and what it was handed. -/
def view (l : ListenerId) (μ : Memory) : List HardwareKey × List KeyEvent :=
  (μ.canceledKeys l, keyEventsOf l μ.deliveries)

theorem view_cancel_self (l : ListenerData) (x : Cancel) (μ : Memory) :
    (μ.cancel l x).view l.id =
      if key x ∈ μ.canceledKeys l.id then μ.view l.id
      else (μ.canceledKeys l.id ++ [key x],
        keyEventsOf l.id μ.deliveries ++ ([x].filter (Cancel.isDue l)).map Cancel.event) := by
  rw [cancel, view]
  split_ifs with hmem hts
  · rfl
  · have hdue : Cancel.isDue l x = false := decide_eq_false (by omega)
    simp [hdue]
  · have hdue : Cancel.isDue l x = true := decide_eq_true (by omega)
    simp [hdue, keyEventsOf]

theorem view_cancel_of_ne {l : ListenerData} {l' : ListenerId} (h : l' ≠ l.id) (x : Cancel)
    (μ : Memory) : (μ.cancel l x).view l' = μ.view l' := by
  simp only [cancel, view]
  split_ifs with hmem hts
  · rfl
  · simp [Function.update_of_ne h]
  · simp [Function.update_of_ne h, keyEventsOf, h.symm]

theorem view_cancel_listeners_of_not_mem {ls : List ListenerData} {l : ListenerId}
    (h : l ∉ ls.map ListenerData.id) (x : Cancel) (μ : Memory) :
    (ls.foldl (fun μ l => μ.cancel l x) μ).view l = μ.view l := by
  induction ls generalizing μ with
  | nil => rfl
  | cons l' ls ih =>
    simp only [List.map_cons, List.mem_cons, not_or] at h
    rw [List.foldl_cons, ih h.2, view_cancel_of_ne h.1]

/-- Among distinct listeners each one sees only what is offered to itself. -/
theorem view_cancel_listeners {ls : List ListenerData} (hls : (ls.map ListenerData.id).Nodup)
    {l : ListenerData} (h : l ∈ ls) (x : Cancel) (μ : Memory) :
    (ls.foldl (fun μ l => μ.cancel l x) μ).view l.id = (μ.cancel l x).view l.id := by
  induction ls generalizing μ with
  | nil => cases h
  | cons l' ls ih =>
    rw [List.map_cons, List.nodup_cons] at hls
    rw [List.foldl_cons]
    rcases List.mem_cons.mp h with rfl | hmem
    · exact view_cancel_listeners_of_not_mem hls.1 x _
    · have hne : l.id ≠ l'.id := fun heq => hls.1 (heq ▸ List.mem_map_of_mem hmem)
      have hview := view_cancel_of_ne hne x μ
      rw [ih hls.2 hmem, view_cancel_self, view_cancel_self, hview]
      simp only [view] at hview
      rw [Prod.mk.injEq] at hview
      rw [hview.1, hview.2]

/-- A listener is handed the cancels that are due among the first ones of their key. -/
theorem view_cancelAll {ls : List ListenerData} (hls : (ls.map ListenerData.id).Nodup)
    {l : ListenerData} (h : l ∈ ls) (xs : List Cancel) (μ : Memory) :
    (μ.cancelAll ls xs).view l.id =
      (μ.canceledKeys l.id ++ (FirstOccurrence.keep key (μ.canceledKeys l.id) xs).map key,
        keyEventsOf l.id μ.deliveries ++ ((FirstOccurrence.keep key (μ.canceledKeys l.id) xs).filter
          (Cancel.isDue l)).map Cancel.event) := by
  induction xs generalizing μ with
  | nil => simp [view]
  | cons x xs ih =>
    have hx := (view_cancel_listeners hls h x μ).trans (view_cancel_self l x μ)
    have hrest := ih (ls.foldl (fun μ l => μ.cancel l x) μ)
    rw [show μ.cancelAll ls (x :: xs) = (ls.foldl (fun μ l => μ.cancel l x) μ).cancelAll ls xs
      from rfl, hrest]
    simp only [view] at hx
    by_cases hmem : key x ∈ μ.canceledKeys l.id
    · rw [if_pos hmem, Prod.mk.injEq] at hx
      rw [hx.1, hx.2, FirstOccurrence.keep_cons_of_mem hmem]
    · rw [if_neg hmem, Prod.mk.injEq] at hx
      rw [hx.1, hx.2, FirstOccurrence.keep_cons_of_not_mem hmem]
      cases hdue : Cancel.isDue l x <;> simp [hdue]

theorem view_cancelAll_of_not_mem {ls : List ListenerData} {l : ListenerId}
    (h : l ∉ ls.map ListenerData.id) (xs : List Cancel) (μ : Memory) :
    (μ.cancelAll ls xs).view l = μ.view l := by
  induction xs generalizing μ with
  | nil => rfl
  | cons x xs ih => exact (ih _).trans (view_cancel_listeners_of_not_mem h x μ)

end Memory

namespace BtGtkDeviceManager

/-- The key events that a listener was handed. -/
def keyEvents (l : ListenerId) (m : BtGtkDeviceManager) : List KeyEvent :=
  keyEventsOf l m.deliveries

/-- One cancel for each device and each key pressed on it whose press is not older than the
listener. -/
def owedCancels (l : ListenerData) (m : BtGtkDeviceManager) : List KeyEvent :=
  m.selected.toList.flatMap fun refSelected =>
    m.btDevices.reduceOption.flatMap fun d =>
      (d.pressedKeys.entries.filter fun k => l.addedTimeStamp ≤ k.2.pressedTimeStamp).map fun k =>
        ⟨(m.windowData refSelected).accessor, d.deviceId, keyReleaseCancel, k.1⟩

/-- No device holds a key that a device before it holds too, unless that press is older than the
listener. -/
def NoKeyHeldTwice (l : ListenerData) (m : BtGtkDeviceManager) : Prop :=
  m.btDevices.reduceOption.Pairwise fun d d' => ∀ k, k ∈ d.pressedKeys →
    ∀ oKeyData, d'.pressedKeys.lookup k = some oKeyData →
      oKeyData.pressedTimeStamp < l.addedTimeStamp

/-- A state in which cancels are due: a window is selected, key events are enabled, no cancelling
is going on and no entry of `m_aBtDevices` is null. -/
structure ReadyToCancel (m : BtGtkDeviceManager) : Prop where
  selected : m.selected ≠ none
  enabled : m.isEventClassEnabled .keyEvent
  notCanceling : m.cancelingNestedDepth = 0
  noNull : none ∉ m.btDevices
  /-- `removingDevice()` resets the owner only of a device whose entry becomes null. -/
  hasOwner : ∀ d ∈ m.btDevices.reduceOption, d.hasOwner
  memoryEmpty : ∀ l ∈ m.listeners.1, m.canceledKeys l.id = []

/-- `m'` differs from `m` in that the listener `l` got exactly the cancels it should get. -/
def GotOwedCancels (l : ListenerData) (m m' : BtGtkDeviceManager) : Prop :=
  ∃ es, m'.keyEvents l.id = m.keyEvents l.id ++ es ∧ es.Perm (m.owedCancels l)

variable {m : BtGtkDeviceManager} {l : ListenerData}

theorem ReadyToCancel.deviceCancels_eq (h : m.ReadyToCancel) {refSelected : WindowDataId}
    (hsel : m.selected = some refSelected) {d : BtKeysDevice} (hd : d ∈ m.btDevices.reduceOption) :
    m.deviceCancels d = d.cancels (m.windowData refSelected).accessor := by
  simp [deviceCancels, cancelingAccessor, h.enabled, hsel, h.hasOwner d hd]

/-- The cancels that are due are the ones a listener should get. -/
theorem ReadyToCancel.owedCancels_eq (h : m.ReadyToCancel) (l : ListenerData) :
    m.owedCancels l = (m.pressedCancels.filter (Cancel.isDue l)).map Cancel.event := by
  obtain ⟨refSelected, hsel⟩ := Option.ne_none_iff_exists'.mp h.selected
  rw [owedCancels, pressedCancels]
  rw [hsel, List.filter_flatMap, List.map_flatMap]
  simp only [Option.toList_some, List.flatMap_singleton]
  refine List.flatMap_congr fun d hd => ?_
  rw [h.deviceCancels_eq hsel hd, BtKeysDevice.cancels, List.filter_map, List.map_map]
  rfl

/-- On a single device all cancels have different keys. -/
theorem pairwise_cancels (d : BtKeysDevice) (refSelectedAccessor : Window)
    {R : Cancel → Cancel → Prop} :
    (d.cancels refSelectedAccessor).Pairwise fun x y => Memory.key x = Memory.key y → R x y := by
  refine List.pairwise_map.mpr ?_
  exact (List.pairwise_map.mp d.pressedKeys.nodupKeys).imp fun hne heq => absurd heq hne

theorem ReadyToCancel.noKeyHeldTwice_iff (h : m.ReadyToCancel) (l : ListenerData) :
    m.NoKeyHeldTwice l ↔ m.pressedCancels.Pairwise fun x y =>
      Memory.key x = Memory.key y → Cancel.isDue l y = false := by
  obtain ⟨refSelected, hsel⟩ := Option.ne_none_iff_exists'.mp h.selected
  rw [NoKeyHeldTwice, pressedCancels]
  rw [List.pairwise_flatMap]
  have hown : ∀ d ∈ m.btDevices.reduceOption, (m.deviceCancels d).Pairwise fun x y =>
      Memory.key x = Memory.key y → Cancel.isDue l y = false := by
    intro d hd
    rw [h.deviceCancels_eq hsel hd]
    exact pairwise_cancels d _
  rw [and_iff_right hown]
  refine List.Pairwise.iff_of_mem fun {d d'} hd hd' => ?_
  rw [h.deviceCancels_eq hsel hd, h.deviceCancels_eq hsel hd', BtKeysDevice.cancels,
    BtKeysDevice.cancels]
  constructor
  · intro htwice x hx y hy hxy
    obtain ⟨k, hk, rfl⟩ := List.mem_map.mp hx
    obtain ⟨k', hk', rfl⟩ := List.mem_map.mp hy
    have hkey : k.1 = k'.1 := hxy
    have hlookup : d'.pressedKeys.lookup k'.1 = some k'.2 := AList.mem_lookup_iff.mpr hk'
    have hlt := htwice k.1 (AList.mem_keys.mpr (List.mem_map_of_mem hk)) k'.2 (hkey ▸ hlookup)
    exact decide_eq_false (by dsimp only; omega)
  · intro hcancels k hk oKeyData hlookup
    obtain ⟨kd, hkd⟩ := Option.isSome_iff_exists.mp (AList.lookup_isSome.mpr hk)
    have hnot := hcancels _ (List.mem_map_of_mem (AList.mem_lookup_iff.mp hkd)) _
      (List.mem_map_of_mem (AList.mem_lookup_iff.mp hlookup)) rfl
    have hlt := of_decide_eq_false hnot
    dsimp only at hlt
    omega

/-- Offering the cancels of the pressed keys gives a listener what it should get exactly when, as
far as it is concerned, no key is held twice. -/
theorem keyEvents_cancelAll (h : m.ReadyToCancel) (ls : List ListenerData)
    (hls : (ls.map ListenerData.id).Nodup) (hl : l ∈ ls) (hmem : m.canceledKeys l.id = [])
    (m' : BtGtkDeviceManager)
    (hm' : m'.deliveries = (m.memory.cancelAll ls m.pressedCancels).deliveries) :
    m.GotOwedCancels l m' ↔ m.NoKeyHeldTwice l := by
  have hview := congrArg Prod.snd (Memory.view_cancelAll hls hl m.pressedCancels m.memory)
  have hempty : m.memory.canceledKeys l.id = [] := hmem
  have hevents : m'.keyEvents l.id = m.keyEvents l.id ++
      ((FirstOccurrence.keep Memory.key [] m.pressedCancels).filter (Cancel.isDue l)).map
        Cancel.event := by
    rw [hempty] at hview
    exact (congrArg (keyEventsOf l.id) hm').trans hview
  have hfirst := FirstOccurrence.filter_keep_perm_iff Memory.key [] m.pressedCancels
    (Cancel.isDue l)
  rw [h.noKeyHeldTwice_iff]
  rw [GotOwedCancels]
  simp only [hevents, List.append_cancel_left_eq, exists_eq_left', h.owedCancels_eq]
  rw [map_perm_map_iff_of_sublist (FirstOccurrence.keep_sublist.filter _), hfirst]
  simp

theorem keyEvents_cancelAll_of_not_mem (ls : List ListenerData) {l : ListenerId}
    (hl : l ∉ ls.map ListenerData.id) {m' : BtGtkDeviceManager}
    (hm' : m'.deliveries = (m.memory.cancelAll ls m.pressedCancels).deliveries) :
    m'.keyEvents l = m.keyEvents l :=
  (congrArg (keyEventsOf l) hm').trans
    (congrArg Prod.snd (Memory.view_cancelAll_of_not_mem hl m.pressedCancels m.memory))

@[simp] theorem deliveries_endCanceling (m : BtGtkDeviceManager) :
    m.endCanceling.deliveries = m.deliveries := by
  rw [endCanceling]
  dsimp only
  split_ifs <;> rfl

/-- `deselectAccessor` hands every listener the cancels it should get, and nothing to anybody
else. -/
def DeselectCancels (m : BtGtkDeviceManager) : Prop :=
  ∃ m', deselectAccessor record m = .ok m' ∧ (∀ l ∈ m.listeners.1, m.GotOwedCancels l m') ∧
    ∀ l ∉ m.listeners.1.map ListenerData.id, m'.keyEvents l = m.keyEvents l

/-- `finalizeListener` hands the listener the cancels it should get, and nothing to anybody
else. -/
def FinalizeCancels (l : ListenerData) (m : BtGtkDeviceManager) : Prop :=
  ∃ m', finalizeListener record l m = .ok m' ∧ m.GotOwedCancels l m' ∧
    ∀ l' ≠ l.id, m'.keyEvents l' = m.keyEvents l'

/-- **Cancels are complete** exactly for the listeners for which no key is held twice. -/
theorem cancels_complete_iff (h : m.ReadyToCancel) :
    (m.DeselectCancels ↔ ∀ l ∈ m.listeners.1, m.NoKeyHeldTwice l) ∧
      ∀ l, m.canceledKeys l.id = [] → (m.FinalizeCancels l ↔ m.NoKeyHeldTwice l) := by
  constructor
  · rw [DeselectCancels]
    simp only [deselectAccessor_record h.noNull, Except.ok.injEq, exists_eq_left']
    constructor
    · rintro ⟨hgot, -⟩ l hl
      exact (keyEvents_cancelAll h _ m.listeners.2 hl (h.memoryEmpty l hl) _ (by simp; rfl)).mp
        (hgot l hl)
    · intro htwice
      refine ⟨fun l hl => ?_, fun l hl => ?_⟩
      · exact (keyEvents_cancelAll h _ m.listeners.2 hl (h.memoryEmpty l hl) _ (by simp; rfl)).mpr
          (htwice l hl)
      · exact keyEvents_cancelAll_of_not_mem _ hl (by simp; rfl)
  · intro l hmem
    rw [FinalizeCancels]
    simp only [finalizeListener_record l h.noNull, Except.ok.injEq, exists_eq_left']
    have hgot := keyEvents_cancelAll h [l] (l := l) (by simp) (by simp) hmem
      (endCanceling (withMemory (m.memory.cancelAll [l] m.pressedCancels)
        { m with cancelingNestedDepth := m.cancelingNestedDepth + 1 })) (by simp; rfl)
    rw [hgot, and_iff_left_iff_imp]
    intro _ l' hl'
    exact keyEvents_cancelAll_of_not_mem [l] (by simpa using hl') (by simp; rfl)

/-- Two devices, one listener and a selected window. -/
def twoDevices (k k' : HardwareKey) : BtGtkDeviceManager :=
  { create (fun _ => true) fun _ => ⟨true, false⟩ with
    gtkWindowData := [(0, 0)]
    windowData := fun _ => ⟨0, true⟩
    nextWindowData := 1
    selected := some 0
    btDevices := [some ⟨0xA0, 0, true, AList.singleton k ⟨1⟩⟩,
      some ⟨0xB0, 1, true, AList.singleton k' ⟨2⟩⟩]
    nextDeviceId := 2
    listeners := ⟨[⟨0, 0⟩], by decide⟩
    nextTimeStamp := 3 }

theorem twoDevices_readyToCancel (k k' : HardwareKey) : (twoDevices k k').ReadyToCancel where
  selected := by simp [twoDevices]
  enabled := rfl
  notCanceling := rfl
  noNull := by simp [twoDevices]
  hasOwner := by simp [twoDevices, List.reduceOption]
  memoryEmpty := fun _ _ => rfl

theorem twoDevices_noKeyHeldTwice (l : ListenerData) : (twoDevices 30 31).NoKeyHeldTwice l := by
  rw [NoKeyHeldTwice]
  simp only [twoDevices, List.reduceOption_cons_of_some, List.reduceOption_nil,
    List.pairwise_pair]
  intro k hk oKeyData hlookup
  have hk' : k ∈ AList.singleton (β := fun _ => KeyData) (31 : HardwareKey) ⟨2⟩ :=
    AList.lookup_isSome.mp (by rw [hlookup]; rfl)
  simp only [AList.mem_keys, AList.keys_singleton, List.mem_singleton] at hk hk'
  exact absurd (hk.symm.trans hk') (by decide)

theorem cancels_complete_twoDevices :
    (twoDevices 30 31).DeselectCancels ∧ (twoDevices 30 31).FinalizeCancels ⟨0, 0⟩ := by
  have hcomplete := cancels_complete_iff (twoDevices_readyToCancel 30 31)
  exact ⟨hcomplete.1.mpr fun l _ => twoDevices_noKeyHeldTwice l,
    (hcomplete.2 ⟨0, 0⟩ rfl).mpr (twoDevices_noKeyHeldTwice _)⟩

/-- Two devices hold the same key: the listener gets one cancel, whether the window is deselected
or the listener finalized. -/
theorem not_cancels_complete_sameKey : (twoDevices 30 30).ReadyToCancel ∧
    ¬ (twoDevices 30 30).DeselectCancels ∧ ¬ (twoDevices 30 30).FinalizeCancels ⟨0, 0⟩ := by
  have howed : ((twoDevices 30 30).owedCancels ⟨0, 0⟩).length = 2 := by decide
  have hshort {m' : BtGtkDeviceManager} (hlen : (m'.keyEvents 0).length = 1)
      (hgot : (twoDevices 30 30).GotOwedCancels ⟨0, 0⟩ m') : False := by
    obtain ⟨es, hes, hperm⟩ := hgot
    have hes' : m'.keyEvents 0 = es := hes
    rw [← hes'] at hperm
    have hlen' := hperm.length_eq
    omega
  refine ⟨twoDevices_readyToCancel 30 30, ?_, ?_⟩
  · rintro ⟨m', hm', hgot, -⟩
    have hone : (deselectAccessor record (twoDevices 30 30)).toOption.map
      (fun m => (m.keyEvents 0).length) = some 1 := by decide
    rw [hm'] at hone
    exact hshort (Option.some.inj hone) (hgot ⟨0, 0⟩ (by simp [twoDevices]))
  · rintro ⟨m', hm', hgot, -⟩
    have hone : (finalizeListener record ⟨0, 0⟩ (twoDevices 30 30)).toOption.map
      (fun m => (m.keyEvents 0).length) = some 1 := by decide
    rw [hm'] at hone
    exact hshort (Option.some.inj hone) hgot

end BtGtkDeviceManager

end StmmInputBt
