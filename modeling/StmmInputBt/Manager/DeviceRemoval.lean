import StmmInputBt.Manager.CancelCompleteness
import StmmInputBt.Manager.SelectedKeys
import StmmInputBt.Manager.Reentry

/-!
# The removal of a device

What `onDeviceRemoved` does in a run whose listeners do not re-enter the manager: each listener
gets one cancel for every key of the device that it saw pressed, then the removal is reported.
Nothing else of the manager changes, and since the identities of devices are not used again, no key
event of the device is ever handed out after that.

Between two operations no cancelling is going on, so that no listener remembers a key.

## Main definitions

* `BtGtkDeviceManager.Settled`: what holds between two operations.
* `BtGtkDeviceManager.RemovesDevice`: what the removal does.

## Main results

* `BtGtkDeviceManager.Settled.step`: every operation settles again.
* `BtGtkDeviceManager.handsOutOwn_step`: the key events of a step are of devices that are there.
* `BtGtkDeviceManager.removesDevice_of_run`.
-/

namespace StmmInputBt

namespace BtGtkDeviceManager

variable {m t u : BtGtkDeviceManager}

/-! ### Between two operations -/

/-- The devices have different identities. -/
def DeviceIdsDistinct (m : BtGtkDeviceManager) : Prop :=
  ∀ i j d d', m.device i = some d → m.device j = some d' → d.deviceId = d'.deviceId → i = j

/-- No cancelling is going on, and nothing is remembered of the last one. -/
structure Settled (m : BtGtkDeviceManager) : Prop extends Sound m where
  notCanceling : m.cancelingNestedDepth = 0
  memoryEmpty : ∀ l ∈ m.listeners.1, m.canceledKeys l.id = []
  deviceIds : m.DeviceIdsDistinct

/-- The outermost cancelling function empties the memories. -/
theorem memoryEmpty_endCanceling (h : m.cancelingNestedDepth = 1) :
    m.endCanceling.cancelingNestedDepth = 0 ∧
      ∀ l ∈ m.listeners.1, m.endCanceling.canceledKeys l.id = [] := by
  have hzero : m.cancelingNestedDepth - 1 = 0 := by omega
  refine ⟨by simp [endCanceling, resetExtraDataOfAllListeners, hzero], fun l hl => ?_⟩
  have hid : l.id ∈ m.listeners.1.map ListenerData.id := List.mem_map_of_mem hl
  simp only [endCanceling, resetExtraDataOfAllListeners, hzero, if_pos, if_pos hid]

theorem listeners_endCanceling (m : BtGtkDeviceManager) :
    m.endCanceling.listeners = m.listeners := by
  rw [endCanceling]
  dsimp only
  split_ifs <;> rfl

theorem memoryEmpty_untrack (h : ∀ l ∈ m.listeners.1, m.canceledKeys l.id = []) (w : Window) :
    ∀ l ∈ (m.untrack w).listeners.1, (m.untrack w).canceledKeys l.id = [] := by
  rw [untrack]
  split <;> exact h

/-- Preparing an operation only empties memories. -/
theorem memoryEmpty_prepare (h : ∀ l ∈ m.listeners.1, m.canceledKeys l.id = []) (op : UiOp) :
    ∀ l ∈ (m.prepare op).listeners.1, (m.prepare op).canceledKeys l.id = [] := by
  cases op with
  | addAccessor refAccessor =>
    rw [prepare]
    split
    · exact h
    · split_ifs
      · exact memoryEmpty_untrack h _
      · exact h
      · split
        · exact h
        · split_ifs
          · exact memoryEmpty_untrack (m := m.addWindowData _) h _
          · exact h
  | removeAccessor refAccessor =>
    rw [prepare]
    split
    · exact h
    · exact memoryEmpty_untrack h _
  | addListener l =>
    rw [prepare, addListener]
    split_ifs with hmem
    · exact h
    · intro l' hl'
      dsimp only at hl' ⊢
      rcases List.mem_append.mp hl' with hl' | hl'
      · have hne : l'.id ≠ l := fun heq => hmem (heq ▸ List.mem_map_of_mem hl')
        rw [Function.update_of_ne hne]
        exact h l' hl'
      · rw [List.mem_singleton.mp hl', Function.update_self]
  | removeListener l => exact fun l' hl' => h l' (List.mem_filter.mp hl').1
  | activeChanged w isActive => exact h
  | windowChanged w state => exact h
  | enableEventClass c => exact h
  | finalizeListener l => exact h

theorem Settled.memoryEmpty_uiStep (h : m.Settled) {op : UiOp} (ht : m.uiStep op = .ok t) :
    t.cancelingNestedDepth = 0 ∧ ∀ l ∈ t.listeners.1, t.canceledKeys l.id = [] := by
  by_cases hop : ∃ l, op = .finalizeListener l
  · obtain ⟨l, rfl⟩ := hop
    obtain ⟨-, rfl⟩ := finalizeListener_eq_ok.mp ht
    rw [finalized, listeners_endCanceling]
    exact memoryEmpty_endCanceling (by rw [withMemory, h.notCanceling, zero_add])
  · rw [uiStep_eq h.toWindowsTracked fun l hl => hop ⟨l, hl⟩] at ht
    have hdepth := (sameDevices_prepare m op).cancelingNestedDepth.trans h.notCanceling
    cases hdes : m.deselects op with
    | false =>
      rw [hdes] at ht
      obtain rfl := Except.ok.inj ht
      exact ⟨hdepth, memoryEmpty_prepare h.memoryEmpty op⟩
    | true =>
      rw [hdes, if_pos rfl] at ht
      obtain ⟨u, hu, rfl⟩ := Run.map_eq_ok.mp ht
      obtain ⟨-, rfl⟩ := deselectAccessor_eq_ok.mp hu
      have hempty : (m.prepare op).deselected.cancelingNestedDepth = 0 ∧
          ∀ l ∈ (m.prepare op).deselected.listeners.1,
            (m.prepare op).deselected.canceledKeys l.id = [] := by
        rw [deselected, listeners_endCanceling]
        exact memoryEmpty_endCanceling (by rw [withMemory, hdepth, zero_add])
      exact hempty

theorem SameIdentities.symm (h : m.SameIdentities t) : t.SameIdentities m :=
  ⟨h.1.symm, fun i => (h.2 i).symm, h.3.symm, h.4.symm⟩

theorem DeviceIdsDistinct.of_sameIdentities (h : m.DeviceIdsDistinct) (hs : m.SameIdentities t) :
    t.DeviceIdsDistinct := by
  intro i j d d' hi hj hid
  obtain ⟨e, he, -, heid⟩ := hs.symm.device_eq_some hi
  obtain ⟨e', he', -, heid'⟩ := hs.symm.device_eq_some hj
  exact h i j e e' he he' (heid.trans (hid.trans heid'.symm))

theorem DeviceIdsDistinct.deviceAdded (h : m.DeviceIdsDistinct) (hlt : m.DeviceIdsLt)
    (sName : BdAddr) (nBackendId : ℕ) : (m.deviceAdded sName nBackendId).DeviceIdsDistinct := by
  have hold : ∀ {i : ℕ} {d : BtKeysDevice}, m.device i = some d → d.deviceId < m.nextDeviceId :=
    fun hd => hlt _ (mem_devices.mpr ⟨_, hd⟩)
  intro i j d d' hi hj hid
  rw [device_deviceAdded] at hi hj
  split_ifs at hi hj with heq heq' heq'
  · exact heq.trans heq'.symm
  · cases hi
    exact absurd hid (hold hj).ne'
  · cases hj
    exact absurd hid (hold hi).ne
  · exact h i j d d' hi hj hid

theorem DeviceIdsDistinct.deviceRemoved (h : m.DeviceIdsDistinct) (nBackendId : ℕ)
    (d : BtKeysDevice) : (m.deviceRemoved nBackendId d).DeviceIdsDistinct := by
  intro i j d₁ d₂ hi hj
  rw [device_deviceRemoved] at hi hj
  split_ifs at hi hj
  exact h i j d₁ d₂ hi hj

/-- What is left of a manager after a removal, but for the device, is settled. -/
theorem Settled.memoryEmpty_deviceCanceled (h : m.Settled) (nBackendId : ℕ) (d : BtKeysDevice) :
    ∀ l ∈ m.listeners.1, (m.deviceCanceled nBackendId d).canceledKeys l.id = [] := by
  have hlisteners : (m.deviceCanceled nBackendId d).listeners = m.listeners :=
    listeners_endCanceling _
  rw [← hlisteners, deviceCanceled, listeners_endCanceling]
  exact (memoryEmpty_endCanceling (by rw [withMemory, h.notCanceling, zero_add])).2

theorem Settled.step (h : m.Settled) {op : Op} (ht : m.step op = .ok t) : t.Settled := by
  have hsound := h.toSound.step ht
  cases op with
  | deviceAdded sName nBackendId =>
    obtain ⟨-, rfl⟩ := (onDeviceAdded_eq_ok h.deviceIdsLt).mp ht
    exact ⟨hsound, h.notCanceling, h.memoryEmpty,
      h.deviceIds.deviceAdded h.deviceIdsLt sName nBackendId⟩
  | deviceRemoved nBackendId =>
    obtain ⟨d, -, rfl⟩ := onDeviceRemoved_record_eq_ok.mp ht
    exact ⟨hsound, h.notCanceling, h.memoryEmpty_deviceCanceled nBackendId d,
      DeviceIdsDistinct.deviceRemoved (m := m.withMemory _) h.deviceIds nBackendId d⟩
  | blueKey nBackendId eType eHK =>
    obtain ⟨_, _, hop, -, -⟩ | ⟨_, _, _, _, hop, -, -⟩ | ⟨_, _, _, es, hop, rfl⟩ | ⟨_, hop, -⟩ :=
      step_cases h.toSound ht
    · cases hop
    · cases hop
    · obtain ⟨rfl, rfl, rfl⟩ := Op.blueKey.inj hop
      have hsame := sameIdentities_keyed nBackendId eType eHK es m
      refine ⟨hsound, ?_, ?_, h.deviceIds.of_sameIdentities hsame⟩
      · obtain hkeyed | ⟨_, _, -, -, -, -, hkeyed⟩ | ⟨-, hkeyed⟩ :=
          keyed_cases nBackendId eType eHK m <;> rw [hkeyed] <;> exact h.notCanceling
      · obtain hkeyed | ⟨_, _, -, -, -, -, hkeyed⟩ | ⟨-, hkeyed⟩ :=
          keyed_cases nBackendId eType eHK m <;> rw [hkeyed] <;> exact h.memoryEmpty
    · cases hop
  | ui op =>
    have hmemory := h.memoryEmpty_uiStep ht
    have hsame := sameIdentities_uiStep h.toWindowsTracked ht
    exact ⟨hsound, hmemory.1, hmemory.2, h.deviceIds.of_sameIdentities hsame⟩

theorem settled_create (enabledEventClasses : EventClass → Bool) (windows : Window → WindowState) :
    (create enabledEventClasses windows).Settled where
  toSound := sound_create enabledEventClasses windows
  notCanceling := rfl
  memoryEmpty := fun _ _ => rfl
  deviceIds := by simp [DeviceIdsDistinct, create, device]

/-! ### Whose key events are handed out -/

/-- The event is of a device that is there. -/
def OfDevice (m : BtGtkDeviceManager) (e : KeyEvent) : Prop :=
  ∃ i d, m.device i = some d ∧ e.device = d.deviceId

theorem ofDevice_cancelEvent (h : ∀ i, (t.device i).map BtKeysDevice.deviceId =
    (m.device i).map BtKeysDevice.deviceId) {nBackendId : ℕ} {d : BtKeysDevice}
    (hd : t.device nBackendId = some d) (w : Window) (key : HardwareKey) :
    m.OfDevice (d.cancelEvent w key) := by
  have hi := h nBackendId
  rw [hd] at hi
  obtain ⟨d', hd', hid⟩ := Option.map_eq_some_iff.mp hi.symm
  exact ⟨nBackendId, d', hd', hid.symm⟩

/-- What happens to the manager keeps the devices and hands out events of these. -/
theorem keptByOps_handsOutOwn (m : BtGtkDeviceManager) :
    KeptByOps
      (fun t => (∀ i, (t.device i).map BtKeysDevice.deviceId =
        (m.device i).map BtKeysDevice.deviceId) ∧ HandsOut m.OfDevice m t)
      fun _ e => m.OfDevice e where
  recorded t l e ht he := by
    refine ⟨ht.1, ht.2.append rfl fun l' e' hmem => ?_⟩
    cases List.mem_singleton.mp hmem
    exact he
  windows t u ht hdevices _ _ _ hdeliveries :=
    ⟨fun i => (congrArg _ (device_of_btDevices_eq hdevices i)).trans (ht.1 i),
      ht.2.congr hdeliveries⟩
  addListener t l ht := by
    rw [addListener]
    split_ifs <;> exact ht
  removeListener _ _ ht := ht
  release t nBackendId ht := by
    refine ⟨fun i => ?_, ht.2⟩
    rw [device_modifyDevice, ← ht.1 i]
    split_ifs
    · rw [Option.map_map]
      rfl
    · rfl
  cancel t nBackendId d w x l ht hd _ _ _ := ofDevice_cancelEvent ht.1 hd w x.1

theorem handsOutOwn_uiStep {op : UiOp} (ht : m.uiStep op = .ok t) : HandsOut m.OfDevice m t := by
  have hkept := keptByOps_handsOutOwn m
  rw [← uiStepWith_record] at ht
  exact (hkept.uiStepWith hkept.keptByRecord
    (fun _ _ _ _ _ w x hP hd _ _ => ofDevice_cancelEvent hP.1 hd w x.1)
    ⟨fun _ => rfl, .of_deliveries_eq rfl⟩ ht).2

/-- What the listeners are handed for a key is of its device. -/
theorem mem_handedKeys {nBackendId : ℕ} {eType : KeyInputType} {eHK : HardwareKey}
    {x : ListenerId × KeyEvent} (hx : x ∈ m.handedKeys nBackendId eType eHK) :
    ∃ d, m.device nBackendId = some d ∧ x.2.device = d.deviceId ∧ x.2.type = eType ∧
      x.2.key = eHK := by
  rw [handedKeys] at hx
  split at hx
  · next d _ _ hd _ =>
    obtain ⟨l, -, rfl⟩ := List.mem_map.mp hx
    exact ⟨d, hd, rfl, rfl, rfl⟩
  · cases hx

theorem handsOutOwn_blueKey {nBackendId : ℕ} {eType : KeyInputType} {eHK : HardwareKey}
    (ht : m.step (.blueKey nBackendId eType eHK) = .ok t) : HandsOut m.OfDevice m t := by
  change (onBlueKey record nBackendId eType eHK m).bind (fun r => .ok r.2) = .ok t at ht
  by_cases hok : nBackendId < m.btDevices.length ∧
      (m.selected ≠ none → (m.device nBackendId).isSome)
  · rw [onBlueKey_record_eq eType eHK hok.1 hok.2] at ht
    obtain rfl := Except.ok.inj ht
    refine (HandsOut.of_deliveries_eq (deliveries_keyed nBackendId eType eHK m)).append rfl
      fun l e hmem => ?_
    obtain ⟨x, hx, heq⟩ := List.mem_map.mp hmem
    obtain ⟨d, hd, hid, -⟩ := mem_handedKeys hx
    cases heq
    exact ⟨nBackendId, d, hd, hid⟩
  · rw [onBlueKey_error eType eHK hok] at ht
    cases ht

/-- The key events that a step hands out are of devices that are there. -/
theorem handsOutOwn_step (h : m.Sound) {op : Op} (ht : m.step op = .ok t) :
    HandsOut m.OfDevice m t := by
  cases op with
  | deviceAdded sName nBackendId =>
    obtain ⟨-, rfl⟩ := (onDeviceAdded_eq_ok h.deviceIdsLt).mp ht
    exact HandsOut.append (t := m) (.of_deliveries_eq rfl) rfl (by simp)
  | deviceRemoved nBackendId =>
    change onDeviceRemoved record nBackendId m = .ok t at ht
    obtain ⟨u, d, hu, rfl⟩ := onDeviceRemoved_cases ht
    have hcanceled := ((keptByOps_handsOutOwn m).keptByRecord.cancelDeviceKeys
      ⟨fun _ => rfl, .of_deliveries_eq rfl⟩ hu).2
    exact hcanceled.append rfl (by simp)
  | blueKey nBackendId eType eHK => exact handsOutOwn_blueKey ht
  | ui op => exact handsOutOwn_uiStep ht

/-- The device is not there and does not come back. -/
structure Gone (deviceId : DeviceId) (m : BtGtkDeviceManager) : Prop where
  lt : deviceId < m.nextDeviceId
  ne : ∀ i d, m.device i = some d → d.deviceId ≠ deviceId

variable {deviceId : DeviceId}

theorem Gone.of_sameIdentities (h : m.Gone deviceId) (hs : m.SameIdentities t) :
    t.Gone deviceId := by
  refine ⟨hs.nextDeviceId ▸ h.lt, fun i d hd => ?_⟩
  obtain ⟨e, he, -, hid⟩ := hs.symm.device_eq_some hd
  exact hid ▸ h.ne i e he

theorem Gone.step (h : m.Gone deviceId) (hsound : m.Sound) {op : Op} (ht : m.step op = .ok t) :
    t.Gone deviceId := by
  obtain ⟨sName, nBackendId, rfl, -, rfl⟩ | ⟨nBackendId, d, es, canceledKeys, rfl, -, rfl⟩ |
    ⟨nBackendId, eType, eHK, es, rfl, rfl⟩ | ⟨uiOp, rfl, hui⟩ := step_cases hsound ht
  · refine ⟨Nat.lt_succ_of_lt h.lt, fun i d hd => ?_⟩
    rw [device_deviceAdded] at hd
    split_ifs at hd
    · cases hd
      exact h.lt.ne'
    · exact h.ne i d hd
  · refine ⟨h.lt, fun i d' hd => ?_⟩
    rw [device_deviceRemoved] at hd
    split_ifs at hd
    exact h.ne i d' hd
  · exact h.of_sameIdentities (sameIdentities_keyed ..)
  · exact h.of_sameIdentities (sameIdentities_uiStep hsound.toWindowsTracked hui)

/-- No run hands out key events of a device that is gone. -/
theorem handsOutOthers_exec (h : m.Gone deviceId) (hsound : m.Sound) {ops : List Op}
    (ht : Run.exec step m ops = .ok t) : HandsOut (·.device ≠ deviceId) m t := by
  induction ops generalizing m with
  | nil => exact Except.ok.inj ht ▸ .of_deliveries_eq rfl
  | cons op ops ih =>
    obtain ⟨u, hu, hrest⟩ := Run.exec_cons_eq_ok.mp ht
    obtain ⟨ds, hds, hown⟩ := handsOutOwn_step hsound hu
    refine .trans ⟨ds, hds, fun l e hmem => ?_⟩ (ih (h.step hsound hu) (hsound.step hu) hrest)
    obtain ⟨i, d, hd, hid⟩ := hown l e hmem
    exact hid ▸ h.ne i d hd

/-! ### The removal -/

/-- One cancel for every key pressed on the device whose press is not older than the listener. Their
order is of no account, as the pressed keys are an `unordered_map`. -/
def dueCancels (l : ListenerData) (d : BtKeysDevice) (m : BtGtkDeviceManager) : List KeyEvent :=
  m.selected.toList.flatMap fun refSelected =>
    (d.pressedKeys.entries.filter fun k => l.addedTimeStamp ≤ k.2.pressedTimeStamp).map fun k =>
      ⟨(m.windowData refSelected).accessor, d.deviceId, keyReleaseCancel, k.1⟩

/-- `t` is `m` without the device `d`, whose keys were cancelled, in whatever order, before its
removal was reported. -/
structure RemovesDevice (nBackendId : ℕ) (d : BtKeysDevice) (m t : BtGtkDeviceManager) : Prop where
  delivered : ∃ es : List (ListenerId × KeyEvent),
    t.deliveries = m.deliveries ++ es.map (fun e => .key e.1 e.2) ++
      [.deviceMgmt .removed d.name d.deviceId] ∧
    (∀ l ∈ m.listeners.1,
      (keyEventsOf l.id (es.map fun e => .key e.1 e.2)).Perm (m.dueCancels l d)) ∧
    ∀ l ∉ m.listeners.1.map ListenerData.id, keyEventsOf l (es.map fun e => .key e.1 e.2) = []
  silent : ∀ ops u, Run.exec step t ops = .ok u → HandsOut (·.device ≠ d.deviceId) t u
  device : ∀ i, t.device i = if i = nBackendId then none else m.device i
  selected : t.selected = m.selected
  notCanceling : t.cancelingNestedDepth = 0
  memoryEmpty : ∀ l ∈ t.listeners.1, t.canceledKeys l.id = []

theorem keyEventsOf_append (l : ListenerId) (ds ds' : List Delivery) :
    keyEventsOf l (ds ++ ds') = keyEventsOf l ds ++ keyEventsOf l ds' :=
  List.filterMap_append

variable {nBackendId : ℕ} {d : BtKeysDevice} {refSelected : WindowDataId}

theorem deviceCancels_of_selected (hen : m.isEventClassEnabled .keyEvent)
    (hsel : m.selected = some refSelected) (howner : d.hasOwner) :
    m.deviceCancels d = d.cancels (m.windowData refSelected).accessor := by
  simp [deviceCancels, cancelingAccessor, hen, hsel, howner]

/-- The cancels of one device all have different keys, so that each listener with an empty memory
gets those that are due. -/
theorem keyEventsOf_deviceCanceled (h : m.Settled) (hen : m.isEventClassEnabled .keyEvent)
    (hsel : m.selected = some refSelected) (hd : m.device nBackendId = some d)
    {l : ListenerData} (hl : l ∈ m.listeners.1) :
    keyEventsOf l.id (m.deviceCanceled nBackendId d).deliveries =
      keyEventsOf l.id m.deliveries ++ m.dueCancels l d := by
  have hcancels := deviceCancels_of_selected hen hsel (h.hasOwner _ _ hd)
  have hview := congrArg Prod.snd
    (Memory.view_cancelAll m.listeners.2 hl (m.deviceCancels d) m.memory)
  have hempty : m.memory.canceledKeys l.id = [] := h.memoryEmpty l hl
  rw [hempty, hcancels, FirstOccurrence.keep_eq_self (pairwise_cancels d _)] at hview
  have hdue : m.dueCancels l d =
      ((d.cancels (m.windowData refSelected).accessor).filter (Cancel.isDue l)).map
        Cancel.event := by
    rw [dueCancels, hsel, BtKeysDevice.cancels, List.filter_map, List.map_map]
    simp only [Option.toList_some, List.flatMap_singleton]
    rfl
  rw [deviceCanceled, deliveries_endCanceling, hdue, ← hcancels]
  rw [← hcancels] at hview
  exact hview

variable (nBackendId d) in
theorem keyEventsOf_deviceCanceled_of_not_mem {l : ListenerId}
    (hl : l ∉ m.listeners.1.map ListenerData.id) :
    keyEventsOf l (m.deviceCanceled nBackendId d).deliveries = keyEventsOf l m.deliveries := by
  rw [deviceCanceled, deliveries_endCanceling]
  exact congrArg Prod.snd (Memory.view_cancelAll_of_not_mem hl (m.deviceCancels d) m.memory)

theorem Settled.removesDevice (h : m.Settled) (hen : m.isEventClassEnabled .keyEvent)
    (hsel : m.selected = some refSelected) (hd : m.device nBackendId = some d) :
    RemovesDevice nBackendId d m
      (deviceRemoved nBackendId d (m.withMemory (m.deviceCanceled nBackendId d).memory)) := by
  have hstep : m.step (.deviceRemoved nBackendId) = .ok _ := onDeviceRemoved_record_eq hd
  have hsettled := h.step hstep
  refine ⟨?_, fun ops u hu => handsOutOthers_exec ⟨?_, fun i d' hd' => ?_⟩ hsettled.toSound hu,
    fun i => device_deviceRemoved .., rfl, hsettled.notCanceling, hsettled.memoryEmpty⟩
  · obtain ⟨es, hes⟩ := Memory.cancelAll_deliveries m.listeners.1 (m.deviceCancels d) m.memory
    have hdeliveries : (m.deviceCanceled nBackendId d).deliveries =
        m.deliveries ++ es.map fun e => .key e.1 e.2 := by
      rw [deviceCanceled, deliveries_endCanceling]
      exact hes
    refine ⟨es, congrArg (· ++ _) hdeliveries, fun l hl => ?_, fun l hl => ?_⟩
    · have hevents := keyEventsOf_deviceCanceled h hen hsel hd hl
      rw [hdeliveries, keyEventsOf_append] at hevents
      exact .of_eq (List.append_cancel_left hevents)
    · have hevents := keyEventsOf_deviceCanceled_of_not_mem nBackendId d hl
      rw [hdeliveries, keyEventsOf_append] at hevents
      simpa using hevents
  · exact h.deviceIdsLt d (mem_devices.mpr ⟨nBackendId, hd⟩)
  · rw [device_deviceRemoved] at hd'
    split_ifs at hd' with hi
    exact fun hid => hi (h.deviceIds i nBackendId d' d hd' hd hid)

theorem enabled_of_exec {ops : List Op} (h : m.Settled) (hen : m.isEventClassEnabled .keyEvent)
    (ht : Run.exec step m ops = .ok t) : t.Settled ∧ t.isEventClassEnabled .keyEvent :=
  Run.invariant (P := fun m => m.Settled ∧ m.isEventClassEnabled .keyEvent)
    (fun _ _ _ hm hu => ⟨hm.1.step hu, isEventClassEnabled_step hm.1.toSound hu _ hm.2⟩)
    ⟨h, hen⟩ ht

/-- In every state that a manager with enabled key events reaches, the removal of a device while a
window is selected hands each listener one cancel for every key of the device that is due to it,
then reports the removal, and leaves everything else alone; no run hands out a key event of the
device after that. -/
theorem removesDevice_of_run (enabledEventClasses : EventClass → Bool)
    (windows : Window → WindowState) (ops : List Op)
    (henabled : enabledEventClasses .keyEvent)
    (hrun : Run.exec step (create enabledEventClasses windows) ops = .ok m)
    (hsel : m.selected ≠ none) (hd : m.device nBackendId = some d) :
    ∃ t, onDeviceRemoved record nBackendId m = .ok t ∧ RemovesDevice nBackendId d m t := by
  obtain ⟨hsettled, hen⟩ :=
    enabled_of_exec (settled_create enabledEventClasses windows) henabled hrun
  obtain ⟨refSelected, hsel⟩ := Option.ne_none_iff_exists'.mp hsel
  exact ⟨_, onDeviceRemoved_record_eq hd, hsettled.removesDevice hen hsel hd⟩

/-- Two devices hold the same key, one listener was there before and one comes after. -/
def sameKeyOnTwoDevices : List Op :=
  [.ui (.addListener 0), .ui (.addAccessor (.gtk 0)), .deviceAdded 0xA0 0, .deviceAdded 0xB0 1,
    .blueKey 0 keyPress 30, .blueKey 1 keyPress 30, .ui (.addListener 1), .blueKey 0 keyPress 31]

theorem removesDevice_sameKey : ∃ m d t,
    Run.exec step (amongActive true) sameKeyOnTwoDevices = .ok m ∧ m.device 0 = some d ∧
      onDeviceRemoved record 0 m = .ok t ∧ RemovesDevice 0 d m t := by
  have hok : (Run.exec step (amongActive true) sameKeyOnTwoDevices).toOption.map
    (fun m => (m.selected, (m.device 0).isSome)) = some (some 0, true) := by decide
  obtain ⟨m, hm, hview⟩ := Run.exists_exec_of_view hok
  obtain ⟨hsel, hdevice⟩ := Prod.mk.inj hview
  obtain ⟨d, hd⟩ := Option.isSome_iff_exists.mp hdevice
  obtain ⟨t, ht, hremoves⟩ := removesDevice_of_run (fun _ => true) (fun _ => ⟨true, false⟩)
    sameKeyOnTwoDevices rfl hm (by simp [hsel]) hd
  exact ⟨m, d, t, hm, hd, ht, hremoves⟩

end BtGtkDeviceManager

end StmmInputBt
