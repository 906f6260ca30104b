import StmmInputBt.Foundation.Switches
import StmmInputBt.Manager.DeviceRemoval

/-!
# What a listener makes of its events

A listener that follows the key events that it is handed knows which keys are pressed on which
devices: as long as it is there, these are the keys that the devices have pressed since it was
added. Presses before that are not reported to it, nor are their releases.

The memory of the cancels holds keys and not pairs of a device and a key. So this needs that no key
is held on two devices when a window is deselected, as far as the listener is concerned.

## Main definitions

* `BtGtkDeviceManager.shownEvents`: what a step shows to a listener.
* `BtGtkDeviceManager.Shows`: the key is pressed, and its press is not older than the listener.
* `BtGtkDeviceManager.ShowsAll`: the condition on a step.

## Main results

* `BtGtkDeviceManager.after_shownEvents_run`: what a listener has been shown is what there is.
-/

namespace StmmInputBt

/-- A key of a device. -/
abbrev DeviceKey := DeviceId × HardwareKey

/-- What an event says about a key. -/
def KeyEvent.switch (e : KeyEvent) : Switches.Event DeviceKey :=
  .set (e.device, e.key) (e.type = keyPress)

/-- The key is one of the device and pressed, and its press is not older than the listener. -/
def BtKeysDevice.Shows (l : ListenerData) (d : BtKeysDevice) (x : DeviceKey) : Prop :=
  d.deviceId = x.1 ∧ ∃ oKeyData, d.pressedKeys.lookup x.2 = some oKeyData ∧
    l.addedTimeStamp ≤ oKeyData.pressedTimeStamp

namespace BtGtkDeviceManager

/-- What a listener has been shown since `m`. -/
def shownSince (l : ListenerId) (m t : BtGtkDeviceManager) : List (Switches.Event DeviceKey) :=
  (keyEventsOf l (t.deliveries.drop m.deliveries.length)).map KeyEvent.switch

/-- What a step shows to a listener, which starts over when it is added. -/
def shownEvents (l : ListenerId) (m : BtGtkDeviceManager) (op : Op) :
    List (Switches.Event DeviceKey) :=
  match op with
  | .ui (.addListener l') =>
    if l' = l ∧ l ∉ m.listeners.1.map ListenerData.id then [.clear] else []
  | op =>
    match m.step op with
    | .ok t => shownSince l m t
    | .error _ => []

/-- A device has pressed the key, and the press is not older than the listener. -/
def Shows (l : ListenerData) (m : BtGtkDeviceManager) (x : DeviceKey) : Prop :=
  ∃ i d, m.device i = some d ∧ d.Shows l x

/-- The listener is not finalized, and when a window is deselected no key is held twice as far as it
is concerned. -/
def ShowsAll (l : ListenerId) (m : BtGtkDeviceManager) : Op → Prop
  | .ui (.finalizeListener l') => l'.id ≠ l
  | .ui op => m.deselects op → ∀ l' ∈ m.listeners.1, l'.id = l → m.NoKeyHeldTwice l'
  | _ => True

-- the pressed keys are gone through, not all keys that there are
instance (l : ListenerData) (m : BtGtkDeviceManager) : Decidable (m.NoKeyHeldTwice l) :=
  @List.instDecidablePairwise _ _ (fun _ _ => List.decidableBAll _ _) _

instance (l : ListenerId) (m : BtGtkDeviceManager) (op : Op) : Decidable (m.ShowsAll l op) :=
  match op with
  | .ui (.finalizeListener l') => inferInstanceAs (Decidable (l'.id ≠ l))
  | .ui (.addAccessor _) | .ui (.removeAccessor _) | .ui (.activeChanged ..)
  | .ui (.windowChanged ..) | .ui (.enableEventClass _) | .ui (.addListener _)
  | .ui (.removeListener _) => inferInstanceAs (Decidable (_ → ∀ l' ∈ m.listeners.1, l'.id = l → _))
  | .deviceAdded .. | .deviceRemoved _ | .blueKey .. => isTrue trivial

variable {m t : BtGtkDeviceManager} {l : ListenerData} {x : DeviceKey} {nBackendId : ℕ}
  {eHK : HardwareKey} {d : BtKeysDevice}

/-! ### The keys of the devices -/

theorem shows_congr (h : ∀ i, t.device i = m.device i) : t.Shows l x ↔ m.Shows l x := by
  simp only [Shows, h]

theorem device_modifyDevice_self (hd : m.device nBackendId = some d)
    (f : BtKeysDevice → BtKeysDevice) :
    (m.modifyDevice nBackendId f).device nBackendId = some (f d) := by
  rw [device_modifyDevice, if_pos rfl, hd, Option.map_some]

/-- A key that is pressed now is shown to everybody, and changes nothing else. -/
theorem shows_pressed (hd : m.device nBackendId = some d)
    (hold : l.addedTimeStamp ≤ m.nextTimeStamp) :
    (m.pressed nBackendId eHK).Shows l x ↔ x = (d.deviceId, eHK) ∨ m.Shows l x := by
  obtain ⟨device, key⟩ := x
  have hpressed := device_modifyDevice_self hd fun d =>
    { d with pressedKeys := d.pressedKeys.insert eHK ⟨m.nextTimeStamp⟩ }
  constructor
  · rintro ⟨i, d', hd', hdevice, oKeyData, hlookup, hts⟩
    rw [device_pressed] at hd'
    split_ifs at hd' with hi
    · subst hi
      rw [hd] at hd'
      obtain rfl := Option.some.inj hd'
      by_cases hkey : key = eHK
      · exact .inl (Prod.ext hdevice.symm hkey)
      · rw [AList.lookup_insert_ne hkey] at hlookup
        exact .inr ⟨i, d, hd, hdevice, oKeyData, hlookup, hts⟩
    · exact .inr ⟨i, d', hd', hdevice, oKeyData, hlookup, hts⟩
  · rintro (heq | ⟨i, d', hd', hdevice, oKeyData, hlookup, hts⟩)
    · obtain ⟨rfl, rfl⟩ := Prod.mk.inj heq
      exact ⟨nBackendId, _, hpressed, rfl, _, AList.lookup_insert _, hold⟩
    · by_cases hi : i = nBackendId
      · subst hi
        obtain rfl := Option.some.inj (hd.symm.trans hd')
        by_cases hkey : key = eHK
        · subst hkey
          exact ⟨i, _, hpressed, hdevice, _, AList.lookup_insert _, hold⟩
        · exact ⟨i, _, hpressed, hdevice, oKeyData, (AList.lookup_insert_ne hkey).trans hlookup,
            hts⟩
      · exact ⟨i, d', (device_pressed ..).trans ((if_neg hi).trans hd'), hdevice, oKeyData, hlookup,
          hts⟩

/-- A key that is released is not shown any more. -/
theorem shows_released (hids : m.DeviceIdsDistinct) (hd : m.device nBackendId = some d) :
    (m.modifyDevice nBackendId fun d =>
      { d with pressedKeys := d.pressedKeys.erase eHK }).Shows l x ↔
        m.Shows l x ∧ x ≠ (d.deviceId, eHK) := by
  obtain ⟨device, key⟩ := x
  constructor
  · rintro ⟨i, d', hd', rfl, oKeyData, hlookup, hts⟩
    rw [device_modifyDevice] at hd'
    split_ifs at hd' with hi
    · subst hi
      rw [hd] at hd'
      obtain rfl := Option.some.inj hd'
      have hkey : key ≠ eHK := by
        rintro rfl
        rw [AList.lookup_erase] at hlookup
        cases hlookup
      rw [AList.lookup_erase_ne hkey] at hlookup
      exact ⟨⟨i, d, hd, rfl, oKeyData, hlookup, hts⟩, fun heq => hkey (congrArg Prod.snd heq)⟩
    · refine ⟨⟨i, d', hd', rfl, oKeyData, hlookup, hts⟩, fun heq => hi ?_⟩
      exact hids i nBackendId d' d hd' hd (congrArg Prod.fst heq)
  · rintro ⟨⟨i, d', hd', rfl, oKeyData, hlookup, hts⟩, hne⟩
    by_cases hi : i = nBackendId
    · subst hi
      obtain rfl := Option.some.inj (hd.symm.trans hd')
      have hkey : key ≠ eHK := fun heq => hne (Prod.ext rfl heq)
      exact ⟨i, _, device_modifyDevice_self hd _, rfl, oKeyData,
        (AList.lookup_erase_ne hkey).trans hlookup, hts⟩
    · exact ⟨i, d', (device_modifyDevice ..).trans ((if_neg hi).trans hd'), rfl, oKeyData, hlookup,
        hts⟩

/-! ### What is handed out -/

/-- The events of a listener among those of a key. -/
theorem keyEventsOf_filter {ls : List ListenerData} (hls : (ls.map ListenerData.id).Nodup)
    (hl : l ∈ ls) (p : ListenerData → Bool) (e : KeyEvent) :
    keyEventsOf l.id ((ls.filter p).map fun l => .key l.id e) = if p l then [e] else [] := by
  induction ls with
  | nil => cases hl
  | cons l' ls ih =>
    rw [List.map_cons, List.nodup_cons] at hls
    rcases List.mem_cons.mp hl with rfl | hmem
    · -- the others have other ids
      have hrest : keyEventsOf l.id ((ls.filter p).map fun l => .key l.id e) = [] := by
        refine List.filterMap_eq_nil_iff.mpr fun ds hds => ?_
        obtain ⟨l', hl', rfl⟩ := List.mem_map.mp hds
        have hne : l'.id ≠ l.id := fun heq =>
          hls.1 (heq ▸ List.mem_map_of_mem (List.mem_of_mem_filter hl'))
        exact if_neg hne
      cases hp : p l with
      | false => rw [List.filter_cons_of_neg (by simp [hp]), hrest]; rfl
      | true =>
        rw [List.filter_cons_of_pos hp, List.map_cons, keyEventsOf, List.filterMap_cons]
        simpa [keyEventsOf] using hrest
    · have hne : l'.id ≠ l.id := fun heq => hls.1 (heq ▸ List.mem_map_of_mem hmem)
      rw [← ih hls.2 hmem]
      cases hp : p l' with
      | false => rw [List.filter_cons_of_neg (by simp [hp])]
      | true =>
        rw [List.filter_cons_of_pos hp, List.map_cons, keyEventsOf, List.filterMap_cons]
        simp [hne, keyEventsOf]

theorem shownSince_of_deliveries {ds : List Delivery}
    (hds : t.deliveries = m.deliveries ++ ds) (lid : ListenerId) :
    shownSince lid m t = (keyEventsOf lid ds).map KeyEvent.switch := by
  rw [shownSince, hds, List.drop_left]

theorem shownEvents_of_step {op : Op} (ht : m.step op = .ok t) (lid : ListenerId)
    (hop : ∀ l', op ≠ .ui (.addListener l')) : shownEvents lid m op = shownSince lid m t := by
  rw [shownEvents]
  · rw [ht]
  · exact fun l' heq => hop l' heq

/-- What a step shows, in terms of all that the listener was handed. -/
theorem shownEvents_eq (hsound : m.Sound) {op : Op} (ht : m.step op = .ok t) {lid : ListenerId}
    (hop : ∀ l', op ≠ .ui (.addListener l')) {es : List KeyEvent}
    (hes : t.keyEvents lid = m.keyEvents lid ++ es) :
    shownEvents lid m op = es.map KeyEvent.switch := by
  obtain ⟨ds, hds, -⟩ := handsOutOwn_step hsound ht
  have hevents : keyEventsOf lid ds = es := by
    rw [keyEvents, keyEvents, hds, keyEventsOf_append] at hes
    exact List.append_cancel_left hes
  rw [shownEvents_of_step ht lid hop, shownSince_of_deliveries hds, hevents]

/-- What holds after a run in the course of which the listener was shown `es`. -/
structure Viewing (lid : ListenerId) (m : BtGtkDeviceManager)
    (es : List (Switches.Event DeviceKey)) : Prop where
  settled : m.Settled
  enabled : m.isEventClassEnabled .keyEvent
  belong : ∃ history, m.KeysBelong history ∧ m.HistoryIncreasing history
  added : ∀ l ∈ m.listeners.1, l.addedTimeStamp ≤ m.nextTimeStamp
  shows : ∀ l ∈ m.listeners.1, l.id = lid → ∀ x, Switches.after es x = true ↔ m.Shows l x

variable {lid : ListenerId} {es : List (Switches.Event DeviceKey)}

/-- A window is selected while something is shown, and a listener that is added is shown nothing. -/
theorem Viewing.of_shows (h : Viewing lid m es) (hx : m.Shows l x) :
    m.selected ≠ none ∧ l.addedTimeStamp < m.nextTimeStamp := by
  obtain ⟨i, d, hd, -, oKeyData, hlookup, hts⟩ := hx
  obtain ⟨history, hbelong, -, hlt⟩ := h.belong
  obtain ⟨refSelected, hsel, hmem⟩ := hbelong i d hd _ _ hlookup
  exact ⟨by simp [hsel], hts.trans_lt (hlt _ hmem)⟩

/-! ### A device comes or goes -/

theorem Viewing.shows_deviceAdded (h : Viewing lid m es) {sName : BdAddr}
    (ht : m.step (.deviceAdded sName nBackendId) = .ok t) :
    ∀ l ∈ t.listeners.1, l.id = lid → ∀ x,
      Switches.after (es ++ shownEvents lid m (.deviceAdded sName nBackendId)) x = true ↔
        t.Shows l x := by
  obtain ⟨hnone, rfl⟩ := (onDeviceAdded_eq_ok h.settled.deviceIdsLt).mp ht
  have hevents : (m.deviceAdded sName nBackendId).keyEvents lid = m.keyEvents lid ++ [] := by
    simp [keyEvents, keyEventsOf, deviceAdded, sendDeviceMgmtToListeners]
  rw [shownEvents_eq h.settled.toSound ht (by simp) hevents, List.map_nil, List.append_nil]
  intro l hl hid x
  rw [h.shows l hl hid]
  constructor
  · rintro ⟨i, d, hd, hx⟩
    have hi : i ≠ nBackendId := fun heq => by simp [← heq, hd] at hnone
    exact ⟨i, d, (device_deviceAdded ..).trans ((if_neg hi).trans hd), hx⟩
  · rintro ⟨i, d, hd, hx⟩
    rw [device_deviceAdded] at hd
    split_ifs at hd
    · obtain rfl := Option.some.inj hd
      obtain ⟨-, oKeyData, hlookup, -⟩ := hx
      cases hlookup
    · exact ⟨i, d, hd, hx⟩

/-- Also without a selected window the listeners are handed the cancels that are due. -/
theorem keyEvents_deviceRemoved (h : m.Settled) (hen : m.isEventClassEnabled .keyEvent)
    (hd : m.device nBackendId = some d) (hl : l ∈ m.listeners.1) :
    (deviceRemoved nBackendId d (m.withMemory (m.deviceCanceled nBackendId d).memory)).keyEvents
      l.id = m.keyEvents l.id ++ m.dueCancels l d := by
  have hcanceled : keyEventsOf l.id (m.deviceCanceled nBackendId d).deliveries =
      keyEventsOf l.id m.deliveries ++ m.dueCancels l d := by
    cases hsel : m.selected with
    | some refSelected => exact keyEventsOf_deviceCanceled h hen hsel hd hl
    | none =>
      have hnone : m.deviceCancels d = [] := by simp [deviceCancels, cancelingAccessor, hsel]
      have hdue : m.dueCancels l d = [] := by simp [dueCancels, hsel]
      rw [deviceCanceled, deliveries_endCanceling, hnone, hdue, List.append_nil]
      rfl
  rw [keyEvents, keyEvents, ← hcanceled]
  simp [deviceRemoved, sendDeviceMgmtToListeners, withMemory, memory, keyEventsOf]

/-- The cancels that are due for a device are those of the keys that it shows. -/
theorem mem_switch_dueCancels (hsel : m.selected ≠ none) {e : Switches.Event DeviceKey} :
    e ∈ (m.dueCancels l d).map KeyEvent.switch ↔ ∃ x, e = .set x false ∧ d.Shows l x := by
  obtain ⟨refSelected, hsel⟩ := Option.ne_none_iff_exists'.mp hsel
  simp only [dueCancels, hsel, Option.toList_some, List.flatMap_singleton, List.map_map,
    List.mem_map, List.mem_filter, decide_eq_true_eq]
  constructor
  · rintro ⟨k, ⟨hk, hts⟩, rfl⟩
    exact ⟨(d.deviceId, k.1), rfl, rfl, k.2, AList.mem_lookup_iff.mpr hk, hts⟩
  · rintro ⟨⟨device, key⟩, rfl, rfl, oKeyData, hlookup, hts⟩
    exact ⟨⟨key, oKeyData⟩, ⟨AList.mem_lookup_iff.mp hlookup, hts⟩, rfl⟩

theorem Viewing.shows_deviceRemoved (h : Viewing lid m es)
    (ht : m.step (.deviceRemoved nBackendId) = .ok t) :
    ∀ l ∈ t.listeners.1, l.id = lid → ∀ x,
      Switches.after (es ++ shownEvents lid m (.deviceRemoved nBackendId)) x = true ↔
        t.Shows l x := by
  obtain ⟨d, hd, rfl⟩ := onDeviceRemoved_record_eq_ok.mp ht
  rintro l hl rfl x
  have hlm : l ∈ m.listeners.1 := hl
  have hdevice := device_deviceRemoved nBackendId d
    (m.withMemory (m.deviceCanceled nBackendId d).memory)
  rw [shownEvents_eq h.settled.toSound ht (by simp)
    (keyEvents_deviceRemoved h.settled h.enabled hd hlm), Switches.after_append]
  by_cases hsel : m.selected = none
  · -- nothing is shown without a selected window
    have hnot : ¬ m.Shows l x := fun hx => (h.of_shows hx).1 hsel
    have hnil : m.dueCancels l d = [] := by simp [dueCancels, hsel]
    rw [hnil, List.map_nil, List.foldl_nil, h.shows l hlm rfl]
    refine iff_of_false hnot ?_
    rintro ⟨i, d', hd', hx⟩
    rw [hdevice] at hd'
    split_ifs at hd'
    exact hnot ⟨i, d', hd', hx⟩
  · rw [Switches.foldl_step_off (fun e he => ?_), h.shows l hlm rfl, mem_switch_dueCancels hsel]
    · constructor
      · rintro ⟨⟨i, d', hd', hx⟩, hgone⟩
        have hi : i ≠ nBackendId := by
          rintro rfl
          obtain rfl := Option.some.inj (hd.symm.trans hd')
          exact hgone ⟨x, rfl, hx⟩
        exact ⟨i, d', (hdevice i).trans ((if_neg hi).trans hd'), hx⟩
      · rintro ⟨i, d', hd', hx⟩
        rw [hdevice] at hd'
        split_ifs at hd' with hi
        refine ⟨⟨i, d', hd', hx⟩, ?_⟩
        rintro ⟨x', heq, hx'⟩
        obtain rfl := (Switches.Event.set.inj heq).1
        exact hi (h.settled.deviceIds i nBackendId d' d hd' hd (hx.1.trans hx'.1.symm))
    · obtain ⟨x, rfl, -⟩ := (mem_switch_dueCancels hsel).mp he
      exact ⟨x, rfl⟩

/-! ### A key -/

/-- A listener is handed a key that is handed out if the press is not older than itself. -/
theorem keyEvents_blueKey {refSelected : WindowDataId} {eType : KeyInputType} {s : ℕ}
    (hsel : m.selected = some refSelected) (hd : m.device nBackendId = some d)
    (hhanded : m.handedSince nBackendId eType eHK = some s) (hl : l ∈ m.listeners.1) :
    (appendKeyEvents (m.handedKeys nBackendId eType eHK) (m.keyed nBackendId eType eHK)).keyEvents
      l.id = m.keyEvents l.id ++ if l.addedTimeStamp ≤ s then
        [⟨(m.windowData refSelected).accessor, d.deviceId, eType, eHK⟩] else [] := by
  have hkeys : m.handedKeys nBackendId eType eHK =
      (m.listeners.1.filter fun l => l.addedTimeStamp ≤ s).map fun l =>
        (l.id, ⟨(m.windowData refSelected).accessor, d.deviceId, eType, eHK⟩) := by
    simp only [handedKeys, hsel, hd, hhanded]
  have hfilter := keyEventsOf_filter m.listeners.2 hl (fun l => l.addedTimeStamp ≤ s)
    ⟨(m.windowData refSelected).accessor, d.deviceId, eType, eHK⟩
  simp only [decide_eq_true_eq] at hfilter
  rw [keyEvents, appendKeyEvents, hkeys, keyEventsOf_append, deliveries_keyed, List.map_map,
    ← hfilter]
  rfl

/-- What a key does. -/
theorem blueKey_cases {eType : KeyInputType}
    (ht : m.step (.blueKey nBackendId eType eHK) = .ok t) :
    t = m ∨ ∃ refSelected d s, m.selected = some refSelected ∧ m.device nBackendId = some d ∧
      t = appendKeyEvents (m.handedKeys nBackendId eType eHK) (m.keyed nBackendId eType eHK) ∧
      m.handedSince nBackendId eType eHK = some s ∧
      ((eType = keyPress ∧ s = m.nextTimeStamp ∧
        m.keyed nBackendId eType eHK = m.pressed nBackendId eHK) ∨
      eType ≠ keyPress ∧ d.pressedKeys.lookup eHK = some ⟨s⟩ ∧
        m.keyed nBackendId eType eHK = m.modifyDevice nBackendId fun d =>
          { d with pressedKeys := d.pressedKeys.erase eHK }) := by
  change (onBlueKey record nBackendId eType eHK m).bind (fun r => .ok r.2) = .ok t at ht
  by_cases hok : nBackendId < m.btDevices.length ∧
      (m.selected ≠ none → (m.device nBackendId).isSome)
  · rw [onBlueKey_record_eq eType eHK hok.1 hok.2] at ht
    obtain rfl := Except.ok.inj ht
    cases hsel : m.selected with
    | none => exact .inl (by simp [handedKeys, hsel, keyed_of_idle hsel])
    | some refSelected =>
      obtain ⟨d, hd⟩ := Option.isSome_iff_exists.mp (hok.2 (by simp [hsel]))
      cases hhanded : m.handedSince nBackendId eType eHK with
      | none => exact .inl (by simp [handedKeys, hsel, hd, hhanded, keyed_of_not_handed hhanded])
      | some s =>
        refine .inr ⟨refSelected, d, s, rfl, hd, rfl, rfl, ?_⟩
        obtain ⟨howner, ⟨rfl, hnew, rfl⟩ | ⟨htype, hlookup⟩⟩ := (handedSince_eq_some hd).mp hhanded
        · exact .inl ⟨rfl, rfl, keyed_press hsel hd howner hnew⟩
        · have hmem : eHK ∈ d.pressedKeys := AList.lookup_isSome.mp (by rw [hlookup]; rfl)
          exact .inr ⟨htype, hlookup, keyed_release hsel hd howner htype hmem⟩
  · rw [onBlueKey_error eType eHK hok] at ht
    cases ht

theorem listeners_keyed (nBackendId : ℕ) (eType : KeyInputType) (eHK : HardwareKey)
    (m : BtGtkDeviceManager) : (m.keyed nBackendId eType eHK).listeners = m.listeners := by
  obtain hsame | ⟨_, _, -, -, -, -, hpress⟩ | ⟨-, hrelease⟩ := keyed_cases nBackendId eType eHK m
  · rw [hsame]
  · rw [hpress]
    rfl
  · rw [hrelease]
    rfl

theorem Viewing.shows_blueKey (h : Viewing lid m es) {eType : KeyInputType}
    (ht : m.step (.blueKey nBackendId eType eHK) = .ok t) :
    ∀ l ∈ t.listeners.1, l.id = lid → ∀ x,
      Switches.after (es ++ shownEvents lid m (.blueKey nBackendId eType eHK)) x = true ↔
        t.Shows l x := by
  rintro l hl rfl x
  obtain rfl | ⟨refSelected, d, s, hsel, hd, rfl, hhanded, hcase⟩ :=
    blueKey_cases ht
  · rw [shownEvents_eq h.settled.toSound ht (by simp) (List.append_nil _).symm, List.map_nil,
      List.append_nil, h.shows l hl rfl]
  have hlm : l ∈ m.listeners.1 := listeners_keyed nBackendId eType eHK m ▸ hl
  rw [shownEvents_eq h.settled.toSound ht (by simp) (keyEvents_blueKey hsel hd hhanded hlm),
    Switches.after_append]
  change _ ↔ (m.keyed nBackendId eType eHK).Shows l x
  rcases hcase with ⟨rfl, rfl, hkeyed⟩ | ⟨htype, hlookup, hkeyed⟩
  · rw [if_pos (h.added l hlm), hkeyed, shows_pressed hd (h.added l hlm), ← h.shows l hlm rfl]
    by_cases hx : x = (d.deviceId, eHK) <;>
      simp [KeyEvent.switch, Switches.step, hx]
  · rw [hkeyed, shows_released h.settled.deviceIds hd, ← h.shows l hlm rfl]
    by_cases hdue : l.addedTimeStamp ≤ s
    · by_cases hx : x = (d.deviceId, eHK) <;>
        simp [KeyEvent.switch, Switches.step, hx, hdue, htype]
    · -- the release of a press that the listener was not handed
      have hoff (hx : x = (d.deviceId, eHK)) : ¬ m.Shows l x := by
        subst hx
        rintro ⟨i, d', hd', hid, oKeyData, hlookup', hts⟩
        obtain rfl := h.settled.deviceIds i nBackendId d' d hd' hd hid
        obtain rfl := Option.some.inj (hd.symm.trans hd')
        obtain rfl := Option.some.inj (hlookup.symm.trans hlookup')
        exact hdue hts
      rw [if_neg hdue, List.map_nil, List.foldl_nil, h.shows l hlm rfl]
      exact ⟨fun hx => ⟨hx, fun heq => hoff heq hx⟩, And.left⟩

/-! ### Windows and listeners -/

/-- A step that hands the listener nothing and leaves the devices alone. -/
theorem Viewing.shows_same (h : Viewing lid m es) {op : Op} (ht : m.step op = .ok t)
    (hop : ∀ l', op ≠ .ui (.addListener l')) (hdevice : ∀ i, t.device i = m.device i)
    (hevents : t.keyEvents lid = m.keyEvents lid)
    (hlisteners : ∀ l ∈ t.listeners.1, l ∈ m.listeners.1) :
    ∀ l ∈ t.listeners.1, l.id = lid → ∀ x,
      Switches.after (es ++ shownEvents lid m op) x = true ↔ t.Shows l x := by
  intro l hl hid x
  rw [shownEvents_eq h.settled.toSound ht hop (hevents.trans (List.append_nil _).symm),
    List.map_nil, List.append_nil, shows_congr hdevice, h.shows l (hlisteners l hl) hid]

/-- The cancels of a window that is deselected are those of all that is shown. -/
theorem mem_switch_owedCancels (hsel : m.selected ≠ none) {e : Switches.Event DeviceKey} :
    e ∈ (m.owedCancels l).map KeyEvent.switch ↔ ∃ x, e = .set x false ∧ m.Shows l x := by
  obtain ⟨refSelected, hsel'⟩ := Option.ne_none_iff_exists'.mp hsel
  have howed : m.owedCancels l = m.btDevices.reduceOption.flatMap (m.dueCancels l) := by
    simp [owedCancels, dueCancels, hsel']
  simp only [howed, List.map_flatMap, List.mem_flatMap, mem_switch_dueCancels hsel, mem_devices,
    Shows]
  constructor
  · rintro ⟨d, ⟨i, hd⟩, x, rfl, hx⟩
    exact ⟨x, rfl, i, d, hd, hx⟩
  · rintro ⟨x, rfl, i, d, hd, hx⟩
    exact ⟨d, ⟨i, hd⟩, x, rfl, hx⟩

/-- **Deselecting.** The listener is handed a cancel for all that is shown to it. -/
theorem Viewing.shows_deselected (h : Viewing lid m es) {op : UiOp} (hdes : m.deselects op)
    (htwice : ∀ l ∈ m.listeners.1, l.id = lid → m.NoKeyHeldTwice l)
    (ht : m.step (.ui op) = .ok t) :
    ∀ l ∈ t.listeners.1, l.id = lid → ∀ x,
      Switches.after (es ++ shownEvents lid m (.ui op)) x = true ↔ t.Shows l x := by
  have hfinalize (l : ListenerData) : op ≠ .finalizeListener l := by
    rintro rfl
    cases hdes
  have hadd (l : ListenerId) : Op.ui op ≠ .ui (.addListener l) := by
    rintro heq
    obtain rfl := Op.ui.inj heq
    cases hdes
  have hsame := sameDevices_prepare m op
  have hui : m.uiStep op = .ok t := ht
  rw [uiStep_eq h.settled.toWindowsTracked hfinalize, hdes, if_pos rfl] at hui
  obtain ⟨u, hu, rfl⟩ := Run.map_eq_ok.mp hui
  obtain ⟨hnull, rfl⟩ := deselectAccessor_eq_ok.mp hu
  have hselm := selected_ne_none_of_deselects hdes
  have hready : (m.prepare op).ReadyToCancel :=
    { selected := by rwa [hsame.selected]
      enabled := hsame.enabled _ h.enabled
      notCanceling := hsame.cancelingNestedDepth.trans h.settled.notCanceling
      noNull := hasNull_eq_false.mp hnull
      hasOwner := fun d hd => by
        obtain ⟨i, hi⟩ := mem_devices.mp hd
        rw [device_of_btDevices_eq hsame.btDevices] at hi
        exact h.settled.hasOwner i d hi
      memoryEmpty := memoryEmpty_prepare h.settled.memoryEmpty op }
  rintro l hl rfl x
  have hlp : l ∈ (m.prepare op).listeners.1 :=
    (listeners_endCanceling _ : (m.prepare op).deselected.listeners = _) ▸ hl
  have hlm : l ∈ m.listeners.1 := (keeps_prepare (mayDeselect_of_deselects hdes)).2 ▸ hlp
  have htwice' : (m.prepare op).NoKeyHeldTwice l := by
    rw [NoKeyHeldTwice, hsame.btDevices]
    exact htwice l hlm rfl
  obtain ⟨es', hes', hperm⟩ := (keyEvents_cancelAll hready _ (m.prepare op).listeners.2 hlp
    (hready.memoryEmpty l hlp) ((m.prepare op).deselected.select (m.selects op))
    (deliveries_endCanceling _)).mpr htwice'
  have hevents : (m.prepare op).keyEvents l.id = m.keyEvents l.id :=
    congrArg (keyEventsOf l.id) hsame.deliveries
  have hmem (e : Switches.Event DeviceKey) : e ∈ es'.map KeyEvent.switch ↔
      ∃ x, e = .set x false ∧ m.Shows l x := by
    rw [(hperm.map KeyEvent.switch).mem_iff, mem_switch_owedCancels hready.selected]
    simp only [shows_congr (device_of_btDevices_eq hsame.btDevices)]
  rw [shownEvents_eq h.settled.toSound ht hadd (hevents ▸ hes'), Switches.after_append,
    Switches.foldl_step_off fun e he => ?_, h.shows l hlm rfl, hmem]
  · refine iff_of_false (fun hx => hx.2 ⟨x, rfl, hx.1⟩) ?_
    -- no key is left
    have hnone := noKeyPressed_released h.settled.toSound op hselm (.inl h.enabled)
      (t := (m.prepare op).deselected.select (m.selects op)) ?_
    · rintro ⟨i, d, hd, -, oKeyData, hlookup, -⟩
      rw [hnone d (mem_devices.mpr ⟨i, hd⟩)] at hlookup
      cases hlookup
    · obtain ⟨es, canceledKeys, heq⟩ := deselected_eq (m.prepare op)
      rw [heq, ← hsame.btDevices]
      rfl
  · obtain ⟨x, rfl, -⟩ := (hmem e).mp he
    exact ⟨x, rfl⟩

/-- A listener that is added is shown nothing that was pressed before. -/
theorem Viewing.shows_addListener (h : Viewing lid m es) (l' : ListenerId) :
    ∀ l ∈ (m.addListener l').listeners.1, l.id = lid → ∀ x,
      Switches.after (es ++ shownEvents lid m (.ui (.addListener l'))) x = true ↔
        (m.addListener l').Shows l x := by
  rintro l hl rfl x
  have hshown : shownEvents l.id m (.ui (.addListener l')) =
      if l' = l.id ∧ l.id ∉ m.listeners.1.map ListenerData.id then [.clear] else [] := rfl
  rw [hshown]
  rw [addListener] at hl ⊢
  by_cases hthere : l' ∈ m.listeners.1.map ListenerData.id
  · rw [dif_pos hthere] at hl ⊢
    have hnot : ¬ (l' = l.id ∧ l.id ∉ m.listeners.1.map ListenerData.id) := fun hnew =>
      hnew.2 (hnew.1 ▸ hthere)
    rw [if_neg hnot, List.append_nil, h.shows l hl rfl]
  · rw [dif_neg hthere] at hl ⊢
    rcases List.mem_append.mp hl with hlm | hlnew
    · have hnot : ¬ (l' = l.id ∧ l.id ∉ m.listeners.1.map ListenerData.id) := fun hnew =>
        hnew.2 (List.mem_map_of_mem hlm)
      rw [if_neg hnot, List.append_nil, h.shows l hlm rfl]
      rfl
    · obtain rfl := List.mem_singleton.mp hlnew
      rw [if_pos ⟨rfl, hthere⟩, Switches.after_append]
      refine iff_of_false (by simp [Switches.step]) fun hx => ?_
      exact lt_irrefl _ (h.of_shows (l := ⟨l', m.nextTimeStamp⟩) hx).2

theorem Viewing.shows_ui (h : Viewing lid m es) {op : UiOp} (hop : m.ShowsAll lid (.ui op))
    (ht : m.step (.ui op) = .ok t) :
    ∀ l ∈ t.listeners.1, l.id = lid → ∀ x,
      Switches.after (es ++ shownEvents lid m (.ui op)) x = true ↔ t.Shows l x := by
  cases hdes : m.deselects op with
  | true =>
    cases op with
    | addAccessor | removeAccessor | activeChanged => exact h.shows_deselected hdes (hop hdes) ht
    | windowChanged | enableEventClass | addListener | finalizeListener | removeListener =>
      cases hdes
  | false =>
    obtain ⟨l', rfl⟩ | hfinalize := em (∃ l', op = .finalizeListener l')
    · -- another listener is handed its cancels
      obtain ⟨-, rfl⟩ := finalizeListener_eq_ok.mp ht
      refine h.shows_same ht (by simp) (fun i => ?_) ?_ fun l hl => ?_
      · obtain ⟨es, canceledKeys, heq⟩ := finalized_eq l' m
        rw [heq]
        rfl
      · exact keyEvents_cancelAll_of_not_mem [l'] (by simpa using Ne.symm hop)
          (deliveries_endCanceling _)
      · exact (listeners_endCanceling _ : (m.finalized l').listeners = _) ▸ hl
    have hui : m.uiStep op = .ok t := ht
    rw [uiStep_eq h.settled.toWindowsTracked (fun l hl => hfinalize ⟨l, hl⟩), hdes] at hui
    obtain rfl := Except.ok.inj hui
    have hsame := sameDevices_prepare m op
    have hdevice (i : ℕ) : ((m.prepare op).select (m.selects op)).device i = m.device i :=
      device_of_btDevices_eq hsame.btDevices i
    have hevents : ((m.prepare op).select (m.selects op)).keyEvents lid = m.keyEvents lid :=
      congrArg (keyEventsOf lid) hsame.deliveries
    have hlisteners (hmay : op.mayDeselect) : (m.prepare op).listeners = m.listeners :=
      (keeps_prepare hmay).2
    cases op with
    | finalizeListener l' => exact absurd ⟨l', rfl⟩ hfinalize
    | addListener l' => exact h.shows_addListener l'
    | removeListener l' =>
      exact h.shows_same ht (by simp) hdevice hevents fun l hl => List.mem_of_mem_filter hl
    | windowChanged | enableEventClass | activeChanged =>
      exact h.shows_same ht (by simp) hdevice hevents fun l hl => hl
    | addAccessor | removeAccessor =>
      exact h.shows_same ht (by simp) hdevice hevents fun l hl => hlisteners rfl ▸ hl

/-! ### Runs -/

theorem mem_listeners_prepare (op : UiOp) (hl : l ∈ (m.prepare op).listeners.1) :
    l ∈ m.listeners.1 ∨ op = .addListener l.id ∧ l.addedTimeStamp = m.nextTimeStamp := by
  have hlisteners (hmay : op.mayDeselect) : (m.prepare op).listeners = m.listeners :=
    (keeps_prepare hmay).2
  cases op with
  | addAccessor | removeAccessor | activeChanged => exact .inl (hlisteners rfl ▸ hl)
  | windowChanged | enableEventClass | finalizeListener => exact .inl hl
  | removeListener l' => exact .inl (List.mem_of_mem_filter hl)
  | addListener l' =>
    rw [prepare, addListener] at hl
    split_ifs at hl with hthere
    · exact .inl hl
    · rcases List.mem_append.mp hl with hlm | hlnew
      · exact .inl hlm
      · obtain rfl := List.mem_singleton.mp hlnew
        exact .inr ⟨rfl, rfl⟩

theorem nextTimeStamp_step (hsound : m.Sound) {op : Op} (ht : m.step op = .ok t) :
    m.nextTimeStamp ≤ t.nextTimeStamp := by
  obtain ⟨sName, nBackendId, rfl, -, rfl⟩ | ⟨nBackendId, d, es, canceledKeys, rfl, -, rfl⟩ |
    ⟨nBackendId, eType, eHK, es, rfl, rfl⟩ | ⟨uiOp, rfl, hui⟩ := step_cases hsound ht
  · exact le_rfl
  · exact le_rfl
  · exact nextTimeStamp_le_keyed nBackendId eType eHK m
  · obtain ⟨l', es, canceledKeys, rfl, rfl⟩ | ⟨-, rfl⟩ | ⟨-, -, es, canceledKeys, rfl⟩ :=
      uiStep_cases hsound.toWindowsTracked hui
    · exact le_rfl
    · exact (sameDevices_prepare m uiOp).nextTimeStamp
    · exact (sameDevices_prepare m uiOp).nextTimeStamp

/-- A listener was there before a step, or is added by it. -/
theorem mem_listeners_step (hsound : m.Sound) {op : Op} (ht : m.step op = .ok t)
    (hl : l ∈ t.listeners.1) : l ∈ m.listeners.1 ∨
      op = .ui (.addListener l.id) ∧ l.addedTimeStamp = m.nextTimeStamp := by
  obtain ⟨sName, nBackendId, rfl, -, rfl⟩ | ⟨nBackendId, d, es, canceledKeys, rfl, -, rfl⟩ |
    ⟨nBackendId, eType, eHK, es, rfl, rfl⟩ | ⟨uiOp, rfl, hui⟩ := step_cases hsound ht
  · exact .inl hl
  · exact .inl hl
  · exact .inl (listeners_keyed nBackendId eType eHK m ▸ hl)
  · obtain ⟨l', es, canceledKeys, rfl, rfl⟩ | ⟨-, rfl⟩ | ⟨-, -, es, canceledKeys, rfl⟩ :=
      uiStep_cases hsound.toWindowsTracked hui
    · exact .inl hl
    · exact (mem_listeners_prepare uiOp hl).imp_right fun h => ⟨congrArg Op.ui h.1, h.2⟩
    · exact (mem_listeners_prepare uiOp hl).imp_right fun h => ⟨congrArg Op.ui h.1, h.2⟩

theorem added_step (hsound : m.Sound)
    (h : ∀ l ∈ m.listeners.1, l.addedTimeStamp ≤ m.nextTimeStamp) {op : Op}
    (ht : m.step op = .ok t) : ∀ l ∈ t.listeners.1, l.addedTimeStamp ≤ t.nextTimeStamp := by
  intro l hl
  refine le_trans ?_ (nextTimeStamp_step hsound ht)
  obtain hlm | ⟨-, hnow⟩ := mem_listeners_step hsound ht hl
  · exact h l hlm
  · exact hnow.le

/-- **One step.** -/
theorem Viewing.step (h : Viewing lid m es) {op : Op} (hop : m.ShowsAll lid op)
    (ht : m.step op = .ok t) : Viewing lid t (es ++ shownEvents lid m op) where
  settled := h.settled.step ht
  enabled := isEventClassEnabled_step h.settled.toSound ht _ h.enabled
  belong := by
    obtain ⟨history, hbelong, hhistory⟩ := h.belong
    have hclean : m.DeselectsCleanly op := by
      cases op with
      | ui uiOp => exact fun _ => .inl h.enabled
      | deviceAdded | deviceRemoved | blueKey => trivial
    exact ⟨_, hbelong.step h.settled.toSound hclean ht, hhistory.step h.settled.toSound ht⟩
  added := added_step h.settled.toSound h.added ht
  shows := by
    cases op with
    | deviceAdded sName nBackendId => exact h.shows_deviceAdded ht
    | deviceRemoved nBackendId => exact h.shows_deviceRemoved ht
    | blueKey nBackendId eType eHK => exact h.shows_blueKey ht
    | ui uiOp => exact h.shows_ui hop ht

theorem viewing_create (lid : ListenerId) {enabledEventClasses : EventClass → Bool}
    (hen : enabledEventClasses .keyEvent) (windows : Window → WindowState) :
    Viewing lid (create enabledEventClasses windows) [] where
  settled := settled_create enabledEventClasses windows
  enabled := hen
  belong := ⟨[], fun i d hd => by simp [create, device] at hd, .nil, by simp⟩
  added l hl := by simp [create] at hl
  shows l hl := by simp [create] at hl

/-- **What a listener has been shown.** After any run with enabled key events in which the listener
is not finalized and no key is held twice when a window is deselected: the last event that a
listener was handed for a key of a device since it was added is a press if and only if the device is
there and has the key pressed, by a press that is not older than the listener. -/
theorem after_shownEvents_run (enabledEventClasses : EventClass → Bool)
    (hen : enabledEventClasses .keyEvent) (windows : Window → WindowState) {ops : List Op}
    {lid : ListenerId}
    (hops : Run.Guarded step (ShowsAll lid) (create enabledEventClasses windows) ops)
    (hrun : Run.exec step (create enabledEventClasses windows) ops = .ok m)
    (hl : l ∈ m.listeners.1) (hid : l.id = lid) (x : DeviceKey) :
    Switches.after (Run.trace step (shownEvents lid) (create enabledEventClasses windows) ops) x =
      true ↔ m.Shows l x := by
  have h := Run.invariant_trace_of_guarded (shownEvents lid) (P := Viewing lid) (l := [])
    (fun m es op t h hop ht => h.step hop ht) (viewing_create lid hen windows) hops hrun
  rw [List.nil_append] at h
  exact h.shows l hl hid x

/-- The second listener is shown the key `31` of the first device, and nothing of the key `30`,
which was pressed before. -/
theorem after_shownEvents_sameKey : ∃ m,
    Run.exec step (amongActive true) sameKeyOnTwoDevices = .ok m ∧ m.isKeyPressed 0 30 ∧
      (Switches.after (Run.trace step (shownEvents 1) (amongActive true) sameKeyOnTwoDevices)
        (0, 31) = true ∧ m.Shows ⟨1, 3⟩ (0, 31)) ∧
      (Switches.after (Run.trace step (shownEvents 1) (amongActive true) sameKeyOnTwoDevices)
        (0, 30) = false ∧ ¬ m.Shows ⟨1, 3⟩ (0, 30)) := by
  have hview : (Run.exec step (amongActive true) sameKeyOnTwoDevices).toOption.map
      (fun m => (m.listeners.1, m.isKeyPressed 0 30)) = some ([⟨0, 0⟩, ⟨1, 3⟩], true) := by decide
  obtain ⟨m, hm, hview⟩ := Run.exists_exec_of_view hview
  obtain ⟨hlisteners, hpressed⟩ := Prod.mk.inj hview
  have hl : ⟨1, 3⟩ ∈ m.listeners.1 := by simp [hlisteners]
  have hops : Run.Guarded step (ShowsAll 1) (amongActive true) sameKeyOnTwoDevices := by
    decide +kernel
  have hshows := after_shownEvents_run (fun _ => true) rfl (fun _ => ⟨true, false⟩) hops hm hl rfl
  have hshown : Switches.after (Run.trace step (shownEvents 1) (amongActive true)
      sameKeyOnTwoDevices) (0, 31) = true := by decide +kernel
  have hnotShown : Switches.after (Run.trace step (shownEvents 1) (amongActive true)
      sameKeyOnTwoDevices) (0, 30) = false := by decide +kernel
  exact ⟨m, hm, hpressed, ⟨hshown, (hshows (0, 31)).mp hshown⟩, hnotShown,
    mt (hshows (0, 30)).mpr (Bool.eq_false_iff.mp hnotShown)⟩

end BtGtkDeviceManager

end StmmInputBt
