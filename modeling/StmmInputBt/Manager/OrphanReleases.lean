import StmmInputBt.Manager.Reentry

/-!
# Orphan releases

A listener should be handed a release or a cancel of a key only when it was handed the press
before. The time stamp of a press and that of a listener say who was there. What they do not say
is how far the loop that hands out a press has come: when one listener deselects the window while
it is handed the press, the cancels go to the listeners that are next in the loop too, and then
the loop ends.

The devices, keys and time stamps of a manager only change in one direction around callbacks:
`BtGtkDeviceManager.Within` is that relation between the manager before and after. Each operation
but a press stays within it, and so does what a listener does while it is handed an event.

## Main definitions

* `BtGtkDeviceManager.NoOrphan`: every release and cancel comes after its press.
* `BtGtkDeviceManager.PressUndisturbed`: no listener but the last one deselects a window while it
  is handed a press.

## Main results

* `BtGtkDeviceManager.within_stepWith`: a step that is no press stays within the devices and keys
  that are there.
* `BtGtkDeviceManager.noOrphan_of_guarded`: undisturbed presses are enough.
-/

namespace StmmInputBt

namespace BtGtkDeviceManager

/-! ### What listeners are handed -/

/-- A key event as a listener is handed it, with the time stamp of the press it belongs to. -/
structure Handed where
  listener : ListenerId
  type : KeyInputType
  device : DeviceId
  key : HardwareKey
  pressedTimeStamp : ℕ
  deriving DecidableEq

/-- The time stamp of the press of a key that is held. -/
def heldSince (device : DeviceId) (key : HardwareKey) (m : BtGtkDeviceManager) : Option ℕ :=
  (m.btDevices.reduceOption.find? (·.deviceId = device)).bind fun d =>
    (d.pressedKeys.lookup key).map KeyData.pressedTimeStamp

/-- What is handed out in the course of a step from `m`. An event about a key that is not held in
`m` belongs to the press that is the step. -/
def handedOut (m : BtGtkDeviceManager) : Delivery → Option Handed
  | .key l e =>
    some ⟨l, e.type, e.device, e.key, (m.heldSince e.device e.key).getD m.nextTimeStamp⟩
  | .deviceMgmt .. => none

/-- The key events that listeners are handed in a step. A step that ends in a fault yields no state,
so what was handed out before the fault is not among them. -/
def handed (m : BtGtkDeviceManager) (i : Input) : List Handed :=
  match m.reentrantStep i with
  | .ok t => (t.deliveries.drop m.deliveries.length).filterMap m.handedOut
  | .error _ => []

/-- Every event but a press was preceded by the press it belongs to, handed to the same
listener. -/
def NoOrphan (log : List Handed) : Prop :=
  ∀ before h after, log = before ++ h :: after → h.type ≠ keyPress →
    { h with type := keyPress } ∈ before

theorem NoOrphan.append {log more : List Handed} (h : NoOrphan log)
    (hmore : ∀ h ∈ more, h.type ≠ keyPress → { h with type := keyPress } ∈ log) :
    NoOrphan (log ++ more) := by
  intro before x after heq hx
  rcases List.append_eq_append_iff.mp heq with ⟨log', rfl, hrest⟩ | ⟨rest, rfl, hrest⟩
  · exact List.mem_append_left _ (hmore x (by simp [hrest]) hx)
  · cases rest with
    | nil =>
      rw [List.nil_append] at hrest
      simpa using hmore x (hrest ▸ List.mem_cons_self ..) hx
    | cons y rest =>
      obtain ⟨rfl, -⟩ := List.cons.inj hrest
      exact h before x rest rfl hx

/-! ### The condition -/

/-- The listener that the base class finalizes. -/
def Op.finalizes : Op → Option ListenerData
  | .ui (.finalizeListener l) => some l
  | _ => none

/-- The device and the key of a press. -/
def Op.presses : Op → Option (ℕ × HardwareKey)
  | .blueKey nBackendId eType eHK => if eType = keyPress then some (nBackendId, eHK) else none
  | _ => none

/-- The base class finalizes a listener that it still has. -/
def FinalizesCurrent (m : BtGtkDeviceManager) (i : Input) : Prop :=
  ∀ l ∈ i.op.finalizes, l ∈ m.listeners.1

/-- A press goes to the listeners one after the other, and none of them but the last one deselects
a window. -/
def Input.pressSettles (i : Input) (e : KeyEvent) : List ListenerData → BtGtkDeviceManager → Bool
  | l :: l' :: ls, m =>
    match settle (i.react false l e) (if i.depth = 0 then 0 else i.calls) (m.recorded l e) with
    | none => false
    | some t => i.pressSettles e (l' :: ls) t
  | _, _ => true

/-- No listener but the last one deselects a window while it is handed a press. -/
def PressUndisturbed (m : BtGtkDeviceManager) (i : Input) : Prop :=
  ∀ press ∈ i.op.presses, ∀ refSelected ∈ m.selected, ∀ d ∈ m.device press.1,
    press.2 ∉ d.pressedKeys → i.pressSettles
      ⟨(m.windowData refSelected).accessor, d.deviceId, keyPress, press.2⟩ m.listeners.1
      (m.keyed press.1 keyPress press.2)

instance (m : BtGtkDeviceManager) (i : Input) : Decidable (m.FinalizesCurrent i) :=
  inferInstanceAs (Decidable (∀ l ∈ i.op.finalizes, l ∈ m.listeners.1))

instance (m : BtGtkDeviceManager) (i : Input) : Decidable (m.PressUndisturbed i) :=
  inferInstanceAs (Decidable (∀ press ∈ i.op.presses, ∀ refSelected ∈ m.selected,
    ∀ d ∈ m.device press.1, press.2 ∉ d.pressedKeys → i.pressSettles
      ⟨(m.windowData refSelected).accessor, d.deviceId, keyPress, press.2⟩ m.listeners.1
      (m.keyed press.1 keyPress press.2)))

variable {handle : Handler} {m t u : BtGtkDeviceManager} {log : List Handed}

/-! ### Around callbacks -/

/-- Listeners are added with new time stamps, and devices with new ids. -/
structure Grows (m t : BtGtkDeviceManager) : Prop where
  listeners : ∀ l ∈ t.listeners.1, l ∈ m.listeners.1 ∨
    m.nextTimeStamp ≤ l.addedTimeStamp ∧ l.addedTimeStamp < t.nextTimeStamp
  nextTimeStamp : m.nextTimeStamp ≤ t.nextTimeStamp
  nextDeviceId : t.nextDeviceId = m.nextDeviceId

theorem Grows.refl (m : BtGtkDeviceManager) : m.Grows m := ⟨fun _ hl => .inl hl, le_rfl, rfl⟩

theorem Grows.trans (h : m.Grows t) (h' : t.Grows u) : m.Grows u := by
  refine ⟨fun l hl => ?_, h.nextTimeStamp.trans h'.nextTimeStamp,
    h'.nextDeviceId.trans h.nextDeviceId⟩
  rcases h'.listeners l hl with hl | ⟨hle, hlt⟩
  · rcases h.listeners l hl with hl | ⟨hle, hlt⟩
    · exact .inl hl
    · exact .inr ⟨hle, hlt.trans_le h'.nextTimeStamp⟩
  · exact .inr ⟨h.nextTimeStamp.trans hle, hlt⟩

/-- The time stamps of presses were handed out before. -/
def HeldLt (m : BtGtkDeviceManager) : Prop :=
  ∀ i d x, m.device i = some d → x ∈ d.pressedKeys.entries →
    x.2.pressedTimeStamp < m.nextTimeStamp

/-- The event ends the press of a key that is held in `m`, and the listener was there when the key
was pressed. -/
def Owed (m : BtGtkDeviceManager) (l : ListenerData) (e : KeyEvent) : Prop :=
  e.type ≠ keyPress ∧ l ∈ m.listeners.1 ∧ ∃ i d x, m.device i = some d ∧
    x ∈ d.pressedKeys.entries ∧ e.device = d.deviceId ∧ e.key = x.1 ∧
    l.addedTimeStamp ≤ x.2.pressedTimeStamp

theorem cancelEvent_type (d : BtKeysDevice) (w : Window) (key : HardwareKey) :
    (d.cancelEvent w key).type ≠ keyPress := by
  simp [BtKeysDevice.cancelEvent, keyReleaseCancel, keyPress]

/-- From `m` to `t` no key was pressed, and listeners were only handed what they were owed. -/
structure Within (m t : BtGtkDeviceManager) : Prop extends Grows m t where
  held : ∀ i d, t.device i = some d → ∃ d', m.device i = some d' ∧ d'.deviceId = d.deviceId ∧
    d.pressedKeys.entries ⊆ d'.pressedKeys.entries
  deliveries : ∃ ds, t.deliveries = m.deliveries ++ ds ∧
    ∀ l e, .key l e ∈ ds → ∃ ld : ListenerData, ld.id = l ∧ m.Owed ld e

theorem Within.refl (m : BtGtkDeviceManager) : m.Within m :=
  ⟨.refl m, fun _ d hd => ⟨d, hd, rfl, fun _ hx => hx⟩, [], by simp, by simp⟩

/-- What is owed later was owed before, since a listener that was added in between is owed
nothing for a press that was there. -/
theorem Owed.of_within (h : m.Within t) (hlt : m.HeldLt) {l : ListenerData} {e : KeyEvent}
    (he : t.Owed l e) : m.Owed l e := by
  obtain ⟨htype, hl, i, d, x, hd, hx, hdevice, hkey, hadded⟩ := he
  obtain ⟨d', hd', hid, hsub⟩ := h.held i d hd
  refine ⟨htype, ?_, i, d', x, hd', hsub hx, hdevice.trans hid.symm, hkey, hadded⟩
  rcases h.listeners l hl with hl | ⟨hle, -⟩
  · exact hl
  · have hx' := hlt i d' x hd' (hsub hx)
    omega

theorem Within.trans (hlt : m.HeldLt) (h : m.Within t) (h' : t.Within u) : m.Within u := by
  refine ⟨h.toGrows.trans h'.toGrows, fun i d hd => ?_, ?_⟩
  · obtain ⟨d', hd', hid', hsub'⟩ := h'.held i d hd
    obtain ⟨d'', hd'', hid'', hsub''⟩ := h.held i d' hd'
    exact ⟨d'', hd'', hid''.trans hid', fun x hx => hsub'' (hsub' hx)⟩
  · obtain ⟨ds, hds, howed⟩ := h.deliveries
    obtain ⟨ds', hds', howed'⟩ := h'.deliveries
    refine ⟨ds ++ ds', by rw [hds', hds, List.append_assoc], fun l e he => ?_⟩
    rcases List.mem_append.mp he with he | he
    · exact howed l e he
    · obtain ⟨ld, hid, he⟩ := howed' l e he
      exact ⟨ld, hid, he.of_within h hlt⟩

theorem Within.heldLt (h : m.Within t) (hlt : m.HeldLt) : t.HeldLt := by
  intro i d x hd hx
  obtain ⟨d', hd', -, hsub⟩ := h.held i d hd
  exact (hlt i d' x hd' (hsub hx)).trans_le h.nextTimeStamp

/-- Nothing but the windows and the bookkeeping of cancels changes. -/
theorem Within.of_eq (h : m.Within t) (hdevices : u.btDevices = t.btDevices)
    (hid : u.nextDeviceId = t.nextDeviceId) (hlisteners : u.listeners = t.listeners)
    (hstamp : u.nextTimeStamp = t.nextTimeStamp) (hdeliveries : u.deliveries = t.deliveries) :
    m.Within u := by
  refine ⟨⟨?_, hstamp ▸ h.nextTimeStamp, hid.trans h.nextDeviceId⟩, fun i d hd => ?_, ?_⟩
  · rw [hlisteners, hstamp]
    exact h.listeners
  · exact h.held i d (device_of_btDevices_eq hdevices i ▸ hd)
  · rw [hdeliveries]
    exact h.deliveries

/-- A device forgets keys, or everything but its id and its keys changes. -/
theorem Within.modifyDevice (h : m.Within t) (nBackendId : ℕ) {f : BtKeysDevice → BtKeysDevice}
    (hid : ∀ d, (f d).deviceId = d.deviceId)
    (hkeys : ∀ d, (f d).pressedKeys.entries ⊆ d.pressedKeys.entries) :
    m.Within (t.modifyDevice nBackendId f) := by
  refine ⟨⟨h.listeners, h.nextTimeStamp, h.nextDeviceId⟩, fun i d hd => ?_, h.deliveries⟩
  rw [device_modifyDevice] at hd
  split_ifs at hd
  · obtain ⟨d₀, hd₀, rfl⟩ := Option.map_eq_some_iff.mp hd
    obtain ⟨d', hd', hid', hsub⟩ := h.held i d₀ hd₀
    exact ⟨d', hd', hid'.trans (hid d₀).symm, fun x hx => hsub (hkeys d₀ hx)⟩
  · exact h.held i d hd

theorem Within.recorded (h : m.Within t) {l : ListenerData} {e : KeyEvent} (he : m.Owed l e) :
    m.Within (t.recorded l e) := by
  refine ⟨⟨h.listeners, h.nextTimeStamp, h.nextDeviceId⟩, h.held, ?_⟩
  obtain ⟨ds, hds, howed⟩ := h.deliveries
  refine ⟨ds ++ [.key l.id e], by simp [BtGtkDeviceManager.recorded, hds], fun l' e' he' => ?_⟩
  rcases List.mem_append.mp he' with he' | he'
  · exact howed l' e' he'
  · obtain ⟨rfl, rfl⟩ := Delivery.key.inj (List.mem_singleton.mp he')
    exact ⟨l, rfl, he⟩

/-- The listeners stay within what there is when they are handed an event. -/
def KeepsWithin (handle : Handler) : Prop :=
  ∀ l e m t, m.HeldLt → handle l e m = .ok t → (m.recorded l e).Within t

theorem within_addListener (l : ListenerId) (m : BtGtkDeviceManager) :
    m.Within (m.addListener l) := by
  rw [addListener]
  split_ifs
  · exact .refl m
  · refine ⟨⟨fun ld hld => ?_, Nat.le_succ _, rfl⟩, (Within.refl m).held, [], by simp, by simp⟩
    rcases List.mem_append.mp hld with hld | hld
    · exact .inl hld
    · rw [List.mem_singleton.mp hld]
      exact .inr ⟨le_rfl, Nat.lt_succ_self _⟩

theorem within_removeListener (l : ListenerId) (m : BtGtkDeviceManager) :
    m.Within (m.removeListener l) :=
  ⟨⟨fun _ hld => .inl (List.mem_filter.mp hld).1, le_rfl, rfl⟩, (Within.refl m).held, [],
    by simp [removeListener], by simp⟩

/-- What happens to the manager stays within what there is. -/
theorem keptByOps_within (hlt : m.HeldLt) : KeptByOps m.Within m.Owed where
  recorded _ _ _ ht he := ht.recorded he
  windows _ _ ht := ht.of_eq
  addListener t l ht := ht.trans hlt (within_addListener l t)
  removeListener t l ht := ht.trans hlt (within_removeListener l t)
  release _ nBackendId ht := ht.modifyDevice nBackendId (fun _ => rfl) fun _ _ hx => by
    simp at hx
  cancel t i d w x l ht hd hx hl hadded :=
    Owed.of_within ht hlt ⟨cancelEvent_type d w x.1, hl, i, d, x, hd, hx, rfl, rfl, hadded⟩

theorem KeepsWithin.keptByCancels (h : KeepsWithin handle) (hlt : m.HeldLt) :
    KeptByCancels handle m.Within m.Owed :=
  (keptByOps_within hlt).keptByCancels fun l e t u ht he hu =>
    (ht.recorded he).trans hlt (h l e t u (ht.heldLt hlt) hu)

/-! ### Operations -/

/-- An operation on windows or listeners. -/
theorem within_uiStepWith (hh : KeepsWithin handle) (hlt : m.HeldLt) {op : UiOp}
    (hfinalize : ∀ l, op = .finalizeListener l → l ∈ m.listeners.1)
    (ht : uiStepWith handle m op = .ok t) : m.Within t := by
  refine (keptByOps_within hlt).uiStepWith (hh.keptByCancels hlt)
    (fun l hl s i d w x hs hd hx hadded => ?_) (Within.refl m) ht
  obtain ⟨d', hd', hid, hsub⟩ := hs.held i d hd
  exact ⟨cancelEvent_type d w x.1, hfinalize l hl, i, d', x, hd', hsub hx, hid.symm, rfl, hadded⟩

/-- The calls of a listener stay within what is there, however deep they are nested. -/
theorem keepsWithin_reenter (react : Reaction) (calls : ℕ) (deselecting : Bool) (depth : ℕ) :
    KeepsWithin (reenter react calls deselecting depth) := by
  intro l e m t hlt ht
  cases depth with
  | zero => exact Except.ok.inj ht ▸ .refl _
  | succ depth =>
    have hkept : KeptByOps (m.recorded l e).Within (m.recorded l e).Owed := keptByOps_within hlt
    exact hkept.makeCalls (hkept.reenter react calls true depth) (.refl _) ht

/-! ### Keys and devices -/

theorem within_release (hh : KeepsWithin handle) (hlt : m.HeldLt) {nBackendId : ℕ}
    {eType : KeyInputType} {eHK : HardwareKey} (htype : eType ≠ keyPress)
    {r : Bool × BtGtkDeviceManager} (hr : onBlueKey handle nBackendId eType eHK m = .ok r) :
    m.Within r.2 := by
  obtain ⟨hsame, -⟩ | ⟨refSelected, d, s, hsel, hd, hhanded, hsend⟩ := onBlueKey_cases hr
  · exact hsame ▸ .refl m
  · obtain ⟨howner, ⟨hpress, -⟩ | ⟨-, hlookup⟩⟩ := (handedSince_eq_some hd).mp hhanded
    · exact absurd hpress htype
    · have hmem : eHK ∈ d.pressedKeys := AList.lookup_isSome.mp (by rw [hlookup]; rfl)
      rw [keyed_release hsel hd howner htype hmem] at hsend
      have herase : m.Within (m.modifyDevice nBackendId fun d =>
          { d with pressedKeys := d.pressedKeys.erase eHK }) :=
        (Within.refl m).modifyDevice nBackendId (fun _ => rfl) fun d x hx =>
          (List.kerase_sublist eHK d.pressedKeys.entries).subset hx
      refine (hh.keptByCancels hlt).sendKeyToListeners (fun l hl hadded => ?_) herase hsend
      exact ⟨htype, hl, nBackendId, d, ⟨eHK, ⟨s⟩⟩, hd, AList.mem_lookup_iff.mp hlookup, rfl, rfl,
        hadded⟩

theorem within_deviceRemoved (hh : KeepsWithin handle) (hlt : m.HeldLt) {nBackendId : ℕ}
    (ht : onDeviceRemoved handle nBackendId m = .ok t) : m.Within t := by
  obtain ⟨u, d, hu, rfl⟩ := onDeviceRemoved_cases ht
  have hwithin : m.Within u := (hh.keptByCancels hlt).cancelDeviceKeys (Within.refl m) hu
  have howner : m.Within (u.modifyDevice nBackendId fun d => { d with hasOwner := false }) :=
    hwithin.modifyDevice nBackendId (fun _ => rfl) fun _ _ hx => hx
  refine ⟨⟨howner.listeners, howner.nextTimeStamp, howner.nextDeviceId⟩, fun i d' hd' => ?_, ?_⟩
  · rw [device_deviceRemoved] at hd'
    split_ifs at hd'
    exact howner.held i d' hd'
  · obtain ⟨ds, hds, howed⟩ := howner.deliveries
    refine ⟨ds ++ [.deviceMgmt .removed d.name d.deviceId], ?_, fun l e he => ?_⟩
    · simp [deviceRemoved, sendDeviceMgmtToListeners, hds]
    · exact howed l e (by simpa using he)

/-- A step that is neither a press nor adds a device stays within what is there. -/
theorem within_stepWith (hh : KeepsWithin handle) (hlt : m.HeldLt) {op : Op}
    (hadded : ∀ sName nBackendId, op ≠ .deviceAdded sName nBackendId)
    (hpress : ∀ nBackendId eHK, op ≠ .blueKey nBackendId keyPress eHK)
    (hfinalize : ∀ l, op = .ui (.finalizeListener l) → l ∈ m.listeners.1)
    (ht : stepWith handle m op = .ok t) : m.Within t := by
  cases op with
  | deviceAdded sName nBackendId => exact absurd rfl (hadded sName nBackendId)
  | deviceRemoved nBackendId => exact within_deviceRemoved hh hlt ht
  | blueKey nBackendId eType eHK =>
    obtain ⟨r, hr, hrest⟩ := Run.bind_eq_ok.mp ht
    have htype : eType ≠ keyPress := fun heq => hpress nBackendId eHK (heq ▸ rfl)
    exact Except.ok.inj hrest ▸ within_release hh hlt htype hr
  | ui op => exact within_uiStepWith hh hlt (fun l hl => hfinalize l (congrArg Op.ui hl)) ht

/-- The loop that hands out an undisturbed press: every listener of the loop is handed the press
before anything else is handed out. -/
theorem sendKeyToListeners_press {i : Input} (hop : i.op.deselecting = false) {nBackendId s : ℕ}
    {e : KeyEvent} (hpressed : m.isKeyPressed nBackendId e.key) (hlt : m.HeldLt)
    {ls : List ListenerData} (hls : ∀ l ∈ ls, l.addedTimeStamp ≤ s)
    (hsettles : i.pressSettles e ls m)
    (ht : BtKeysDevice.sendKeyToListeners i.handle nBackendId s e ls m = .ok t) :
    ∃ u, m.Grows u ∧ u.btDevices = m.btDevices ∧
      u.deliveries = m.deliveries ++ ls.map (fun l => .key l.id e) ∧ u.Within t := by
  have hh : KeepsWithin i.handle := keepsWithin_reenter i.react i.calls i.op.deselecting i.depth
  induction ls generalizing m with
  | nil => exact ⟨m, .refl m, rfl, by simp, Except.ok.inj ht ▸ .refl m⟩
  | cons l ls ih =>
    obtain ⟨v, hv, hrest⟩ := Run.bind_eq_ok.mp ht
    rw [BtKeysDevice.sendKeyEventToListener,
      if_neg (Nat.not_lt.mpr (hls l (List.mem_cons_self ..)))] at hv
    have hwithin : (m.recorded l e).Within v := hh l e m v hlt hv
    cases ls with
    | nil =>
      -- whatever the last listener does comes after the presses
      refine ⟨m.recorded l e, ⟨(Grows.refl m).listeners, le_rfl, rfl⟩, rfl, rfl, ?_⟩
      have hvt : v = t := by
        rw [BtKeysDevice.sendKeyToListeners] at hrest
        split_ifs at hrest <;> exact Except.ok.inj hrest
      exact hvt ▸ hwithin
    | cons l' ls =>
      rw [Input.pressSettles] at hsettles
      cases hsettle : settle (i.react false l e) (if i.depth = 0 then 0 else i.calls)
          (m.recorded l e) with
      | none =>
        rw [hsettle] at hsettles
        cases hsettles
      | some w =>
        rw [hsettle] at hsettles
        have hvw : v = w := by
          rw [Input.handle, hop] at hv
          cases hdepth : i.depth with
          | zero =>
            rw [hdepth] at hv hsettle
            exact (Except.ok.inj hv).symm.trans (Option.some.inj hsettle)
          | succ depth =>
            rw [hdepth] at hv hsettle
            exact Except.ok.inj (hv.symm.trans (makeCalls_of_settle _ hsettle))
        subst hvw
        obtain ⟨hdevices, hdeliveries⟩ := sameDevices_of_settle hsettle
        have hpressed' : v.isKeyPressed nBackendId e.key := by
          rw [isKeyPressed, device_of_btDevices_eq hdevices]
          exact hpressed
        rw [if_neg fun hcut => by simp [hpressed'] at hcut] at hrest
        obtain ⟨u, hgrows, hdevices', hdeliveries', hut⟩ := ih hpressed' (hwithin.heldLt hlt)
          (fun l₁ hl₁ => hls l₁ (List.mem_cons_of_mem l hl₁)) hsettles hrest
        refine ⟨u, ?_, hdevices'.trans hdevices, ?_, hut⟩
        · exact Grows.trans ⟨hwithin.listeners, hwithin.nextTimeStamp, hwithin.nextDeviceId⟩ hgrows
        · rw [hdeliveries', hdeliveries]
          simp [recorded]

/-! ### Runs -/

/-- The devices have distinct ids, the time stamps are old, and every listener that was there when
a key that is still held was pressed has been handed the press. -/
structure Accounted (m : BtGtkDeviceManager) (log : List Handed) : Prop where
  deviceIdsLt : m.DeviceIdsLt
  deviceIds : ∀ i j d d', m.device i = some d → m.device j = some d' →
    d.deviceId = d'.deviceId → i = j
  heldLt : m.HeldLt
  listenersLt : ∀ l ∈ m.listeners.1, l.addedTimeStamp < m.nextTimeStamp
  received : ∀ i d x, m.device i = some d → x ∈ d.pressedKeys.entries → ∀ l ∈ m.listeners.1,
    l.addedTimeStamp ≤ x.2.pressedTimeStamp →
      ⟨l.id, keyPress, d.deviceId, x.1, x.2.pressedTimeStamp⟩ ∈ log
  noOrphan : NoOrphan log

/-- A device is found by its id. -/
theorem Accounted.heldSince_eq (h : m.Accounted log) {i : ℕ} {d : BtKeysDevice}
    (hd : m.device i = some d) (key : HardwareKey) : m.heldSince d.deviceId key =
      (d.pressedKeys.lookup key).map KeyData.pressedTimeStamp := by
  obtain ⟨d', hd'⟩ : ∃ d', m.btDevices.reduceOption.find? (·.deviceId = d.deviceId) = some d' := by
    rw [← Option.isSome_iff_exists, List.find?_isSome]
    exact ⟨d, mem_devices.mpr ⟨i, hd⟩, by simp⟩
  obtain ⟨j, hj⟩ := mem_devices.mp (List.mem_of_find?_eq_some hd')
  have hid : d'.deviceId = d.deviceId := by simpa using List.find?_some hd'
  obtain rfl := h.deviceIds j i d' d hj hd hid
  obtain rfl := Option.some.inj (hj.symm.trans hd)
  rw [heldSince, hd', Option.bind_some]

/-- What is handed out from `m` to `t` is told apart as the devices and keys of `m` have it. -/
theorem Accounted.within (h : m.Accounted log) (hw : m.Within t) {s : BtGtkDeviceManager}
    (hs : ∀ i d x, m.device i = some d → x ∈ d.pressedKeys.entries →
      (s.heldSince d.deviceId x.1).getD s.nextTimeStamp = x.2.pressedTimeStamp) :
    t.Accounted (log ++ (t.deliveries.drop m.deliveries.length).filterMap s.handedOut) where
  deviceIdsLt := by
    intro d hd
    obtain ⟨i, hi⟩ := mem_devices.mp hd
    obtain ⟨d', hd', hid, -⟩ := hw.held i d hi
    rw [hw.nextDeviceId, ← hid]
    exact h.deviceIdsLt d' (mem_devices.mpr ⟨i, hd'⟩)
  deviceIds := by
    intro i j d d' hd hd' heq
    obtain ⟨d₀, hd₀, hid, -⟩ := hw.held i d hd
    obtain ⟨d₀', hd₀', hid', -⟩ := hw.held j d' hd'
    exact h.deviceIds i j d₀ d₀' hd₀ hd₀' (hid.trans (heq.trans hid'.symm))
  heldLt := hw.heldLt h.heldLt
  listenersLt := by
    intro l hl
    rcases hw.listeners l hl with hl | ⟨-, hlt⟩
    · exact (h.listenersLt l hl).trans_le hw.nextTimeStamp
    · exact hlt
  received := by
    intro i d x hd hx l hl hadded
    obtain ⟨d', hd', hid, hsub⟩ := hw.held i d hd
    have hlm : l ∈ m.listeners.1 := by
      rcases hw.listeners l hl with hl | ⟨hle, -⟩
      · exact hl
      · have hlt := h.heldLt i d' x hd' (hsub hx)
        omega
    exact List.mem_append_left _ (hid ▸ h.received i d' x hd' (hsub hx) l hlm hadded)
  noOrphan := by
    refine h.noOrphan.append fun x hx htype => ?_
    obtain ⟨ds, hds, howed⟩ := hw.deliveries
    rw [hds, List.drop_left, List.mem_filterMap] at hx
    obtain ⟨delivery, hdelivery, hout⟩ := hx
    cases delivery with
    | deviceMgmt eType sName device => cases hout
    | key l e =>
      obtain rfl := Option.some.inj hout
      obtain ⟨ld, rfl, -, hl, i, d, x, hd, hx, hdevice, hkey, hadded⟩ := howed l e hdelivery
      simp only [hdevice, hkey, hs i d x hd hx]
      exact h.received i d x hd hx ld hl hadded

/-- The time stamp of a key that is held when a step begins. -/
theorem Accounted.heldSince_held (h : m.Accounted log) {i : ℕ} {d : BtKeysDevice}
    {x : Sigma fun _ : HardwareKey => KeyData} (hd : m.device i = some d)
    (hx : x ∈ d.pressedKeys.entries) :
    (m.heldSince d.deviceId x.1).getD m.nextTimeStamp = x.2.pressedTimeStamp := by
  rw [h.heldSince_eq hd, AList.mem_lookup_iff.mpr hx]
  rfl

/-- A device is added. -/
theorem Accounted.deviceAdded (h : m.Accounted log) (sName : BdAddr) (nBackendId : ℕ) :
    (m.deviceAdded sName nBackendId).Accounted log := by
  have hcases {i : ℕ} {d : BtKeysDevice} (hd : (m.deviceAdded sName nBackendId).device i = some d) :
      (i = nBackendId ∧ d = ⟨sName, m.nextDeviceId, true, ∅⟩) ∨ m.device i = some d := by
    rw [device_deviceAdded] at hd
    split_ifs at hd with hi
    · exact .inl ⟨hi, (Option.some.inj hd).symm⟩
    · exact .inr hd
  have hlt {i : ℕ} {d : BtKeysDevice} (hd : m.device i = some d) : d.deviceId < m.nextDeviceId :=
    h.deviceIdsLt d (mem_devices.mpr ⟨i, hd⟩)
  refine ⟨fun d hd => ?_, fun i j d d' hd hd' heq => ?_, fun i d x hd hx => ?_, h.listenersLt,
    fun i d x hd hx l hl hadded => ?_, h.noOrphan⟩
  · obtain ⟨i, hi⟩ := mem_devices.mp hd
    rcases hcases hi with ⟨-, rfl⟩ | hi
    · exact Nat.lt_succ_self _
    · exact (hlt hi).trans (Nat.lt_succ_self _)
  · rcases hcases hd with ⟨rfl, rfl⟩ | hi <;> rcases hcases hd' with ⟨rfl, rfl⟩ | hj
    · rfl
    · exact absurd heq (hlt hj).ne'
    · exact absurd heq (hlt hi).ne
    · exact h.deviceIds i j d d' hi hj heq
  · rcases hcases hd with ⟨-, rfl⟩ | hd
    · simp at hx
    · exact h.heldLt i d x hd hx
  · rcases hcases hd with ⟨-, rfl⟩ | hd
    · simp at hx
    · exact h.received i d x hd hx l hl hadded

/-- A press changes nothing of a device but its keys. -/
theorem device_of_pressed {nBackendId : ℕ} {eHK : HardwareKey}
    (hdevices : u.btDevices = (m.pressed nBackendId eHK).btDevices) {i : ℕ} {d₁ : BtKeysDevice}
    (hi : u.device i = some d₁) : ∃ d₀, m.device i = some d₀ ∧ d₀.deviceId = d₁.deviceId := by
  rw [device_of_btDevices_eq hdevices, device_pressed] at hi
  split_ifs at hi
  · obtain ⟨d₀, hd₀, rfl⟩ := Option.map_eq_some_iff.mp hi
    exact ⟨d₀, hd₀, rfl⟩
  · exact ⟨d₁, hi, rfl⟩

/-- A key that is held after a press was held before, or it is the one that was pressed. -/
theorem held_of_pressed {nBackendId : ℕ} {eHK : HardwareKey} {d : BtKeysDevice}
    (hdevices : u.btDevices = (m.pressed nBackendId eHK).btDevices)
    (hd : m.device nBackendId = some d) (hnew : eHK ∉ d.pressedKeys) {i : ℕ} {d₁ : BtKeysDevice}
    {x : Sigma fun _ : HardwareKey => KeyData} (hi : u.device i = some d₁)
    (hx : x ∈ d₁.pressedKeys.entries) :
    (∃ d₀, m.device i = some d₀ ∧ d₀.deviceId = d₁.deviceId ∧ x ∈ d₀.pressedKeys.entries) ∨
      (d₁.deviceId = d.deviceId ∧ x = ⟨eHK, ⟨m.nextTimeStamp⟩⟩) := by
  rw [device_of_btDevices_eq hdevices, device_pressed] at hi
  split_ifs at hi with heq
  · subst heq
    rw [hd] at hi
    obtain rfl := Option.some.inj hi
    rw [AList.entries_insert_of_notMem hnew, List.mem_cons] at hx
    rcases hx with rfl | hx
    · exact .inr ⟨rfl, rfl⟩
    · exact .inl ⟨d, hd, rfl, hx⟩
  · exact .inl ⟨d₁, hi, rfl, hx⟩

theorem Accounted.heldSince_of_notMem (h : m.Accounted log) {i : ℕ} {d : BtKeysDevice}
    {eHK : HardwareKey} (hd : m.device i = some d) (hnew : eHK ∉ d.pressedKeys) :
    m.heldSince d.deviceId eHK = none := by
  rw [h.heldSince_eq hd, AList.lookup_eq_none.mpr hnew]
  rfl

/-- The time stamp of a key that is held when a press begins to be handed out. -/
theorem Accounted.heldSince_pressed (h : m.Accounted log) {nBackendId : ℕ} {eHK : HardwareKey}
    {d : BtKeysDevice} (hd : m.device nBackendId = some d) (hnew : eHK ∉ d.pressedKeys)
    (hdevices : u.btDevices = (m.pressed nBackendId eHK).btDevices) {i : ℕ} {d₁ : BtKeysDevice}
    {x : Sigma fun _ : HardwareKey => KeyData} (hi : u.device i = some d₁)
    (hx : x ∈ d₁.pressedKeys.entries) :
    (m.heldSince d₁.deviceId x.1).getD m.nextTimeStamp = x.2.pressedTimeStamp := by
  rcases held_of_pressed hdevices hd hnew hi hx with ⟨d₀, hd₀, hid, hx⟩ | ⟨hid, rfl⟩
  · exact hid ▸ h.heldSince_held hd₀ hx
  · rw [hid, h.heldSince_of_notMem hd hnew]
    rfl

/-- A press is handed out with the time stamp that it gets. -/
theorem Accounted.filterMap_handedOut_press (h : m.Accounted log) {i : ℕ} {d : BtKeysDevice}
    {eHK : HardwareKey} (hd : m.device i = some d) (hnew : eHK ∉ d.pressedKeys) (w : Window)
    (ls : List ListenerData) :
    (ls.map fun l => Delivery.key l.id ⟨w, d.deviceId, keyPress, eHK⟩).filterMap m.handedOut =
      ls.map fun l => ⟨l.id, keyPress, d.deviceId, eHK, m.nextTimeStamp⟩ := by
  have hout : (m.handedOut ∘ fun l : ListenerData =>
      Delivery.key l.id ⟨w, d.deviceId, keyPress, eHK⟩) =
        some ∘ fun l => ⟨l.id, keyPress, d.deviceId, eHK, m.nextTimeStamp⟩ := by
    funext l
    simp [handedOut, h.heldSince_of_notMem hd hnew]
  rw [List.filterMap_map, hout, List.filterMap_eq_map]

/-- A press that was handed to every listener, before anything else is handed out. -/
theorem Accounted.press (h : m.Accounted log) {nBackendId : ℕ} {eHK : HardwareKey}
    {d : BtKeysDevice} (hd : m.device nBackendId = some d) (hnew : eHK ∉ d.pressedKeys)
    {w : Window} (hgrows : (m.pressed nBackendId eHK).Grows u)
    (hdevices : u.btDevices = (m.pressed nBackendId eHK).btDevices)
    (hdeliveries : u.deliveries = m.deliveries ++
      m.listeners.1.map fun l => .key l.id ⟨w, d.deviceId, keyPress, eHK⟩) :
    u.Accounted (log ++ (u.deliveries.drop m.deliveries.length).filterMap m.handedOut) := by
  have hstamp : m.nextTimeStamp + 1 ≤ u.nextTimeStamp := hgrows.nextTimeStamp
  rw [hdeliveries, List.drop_left, h.filterMap_handedOut_press hd hnew]
  refine ⟨fun d₁ hd₁ => ?_, fun i j d₁ d₂ hd₁ hd₂ heq => ?_, fun i d₁ x hd₁ hx => ?_,
    fun l hl => ?_, fun i d₁ x hd₁ hx l hl hadded => ?_, ?_⟩
  · obtain ⟨i, hi⟩ := mem_devices.mp hd₁
    obtain ⟨d₀, hd₀, hid⟩ := device_of_pressed hdevices hi
    rw [hgrows.nextDeviceId, ← hid]
    exact h.deviceIdsLt d₀ (mem_devices.mpr ⟨i, hd₀⟩)
  · obtain ⟨d₃, hd₃, hid₃⟩ := device_of_pressed hdevices hd₁
    obtain ⟨d₄, hd₄, hid₄⟩ := device_of_pressed hdevices hd₂
    exact h.deviceIds i j d₃ d₄ hd₃ hd₄ (hid₃.trans (heq.trans hid₄.symm))
  · rcases held_of_pressed hdevices hd hnew hd₁ hx with ⟨d₀, hd₀, -, hx⟩ | ⟨-, rfl⟩
    · have hlt := h.heldLt i d₀ x hd₀ hx
      omega
    · exact hstamp
  · rcases hgrows.listeners l hl with hl | ⟨-, hlt⟩
    · have hlt := h.listenersLt l hl
      omega
    · exact hlt
  · -- a listener that came with the press is too late for it
    have hlm : l ∈ m.listeners.1 := by
      rcases hgrows.listeners l hl with hl | ⟨hle, -⟩
      · exact hl
      · change m.nextTimeStamp + 1 ≤ l.addedTimeStamp at hle
        rcases held_of_pressed hdevices hd hnew hd₁ hx with ⟨d₀, hd₀, -, hx⟩ | ⟨-, rfl⟩
        · have hlt := h.heldLt i d₀ x hd₀ hx
          omega
        · dsimp only at hadded
          omega
    rcases held_of_pressed hdevices hd hnew hd₁ hx with ⟨d₀, hd₀, hid, hx⟩ | ⟨hid, rfl⟩
    · exact List.mem_append_left _ (hid ▸ h.received i d₀ x hd₀ hx l hlm hadded)
    · rw [hid]
      exact List.mem_append_right _ (List.mem_map_of_mem hlm)
  · refine h.noOrphan.append fun x hx htype => absurd ?_ htype
    obtain ⟨l, -, rfl⟩ := List.mem_map.mp hx
    rfl

/-- A press that no listener but the last one disturbs. -/
theorem Accounted.sendKeyToListeners (h : m.Accounted log) {i : Input}
    (hop : i.op.deselecting = false) {nBackendId : ℕ} {eHK : HardwareKey} {d : BtKeysDevice}
    (hd : m.device nBackendId = some d) (hnew : eHK ∉ d.pressedKeys) {w : Window}
    (hsettles : i.pressSettles ⟨w, d.deviceId, keyPress, eHK⟩ m.listeners.1
      (m.pressed nBackendId eHK))
    (ht : BtKeysDevice.sendKeyToListeners i.handle nBackendId m.nextTimeStamp
      ⟨w, d.deviceId, keyPress, eHK⟩ m.listeners.1 (m.pressed nBackendId eHK) = .ok t) :
    t.Accounted (log ++ (t.deliveries.drop m.deliveries.length).filterMap m.handedOut) := by
  have hpressed : (m.pressed nBackendId eHK).isKeyPressed nBackendId eHK := by
    simp [isKeyPressed, device_pressed, hd]
  have hlt : (m.pressed nBackendId eHK).HeldLt := by
    intro i d₁ x hi hx
    rcases held_of_pressed rfl hd hnew hi hx with ⟨d₀, hd₀, -, hx⟩ | ⟨-, rfl⟩
    · exact (h.heldLt i d₀ x hd₀ hx).trans (Nat.lt_succ_self _)
    · exact Nat.lt_succ_self _
  obtain ⟨u, hgrows, hdevices, hdeliveries, hwithin⟩ := sendKeyToListeners_press hop hpressed hlt
    (fun l hl => (h.listenersLt l hl).le) hsettles ht
  have hall := (h.press hd hnew hgrows hdevices hdeliveries).within hwithin
    fun _ _ _ hi hx => h.heldSince_pressed hd hnew hdevices hi hx
  -- what the listeners are handed are the presses, and then the rest
  have hsplit : t.deliveries.drop m.deliveries.length =
      u.deliveries.drop m.deliveries.length ++ t.deliveries.drop u.deliveries.length := by
    obtain ⟨ds, hds, -⟩ := hwithin.deliveries
    have hle : m.deliveries.length ≤ u.deliveries.length := by
      rw [hdeliveries, List.length_append]
      exact Nat.le_add_right _ _
    rw [hds, List.drop_left, List.drop_append_of_le_length hle]
  rw [List.append_assoc, ← List.filterMap_append, ← hsplit] at hall
  exact hall

theorem Accounted.blueKey_press (h : m.Accounted log) {i : Input} {nBackendId : ℕ}
    {eHK : HardwareKey} (hop : i.op = .blueKey nBackendId keyPress eHK)
    (hpress : m.PressUndisturbed i) (ht : m.reentrantStep i = .ok t) :
    t.Accounted (log ++ (t.deliveries.drop m.deliveries.length).filterMap m.handedOut) := by
  have hsame : m.Accounted (log ++ (m.deliveries.drop m.deliveries.length).filterMap m.handedOut) :=
    h.within (.refl m) fun i d x hd hx => h.heldSince_held hd hx
  rw [reentrantStep, hop] at ht
  obtain ⟨r, hr, hrest⟩ := Run.bind_eq_ok.mp ht
  obtain rfl := Except.ok.inj hrest
  obtain ⟨hr, -⟩ | ⟨refSelected, d, s, hsel, hd, hhanded, hsend⟩ := onBlueKey_cases hr
  · exact hr ▸ hsame
  · obtain ⟨howner, ⟨-, hnew, rfl⟩ | ⟨hrelease, -⟩⟩ := (handedSince_eq_some hd).mp hhanded
    · have hsettles := hpress (nBackendId, eHK) (by simp [hop, Op.presses]) refSelected hsel d hd
        hnew
      rw [keyed_press hsel hd howner hnew] at hsettles hsend
      exact h.sendKeyToListeners (by rw [hop]; rfl) hd hnew hsettles hsend
    · exact absurd rfl hrelease

theorem Accounted.step (h : m.Accounted log) {i : Input} (hcurrent : m.FinalizesCurrent i)
    (hpress : m.PressUndisturbed i) (ht : m.reentrantStep i = .ok t) :
    t.Accounted (log ++ m.handed i) := by
  have hhanded : m.handed i =
      (t.deliveries.drop m.deliveries.length).filterMap m.handedOut := by
    rw [handed, ht]
  rw [hhanded]
  have hother (hadded : ∀ sName nBackendId, i.op ≠ .deviceAdded sName nBackendId)
      (hnopress : ∀ nBackendId eHK, i.op ≠ .blueKey nBackendId keyPress eHK) :
      t.Accounted (log ++ (t.deliveries.drop m.deliveries.length).filterMap m.handedOut) := by
    have hh : KeepsWithin i.handle := keepsWithin_reenter i.react i.calls i.op.deselecting i.depth
    refine h.within (within_stepWith hh h.heldLt hadded hnopress (fun l hl => ?_) ht)
      fun i d x hd hx => h.heldSince_held hd hx
    exact hcurrent l (by simp [hl, Op.finalizes])
  cases hop : i.op with
  | deviceAdded sName nBackendId =>
    rw [reentrantStep, hop] at ht
    change m.onDeviceAdded sName nBackendId = .ok t at ht
    obtain ⟨-, rfl⟩ := (onDeviceAdded_eq_ok h.deviceIdsLt).mp ht
    have hnone : ((m.deviceAdded sName nBackendId).deliveries.drop
        m.deliveries.length).filterMap m.handedOut = [] := by
      simp [BtGtkDeviceManager.deviceAdded, sendDeviceMgmtToListeners, handedOut]
    rw [hnone, List.append_nil]
    exact h.deviceAdded sName nBackendId
  | blueKey nBackendId eType eHK =>
    by_cases htype : eType = keyPress
    · exact h.blueKey_press (htype ▸ hop) hpress ht
    · refine hother (by simp [hop]) fun nBackendId' eHK' heq => htype ?_
      rw [hop] at heq
      exact (Op.blueKey.inj heq).2.1
  | deviceRemoved nBackendId => exact hother (by simp [hop]) (by simp [hop])
  | ui op => exact hother (by simp [hop]) (by simp [hop])

theorem accounted_create (enabledEventClasses : EventClass → Bool)
    (windows : Window → WindowState) : (create enabledEventClasses windows).Accounted [] where
  deviceIdsLt := (sound_create enabledEventClasses windows).deviceIdsLt
  deviceIds := by simp [create, device]
  heldLt := by simp [HeldLt, create, device]
  listenersLt := by simp [create]
  received := by simp [create, device]
  noOrphan := by simp [NoOrphan]

/-- **No orphan release** is handed to a listener in any run, with listeners that re-enter the
manager at any depth, in which no listener but the last one deselects a window while it is handed
a press. Of a run that ends in a fault these are the events up to the step with the fault. -/
theorem noOrphan_of_guarded (enabledEventClasses : EventClass → Bool)
    (windows : Window → WindowState) (is : List Input)
    (hcurrent : Run.Guarded reentrantStep FinalizesCurrent (create enabledEventClasses windows) is)
    (hpress : Run.Guarded reentrantStep PressUndisturbed (create enabledEventClasses windows) is) :
    NoOrphan (Run.trace reentrantStep handed (create enabledEventClasses windows) is) := by
  refine Run.trace_of_guarded handed (J := Accounted) (l := []) (fun _ _ h => h.noOrphan)
    (fun m log i t h hg ht => h.step hg.1 hg.2 ht) (fun m i e he => ?_)
    (accounted_create enabledEventClasses windows) (hcurrent.and hpress)
  rw [handed, he]

/-- Two listeners, of which the given one removes the selected window while it is handed a
press. -/
def removeWhilePressed (l : ListenerId) : List Input :=
  let quiet (op : Op) : Input := ⟨op, fun _ _ _ _ _ => none, 0, 0⟩
  [quiet (.ui (.addListener 0)), quiet (.ui (.addListener 1)),
    quiet (.ui (.addAccessor (.gtk 0))), quiet (.deviceAdded 0xA0 0),
    ⟨.blueKey 0 keyPress 30, fun _ ld e _ _ =>
      if ld.id = l ∧ e.type = keyPress then some (.removeAccessor (.gtk 0)) else none, 1, 1⟩]

/-- The last listener may remove the window. -/
theorem noOrphan_removeWhilePressed : NoOrphan (Run.trace reentrantStep handed
    (create (fun _ => true) fun _ => ⟨true, false⟩) (removeWhilePressed 1)) :=
  noOrphan_of_guarded (fun _ => true) (fun _ => ⟨true, false⟩) (removeWhilePressed 1)
    (by decide +kernel) (by decide +kernel)

/-- When the first one does, the second one is handed the cancel of a press that it never gets. -/
theorem not_noOrphan_removeWhilePressed :
    Run.Guarded reentrantStep FinalizesCurrent
        (create (fun _ => true) fun _ => ⟨true, false⟩) (removeWhilePressed 0) ∧
      ¬ NoOrphan (Run.trace reentrantStep handed
        (create (fun _ => true) fun _ => ⟨true, false⟩) (removeWhilePressed 0)) := by
  refine ⟨by decide +kernel, fun h => ?_⟩
  have htrace : Run.trace reentrantStep handed
      (create (fun _ => true) fun _ => ⟨true, false⟩) (removeWhilePressed 0) =
        [⟨0, keyPress, 0, 30, 2⟩, ⟨0, keyReleaseCancel, 0, 30, 2⟩] ++
          ⟨1, keyReleaseCancel, 0, 30, 2⟩ :: [] := by decide +kernel
  have hpress := h _ _ _ htrace (by decide +kernel)
  exact absurd hpress (by decide +kernel)

end BtGtkDeviceManager

end StmmInputBt
