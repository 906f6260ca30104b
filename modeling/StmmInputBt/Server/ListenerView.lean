import Mathlib.Logic.Relation
import StmmInputBt.Manager.ListenerView
import StmmInputBt.Server.OwnerSim
import StmmInputBt.Server.System

/-!
# Listeners of the server

Nothing but the functions of the owner touches the manager of the server when clients connect and
their messages are dispatched. So what a listener makes of its events is also what there is when
the manager serves the backend.

If no key of a device is pressed when a listener is added, it is shown all that is pressed on the
device from then on.

## Main definitions

* `BtGtkDeviceManager.Watching`: what holds for a listener and the device of a name.
* `BtGtkDeviceManager.BackendStep`: a call of the backend.
* `GtkBackend.shownEvents`: what a step of the server shows to a listener.

## Main results

* `GtkBackend.watching_step`: a step of the server.
-/

namespace StmmInputBt

open BtGtkDeviceManager

namespace BtGtkDeviceManager

variable {m t : BtGtkDeviceManager} {lid : ListenerId} {sName : BdAddr} {l : ListenerData}
  {es : List (Switches.Event DeviceKey)}

/-! ### The keys of the devices and their listeners -/

/-- A key that is pressed after a step was pressed before, on the same device, or is pressed now. -/
theorem lookup_step (hsound : m.Sound) {op : Op} (ht : m.step op = .ok t) {i : ℕ}
    {d : BtKeysDevice} (hd : t.device i = some d) {eHK : HardwareKey} {oKeyData : KeyData}
    (hlookup : d.pressedKeys.lookup eHK = some oKeyData) :
    (∃ d₀, m.device i = some d₀ ∧ d₀.name = d.name ∧
      d₀.pressedKeys.lookup eHK = some oKeyData) ∨
      m.nextTimeStamp ≤ oKeyData.pressedTimeStamp := by
  obtain ⟨sName, nBackendId, rfl, -, rfl⟩ | ⟨nBackendId, d', es, canceledKeys, rfl, -, rfl⟩ |
    ⟨nBackendId, eType, eHK', es, rfl, rfl⟩ | ⟨op, rfl, hui⟩ := step_cases hsound ht
  · rw [device_deviceAdded] at hd
    split_ifs at hd
    · obtain rfl := Option.some.inj hd
      cases hlookup
    · exact .inl ⟨d, hd, rfl, hlookup⟩
  · rw [device_deviceRemoved] at hd
    split_ifs at hd
    exact .inl ⟨d, hd, rfl, hlookup⟩
  · change (m.keyed nBackendId eType eHK').device i = some d at hd
    obtain hsame | ⟨refSelected, d₀, -, hd₀, -, -, hpress⟩ | ⟨-, hrelease⟩ :=
      keyed_cases nBackendId eType eHK' m
    · rw [hsame] at hd
      exact .inl ⟨d, hd, rfl, hlookup⟩
    · rw [hpress] at hd
      change (m.pressed nBackendId eHK').device i = some d at hd
      rw [device_pressed] at hd
      split_ifs at hd with hi
      · subst hi
        rw [hd₀] at hd
        obtain rfl := Option.some.inj hd
        by_cases hkey : eHK = eHK'
        · subst hkey
          rw [AList.lookup_insert] at hlookup
          obtain rfl := Option.some.inj hlookup
          exact .inr le_rfl
        · rw [AList.lookup_insert_ne hkey] at hlookup
          exact .inl ⟨d₀, hd₀, rfl, hlookup⟩
      · exact .inl ⟨d, hd, rfl, hlookup⟩
    · rw [hrelease, device_modifyDevice] at hd
      split_ifs at hd with hi
      · subst hi
        obtain ⟨d₀, hd₀, rfl⟩ := Option.map_eq_some_iff.mp hd
        by_cases hkey : eHK = eHK'
        · subst hkey
          rw [AList.lookup_erase] at hlookup
          cases hlookup
        · rw [AList.lookup_erase_ne hkey] at hlookup
          exact .inl ⟨d₀, hd₀, rfl, hlookup⟩
      · exact .inl ⟨d, hd, rfl, hlookup⟩
  · have hsame := sameDevices_prepare m op
    obtain ⟨l, es, canceledKeys, rfl, rfl⟩ | ⟨-, rfl⟩ | ⟨-, -, es, canceledKeys, rfl⟩ :=
      uiStep_cases hsound.toWindowsTracked hui
    · exact .inl ⟨d, hd, rfl, hlookup⟩
    · exact .inl ⟨d, (device_of_btDevices_eq hsame.btDevices i).symm.trans hd, rfl, hlookup⟩
    · have hdevice : (m.device i).map (m.prepare op).releasedDevice = some d :=
        (device_map rfl i).symm.trans hd
      obtain ⟨d₀, hd₀, rfl⟩ := Option.map_eq_some_iff.mp hdevice
      rw [releasedDevice] at hlookup ⊢
      split_ifs at hlookup ⊢
      · cases hlookup
      · exact .inl ⟨d₀, hd₀, rfl, hlookup⟩

/-- What holds after a run in the course of which the listener was shown `es`: no key that is
pressed on the device with the name is older than the listener. -/
structure Watching (lid : ListenerId) (sName : BdAddr) (m : BtGtkDeviceManager)
    (es : List (Switches.Event DeviceKey)) : Prop extends Viewing lid m es where
  recent : ∀ l ∈ m.listeners.1, l.id = lid → ∀ i d, m.device i = some d → d.name = sName →
    ∀ eHK oKeyData, d.pressedKeys.lookup eHK = some oKeyData →
      l.addedTimeStamp ≤ oKeyData.pressedTimeStamp

theorem watching_create (lid : ListenerId) (sName : BdAddr)
    {enabledEventClasses : EventClass → Bool} (hen : enabledEventClasses .keyEvent)
    (windows : Window → WindowState) :
    Watching lid sName (create enabledEventClasses windows) [] where
  toViewing := viewing_create lid hen windows
  recent l hl := by simp [create] at hl

/-- The listener is only added when no key of the device is pressed. -/
theorem Watching.step (h : Watching lid sName m es) {op : Op} (hop : m.ShowsAll lid op)
    (hadd : op = .ui (.addListener lid) → ∀ i d, m.device i = some d → d.name = sName →
      ∀ eHK, eHK ∉ d.pressedKeys) (ht : m.step op = .ok t) :
    Watching lid sName t (es ++ shownEvents lid m op) where
  toViewing := h.toViewing.step hop ht
  recent := by
    rintro l hl rfl i d hd rfl eHK oKeyData hlookup
    obtain hlm | ⟨rfl, hadded⟩ := mem_listeners_step h.settled.toSound ht hl
    · obtain ⟨d₀, hd₀, hname, hlookup₀⟩ | hnow := lookup_step h.settled.toSound ht hd hlookup
      · exact h.recent l hlm rfl i d₀ hd₀ hname eHK oKeyData hlookup₀
      · exact (h.added l hlm).trans hnow
    · obtain ⟨d₀, hd₀, hname, hlookup₀⟩ | hnow := lookup_step h.settled.toSound ht hd hlookup
      · have hmem : eHK ∈ d₀.pressedKeys := AList.lookup_isSome.mp (by rw [hlookup₀]; rfl)
        exact absurd hmem (hadd rfl i d₀ hd₀ hname eHK)
      · exact hadded.trans_le hnow

/-- The listener knows which keys of the device are pressed. -/
theorem Watching.after_iff (h : Watching lid sName m es) (hl : l ∈ m.listeners.1)
    (hid : l.id = lid) {i : ℕ} {d : BtKeysDevice} (hd : m.device i = some d)
    (hname : d.name = sName) (eHK : HardwareKey) :
    Switches.after es (d.deviceId, eHK) = true ↔ eHK ∈ d.pressedKeys := by
  rw [h.shows l hl hid]
  constructor
  · rintro ⟨j, d', hd', hdevice, oKeyData, hlookup, -⟩
    obtain rfl := h.settled.deviceIds j i d' d hd' hd hdevice
    obtain rfl := Option.some.inj (hd'.symm.trans hd)
    exact AList.lookup_isSome.mp (by rw [hlookup]; rfl)
  · intro hmem
    obtain ⟨oKeyData, hlookup⟩ := Option.isSome_iff_exists.mp (AList.lookup_isSome.mpr hmem)
    exact ⟨i, d, hd, rfl, oKeyData, hlookup, h.recent l hl hid i d hd hname eHK oKeyData hlookup⟩

/-! ### The calls of the backend -/

/-- One of the functions of the owner is called. -/
def BackendStep (m t : BtGtkDeviceManager) : Prop :=
  ∃ op : Op, (∀ uiOp, op ≠ .ui uiOp) ∧ m.step op = .ok t

/-- The backend calls its owner. -/
theorem Watching.backendRun (h : Watching lid sName m es)
    (hrun : Relation.ReflTransGen BackendStep m t) :
    Watching lid sName t (es ++ shownSince lid m t) ∧
      ∃ ds, t.deliveries = m.deliveries ++ ds := by
  induction hrun with
  | refl =>
    have hnil : m.deliveries = m.deliveries ++ [] := (List.append_nil _).symm
    refine ⟨?_, [], hnil⟩
    rw [shownSince_of_deliveries hnil]
    simpa [keyEventsOf] using h
  | @tail u _ _ hstep ih =>
    obtain ⟨hu, ds, hds⟩ := ih
    obtain ⟨op, hop, ht⟩ := hstep
    obtain ⟨ds', hds', -⟩ := handsOutOwn_step hu.settled.toSound ht
    have hclean : u.ShowsAll lid op := by
      cases op with
      | deviceAdded | deviceRemoved | blueKey => trivial
      | ui uiOp => exact absurd rfl (hop uiOp)
    have ht' := hu.step hclean (fun heq => absurd heq (hop _)) ht
    rw [shownEvents_of_step ht lid fun l' => hop _, List.append_assoc,
      shownSince_of_deliveries hds, shownSince_of_deliveries hds', ← List.map_append,
      ← keyEventsOf_append] at ht'
    have hall := hds'.trans ((congrArg (· ++ ds') hds).trans (List.append_assoc ..))
    exact ⟨by rwa [shownSince_of_deliveries hall], _, hall⟩

end BtGtkDeviceManager

namespace GtkBackend

variable {order : ByteOrder} {b t : Server} {lid : ListenerId} {sName : BdAddr}
  {es : List (Switches.Event DeviceKey)}

/-- The manager that serves the backend has been called a number of times. -/
theorem sim_backendRun (m : BtGtkDeviceManager) : managerOwner.Sim managerOwner
    fun s t => s = t ∧ Relation.ReflTransGen BackendStep m s := by
  refine .of_keeps (fun sName nBackendId s t hs ht => hs.tail ?_)
    (fun nBackendId s t hs ht => hs.tail ?_) fun nBackendId eType eHK s r hs hr => hs.tail ?_
  · exact ⟨.deviceAdded sName nBackendId, by simp, ht⟩
  · exact ⟨.deviceRemoved nBackendId, by simp, ht⟩
  · refine ⟨.blueKey nBackendId eType eHK, by simp, ?_⟩
    change (onBlueKey record nBackendId eType eHK s).bind (fun r => .ok r.2) = .ok r.2
    have hkey : onBlueKey record nBackendId eType eHK s = .ok r := hr
    rw [hkey]
    rfl

/-- What happens to the manager when clients connect and messages are dispatched. -/
theorem backendRun_step {op : SystemOp} (hop : ∀ uiOp, op ≠ .ui uiOp)
    (ht : b.step order op = .ok t) : Relation.ReflTransGen BackendStep b.owner t.owner := by
  have hrel : b.Rel (fun s t => s = t ∧ Relation.ReflTransGen BackendStep b.owner s) b :=
    ⟨⟨rfl, .refl⟩, rfl, rfl, rfl⟩
  cases op with
  | ui uiOp => exact absurd rfl (hop uiOp)
  | accept nClientFD oClientBdAddr =>
    obtain ⟨c, hc, howner, -⟩ := (rel_doServerAcceptClient (sim_backendRun b.owner) hrel nClientFD
      oClientBdAddr).exists_ok ht
    exact howner.2
  | dispatch sid nIOFlags recv oDummyPacket =>
    obtain ⟨c, hc, howner, -⟩ := (rel_dispatchSource (sim_backendRun b.owner) hrel order sid
      nIOFlags recv oDummyPacket).exists_ok ht
    exact howner.2

/-- What a step of the server shows to a listener. -/
def shownEvents (order : ByteOrder) (lid : ListenerId) (b : Server) :
    SystemOp → List (Switches.Event DeviceKey)
  | .ui op => b.owner.shownEvents lid (.ui op)
  | op =>
    match b.step order op with
    | .ok t => shownSince lid b.owner t.owner
    | .error _ => []

/-- **One step.** -/
theorem watching_step (h : Watching lid sName b.owner es) {op : SystemOp}
    (hop : ∀ uiOp, op = .ui uiOp → b.owner.ShowsAll lid (.ui uiOp) ∧
      (uiOp = .addListener lid → ∀ i d, b.owner.device i = some d → d.name = sName →
        ∀ eHK, eHK ∉ d.pressedKeys)) (ht : b.step order op = .ok t) :
    Watching lid sName t.owner (es ++ b.shownEvents order lid op) := by
  have hbackend (hui : ∀ uiOp, op ≠ .ui uiOp) :
      Watching lid sName t.owner (es ++ b.shownEvents order lid op) := by
    rw [shownEvents]
    · rw [ht]
      exact (h.backendRun (backendRun_step hui ht)).1
    · exact hui
  cases op with
  | accept | dispatch => exact hbackend (by simp)
  | ui uiOp =>
    obtain ⟨owner, howner, rfl⟩ := Run.map_eq_ok.mp ht
    obtain ⟨hshows, hadd⟩ := hop uiOp rfl
    have hui : b.owner.step (.ui uiOp) = .ok owner := howner
    exact h.step hshows (fun heq => hadd (Op.ui.inj heq)) hui

end GtkBackend

end StmmInputBt
