import StmmInputBt.Manager.Reentry
import StmmInputBt.Manager.Effects
import StmmInputBt.Server.OwnerSim
import StmmInputBt.Server.VirtualCable

/-!
# The types of keys

The type of a `KeyPacket` is a byte that the client chooses. Neither `dispatch` nor
`doServerReceive` nor the manager looks at it, and `BtKeysDevice::onBlueKey` only tells `KEY_PRESS`
from the rest: a byte that is no `KEY_INPUT_TYPE` releases a key that is held, and the listeners are
handed an event with this byte as its type. The listeners may re-enter the manager.

A server whose owner writes down every key that it is handed does the same as the server, so that
the keys of a step can be told.

## Main definitions

* `GtkBackend.reentrantStep`: the step of a server with listeners that re-enter the manager.
* `GtkBackend.keysOfStep`: the keys that the manager is handed in the course of a step.
* `GtkBackend.TypesChecked`: only events with valid types are handed out, and keys with other types
  do nothing.

## Main results

* `BtGtkDeviceManager.releases_onBlueKey`: what a key does, with listeners that re-enter.
* `GtkBackend.map_spiedStep`: the written-down server does the same.
* `GtkBackend.typesChecked_iff`.
-/

namespace StmmInputBt

/-- A `KEY_INPUT_TYPE` of the protocol. -/
def IsKeyType (eType : KeyInputType) : Prop :=
  eType = keyPress ∨ eType = keyRelease ∨ eType = keyReleaseCancel

instance (eType : KeyInputType) : Decidable (IsKeyType eType) :=
  inferInstanceAs (Decidable (_ ∨ _))

namespace BtGtkDeviceManager

variable {handle : Handler} {m t : BtGtkDeviceManager} {T : KeyInputType → Prop}

/-! ### A key -/

/-- No key is pressed, and the key events that are handed out have types among `T`. -/
structure Releases (T : KeyInputType → Prop) (m t : BtGtkDeviceManager) : Prop where
  pressedKeys : ∀ i d, t.device i = some d → ∃ d₀, m.device i = some d₀ ∧
    ∀ eHK, eHK ∈ d.pressedKeys → eHK ∈ d₀.pressedKeys
  handsOut : HandsOut (fun e => T e.type) m t

namespace Releases

theorem refl (T : KeyInputType → Prop) (m : BtGtkDeviceManager) : Releases T m m :=
  ⟨fun _ d hd => ⟨d, hd, fun _ h => h⟩, .of_deliveries_eq rfl⟩

theorem congr {u : BtGtkDeviceManager} (h : Releases T m t) (hdevices : u.btDevices = t.btDevices)
    (hdeliveries : u.deliveries = t.deliveries) : Releases T m u :=
  ⟨fun i d hd => h.pressedKeys i d (device_of_btDevices_eq hdevices i ▸ hd),
    h.handsOut.congr hdeliveries⟩

theorem recorded (h : Releases T m t) (l : ListenerData) {e : KeyEvent} (he : T e.type) :
    Releases T m (t.recorded l e) := by
  refine ⟨h.pressedKeys, h.handsOut.append rfl fun l' e' hmem => ?_⟩
  cases List.mem_singleton.mp hmem
  exact he

theorem release (h : Releases T m t) (nBackendId : ℕ) :
    Releases T m (t.modifyDevice nBackendId fun d => { d with pressedKeys := ∅ }) := by
  refine ⟨fun i d hd => ?_, h.handsOut⟩
  rw [device_modifyDevice] at hd
  split_ifs at hd
  · obtain ⟨d', hd', rfl⟩ := Option.map_eq_some_iff.mp hd
    obtain ⟨d₀, hd₀, -⟩ := h.pressedKeys i d' hd'
    exact ⟨d₀, hd₀, fun eHK hmem => absurd hmem (AList.notMem_empty eHK)⟩
  · exact h.pressedKeys i d hd

end Releases

/-- Windows, listeners and cancels press nothing. -/
theorem keptByOps_releases (hT : T keyReleaseCancel) (m : BtGtkDeviceManager) :
    KeptByOps (Releases T m) fun _ e => T e.type where
  recorded _ l _ h he := h.recorded l he
  windows _ _ h hdevices _ _ _ hdeliveries := h.congr hdevices hdeliveries
  addListener t l h := by
    rw [addListener]
    split_ifs
    · exact h
    · exact h.congr rfl rfl
  removeListener _ _ h := h.congr rfl rfl
  release _ nBackendId h := h.release nBackendId
  cancel _ _ _ _ _ _ _ _ _ _ _ := hT

/-- After a key has been pressed or released, its event is handed out, and the listeners may press
nothing. -/
theorem releases_onBlueKey (hT : T keyReleaseCancel) (react : Reaction) (calls : ℕ)
    (deselecting : Bool) (depth : ℕ) {nBackendId : ℕ} {eType : KeyInputType} (htype : T eType)
    {eHK : HardwareKey} {r : Bool × BtGtkDeviceManager}
    (hr : onBlueKey (reenter react calls deselecting depth) nBackendId eType eHK m = .ok r) :
    Releases T (m.keyed nBackendId eType eHK) r.2 := by
  rcases onBlueKey_cases hr with ⟨hr, hkeyed⟩ | ⟨_, _, _, -, -, -, hsend⟩
  · rw [hr, hkeyed]
    exact .refl T m
  · have hkept := (keptByOps_releases hT (m.keyed nBackendId eType eHK)).reenter react calls
      deselecting depth
    exact hkept.sendKeyToListeners (fun _ _ _ => htype) (.refl T _) hsend

theorem handsOut_uiStepWith (hT : T keyReleaseCancel) (react : Reaction) (calls : ℕ)
    (deselecting : Bool) (depth : ℕ) {op : UiOp}
    (ht : uiStepWith (reenter react calls deselecting depth) m op = .ok t) :
    HandsOut (fun e => T e.type) m t :=
  have hops := keptByOps_releases hT m
  (hops.uiStepWith (hops.reenter react calls deselecting depth)
    (fun _ _ _ _ _ _ _ _ _ _ _ => hT) (.refl T m) ht).handsOut

theorem handsOut_onDeviceAdded {E : KeyEvent → Prop} {sName : BdAddr} {nBackendId : ℕ}
    (ht : m.onDeviceAdded sName nBackendId = .ok t) : HandsOut E m t := by
  obtain ⟨-, -, ht⟩ := Run.bind_eq_ok.mp ht
  obtain ⟨-, -, ht⟩ := Run.bind_eq_ok.mp ht
  obtain rfl := Except.ok.inj ht
  refine .append (.of_deliveries_eq rfl) rfl fun l e hmem => ?_
  cases List.mem_singleton.mp hmem

theorem handsOut_onDeviceRemoved (hT : T keyReleaseCancel) (react : Reaction) (calls : ℕ)
    (deselecting : Bool) (depth : ℕ) {nBackendId : ℕ}
    (ht : onDeviceRemoved (reenter react calls deselecting depth) nBackendId m = .ok t) :
    HandsOut (fun e => T e.type) m t := by
  obtain ⟨u, d, hu, rfl⟩ := onDeviceRemoved_cases ht
  have hkept := ((keptByOps_releases hT m).reenter react calls deselecting depth).cancelDeviceKeys
    (.refl T m) hu
  refine hkept.handsOut.append rfl fun l e hmem => ?_
  cases List.mem_singleton.mp hmem

end BtGtkDeviceManager

/-! ### The keys that the manager is handed -/

open BtGtkDeviceManager

/-- A key that the backend hands to the manager, with the manager before and after it. -/
structure KeyCall where
  backendId : ℕ
  type : KeyInputType
  key : HardwareKey
  before : BtGtkDeviceManager
  after : BtGtkDeviceManager

namespace KeyCall

/-- The events that are handed out have valid types. A key with another type leaves the pressed keys
of its device unchanged and hands out nothing. -/
def Checked (c : KeyCall) : Prop :=
  HandsOut (fun e => IsKeyType e.type) c.before c.after ∧
    (¬ IsKeyType c.type →
      (c.after.device c.backendId).map BtKeysDevice.pressedKeys =
        (c.before.device c.backendId).map BtKeysDevice.pressedKeys ∧
      c.after.deliveries = c.before.deliveries)

/-- A key with another type is not held on its device, or no window is selected. -/
def Fits (c : KeyCall) : Prop :=
  IsKeyType c.type ∨ c.before.selected = none ∨
    ∀ d, c.before.device c.backendId = some d → d.hasOwner → c.key ∉ d.pressedKeys

/-- The type of a key that is held must be valid, and no other one. -/
theorem checked_iff {react : Reaction} {calls : ℕ} {deselecting : Bool} {depth : ℕ} {c : KeyCall}
    {bContinue : Bool} (h : onBlueKey (reenter react calls deselecting depth) c.backendId c.type
      c.key c.before = .ok (bContinue, c.after)) : c.Checked ↔ c.Fits := by
  by_cases htype : IsKeyType c.type
  · refine iff_of_true ⟨?_, fun hno => absurd htype hno⟩ (.inl htype)
    exact (HandsOut.of_deliveries_eq (deliveries_keyed ..)).trans
      (releases_onBlueKey (.inr (.inr rfl)) react calls deselecting depth htype h).handsOut
  have hpress : c.type ≠ keyPress := fun heq => htype (.inl heq)
  constructor
  · intro hchecked
    refine .inr (or_iff_not_imp_left.mpr fun hsel d hd howner hmem => ?_)
    obtain ⟨refSelected, hsel⟩ := Option.ne_none_iff_exists'.mp hsel
    -- the key is erased, and no listener can press it again
    have hkeyed := keyed_release hsel hd howner hpress hmem
    have hreleases := releases_onBlueKey (T := fun _ => True) trivial react calls deselecting depth
      trivial h
    rw [hkeyed] at hreleases
    have hkeys := (hchecked.2 htype).1
    rw [hd] at hkeys
    obtain ⟨d', hd', hkeys⟩ := Option.map_eq_some_iff.mp hkeys
    obtain ⟨d₀, hd₀, hsub⟩ := hreleases.pressedKeys c.backendId d' hd'
    rw [device_modifyDevice, if_pos rfl, hd] at hd₀
    obtain rfl := Option.some.inj hd₀
    have herased := hsub c.key (hkeys ▸ hmem)
    exact (AList.mem_erase.mp herased).1 rfl
  · intro hfits
    have hsame : c.after = c.before := by
      rcases onBlueKey_cases h with ⟨hr, -⟩ | ⟨refSelected, d, s, hsel, hd, hhanded, -⟩
      · exact hr
      · obtain ⟨howner, ⟨hpress', -⟩ | ⟨-, hlookup⟩⟩ := (handedSince_eq_some hd).mp hhanded
        · exact absurd hpress' hpress
        · have hmem : c.key ∈ d.pressedKeys := AList.lookup_isSome.mp (by rw [hlookup]; rfl)
          rcases hfits with hvalid | hnone | hnotHeld
          · exact absurd hvalid htype
          · rw [hnone] at hsel
            cases hsel
          · exact absurd hmem (hnotHeld d hd howner)
    rw [Checked, hsame]
    exact ⟨.of_deliveries_eq rfl, fun _ => ⟨rfl, rfl⟩⟩

end KeyCall

/-- The device manager as the owner of the backend, with any listeners. -/
def managerOwnerWith (handle : Handler) : Owner BtGtkDeviceManager where
  onDeviceAdded sName nBackendId m := m.onDeviceAdded sName nBackendId
  onDeviceRemoved nBackendId m := onDeviceRemoved handle nBackendId m
  onBlueKey nBackendId eType eHK m := onBlueKey handle nBackendId eType eHK m

/-- The device manager, with every key that it is handed written down. -/
def spiedOwner (handle : Handler) : Owner (BtGtkDeviceManager × List KeyCall) where
  onDeviceAdded sName nBackendId s := (s.1.onDeviceAdded sName nBackendId).map (·, s.2)
  onDeviceRemoved nBackendId s := (onDeviceRemoved handle nBackendId s.1).map (·, s.2)
  onBlueKey nBackendId eType eHK s := (onBlueKey handle nBackendId eType eHK s.1).map fun r =>
    (r.1, r.2, s.2 ++ [⟨nBackendId, eType, eHK, s.1, r.2⟩])

/-- The manager does not notice that the keys are written down. -/
theorem sim_spiedOwner (handle : Handler) :
    (spiedOwner handle).Sim (managerOwnerWith handle) fun s m => s.1 = m where
  onDeviceAdded := by
    rintro sName nBackendId s _ rfl
    exact .of_map fun _ => rfl
  onDeviceRemoved := by
    rintro nBackendId s _ rfl
    exact .of_map fun _ => rfl
  onBlueKey := by
    rintro nBackendId eType eHK s _ rfl
    exact .of_map fun _ => ⟨rfl, rfl⟩

namespace GtkBackend

/-! ### Steps -/

/-- Something that happens to a server, and what the listeners do in the course of it. -/
structure ServerInput where
  op : SystemOp
  react : Reaction
  /-- How many calls a listener makes at most while it is handed one event. -/
  calls : ℕ
  /-- How many listeners are at most called from inside each other. -/
  depth : ℕ

/-- The listeners that the operation calls are called from inside `deselectAccessor`. -/
def SystemOp.deselecting : SystemOp → Bool
  | .ui op => (Op.ui op).deselecting
  | _ => false

/-- The listeners in the course of an input. -/
def ServerInput.handle (i : ServerInput) : Handler :=
  reenter i.react i.calls i.op.deselecting i.depth

/-- One thing happens to a server. The owner tells what it does about windows and listeners. -/
def stepWith {σ : Type} (O : Owner σ) (uiStep : σ → UiOp → Except Fault σ) (order : ByteOrder)
    (b : GtkBackend σ) : SystemOp → Except Fault (GtkBackend σ)
  | .accept nClientFD oClientBdAddr => doServerAcceptClient O nClientFD oClientBdAddr b
  | .dispatch sid nIOFlags recv oDummyPacket =>
    dispatchSource O order sid nIOFlags recv oDummyPacket b
  | .ui op => (uiStep b.owner op).map fun owner => { b with owner }

/-- One thing happens to a server whose listeners may re-enter the manager. -/
def reentrantStep (order : ByteOrder) (b : Server) (i : ServerInput) : Except Fault Server :=
  stepWith (managerOwnerWith i.handle) (uiStepWith i.handle) order b i.op

def spiedUiStep (handle : Handler) (s : BtGtkDeviceManager × List KeyCall) (op : UiOp) :
    Except Fault (BtGtkDeviceManager × List KeyCall) :=
  (uiStepWith handle s.1 op).map (·, s.2)

/-- The same, with the keys written down. -/
def spiedStep (order : ByteOrder) (b : GtkBackend (BtGtkDeviceManager × List KeyCall))
    (i : ServerInput) : Except Fault (GtkBackend (BtGtkDeviceManager × List KeyCall)) :=
  stepWith (spiedOwner i.handle) (spiedUiStep i.handle) order b i.op

/-- The keys that the manager is handed in the course of a step. A step that ends in a fault yields
no state, so the keys before the fault are not counted. -/
def keysOfStep (order : ByteOrder) (b : Server) (i : ServerInput) : List KeyCall :=
  match spiedStep order (b.mapOwner (·, [])) i with
  | .ok c => c.owner.2
  | .error _ => []

/-- The key events that a step hands out have valid types, and a key with another type does
nothing. Of a step that ends in a fault no event and no key is counted. -/
def TypesChecked (order : ByteOrder) (b : Server) (i : ServerInput) : Prop :=
  (∀ t, reentrantStep order b i = .ok t → HandsOut (fun e => IsKeyType e.type) b.owner t.owner) ∧
    ∀ c ∈ keysOfStep order b i, c.Checked

/-- No key with another type is handed on that is held while a window is selected. Of a step that
ends in a fault no key is counted. -/
def TypesFit (order : ByteOrder) (b : Server) (i : ServerInput) : Prop :=
  ∀ c ∈ keysOfStep order b i, c.Fits

/-- Without nested calls it is the step of a server whose listeners do not re-enter the manager. -/
theorem reentrantStep_of_depth_zero (order : ByteOrder) (b : Server) {i : ServerInput}
    (h : i.depth = 0) : reentrantStep order b i = step order b i.op := by
  have hhandle : i.handle = record := by
    rw [ServerInput.handle, h, reenter]
  rw [reentrantStep, hhandle]
  cases i.op with
  | accept nClientFD oClientBdAddr => rfl
  | dispatch sid nIOFlags recv oDummyPacket => rfl
  | ui op => exact congrArg (Except.map _) (uiStepWith_record b.owner op)

variable {σ τ : Type} {O : Owner σ} {O' : Owner τ} {R : σ → τ → Prop}

theorem rel_stepWith {uiStep : σ → UiOp → Except Fault σ} {uiStep' : τ → UiOp → Except Fault τ}
    (hO : O.Sim O' R) (hui : ∀ op s t, R s t → Lockstep R (uiStep s op) (uiStep' t op))
    (order : ByteOrder) {b : GtkBackend σ} {c : GtkBackend τ} (h : b.Rel R c) (op : SystemOp) :
    Lockstep (Rel R) (stepWith O uiStep order b op) (stepWith O' uiStep' order c op) := by
  cases op with
  | accept nClientFD oClientBdAddr => exact rel_doServerAcceptClient hO h nClientFD oClientBdAddr
  | dispatch sid nIOFlags recv oDummyPacket =>
    exact rel_dispatchSource hO h order sid nIOFlags recv oDummyPacket
  | ui op =>
    exact (hui op _ _ h.owner).map fun _ _ howner =>
      ⟨howner, h.permanentAddrs, h.inputSources, h.sources⟩

/-- The step with the keys written down does the same. -/
theorem map_spiedStep (order : ByteOrder) (b : GtkBackend (BtGtkDeviceManager × List KeyCall))
    (i : ServerInput) :
    (spiedStep order b i).map (mapOwner Prod.fst) =
      reentrantStep order (b.mapOwner Prod.fst) i := by
  have hrel : b.Rel (fun s m => s.1 = m) (b.mapOwner Prod.fst) := rel_mapOwner.mpr rfl
  refine ((rel_stepWith (sim_spiedOwner i.handle) ?_ order hrel i.op).mono fun _ _ => ?_).map_eq
  · rintro op s _ rfl
    exact .of_map fun _ => rfl
  · exact rel_mapOwner.mp

/-! ### Types -/

/-- What is known of the keys of a step: each one is as it should be exactly if it fits, and if all
fit, the manager has only handed out valid types since `m`. -/
structure Told (m : BtGtkDeviceManager) (s : BtGtkDeviceManager × List KeyCall) : Prop where
  checked : ∀ c ∈ s.2, c.Checked ↔ c.Fits
  handsOut : (∀ c ∈ s.2, c.Checked) → HandsOut (fun e => IsKeyType e.type) m s.1

theorem Told.onOther {m t : BtGtkDeviceManager} {s : BtGtkDeviceManager × List KeyCall}
    (h : Told m s) (ht : HandsOut (fun e => IsKeyType e.type) s.1 t) : Told m (t, s.2) :=
  ⟨h.checked, fun hall => (h.handsOut hall).trans ht⟩

theorem Told.onKey {m : BtGtkDeviceManager} {s : BtGtkDeviceManager × List KeyCall} {c : KeyCall}
    (h : Told m s) (hbefore : c.before = s.1) (hc : c.Checked ↔ c.Fits) :
    Told m (c.after, s.2 ++ [c]) := by
  refine ⟨fun c' hc' => ?_, fun hall => ?_⟩
  · rcases List.mem_append.mp hc' with hc' | hc'
    · exact h.checked c' hc'
    · rw [List.mem_singleton.mp hc']
      exact hc
  · have hlast : c.Checked := hall c (by simp)
    refine (h.handsOut fun c' hc' => hall c' (List.mem_append_left _ hc')).trans ?_
    rw [← hbefore]
    exact hlast.1

/-- `KEY_RELEASE_CANCEL` is valid. -/
theorem isKeyType_cancel : IsKeyType keyReleaseCancel := .inr (.inr rfl)

theorem told_spiedStep {m : BtGtkDeviceManager} {order : ByteOrder}
    {b t : GtkBackend (BtGtkDeviceManager × List KeyCall)} {i : ServerInput} (hb : Told m b.owner)
    (ht : spiedStep order b i = .ok t) : Told m t.owner := by
  have hsim : (spiedOwner i.handle).Sim (spiedOwner i.handle) fun s t => s = t ∧ Told m s := by
    refine .of_keeps (fun sName nBackendId s t hs ht => ?_) (fun nBackendId s t hs ht => ?_)
      fun nBackendId eType eHK s r hs hr => ?_
    · obtain ⟨u, hu, rfl⟩ := Run.map_eq_ok.mp ht
      exact hs.onOther (handsOut_onDeviceAdded hu)
    · obtain ⟨u, hu, rfl⟩ := Run.map_eq_ok.mp ht
      exact hs.onOther (handsOut_onDeviceRemoved isKeyType_cancel _ _ _ _ hu)
    · obtain ⟨u, hu, rfl⟩ := Run.map_eq_ok.mp hr
      exact hs.onKey rfl (KeyCall.checked_iff (c := ⟨nBackendId, eType, eHK, s.1, u.2⟩) hu)
  have hrel : b.Rel (fun s t => s = t ∧ Told m s) b := ⟨⟨rfl, hb⟩, rfl, rfl, rfl⟩
  have hui (op : UiOp) (s t : BtGtkDeviceManager × List KeyCall) (hst : s = t ∧ Told m s) :
      Lockstep (fun s t => s = t ∧ Told m s) (spiedUiStep i.handle s op)
        (spiedUiStep i.handle t op) := by
    obtain ⟨rfl, hs⟩ := hst
    refine .of_forall_ok fun t ht => ?_
    obtain ⟨u, hu, rfl⟩ := Run.map_eq_ok.mp ht
    exact hs.onOther (handsOut_uiStepWith isKeyType_cancel _ _ _ _ hu)
  obtain ⟨t', -, h⟩ := (rel_stepWith hsim hui order hrel i.op).exists_ok ht
  exact h.owner.2

theorem typesChecked_iff_step (order : ByteOrder) (b : Server) (i : ServerInput) :
    TypesChecked order b i ↔ TypesFit order b i := by
  have hmap := map_spiedStep order (b.mapOwner (·, [])) i
  have hb : (b.mapOwner (·, ([] : List KeyCall))).mapOwner Prod.fst = b := rfl
  rw [hb] at hmap
  rw [TypesChecked, TypesFit, keysOfStep]
  cases hspied : spiedStep order (b.mapOwner (·, [])) i with
  | error e =>
    rw [hspied] at hmap
    refine iff_of_true ⟨fun t ht => ?_, by simp⟩ (by simp)
    rw [← hmap] at ht
    cases ht
  | ok c =>
    rw [hspied] at hmap
    have htold : Told b.owner c.owner := by
      refine told_spiedStep ⟨?_, fun _ => .of_deliveries_eq rfl⟩ hspied
      simp [mapOwner]
    have hcalls : (∀ call ∈ c.owner.2, call.Checked) ↔ ∀ call ∈ c.owner.2, call.Fits :=
      forall₂_congr htold.checked
    dsimp only
    rw [← hcalls]
    refine and_iff_right_of_imp fun hall t ht => ?_
    rw [← hmap] at ht
    obtain rfl := Except.ok.inj ht
    exact htold.handsOut hall

/-- From any state and in any run, with listeners that re-enter the manager at any depth: the
listeners are only handed key events with valid types, and keys with other types do nothing,
exactly if no such key is handed on that is held while a window is selected. Of a run that ends in
a fault this is about the steps before the fault. -/
theorem typesChecked_iff (order : ByteOrder) (b : Server) (is : List ServerInput) :
    Run.Guarded (reentrantStep order) (TypesChecked order) b is ↔
      Run.Guarded (reentrantStep order) (TypesFit order) b is :=
  Run.guarded_congr_of_invariant (I := fun _ => True)
    (fun b i _ => typesChecked_iff_step order b i) (fun _ _ _ _ _ => trivial) trivial

/-- A client presses the key `30` while a window is active and there is a listener. -/
def pressThirty : List ServerInput :=
  let quiet (op : SystemOp) : ServerInput := ⟨op, fun _ _ _ _ _ => none, 0, 0⟩
  [quiet (.ui (.addListener 0)), quiet (.ui (.addAccessor (.gtk 0))),
    quiet (.accept 5 clientAddr),
    quiet (.dispatch 0 ioInOnly
      (.received [magic1, magic2, packetCmdKey, keyPress, 30, 0, 0, 0]) ⟨0, 0, 0, 0, 0⟩)]

/-- The client sends the key again, with the type `7`. -/
def keyOfTypeSeven : ServerInput :=
  ⟨.dispatch 0 ioInOnly (.received [magic1, magic2, packetCmdKey, 7, 30, 0, 0, 0])
    ⟨0, 0, 0, 0, 0⟩, fun _ _ _ _ _ => none, 0, 0⟩

/-- The listener is handed an event of type `7`. -/
theorem not_typesChecked_keyOfTypeSeven :
    ¬ Run.Guarded (reentrantStep .little) (TypesChecked .little) startAmongActive
      (pressThirty ++ [keyOfTypeSeven]) := by
  intro h
  have hpressed : (Run.exec (reentrantStep .little) startAmongActive pressThirty).toOption.map
      (fun b => b.owner.deliveries.length) = some 2 := by decide +kernel
  have hrun : (Run.exec (reentrantStep .little) startAmongActive
      (pressThirty ++ [keyOfTypeSeven])).toOption.map (fun b => b.owner.deliveries[2]?) =
        some (some (.key 0 ⟨0, 0, 7, 30⟩)) := by decide +kernel
  obtain ⟨b, hb, hlength⟩ := Run.exists_exec_of_view hpressed
  obtain ⟨t, ht, hseven⟩ := Run.exists_exec_of_view hrun
  rw [Run.exec_append_of_ok hb] at ht
  obtain ⟨t', ht', hrest⟩ := Run.exec_cons_eq_ok.mp ht
  obtain rfl := Except.ok.inj hrest
  obtain ⟨ds, hds, hvalid⟩ := (h.of_exec hb).1 t' ht'
  rw [hds, List.getElem?_append_right hlength.le, hlength] at hseven
  have htype := hvalid 0 ⟨0, 0, 7, 30⟩ (List.mem_of_getElem? hseven)
  exact absurd htype (by decide)

end GtkBackend

end StmmInputBt
