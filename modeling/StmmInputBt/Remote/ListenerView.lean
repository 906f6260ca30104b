import StmmInputBt.Remote.Agreement
import StmmInputBt.Server.ListenerView

/-!
# The window and the listeners

From one end to the other: the keys that a window of a client shows as pressed are those that a
listener of the server takes for pressed on the device of the client, once everything that the
client has sent has been received.

## Main definitions

* `RemoteSystem.shownEvents`: what a step shows to a listener.
* `RemoteSystem.ShowsTo`: the conditions on a step, as far as the listener is concerned.

## Main results

* `RemoteSystem.after_shownEvents_iff_isKeyPressed`.
-/

namespace StmmInputBt

open BtGtkDeviceManager BtKeyClient GtkBackend

/-- The listener is added. -/
def BtGtkDeviceManager.UiOp.adds (lid : ListenerId) : UiOp → Bool
  | .addListener l => l = lid
  | _ => false

namespace RemoteSystem

variable {ι : Type} [DecidableEq ι] (peers : Peers ι)

/-- What a step shows to a listener. -/
def shownEvents (lid : ListenerId) (s : RemoteSystem ι) (op : RemoteOp ι) :
    List (Switches.Event DeviceKey) :=
  match s.serverOp peers op with
  | none => []
  | some serverOp => s.server.shownEvents peers.serverOrder lid serverOp

/-- The listener is not finalized, is added when the client holds no key, and no key is held twice
when a window is deselected. -/
def ShowsTo (lid : ListenerId) (i : ι) (s : RemoteSystem ι) : RemoteOp ι → Prop
  | .ui op => s.server.owner.ShowsAll lid (.ui op) ∧ (op.adds lid → s.HoldsNone i)
  | _ => True

instance (lid : ListenerId) (i : ι) (s : RemoteSystem ι) (op : RemoteOp ι) :
    Decidable (s.ShowsTo lid i op) :=
  match op with
  | .ui _ => inferInstanceAs (Decidable (_ ∧ (_ → _)))
  | .client .. | .accept .. | .dispatch .. => isTrue trivial

variable {peers} {i : ι} {s t : RemoteSystem ι} {lid : ListenerId}
  {es : List (Switches.Event DeviceKey)}

/-- A client that holds no key has none pressed on its device. -/
theorem Agreeing.not_mem_pressedKeys {calls : List KeyCall} (h : s.Agreeing peers i calls)
    (hnone : s.HoldsNone i) {j : ℕ} {d : BtKeysDevice} (hd : s.server.owner.device j = some d)
    (hname : d.name = peers.addr i) (eHK : HardwareKey) : eHK ∉ d.pressedKeys := by
  have hheld := (h.held j d hd hname).trans (h.delivering.after_of_holdsNone hnone)
  exact of_decide_eq_false (congrFun hheld eHK)

/-- What holds after a run in the course of which the listener was shown `es`. -/
structure Following (lid : ListenerId) (i : ι) (peers : Peers ι) (s : RemoteSystem ι)
    (es : List (Switches.Event DeviceKey)) : Prop where
  agreeing : ∃ calls, s.Agreeing peers i calls
  watching : Watching lid (peers.addr i) s.server.owner es

/-- **One step.** -/
theorem Following.step (h : Following lid i peers s es) {op : RemoteOp ι}
    (hop : s.KeepsUp peers i op ∧ s.ShowsTo lid i op) (ht : s.step peers op = .ok t) :
    Following lid i peers t (es ++ s.shownEvents peers lid op) := by
  obtain ⟨calls, hagree⟩ := h.agreeing
  refine ⟨⟨_, hagree.step hop.1 ht⟩, ?_⟩
  rw [RemoteSystem.step] at ht
  rw [shownEvents]
  cases hserver : s.serverOp peers op with
  | none =>
    rw [hserver] at ht
    obtain rfl := Except.ok.inj ht
    simpa using h.watching
  | some serverOp =>
    rw [hserver] at ht
    obtain ⟨server, hstep, rfl⟩ := Run.map_eq_ok.mp ht
    refine watching_step h.watching (fun uiOp heq => ?_) hstep
    subst heq
    cases op with
    | client => cases hserver
    | accept => simp [RemoteSystem.serverOp] at hserver
    | dispatch => cases hserver
    | ui op =>
      obtain rfl := SystemOp.ui.inj (Option.some.inj hserver)
      obtain ⟨hshows, hadds⟩ := hop.2
      refine ⟨hshows, ?_⟩
      rintro rfl j d hd hname
      exact hagree.not_mem_pressedKeys (hadds (decide_eq_true rfl)) hd hname

/-- **The window and the listeners agree.** In a run in which a client keeps up, with a listener
that is added when the client holds no key: when the server has received all that was sent, the last
event that the listener was handed for a key of the device of the client is a press if and only if
the window that the keys came from shows the key as pressed, on hosts of any byte orders. -/
theorem after_shownEvents_iff_isKeyPressed (peers : Peers ι) (settings : ι → ClientSettings)
    (enabledEventClasses : EventClass → Bool) (hen : enabledEventClasses .keyEvent)
    (windows : Window → WindowState) (i : ι) (lid : ListenerId) {ops : List (RemoteOp ι)}
    (hops : Run.Guarded (RemoteSystem.step peers)
      (fun s op => s.KeepsUp peers i op ∧ s.ShowsTo lid i op)
      (start settings enabledEventClasses windows) ops) {t : RemoteSystem ι}
    (hrun : Run.exec (RemoteSystem.step peers) (start settings enabledEventClasses windows) ops =
      .ok t) (hcaught : t.CaughtUp i) {windowOps : List WindowOp}
    (hwindow : (passedKeys (t.clients i).trace).map SentKey.passed =
      (BtkbWindow.run windowOps).clientCalls.filterMap ClientCall.key?)
    {l : ListenerData} (hl : l ∈ t.server.owner.listeners.1) (hid : l.id = lid)
    {j : ℕ} {d : BtKeysDevice} (hd : t.server.owner.device j = some d)
    (hname : d.name = peers.addr i) (eKey : HardwareKey) :
    Switches.after (Run.trace (RemoteSystem.step peers) (shownEvents peers lid)
        (start settings enabledEventClasses windows) ops)
        (d.deviceId, wireKey (peers.order i) eKey) = true ↔
      (BtkbWindow.run windowOps).isKeyPressed eKey := by
  have h := Run.invariant_trace_of_guarded (shownEvents peers lid) (P := Following lid i peers)
    (l := []) (fun s es op t h hop ht => h.step hop ht)
    ⟨⟨[], agreeing_start peers settings enabledEventClasses windows i⟩,
      watching_create lid (peers.addr i) hen windows⟩ hops hrun
  rw [List.nil_append] at h
  obtain ⟨calls, hagree⟩ := h.agreeing
  rw [h.watching.after_iff hl hid hd hname]
  exact hagree.mem_pressedKeys_iff hcaught hwindow hd hname eKey

/-- The listener is there from the start. -/
theorem after_shownEvents_keyboardAndFinger : ∃ t d,
    Run.exec (RemoteSystem.step twoPeers) (start (fun _ => defaultSettings) (fun _ => true)
      fun _ => ⟨true, false⟩) (.ui (.addListener 0) :: keyboardAndFingerOps) = .ok t ∧
    t.server.owner.device 0 = some d ∧
    Switches.after (Run.trace (RemoteSystem.step twoPeers) (shownEvents twoPeers 0)
      (start (fun _ => defaultSettings) (fun _ => true) fun _ => ⟨true, false⟩)
      (.ui (.addListener 0) :: keyboardAndFingerOps)) (d.deviceId, 0x2c000000) = true := by
  let view (t : RemoteSystem Bool) := ((t.server.owner.device 0).map BtKeysDevice.name,
    t.server.owner.listeners.1.head?.map ListenerData.id,
    (passedKeys (t.clients false).trace).map SentKey.passed, decide (t.CaughtUp false))
  have hview : (Run.exec (RemoteSystem.step twoPeers) (start (fun _ => defaultSettings)
      (fun _ => true) fun _ => ⟨true, false⟩)
      (.ui (.addListener 0) :: keyboardAndFingerOps)).toOption.map view =
        some (some (twoPeers.addr false).1, some 0,
          [(keyPress, 44), (keyPress, 30), (keyRelease, 30)], true) := by decide +kernel
  obtain ⟨t, hrun, hview⟩ := Run.exists_exec_of_view hview
  simp only [view, Prod.mk.injEq, decide_eq_true_eq] at hview
  obtain ⟨hdevice, hlistener, hpassed, hcaught⟩ := hview
  obtain ⟨d, hd, hname⟩ := Option.map_eq_some_iff.mp hdevice
  obtain ⟨l, hl, hid⟩ := Option.map_eq_some_iff.mp hlistener
  have hops : Run.Guarded (RemoteSystem.step twoPeers)
      (fun s op => s.KeepsUp twoPeers false op ∧ s.ShowsTo 0 false op)
      (start (fun _ => defaultSettings) (fun _ => true) fun _ => ⟨true, false⟩)
      (.ui (.addListener 0) :: keyboardAndFingerOps) := by decide +kernel
  have hwindow : (passedKeys (t.clients false).trace).map SentKey.passed =
      (BtkbWindow.run keyboardAndFinger).clientCalls.filterMap ClientCall.key? :=
    hpassed.trans (by decide)
  have hagree := after_shownEvents_iff_isKeyPressed twoPeers (fun _ => defaultSettings) _ rfl _
    false 0 hops hrun hcaught hwindow (List.mem_of_head? hl) hid hd hname
  exact ⟨t, d, hrun, hd, (hagree 44).mpr (by decide)⟩

end RemoteSystem

end StmmInputBt
