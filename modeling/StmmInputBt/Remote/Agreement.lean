import StmmInputBt.Client.Conservation
import StmmInputBt.Remote.Delivery
import StmmInputBt.Server.HeldKeys
import StmmInputBt.Window.BtkbWindow

/-!
# The window and the device

The keys that a window of a client shows as pressed are those that are pressed on the device of the
client on the server, once everything that the client has sent has been received: as long as the
client loses nothing, keys arrive while a window is selected there, and the window is only
deselected, or the client connected anew, when it holds no key.

## Main definitions

* `RemoteSystem.KeepsUp`: the conditions on a step.
* `RemoteSystem.CaughtUp`: everything has been received.

## Main results

* `RemoteSystem.mem_pressedKeys_iff_isKeyPressed`.
-/

namespace StmmInputBt

open BtGtkDeviceManager BtKeyClient GtkBackend

/-! ### The window -/

/-- The key that a call of the window passes to the client. -/
def ClientCall.key? : ClientCall → Option (KeyInputType × HardwareKey)
  | .sendKeyToServer eType eKey => some (eType.toChar, eKey)
  | .sendRemoveToServer => none

theorem BtkbWindow.isKeyPressed_run (ops : List WindowOp) (eKey : HardwareKey) :
    (run ops).isKeyPressed eKey =
      Switches.after (((run ops).clientCalls.filterMap ClientCall.key?).map heldEvent) eKey := by
  have hlast (aCalls : List ClientCall) :
      Switches.after ((aCalls.filterMap ClientCall.key?).map heldEvent) eKey =
        ((aCalls.filterMap (keyEvent eKey)).getLast? = some .press : Bool) := by
    induction aCalls using List.reverseRecOn with
    | nil => rfl
    | append_singleton aCalls call ih =>
      rw [List.filterMap_append, List.map_append, Switches.after_append, List.filterMap_append]
      cases call with
      | sendRemoveToServer =>
        simpa only [List.filterMap_cons, ClientCall.key?, keyEvent, List.filterMap_nil,
          List.append_nil, List.map_nil, List.foldl_nil] using ih
      | sendKeyToServer eType eKey' =>
        simp only [List.filterMap_cons, ClientCall.key?, List.filterMap_nil, List.map_cons,
          List.map_nil, List.foldl_cons, List.foldl_nil, keyEvent, heldEvent, Switches.step,
          Function.update_apply]
        by_cases hkey : eKey' = eKey
        · have hpress : eType.toChar = keyPress ↔ eType = .press := by cases eType <;> decide
          simp [hkey, hpress]
        · simp only [Ne.symm hkey, hkey, if_false, List.append_nil]
          exact ih
  rw [hlast, Bool.eq_iff_iff, decide_eq_true_iff, ← ((merged_run ops).alternates eKey).ends]
  simp [keyEvents]

/-! ### The keys of a client -/

theorem wireKey_injective (o : ByteOrder) : Function.Injective (wireKey o) := by
  intro k k' h
  have hbytes := congrArg ByteOrder.little.store h
  rw [wireKey, wireKey, ByteOrder.store_load, ByteOrder.store_load] at hbytes
  rw [← o.load_store k, hbytes, o.load_store]

/-- The key, as the window passed it. -/
def BtKeyClient.SentKey.passed (k : SentKey) : KeyInputType × HardwareKey := (k.keyType, k.key)

namespace RemoteSystem

variable {ι : Type} [DecidableEq ι] (peers : Peers ι)

/-- As far as the server has received, the client holds the key. -/
def isHeld (s : RemoteSystem ι) (i : ι) (eKey : HardwareKey) : Bool :=
  Switches.after ((s.deliveredKeys i).map fun k => heldEvent k.passed) eKey

/-- As far as the server has received, the client holds no key. -/
def HoldsNone (s : RemoteSystem ι) (i : ι) : Prop :=
  ∀ k ∈ s.deliveredKeys i, s.isHeld i k.key = false

instance (s : RemoteSystem ι) (i : ι) : Decidable (s.HoldsNone i) :=
  inferInstanceAs (Decidable (∀ _ ∈ _, _))

/-- The client loses nothing and sends nothing twice, its keys arrive while a window is selected,
and it holds no key when the window is deselected or when it connects to a server that does not
know it. -/
def KeepsUp (i : ι) (s : RemoteSystem ι) : RemoteOp ι → Prop
  | .client j op => j = i → (s.clients i).SendsOnceWithRoom op ∧ (s.clients i).LosesNothing op
  | .accept j _ _ => j = i → getBackendId s.server.permanentAddrs (peers.addr i) = none →
    s.HoldsNone i
  | .dispatch sid _ _ oDummyPacket => oDummyPacket.cmd ≠ packetCmdKey ∧
    ((s.channels[sid]?).any (·.client = i) → s.server.owner.selected.isSome)
  | .ui op => s.server.owner.deselects op → s.HoldsNone i

instance (i : ι) (s : RemoteSystem ι) (op : RemoteOp ι) : Decidable (s.KeepsUp peers i op) :=
  match op with
  | .client .. => inferInstanceAs (Decidable (_ → _ ∧ _))
  | .accept .. => inferInstanceAs (Decidable (_ → _ → _))
  | .dispatch .. => inferInstanceAs (Decidable (_ ∧ (_ → _)))
  | .ui _ => inferInstanceAs (Decidable (_ → _))

/-- The client has nothing more to send, and the server has received what was sent. -/
def CaughtUp (s : RemoteSystem ι) (i : ι) : Prop :=
  (s.clients i).pendingKeys = [] ∧ (s.clients i).queuedKeys = [] ∧
    s.deliveredKeys i = acceptedKeys (s.clients i).trace

instance (s : RemoteSystem ι) (i : ι) : Decidable (s.CaughtUp i) :=
  inferInstanceAs (Decidable (_ ∧ _ ∧ _))

/-- What holds after a run in the course of which the manager was handed `calls`. -/
structure Agreeing (i : ι) (s : RemoteSystem ι) (calls : List KeyCall) : Prop where
  delivering : Delivering peers s calls
  accounted : (s.clients i).Accounted []
  held : ∀ j d, s.server.owner.device j = some d → d.name = peers.addr i →
    d.held = Switches.after ((keysNamed (peers.addr i) calls).map heldEvent)

variable {peers} {i : ι} {s t : RemoteSystem ι} {calls : List KeyCall}

theorem agreeing_start (peers : Peers ι) (settings : ι → ClientSettings)
    (enabledEventClasses : EventClass → Bool) (windows : Window → WindowState) (i : ι) :
    (start settings enabledEventClasses windows).Agreeing peers i [] where
  delivering := delivering_start peers settings enabledEventClasses windows
  accounted := accounted_new ..
  held j d hd := by simp [start, GtkBackend.start, create, BtGtkDeviceManager.device] at hd

/-- What the manager was handed for a client, as the client passed it. -/
theorem Delivering.heldEvents (h : Delivering peers s calls) (i : ι) :
    (keysNamed (peers.addr i) calls).map heldEvent =
      ((s.deliveredKeys i).map fun k => heldEvent k.passed).map
        (Switches.Event.map (wireKey (peers.order i))) := by
  rw [h.handed i, List.map_map, List.map_map]
  rfl

/-- A client that holds no key holds none on its device. -/
theorem Delivering.after_of_holdsNone (h : Delivering peers s calls) (hnone : s.HoldsNone i) :
    Switches.after ((keysNamed (peers.addr i) calls).map heldEvent) = fun _ => false := by
  refine Switches.after_eq_off fun eKey on hmem => ?_
  rw [h.heldEvents i, List.mem_map] at hmem
  obtain ⟨e, he, heq⟩ := hmem
  obtain ⟨k, hk, rfl⟩ := List.mem_map.mp he
  obtain ⟨rfl, -⟩ := Switches.Event.set.inj heq
  rw [h.heldEvents i, Switches.after_map (wireKey_injective _)]
  exact hnone k hk

/-- The client after a step. -/
theorem Agreeing.accounted_step (h : s.Agreeing peers i calls) {op : RemoteOp ι}
    (hop : s.KeepsUp peers i op) : (s.clientsAfter op i).Accounted [] := by
  cases op with
  | accept | dispatch | ui => exact h.accounted
  | client j op =>
    rw [clientsAfter]
    cases hstep : (s.clients j).step op with
    | error e => exact h.accounted
    | ok c =>
      dsimp only
      by_cases hij : i = j
      · subst hij
        obtain ⟨honce, hnothing⟩ := hop rfl
        have hlost := hnothing (step_eq_ok.mp hstep).1
        have hc := h.accounted.step honce hstep
        rw [hlost] at hc
        rwa [Function.update_self]
      · rw [Function.update_of_ne hij]
        exact h.accounted

/-- The dispatch of a connection of another client hands on no key of this one. -/
theorem Delivering.keysNamed_dispatch_of_ne (h : Delivering peers s calls) {sid : SourceId}
    {nIOFlags : IOCondition} {bRecvFails : Bool} {oDummyPacket : KeyPacket}
    (hdummy : oDummyPacket.cmd ≠ packetCmdKey)
    (hne : ∀ c, s.channels[sid]? = some c → c.client ≠ i) {server : Server}
    (ht : s.server.step peers.serverOrder
      (.dispatch sid nIOFlags (s.recvResult peers sid bRecvFails) oDummyPacket) = .ok server) :
    keysNamed (peers.addr i) (GtkBackend.handedKeys peers.serverOrder s.server
      (.dispatch sid nIOFlags (s.recvResult peers sid bRecvFails) oDummyPacket)) = [] := by
  have hhanded := h.handed_dispatch hdummy ht i
  have hsame : deliveredKeys { s with
      server, channels := s.channelsAfter (.dispatch sid nIOFlags bRecvFails oDummyPacket) } i =
        s.deliveredKeys i := by
    rw [channelsAfter]
    split_ifs with htakes
    · obtain ⟨c, aPackets, hc, hget, -⟩ := h.reading_of_takes htakes
      simp only [takes, Bool.and_eq_true] at htakes
      obtain ⟨src, hsrc, hatt⟩ := (Option.any_eq_true _ _).mp htakes.1.1.1
      rw [deliveredKeys_modify hc (h.last sid src c hsrc hatt hc) hget, if_neg (hne c hc),
        List.append_nil]
    · rfl
  rw [hsame, keysNamed_append, h.handed i] at hhanded
  exact List.append_right_eq_self.mp hhanded

theorem Agreeing.holding (h : s.Agreeing peers i calls) :
    Holding (peers.addr i) s.server ((keysNamed (peers.addr i) calls).map heldEvent) :=
  ⟨h.delivering.cable, h.held⟩

/-- The keys of the device follow from what was handed on, unless all of them are let go while the
client holds none. -/
theorem Agreeing.held_step (h : s.Agreeing peers i calls) {serverOp : SystemOp} {server : Server}
    (ht : s.server.step peers.serverOrder serverOp = .ok server) {new : List KeyCall}
    (hevents : GtkBackend.heldEvents peers.serverOrder (peers.addr i) s.server serverOp =
        (keysNamed (peers.addr i) new).map heldEvent ∨
      GtkBackend.heldEvents peers.serverOrder (peers.addr i) s.server serverOp = [.clear] ∧
        new = [] ∧ s.HoldsNone i) {j : ℕ} {d : BtKeysDevice}
    (hd : server.owner.device j = some d) (hname : d.name = peers.addr i) :
    d.held = Switches.after ((keysNamed (peers.addr i) (calls ++ new)).map heldEvent) := by
  rw [(h.holding.step ht).device j d hd hname, keysNamed_append, List.map_append]
  rcases hevents with heq | ⟨hclear, rfl, hnone⟩
  · rw [heq]
  · have hoff := h.delivering.after_of_holdsNone hnone
    rw [hclear, Switches.after_append, keysNamed_nil, List.map_nil, List.append_nil, hoff]
    rfl

/-- **One step.** -/
theorem Agreeing.step (h : s.Agreeing peers i calls) {op : RemoteOp ι}
    (hop : s.KeepsUp peers i op) (ht : s.step peers op = .ok t) :
    t.Agreeing peers i (calls ++ s.handedKeys peers op) := by
  have hclean : op.Clean := by
    cases op with
    | dispatch => exact hop.1
    | client | accept | ui => trivial
  refine ⟨h.delivering.step hclean ht, ?_, ?_⟩
  · rw [clients_step ht]
    exact h.accounted_step hop
  cases op with
  | client j op =>
    obtain rfl := Except.ok.inj ht
    rw [handedKeys, serverOp, List.append_nil]
    exact h.held
  | accept j nSocket nClientFD =>
    by_cases hconnects : s.Connects j nSocket
    · simp only [RemoteSystem.step, handedKeys, serverOp, hconnects, if_true] at ht ⊢
      obtain ⟨server, hserver, rfl⟩ := Run.map_eq_ok.mp ht
      rw [handedKeys_eq_nil (by simp) hserver]
      refine fun k d hd hname => h.held_step hserver ?_ hd hname
      rw [heldEvents]
      split_ifs with hnew
      · have hji : j = i := peers.injective (Subtype.ext hnew.1)
        exact .inr ⟨rfl, rfl, hop hji hnew.2⟩
      · exact .inl rfl
    · simp only [RemoteSystem.step, handedKeys, serverOp, hconnects, if_false] at ht ⊢
      obtain rfl := Except.ok.inj ht
      rw [List.append_nil]
      exact h.held
  | dispatch sid nIOFlags bRecvFails oDummyPacket =>
    obtain ⟨server, hserver, rfl⟩ := Run.map_eq_ok.mp ht
    refine fun k d hd hname => h.held_step hserver (.inl ?_) hd hname
    rw [heldEvents]
    split_ifs with hsel
    · rfl
    · have hne (c : Channel ι) (hc : s.channels[sid]? = some c) : c.client ≠ i := fun heq =>
        hsel (hop.2 (by simp [hc, heq]))
      exact (congrArg (List.map heldEvent)
        (h.delivering.keysNamed_dispatch_of_ne hop.1 hne hserver)).symm
  | ui op =>
    obtain ⟨server, hserver, rfl⟩ := Run.map_eq_ok.mp ht
    simp only [handedKeys, serverOp, handedKeys_eq_nil (by simp) hserver]
    refine fun k d hd hname => h.held_step hserver ?_ hd hname
    rw [heldEvents]
    split_ifs with hdes
    · rw [Bool.and_eq_true] at hdes
      exact .inr ⟨rfl, rfl, hop hdes.1⟩
    · exact .inl rfl

/-- Everything that was passed has been handed on. -/
theorem Agreeing.deliveredKeys_eq (h : s.Agreeing peers i calls) (hcaught : s.CaughtUp i) :
    s.deliveredKeys i = passedKeys (s.clients i).trace := by
  have hcomplete : (s.clients i).Complete := h.accounted.complete_iff_lost.mpr rfl
  obtain ⟨hpending, hqueued, hreceived⟩ := hcaught
  rw [hreceived, ← hcomplete, hpending, hqueued, List.append_nil, List.append_nil]

/-- The keys of the device are those of the window. -/
theorem Agreeing.mem_pressedKeys_iff (h : s.Agreeing peers i calls) (hcaught : s.CaughtUp i)
    {windowOps : List WindowOp}
    (hwindow : (passedKeys (s.clients i).trace).map SentKey.passed =
      (BtkbWindow.run windowOps).clientCalls.filterMap ClientCall.key?)
    {j : ℕ} {d : BtKeysDevice} (hd : s.server.owner.device j = some d)
    (hname : d.name = peers.addr i) (eKey : HardwareKey) :
    wireKey (peers.order i) eKey ∈ d.pressedKeys ↔
      (BtkbWindow.run windowOps).isKeyPressed eKey := by
  have hheld := congrFun (h.held j d hd hname) (wireKey (peers.order i) eKey)
  rw [h.delivering.heldEvents i, Switches.after_map (wireKey_injective _),
    h.deliveredKeys_eq hcaught] at hheld
  rw [BtkbWindow.isKeyPressed_run, ← hwindow, List.map_map]
  rw [BtKeysDevice.held] at hheld
  exact decide_eq_true_iff.symm.trans (Bool.eq_iff_iff.mp hheld)

/-- **The window and the device agree.** In a run in which a client keeps up: when the server has
received all that was sent, a key is pressed on the device of the client if and only if the window
that the keys came from shows it as pressed, on hosts of any byte orders. -/
theorem mem_pressedKeys_iff_isKeyPressed (peers : Peers ι) (settings : ι → ClientSettings)
    (enabledEventClasses : EventClass → Bool) (windows : Window → WindowState) (i : ι)
    {ops : List (RemoteOp ι)} (hops : Run.Guarded (RemoteSystem.step peers) (KeepsUp peers i)
      (start settings enabledEventClasses windows) ops) {t : RemoteSystem ι}
    (hrun : Run.exec (RemoteSystem.step peers) (start settings enabledEventClasses windows) ops =
      .ok t) (hcaught : t.CaughtUp i) {windowOps : List WindowOp}
    (hwindow : (passedKeys (t.clients i).trace).map SentKey.passed =
      (BtkbWindow.run windowOps).clientCalls.filterMap ClientCall.key?)
    {j : ℕ} {d : BtKeysDevice} (hd : t.server.owner.device j = some d)
    (hname : d.name = peers.addr i) (eKey : HardwareKey) :
    wireKey (peers.order i) eKey ∈ d.pressedKeys ↔
      (BtkbWindow.run windowOps).isKeyPressed eKey := by
  have h := Run.invariant_trace_of_guarded (handedKeys peers) (P := Agreeing peers i) (l := [])
    (fun s calls op t h hop ht => h.step hop ht)
    (agreeing_start peers settings enabledEventClasses windows i) hops hrun
  exact h.mem_pressedKeys_iff hcaught hwindow hd hname eKey

/-- The keyboard holds the key `44` in the window of the first client, and a finger has pressed and
released `30`. -/
def keyboardAndFinger : List WindowOp :=
  [.pressKeyboardKey 44, .pressFingerKey 30 1, .releaseFingerKey 1 false]

/-- The keys are sent and received while a window is selected. -/
def keyboardAndFingerOps : List (RemoteOp Bool) :=
  (connectOps 0).map (.client false ·) ++
    [.accept false 1 5, .ui (.addAccessor (.gtk 0)),
      .client false (.sendKeyToServer .press 44 .accepted),
      .dispatch 0 ioInOnly false ⟨0, 0, 1, 0, 0⟩,
      .client false (.sendKeyToServer .press 30 .accepted),
      .client false (.sendKeyToServer .release 30 .accepted),
      .dispatch 0 ioInOnly false ⟨0, 0, 1, 0, 0⟩, .dispatch 0 ioInOnly false ⟨0, 0, 1, 0, 0⟩]

/-- The first client is on a big-endian host. -/
theorem mem_pressedKeys_keyboardAndFinger : ∃ t d,
    Run.exec (RemoteSystem.step twoPeers) (start (fun _ => defaultSettings) (fun _ => true)
      fun _ => ⟨true, false⟩) keyboardAndFingerOps = .ok t ∧
    t.server.owner.device 0 = some d ∧ 0x2c000000 ∈ d.pressedKeys ∧ 0x1e000000 ∉ d.pressedKeys := by
  let view (t : RemoteSystem Bool) := ((t.server.owner.device 0).map BtKeysDevice.name,
    (passedKeys (t.clients false).trace).map SentKey.passed, decide (t.CaughtUp false))
  have hview : (Run.exec (RemoteSystem.step twoPeers) (start (fun _ => defaultSettings)
      (fun _ => true) fun _ => ⟨true, false⟩) keyboardAndFingerOps).toOption.map view =
        some (some (twoPeers.addr false).1, [(keyPress, 44), (keyPress, 30), (keyRelease, 30)],
          true) := by decide +kernel
  obtain ⟨t, hrun, hview⟩ := Run.exists_exec_of_view hview
  simp only [view, Prod.mk.injEq, decide_eq_true_eq] at hview
  obtain ⟨hdevice, hpassed, hcaught⟩ := hview
  obtain ⟨d, hd, hname⟩ := Option.map_eq_some_iff.mp hdevice
  have hops : Run.Guarded (RemoteSystem.step twoPeers) (KeepsUp twoPeers false)
      (start (fun _ => defaultSettings) (fun _ => true) fun _ => ⟨true, false⟩)
      keyboardAndFingerOps := by decide +kernel
  have hwindow : (passedKeys (t.clients false).trace).map SentKey.passed =
      (BtkbWindow.run keyboardAndFinger).clientCalls.filterMap ClientCall.key? :=
    hpassed.trans (by decide)
  have hagree := mem_pressedKeys_iff_isKeyPressed twoPeers (fun _ => defaultSettings) _ _ false
    hops hrun hcaught hwindow hd hname
  exact ⟨t, d, hrun, hd, (hagree 44).mpr (by decide), mt (hagree 30).mp (by decide)⟩

end RemoteSystem

end StmmInputBt
