import StmmInputBt.Manager.Steps
import StmmInputBt.Server.ReceivePath

/-!
# The server with its device manager

`GtkBackend` and `BtGtkDeviceManager` together: clients connect, their messages are dispatched,
and windows and listeners do what they do in between.

## Main definitions

* `managerOwner`: the device manager as the owner of the backend.
* `GtkBackend.SystemOp`, `GtkBackend.step`: what happens to the server.
* `GtkBackend.LinkEvent`, `GtkBackend.linkEvents`: a client connects, or asks for the removal of
  its device.

## Main results

* `GtkBackend.dispatchSource_cases`: what the dispatch of an attached source does.
-/

namespace StmmInputBt

/-- The device manager as the owner of the backend, with listeners that do not re-enter it. -/
def managerOwner : Owner BtGtkDeviceManager where
  onDeviceAdded sName nBackendId m := m.onDeviceAdded sName nBackendId
  onDeviceRemoved nBackendId m :=
    BtGtkDeviceManager.onDeviceRemoved BtGtkDeviceManager.record nBackendId m
  onBlueKey nBackendId eType eHK m :=
    BtGtkDeviceManager.onBlueKey BtGtkDeviceManager.record nBackendId eType eHK m

abbrev Server := GtkBackend BtGtkDeviceManager

namespace GtkBackend

inductive SystemOp
  | accept (nClientFD : ℕ) (oClientBdAddr : RemoteAddr)
  | dispatch (sid : SourceId) (nIOFlags : IOCondition) (recv : RecvResult)
      (oDummyPacket : KeyPacket)
  | ui (op : BtGtkDeviceManager.UiOp)

/-- One thing happens to the server. -/
def step (order : ByteOrder) (b : Server) : SystemOp → Except Fault Server
  | .accept nClientFD oClientBdAddr =>
    doServerAcceptClient managerOwner nClientFD oClientBdAddr b
  | .dispatch sid nIOFlags recv oDummyPacket =>
    dispatchSource managerOwner order sid nIOFlags recv oDummyPacket b
  | .ui op => (b.owner.uiStep op).map fun owner => { b with owner }

/-- A server before the first client connects. -/
def start (m : BtGtkDeviceManager) : Server := ⟨m, [], [], []⟩

/-- What a client does to the virtual cable between it and the server. -/
inductive LinkEvent
  | connected (oBdAddr : BdAddr)
  | removed (oBdAddr : BdAddr)
  deriving DecidableEq

/-- A client connects, or the message on an attached socket asks for the removal. -/
def linkEvents (b : Server) : SystemOp → List LinkEvent
  | .accept _ oClientBdAddr => [.connected oClientBdAddr]
  | .dispatch sid nIOFlags recv _ =>
    match b.sources[sid]? with
    | none => []
    | some src =>
      if src.attached && (readMessage nIOFlags recv).stop.any Stop.removes then
        [.removed src.peer]
      else []
  | .ui _ => []

/-! ### A dispatch -/

open BtGtkDeviceManager

/-- `srcs` are the sources of `b`, of which `sid` is detached. -/
structure Detached (sid : SourceId) (b : Server) (srcs : List BlueServerReceiveSource) : Prop where
  length : srcs.length = b.sources.length
  attached : ∀ k src, srcs[k]? = some src → src.attached → k ≠ sid ∧ b.sources[k]? = some src

theorem detached_destroySource (sid : SourceId) (b : Server) :
    Detached sid b (b.destroySource sid).sources := by
  refine ⟨List.length_modify .., fun k src hk hatt => ?_⟩
  simp only [destroySource, List.getElem?_modify] at hk
  by_cases hks : sid = k
  · subst hks
    obtain ⟨src', -, rfl⟩ := Option.map_eq_some_iff.mp hk
    simp at hatt
  · refine ⟨Ne.symm hks, ?_⟩
    simpa [hks] using hk

theorem Detached.modify {sid : SourceId} {b : Server} {srcs : List BlueServerReceiveSource}
    (h : Detached sid b srcs) :
    Detached sid b (srcs.modify sid fun s => { s with attached := false }) := by
  refine ⟨(List.length_modify ..).trans h.length, fun k src hk hatt => ?_⟩
  rw [List.getElem?_modify] at hk
  by_cases hks : sid = k
  · subst hks
    obtain ⟨src', -, rfl⟩ := Option.map_eq_some_iff.mp hk
    simp at hatt
  · exact h.attached k src (by simpa [hks] using hk) hatt

variable {b : Server} (order : ByteOrder) (oDummyPacket : KeyPacket) {nBackendId : ℕ}

/-- A key of a device that is there. -/
theorem doServerReceive_key (hid : nBackendId < b.inputSources.length)
    (hlen : b.owner.btDevices.length = b.inputSources.length) (hsound : b.owner.Sound)
    (hdevice : (b.owner.device nBackendId).isSome) (bRemove : Bool) {p : KeyPacket}
    (hp : p.cmd = packetCmdKey) : ∃ owner, b.owner.SameIdentities owner ∧ owner.Sound ∧
      doServerReceive managerOwner nBackendId bRemove p b = .ok (true, { b with owner }) := by
  obtain ⟨d, hd⟩ := Option.isSome_iff_exists.mp hdevice
  obtain ⟨es, hkey⟩ := onBlueKey_record (m := b.owner) p.keyType p.hardwareKey
    (hid.trans_eq hlen.symm) fun _ => hdevice
  have hcontinue : (b.owner.selected.isNone ||
      (b.owner.device nBackendId).any BtKeysDevice.hasOwner) = true := by
    simp [hd, hsound.hasOwner _ _ hd]
  rw [hcontinue] at hkey
  refine ⟨_, sameIdentities_keyed nBackendId p.keyType p.hardwareKey es b.owner,
    hsound.of_sameIdentities (hsound.toWindowsTracked.keyed ..) (sameIdentities_keyed ..), ?_⟩
  have howner : managerOwner.onBlueKey nBackendId p.keyType p.hardwareKey b.owner = _ := hkey
  simp only [doServerReceive, hid, decide_true, assertThat_true, hp, if_true, howner]
  rfl

/-- A dispatch hands on the keys of its message and finishes. -/
theorem dispatch_managerOwner (hid : nBackendId < b.inputSources.length)
    (hlen : b.owner.btDevices.length = b.inputSources.length) (hsound : b.owner.Sound)
    (hdevice : (b.owner.device nBackendId).isSome) (sid : SourceId) (nIOFlags : IOCondition)
    (recv : RecvResult) : ∃ owner, b.owner.SameIdentities owner ∧ owner.Sound ∧
      dispatch managerOwner order sid nBackendId nIOFlags recv oDummyPacket b =
        finish managerOwner sid nBackendId oDummyPacket (readMessage nIOFlags recv).stop
          { b with owner } := by
  have hreads := dispatch_reads (O := managerOwner) order sid nBackendId
    oDummyPacket (P := fun _ b' => ∃ owner, b' = { b with owner } ∧
      b.owner.SameIdentities owner ∧ owner.Sound) ?_ nIOFlags recv b
      ⟨b.owner, rfl, .refl _, hsound⟩
  · obtain ⟨_, ⟨owner, rfl, hsame, hsound'⟩, hrun⟩ := hreads
    exact ⟨owner, hsame, hsound', hrun⟩
  · rintro keys p _ ⟨owner, rfl, hsame, hsound'⟩ hp
    have hdevice' := hsame.device_isSome hdevice
    obtain ⟨owner', hsame', hsound'', hrun⟩ := doServerReceive_key (b := { b with owner }) hid
      (hsame.length.trans hlen) hsound' hdevice' false hp
    exact ⟨_, hrun, owner', rfl, hsame.trans hsame', hsound''⟩

/-- **What the dispatch of an attached source does.** The manager gets the keys of the message.
The connection then stays open, or the source is detached, and in that case the device is removed
if the client asked for it. -/
theorem dispatchSource_cases {sid : SourceId} {src : BlueServerReceiveSource}
    (hsrc : b.sources[sid]? = some src) (hatt : src.attached)
    (hid : src.backendId < b.inputSources.length)
    (hlen : b.owner.btDevices.length = b.inputSources.length)
    (hlen' : b.permanentAddrs.length = b.inputSources.length) (hsound : b.owner.Sound)
    (hdevice : (b.owner.device src.backendId).isSome) (nIOFlags : IOCondition)
    (recv : RecvResult) :
    ∃ owner, b.owner.SameIdentities owner ∧ owner.Sound ∧
      (((readMessage nIOFlags recv).stop = none ∧
        dispatchSource managerOwner order sid nIOFlags recv oDummyPacket b =
          .ok { b with owner }) ∨
      (∃ srcs inputSources, (readMessage nIOFlags recv).stop.any Stop.removes = false ∧
        Detached sid b srcs ∧
        (inputSources = b.inputSources ∨
          inputSources = b.inputSources.set src.backendId none) ∧
        dispatchSource managerOwner order sid nIOFlags recv oDummyPacket b =
          .ok ⟨owner, b.permanentAddrs, inputSources, srcs⟩) ∨
      ∃ srcs d es canceledKeys, (readMessage nIOFlags recv).stop.any Stop.removes = true ∧
        Detached sid b srcs ∧ owner.device src.backendId = some d ∧
        dispatchSource managerOwner order sid nIOFlags recv oDummyPacket b =
          .ok ⟨deviceRemoved src.backendId d (appendKeyEvents es { owner with canceledKeys }),
            b.permanentAddrs.set src.backendId emptyBdAddr,
            b.inputSources.set src.backendId none, srcs⟩) := by
  obtain ⟨owner, hsame, hsound', hrun⟩ := dispatch_managerOwner order
    oDummyPacket hid hlen hsound hdevice sid nIOFlags recv
  have hdispatch : dispatchSource managerOwner order sid nIOFlags recv oDummyPacket b =
      (dispatch managerOwner order sid src.backendId nIOFlags recv oDummyPacket b).bind fun r =>
        if r.1 then .ok r.2
        else .ok { r.2 with sources := r.2.sources.modify sid fun s =>
          { s with attached := false } } := by
    simp only [dispatchSource, hsrc, hatt, Bool.not_true, Bool.false_eq_true, if_false]
    rfl
  have hdetached := detached_destroySource sid b
  have hdevice' := hsame.device_isSome hdevice
  rw [hdispatch, hrun]
  cases hstop : (readMessage nIOFlags recv).stop with
  | none => exact ⟨owner, hsame, hsound', .inl ⟨rfl, rfl⟩⟩
  | some stop =>
    let b₁ : Server := destroySource sid { b with owner }
    have hfinish : finish managerOwner sid src.backendId oDummyPacket (some stop) { b with owner } =
        doServerReceive managerOwner src.backendId stop.removes (stop.packet oDummyPacket) b₁ := rfl
    rw [hfinish]
    by_cases hcmd : (stop.packet oDummyPacket).cmd = packetCmdKey
    · -- the packet that stopped the dispatch is taken for a key
      have hno : stop.removes = false := by
        cases hr : stop.removes with
        | false => rfl
        | true =>
          have hrem := readMessage_removes_cmd hstop hr oDummyPacket
          rw [hcmd] at hrem
          exact absurd hrem (by decide)
      obtain ⟨owner', hsame', hsound'', hkey⟩ := doServerReceive_key (b := b₁) hid
        (hsame.length.trans hlen) hsound' hdevice' stop.removes hcmd
      rw [hkey]
      exact ⟨owner', hsame.trans hsame', hsound'', .inr (.inl ⟨_, _, by simp [hno], hdetached,
        .inl rfl, rfl⟩)⟩
    · cases hr : stop.removes with
      | false =>
        refine ⟨owner, hsame, hsound', .inr (.inl ⟨_, _, by simp [hr], hdetached.modify, .inr rfl,
          ?_⟩)⟩
        simp only [doServerReceive, b₁, destroySource, hid, hcmd, decide_true, assertThat_true,
          if_false, bind, Except.bind]
        rfl
      | true =>
        have hrem := readMessage_removes_cmd hstop hr oDummyPacket
        obtain ⟨d, hd⟩ := Option.isSome_iff_exists.mp hdevice'
        obtain ⟨es, canceledKeys, hremoved⟩ := onDeviceRemoved_record hd
        have howner : managerOwner.onDeviceRemoved src.backendId owner = _ := hremoved
        refine ⟨owner, hsame, hsound', .inr (.inr ⟨_, d, es, canceledKeys, by simp [hr],
          hdetached.modify, hd, ?_⟩)⟩
        simp only [doServerReceive, b₁, destroySource, hid, hrem, hlen', decide_true,
          assertThat_true, if_true, bind, Except.bind, howner]
        rfl

end GtkBackend

end StmmInputBt
