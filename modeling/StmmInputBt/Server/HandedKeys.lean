import StmmInputBt.Server.KeyTypes

/-!
# The keys that a step hands to the manager

Only the dispatch of a receive source hands keys to the manager: those of the packets that it reads,
in their order, under the name that the client at the other end of the socket got when it connected.

## Main definitions

* `KeyCall.name`, `keysNamed`: the device that a key is for, and the keys for the device of that
  name.

## Main results

* `GtkBackend.VirtualCable.keysNamed_dispatch`: the keys of the dispatch of an attached source.
* `GtkBackend.VirtualCable.attached_step`: which sources are attached after a step.
-/

namespace StmmInputBt

open BtGtkDeviceManager

/-- The name of the device that a key is for. -/
def KeyCall.name (c : KeyCall) : Option BdAddr :=
  (c.before.device c.backendId).map BtKeysDevice.name

/-- The keys for the device with the given name. -/
def keysNamed (sName : BdAddr) (calls : List KeyCall) : List (KeyInputType × HardwareKey) :=
  (calls.filter (·.name = some sName)).map fun c => (c.type, c.key)

@[simp] theorem keysNamed_nil (sName : BdAddr) : keysNamed sName [] = [] := rfl

@[simp] theorem keysNamed_append (sName : BdAddr) (calls calls' : List KeyCall) :
    keysNamed sName (calls ++ calls') = keysNamed sName calls ++ keysNamed sName calls' := by
  simp [keysNamed]

/-- The key that a packet carries. -/
def packetKeyOf (p : KeyPacket) : KeyInputType × HardwareKey := (p.keyType, p.hardwareKey)

namespace GtkBackend

/-- The listeners do not call the manager in the course of the operation. -/
def SystemOp.quietly (op : SystemOp) : ServerInput := ⟨op, fun _ _ _ _ _ => none, 0, 0⟩

theorem reentrantStep_quietly (order : ByteOrder) (b : Server) (op : SystemOp) :
    reentrantStep order b op.quietly = step order b op :=
  reentrantStep_of_depth_zero order b rfl

/-- The keys that the manager is handed in the course of a step, with listeners that do not call
it. None are counted of a step that ends in a fault. -/
def handedKeys (order : ByteOrder) (b : Server) (op : SystemOp) : List KeyCall :=
  keysOfStep order b op.quietly

/-- The keys that were written down when the step returns. -/
theorem exists_spiedStep {order : ByteOrder} {b t : Server} {op : SystemOp}
    (ht : b.step order op = .ok t) : ∃ c : GtkBackend (BtGtkDeviceManager × List KeyCall),
      spiedStep order (b.mapOwner (·, [])) op.quietly = .ok c ∧ c.mapOwner Prod.fst = t ∧
        handedKeys order b op = c.owner.2 := by
  have hmap := map_spiedStep order (b.mapOwner (·, [])) op.quietly
  have hb : (b.mapOwner (·, ([] : List KeyCall))).mapOwner Prod.fst = b := rfl
  rw [hb, reentrantStep_quietly, ht] at hmap
  obtain ⟨c, hc, hfst⟩ := Run.map_eq_ok.mp hmap
  exact ⟨c, hc, hfst, by simp only [handedKeys, keysOfStep, hc]⟩

variable {handle : Handler} {sid : SourceId} {nBackendId : ℕ} {oDummyPacket : KeyPacket}
  {nIOFlags : IOCondition} {recv : RecvResult}

/-- A packet with another command hands on no key. -/
theorem calls_doServerReceive {b : GtkBackend (BtGtkDeviceManager × List KeyCall)} {p : KeyPacket}
    (hp : p.cmd ≠ packetCmdKey) {bRemove : Bool}
    {r : Bool × GtkBackend (BtGtkDeviceManager × List KeyCall)}
    (hr : doServerReceive (spiedOwner handle) nBackendId bRemove p b = .ok r) :
    r.2.owner.2 = b.owner.2 := by
  simp only [doServerReceive, hp, if_false] at hr
  obtain ⟨-, -, hr⟩ := Run.bind_eq_ok.mp hr
  cases bRemove with
  | false =>
    obtain rfl := Except.ok.inj hr
    rfl
  | true =>
    simp only [if_true] at hr
    obtain ⟨-, -, hr⟩ := Run.bind_eq_ok.mp hr
    obtain ⟨-, -, hr⟩ := Run.bind_eq_ok.mp hr
    obtain ⟨s, hs, hr⟩ := Run.bind_eq_ok.mp hr
    obtain rfl := Except.ok.inj hr
    obtain ⟨m, -, rfl⟩ := Run.map_eq_ok.mp hs
    rfl

/-- The end of a dispatch hands on no key, unless the packet that it stopped at carries that
command. -/
theorem calls_finish {b : GtkBackend (BtGtkDeviceManager × List KeyCall)} {stop : Option Stop}
    (hstop : ∀ s, stop = some s → (s.packet oDummyPacket).cmd ≠ packetCmdKey)
    {r : Bool × GtkBackend (BtGtkDeviceManager × List KeyCall)}
    (hr : finish (spiedOwner handle) sid nBackendId oDummyPacket stop b = .ok r) :
    r.2.owner.2 = b.owner.2 := by
  cases stop with
  | none =>
    obtain rfl := Except.ok.inj hr
    rfl
  | some s => exact calls_doServerReceive (b := b.destroySource sid) (hstop s rfl) hr

/-- A client that connects hands on no key. -/
theorem calls_doServerAcceptClient {b c : GtkBackend (BtGtkDeviceManager × List KeyCall)}
    {nClientFD : ℕ} {peer : RemoteAddr}
    (hc : doServerAcceptClient (spiedOwner handle) nClientFD peer b = .ok c) :
    c.owner.2 = b.owner.2 := by
  cases hknown : getBackendId b.permanentAddrs peer with
  | some i =>
    simp only [doServerAcceptClient, hknown] at hc
    obtain rfl := Except.ok.inj hc
    simp only [attachNewSource]
    split <;> rfl
  | none =>
    cases hslot : getBackendId b.permanentAddrs emptyBdAddr with
    | none =>
      simp only [doServerAcceptClient, hknown, hslot] at hc
      obtain ⟨s, hs, hc⟩ := Run.bind_eq_ok.mp hc
      obtain rfl := Except.ok.inj hc
      obtain ⟨m, -, rfl⟩ := Run.map_eq_ok.mp hs
      rfl
    | some i =>
      simp only [doServerAcceptClient, hknown, hslot] at hc
      obtain ⟨-, -, hc⟩ := Run.bind_eq_ok.mp hc
      obtain ⟨s, hs, hc⟩ := Run.bind_eq_ok.mp hc
      obtain rfl := Except.ok.inj hc
      obtain ⟨m, -, rfl⟩ := Run.map_eq_ok.mp hs
      rfl

/-- Neither clients that connect nor windows and listeners hand keys to the manager. -/
theorem handedKeys_eq_nil {order : ByteOrder} {b t : Server} {op : SystemOp}
    (hop : ∀ sid nIOFlags recv oDummyPacket, op ≠ .dispatch sid nIOFlags recv oDummyPacket)
    (ht : b.step order op = .ok t) : handedKeys order b op = [] := by
  obtain ⟨c, hc, -, hkeys⟩ := exists_spiedStep ht
  rw [hkeys]
  cases op with
  | accept nClientFD peer => exact calls_doServerAcceptClient hc
  | dispatch sid nIOFlags recv oDummyPacket => exact absurd rfl (hop _ _ _ _)
  | ui op =>
    obtain ⟨s, hs, rfl⟩ := Run.map_eq_ok.mp hc
    obtain ⟨m, -, rfl⟩ := Run.map_eq_ok.mp hs
    rfl

/-- What a dispatch has handed on so far: the keys of the packets, for the device `sName`. -/
structure HandedOn (b : Server) (nBackendId : ℕ) (sName : BdAddr) (keys : List KeyPacket)
    (c : GtkBackend (BtGtkDeviceManager × List KeyCall)) : Prop where
  eq : c = b.mapOwner fun _ => c.owner
  same : b.owner.SameIdentities c.owner.1
  sound : c.owner.1.Sound
  name : ∀ call ∈ c.owner.2, call.name = some sName
  calls : c.owner.2.map (fun call => (call.type, call.key)) = keys.map packetKeyOf

theorem HandedOn.key {b : Server} {sName : BdAddr} {keys : List KeyPacket}
    {c : GtkBackend (BtGtkDeviceManager × List KeyCall)}
    (h : HandedOn b nBackendId sName keys c) (hid : nBackendId < b.inputSources.length)
    (hlen : b.owner.btDevices.length = b.inputSources.length)
    {d : BtKeysDevice} (hd : b.owner.device nBackendId = some d) (hname : d.name = sName)
    {p : KeyPacket} (hp : p.cmd = packetCmdKey) :
    ∃ c', doServerReceive (spiedOwner record) nBackendId false p c = .ok (true, c') ∧
      HandedOn b nBackendId sName (keys ++ [p]) c' := by
  obtain ⟨d', hd', hname', -⟩ := h.same.device_eq_some hd
  obtain ⟨es, hkey⟩ := onBlueKey_record (m := c.owner.1) p.keyType p.hardwareKey
    (hid.trans_eq (hlen.symm.trans h.same.length.symm)) fun _ => by rw [hd']; rfl
  have hcontinue : (c.owner.1.selected.isNone ||
      (c.owner.1.device nBackendId).any BtKeysDevice.hasOwner) = true := by
    simp [hd', h.sound.hasOwner _ _ hd']
  rw [hcontinue] at hkey
  let owner := appendKeyEvents es (c.owner.1.keyed nBackendId p.keyType p.hardwareKey)
  have hsame : c.owner.1.SameIdentities owner :=
    sameIdentities_keyed nBackendId p.keyType p.hardwareKey es c.owner.1
  refine ⟨{ c with owner := (owner, c.owner.2 ++
    [⟨nBackendId, p.keyType, p.hardwareKey, c.owner.1, owner⟩]) }, ?_, ⟨?_, ?_, ?_, ?_, ?_⟩⟩
  · have hid' : nBackendId < c.inputSources.length := by
      rw [h.eq]
      exact hid
    have howner : (spiedOwner record).onBlueKey nBackendId p.keyType p.hardwareKey c.owner =
        .ok (true, owner, c.owner.2 ++
          [⟨nBackendId, p.keyType, p.hardwareKey, c.owner.1, owner⟩]) := by
      simp only [spiedOwner, hkey, Except.map, owner]
    simp only [doServerReceive, hid', decide_true, assertThat_true, hp, if_true, howner]
    rfl
  · rw [h.eq]
    rfl
  · exact h.same.trans hsame
  · exact h.sound.of_sameIdentities (h.sound.toWindowsTracked.keyed ..) hsame
  · intro call hcall
    rcases List.mem_append.mp hcall with hcall | hcall
    · exact h.name call hcall
    · rw [List.mem_singleton.mp hcall]
      simp only [KeyCall.name, hd', Option.map_some, hname', hname]
  · rw [List.map_append, h.calls, List.map_append]
    rfl

/-- **The keys of a dispatch.** The manager is handed the keys of the packets that are read, for the
device of the client at the other end. -/
theorem VirtualCable.keysNamed_dispatch {b t : Server} (h : VirtualCable b) {order : ByteOrder}
    {src : BlueServerReceiveSource} (hsrc : b.sources[sid]? = some src) (hatt : src.attached)
    (hstop : ∀ s, (readMessage nIOFlags recv).stop = some s →
      (s.packet oDummyPacket).cmd ≠ packetCmdKey)
    (ht : b.step order (.dispatch sid nIOFlags recv oDummyPacket) = .ok t) (sName : BdAddr) :
    keysNamed sName (handedKeys order b (.dispatch sid nIOFlags recv oDummyPacket)) =
      if src.peer.1 = sName then
        (keyPackets (readMessage nIOFlags recv).packets).map packetKeyOf
      else [] := by
  obtain ⟨hsid, haddr⟩ := h.attached sid src hsrc hatt
  obtain ⟨d, hd, hname⟩ := h.usedDevice _ _ haddr src.peer.2
  have hid : src.backendId < b.inputSources.length := (List.getElem?_eq_some_iff.mp hsid).1
  have hlen := h.btDevices_length.trans h.inputSources_length.symm
  obtain ⟨c, hc, -, hkeys⟩ := exists_spiedStep ht
  -- the dispatch hands on the keys of the message and finishes
  obtain ⟨c₁, hc₁, hrun⟩ := dispatch_reads (O := spiedOwner record) order sid src.backendId
    oDummyPacket (P := HandedOn b src.backendId src.peer.1)
    (fun keys p c' hc' hp => hc'.key hid hlen hd hname hp) nIOFlags recv (b.mapOwner (·, []))
    ⟨rfl, .refl _, h.sound, by simp [mapOwner], by simp [mapOwner]⟩
  have hcalls : c.owner.2 = c₁.owner.2 := by
    have hsources : (b.mapOwner (·, ([] : List KeyCall))).sources[sid]? = some src := hsrc
    change dispatchSource (spiedOwner record) order sid nIOFlags recv oDummyPacket _ = .ok c at hc
    simp only [dispatchSource, hsources, hatt, Bool.not_true, Bool.false_eq_true, if_false] at hc
    obtain ⟨r, hr, hc⟩ := Run.bind_eq_ok.mp hc
    have hfinish := calls_finish hstop (hrun.symm.trans hr)
    split_ifs at hc
    · exact Except.ok.inj hc ▸ hfinish
    · exact Except.ok.inj hc ▸ hfinish
  rw [hkeys, hcalls, keysNamed]
  split_ifs with hpeer
  · rw [List.filter_eq_self.mpr fun call hmem => by simp [hc₁.name call hmem, hpeer], hc₁.calls]
  · rw [List.filter_eq_nil_iff.mpr fun call hmem => by simp [hc₁.name call hmem, hpeer],
      List.map_nil]

/-- A source that is not attached hands on nothing. -/
theorem handedKeys_of_not_attached {b t : Server} {order : ByteOrder}
    (hsrc : ∀ src, b.sources[sid]? = some src → src.attached = false)
    (ht : b.step order (.dispatch sid nIOFlags recv oDummyPacket) = .ok t) :
    handedKeys order b (.dispatch sid nIOFlags recv oDummyPacket) = [] := by
  obtain ⟨c, hc, -, hkeys⟩ := exists_spiedStep ht
  rw [hkeys]
  change dispatchSource (spiedOwner record) order sid nIOFlags recv oDummyPacket _ = .ok c at hc
  cases hs : b.sources[sid]? with
  | none =>
    have hsources : (b.mapOwner (·, ([] : List KeyCall))).sources[sid]? = none := hs
    simp only [dispatchSource, hsources] at hc
    obtain rfl := Except.ok.inj hc
    rfl
  | some src =>
    have hsources : (b.mapOwner (·, ([] : List KeyCall))).sources[sid]? = some src := hs
    simp only [dispatchSource, hsources, hsrc src hs, Bool.not_false, if_true] at hc
    obtain rfl := Except.ok.inj hc
    rfl

/-! ### The sources that are attached -/

variable {b t : Server} {order : ByteOrder} {op : SystemOp}

theorem length_doServerAcceptClient {σ : Type} {O : Owner σ} {b c : GtkBackend σ} {nClientFD : ℕ}
    {peer : RemoteAddr} (hc : doServerAcceptClient O nClientFD peer b = .ok c) :
    c.sources.length = b.sources.length + 1 := by
  cases hknown : getBackendId b.permanentAddrs peer with
  | some i =>
    simp only [doServerAcceptClient, hknown] at hc
    obtain rfl := Except.ok.inj hc
    simp only [attachNewSource, List.length_append, List.length_singleton]
    split
    · rw [destroySource, List.length_modify]
    · rfl
  | none =>
    cases hslot : getBackendId b.permanentAddrs emptyBdAddr with
    | none =>
      simp only [doServerAcceptClient, hknown, hslot] at hc
      obtain ⟨s, -, hc⟩ := Run.bind_eq_ok.mp hc
      obtain rfl := Except.ok.inj hc
      simp [attachNewSource]
    | some i =>
      simp only [doServerAcceptClient, hknown, hslot] at hc
      obtain ⟨-, -, hc⟩ := Run.bind_eq_ok.mp hc
      obtain ⟨s, -, hc⟩ := Run.bind_eq_ok.mp hc
      obtain rfl := Except.ok.inj hc
      simp [attachNewSource]

theorem VirtualCable.exists_accepted (h : VirtualCable b) {nClientFD : ℕ} {peer : RemoteAddr}
    (ht : doServerAcceptClient managerOwner nClientFD peer b = .ok t) :
    ∃ i, Accepted b t peer i := by
  cases hknown : getBackendId b.permanentAddrs peer with
  | some i =>
    obtain ⟨t', hrun, ha⟩ := h.accept_known hknown nClientFD
    cases hrun.symm.trans ht
    exact ⟨i, ha⟩
  | none =>
    obtain ⟨t', i, hrun, ha⟩ := h.accept_new hknown nClientFD
    cases hrun.symm.trans ht
    exact ⟨i, ha⟩

/-- A dispatch adds no device, and closes its source or leaves the sources alone. -/
theorem VirtualCable.keeps_dispatch (h : VirtualCable b)
    (ht : dispatchSource managerOwner order sid nIOFlags recv oDummyPacket b = .ok t) :
    t.owner.nextDeviceId = b.owner.nextDeviceId ∧
      (t.sources = b.sources ∨ Detached sid b t.sources) := by
  cases hsrc : b.sources[sid]? with
  | none =>
    simp only [dispatchSource, hsrc] at ht
    obtain rfl := Except.ok.inj ht
    exact ⟨rfl, .inl rfl⟩
  | some src =>
    cases hatt : src.attached with
    | false =>
      simp only [dispatchSource, hsrc, hatt, Bool.not_false, if_true] at ht
      obtain rfl := Except.ok.inj ht
      exact ⟨rfl, .inl rfl⟩
    | true =>
      obtain ⟨hsid, haddr⟩ := h.attached sid src hsrc hatt
      obtain ⟨d₀, hd₀, -⟩ := h.usedDevice _ _ haddr src.peer.2
      have hid : src.backendId < b.inputSources.length := (List.getElem?_eq_some_iff.mp hsid).1
      obtain ⟨owner, hsame, -, ⟨-, hrun⟩ | ⟨srcs, inputs, -, hdet, -, hrun⟩ |
        ⟨srcs, d, es, canceledKeys, -, hdet, -, hrun⟩⟩ :=
          dispatchSource_cases order oDummyPacket hsrc hatt hid
            (h.btDevices_length.trans h.inputSources_length.symm) h.inputSources_length.symm
            h.sound (by rw [hd₀]; rfl) nIOFlags recv <;>
        obtain rfl := Except.ok.inj (hrun.symm.trans ht)
      · exact ⟨hsame.nextDeviceId, .inl rfl⟩
      · exact ⟨hsame.nextDeviceId, .inr hdet⟩
      · exact ⟨hsame.nextDeviceId, .inr hdet⟩

theorem sources_ui {uiOp : UiOp} (ht : b.step order (.ui uiOp) = .ok t) :
    t.sources = b.sources := by
  obtain ⟨owner, -, rfl⟩ := Run.map_eq_ok.mp ht
  rfl

/-- Only a client that connects gets a new source. -/
theorem VirtualCable.length_sources (h : VirtualCable b) (ht : b.step order op = .ok t)
    (hop : ∀ nClientFD peer, op ≠ .accept nClientFD peer) :
    t.sources.length = b.sources.length := by
  cases op with
  | accept nClientFD peer => exact absurd rfl (hop _ _)
  | dispatch sid nIOFlags recv oDummyPacket =>
    rcases (h.keeps_dispatch ht).2 with hsame | hdet
    · rw [hsame]
    · exact hdet.length
  | ui uiOp => rw [sources_ui ht]

/-- **The attached sources.** A source that is attached after a step was attached before, and then
it does not belong to the client that connects in this step, or it is the new source of that
client. -/
theorem VirtualCable.attached_step (h : VirtualCable b) (ht : b.step order op = .ok t)
    {k : SourceId} {src : BlueServerReceiveSource} (hk : t.sources[k]? = some src)
    (hatt : src.attached) :
    (b.sources[k]? = some src ∧ ∀ nClientFD, op ≠ .accept nClientFD src.peer) ∨
      k = b.sources.length ∧ ∃ nClientFD, op = .accept nClientFD src.peer := by
  cases op with
  | accept nClientFD peer =>
    obtain ⟨i, ha⟩ := h.exists_accepted ht
    rcases ha.sources k src hk hatt with ⟨hlast, -, rfl⟩ | ⟨hold, hid⟩
    · exact .inr ⟨hlast, nClientFD, rfl⟩
    · refine .inl ⟨hold, fun nClientFD' heq => hid ?_⟩
      obtain ⟨-, rfl⟩ := SystemOp.accept.inj heq
      have haddr := (h.attached k src hold hatt).2
      rcases ha.owner with ⟨hi, -⟩ | ⟨hnew, -⟩
      · exact h.distinct _ _ _ haddr hi src.peer.2
      · exact absurd haddr (hnew _)
  | dispatch sid nIOFlags recv oDummyPacket =>
    refine .inl ⟨?_, by simp⟩
    rcases (h.keeps_dispatch ht).2 with hsame | hdet
    · rw [← hsame, hk]
    · exact (hdet.attached k src hk hatt).2
  | ui uiOp => exact .inl ⟨by rw [← sources_ui ht, hk], by simp⟩

end GtkBackend

end StmmInputBt
