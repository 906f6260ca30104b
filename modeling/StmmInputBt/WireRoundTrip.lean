import StmmInputBt.Client.BufferBounds
import StmmInputBt.Server.ReceivePath

/-!
# From the client's ring buffer to the server's owner

The two programs meet on the wire: `sendPacketsFromBufferedKeys` turns the entries of the ring
buffer into the bytes of one message, and a dispatch of the receive source turns the message into
calls of the owner. The server takes `m_nHardwareKey` for little-endian and applies `btohl`; the
client writes it in its own byte order.

## Main definitions

* `wireBytes`: the bytes of the packets in the memory of the client.
* `batchCalls`: what a batch of entries is meant to tell the server's owner.
* `Arrives`: the server's owner is told just that.

## Main results

* `dispatch_wireBytes`: what the server's owner is told.
* `BtKeyClient.arrives_iff`: the round trip.
-/

namespace StmmInputBt

open BtKeyClient GtkBackend

/-- The bytes that `::send` is given on a host. -/
def wireBytes (o : ByteOrder) (ps : List StagedPacket) : List Byte :=
  (ps.map StagedPacket.packet).flatMap (KeyPacket.toMemory o)

/-- The entries that carry a key, up to the first removal. -/
def keysBeforeRemove (es : List BufferedKey) : List BufferedKey :=
  (es.takeWhile (·.keyType ≠ .removeDevice)).filter fun e => !isCommand e.keyType

/-- The call that an entry is meant to cause, for a key that arrives as `eHK`. -/
def keyCall (nBackendId : ℕ) (e : BufferedKey) (eHK : HardwareKey) : OwnerCall :=
  .onBlueKey nBackendId e.keyType.toChar eHK

/-- The call that a removal in the batch causes. -/
def removeCalls (nBackendId : ℕ) (es : List BufferedKey) : List OwnerCall :=
  if es.any (·.keyType = .removeDevice) then [.onDeviceRemoved nBackendId] else []

/-- What a batch of entries is meant to tell the owner: the keys up to the first removal, in order,
and the removal. -/
def batchCalls (nBackendId : ℕ) (es : List BufferedKey) : List OwnerCall :=
  (keysBeforeRemove es).map (fun e => keyCall nBackendId e e.key) ++ removeCalls nBackendId es

/-- The server dispatches the bytes as one message, and its owner is told what the entries `es`
mean. -/
def Arrives (order : ByteOrder) (sid : SourceId) (nBackendId : ℕ) (oDummyPacket : KeyPacket)
    (bytes : List Byte) (es : List BufferedKey) (b : GtkBackend (List OwnerCall)) : Prop :=
  ∃ bContinue b',
    dispatch recorder order sid nBackendId ioInOnly (recvMessage bytes) oDummyPacket b =
      .ok (bContinue, b') ∧ b'.owner = b.owner ++ batchCalls nBackendId es

/-- How a key of the client arrives at the server. -/
def wireKey (o : ByteOrder) (eKey : HardwareKey) : HardwareKey :=
  ByteOrder.little.load (o.store eKey)

theorem wireKey_little (eKey : HardwareKey) : wireKey .little eKey = eKey :=
  ByteOrder.load_store .little eKey

theorem wireKey_big (eKey : HardwareKey) : wireKey .big eKey = byteSwap eKey :=
  ByteOrder.load_store_ne (by decide) eKey

/-- A packet of the client as the server reads it. -/
def wirePacket (o : ByteOrder) (p : StagedPacket) : KeyPacket :=
  { p.packet with hardwareKey := wireKey o p.packet.hardwareKey }

theorem packetsOfWire_wireBytes (o : ByteOrder) (ps : List StagedPacket) :
    packetsOfWire (wireBytes o ps) = ps.map (wirePacket o) := by
  rw [packetsOfWire, wireBytes, packetsOfMemory_flatMap_toMemory, List.map_map]
  rfl

theorem length_wireBytes (o : ByteOrder) (ps : List StagedPacket) :
    (wireBytes o ps).length = 8 * ps.length := by
  rw [wireBytes, length_flatMap_toMemory, List.length_map]

/-- The server has room for the whole batch. -/
theorem recvMessage_wireBytes (o : ByteOrder) {ps : List StagedPacket}
    (hlen : ps.length ≤ sendBufferSize) :
    recvMessage (wireBytes o ps) = .received (wireBytes o ps) := by
  have hroom : 8 * sendBufferSize ≤ nToRead * 8 := by decide
  rw [recvMessage, List.take_of_length_le (by rw [length_wireBytes]; omega)]

/-- The server reads the message of a batch without a rest. -/
theorem readMessage_wireBytes (o : ByteOrder) {ps : List StagedPacket}
    (hlen : ps.length ≤ sendBufferSize) :
    readMessage ioInOnly (recvMessage (wireBytes o ps)) =
      readPackets false (ps.map (wirePacket o)) := by
  have hlen' : (wireBytes o ps).length = 8 * (ps.map (wirePacket o)).length := by
    rw [length_wireBytes, List.length_map]
  have hrest : decide (8 * (ps.map (wirePacket o)).length < (wireBytes o ps).length) = false := by
    rw [hlen']
    exact decide_eq_false (lt_irrefl _)
  rw [recvMessage_wireBytes o hlen]
  change readPackets _ _ = _
  rw [packetsOfWire_wireBytes, hrest]

/-- The reading of a batch: the keys up to the first removal, which stops it. -/
theorem readPackets_encoded (o : ByteOrder) (nBackendId : ℕ) {es : List BufferedKey}
    {ps : List StagedPacket} (h : es.Forall₂ Encodes ps) :
    let reading := readPackets false (ps.map (wirePacket o))
    keyCalls nBackendId reading.packets =
        (keysBeforeRemove es).map (fun e => keyCall nBackendId e (wireKey o e.key)) ∧
      (es.any (·.keyType = .removeDevice) = false ∧ reading.stop = none ∨
        es.any (·.keyType = .removeDevice) = true ∧
          ∃ p, reading.stop = some (.remove p) ∧ p.cmd = packetCmdRemoveDevice) := by
  induction h with
  | nil => exact ⟨rfl, .inl ⟨rfl, rfl⟩⟩
  | @cons e p es ps hep _ ih =>
    obtain ⟨ihCalls, ihStop⟩ := ih
    obtain ⟨old, rfl⟩ := hep
    have hmagic : (wirePacket o (encodePacket e old)).hasMagic := by
      cases htype : e.keyType <;> simp [wirePacket, encodePacket, KeyPacket.hasMagic, htype]
    simp only [List.map_cons, readPackets, hmagic, Bool.not_true, Bool.false_eq_true, if_false]
    cases htype : e.keyType with
    | removeDevice =>
      have hcmd : (wirePacket o (encodePacket e old)).cmd = packetCmdRemoveDevice := by
        simp [wirePacket, encodePacket, htype]
      rw [if_pos hcmd]
      exact ⟨by simp [keysBeforeRemove, htype, keyCalls, keyPackets],
        .inr ⟨by simp [htype], _, rfl, hcmd⟩⟩
    | noop =>
      have hcmd : (wirePacket o (encodePacket e old)).cmd = packetCmdNoop := by
        simp [wirePacket, encodePacket, htype]
      rw [if_neg (by rw [hcmd]; decide), if_pos (.inr hcmd)]
      refine ⟨?_, ?_⟩
      · rw [keyCalls, keyPackets_cons_of_ne (by rw [hcmd]; decide)]
        simpa [keysBeforeRemove, htype, isCommand, keyCalls] using ihCalls
      · simpa [htype] using ihStop
    | press | release | releaseCancel =>
      have hcmd : (wirePacket o (encodePacket e old)).cmd = packetCmdKey := by
        simp [wirePacket, encodePacket, htype]
      rw [if_neg (by rw [hcmd]; decide), if_pos (.inl hcmd)]
      refine ⟨?_, ?_⟩
      · rw [keyCalls, keyPackets_cons_of_key hcmd]
        simp only [keyCalls] at ihCalls
        simp [keysBeforeRemove, htype, isCommand, blueKeyCall, wirePacket, encodePacket, keyCall,
          ihCalls]
      · simpa [htype] using ihStop

variable (order : ByteOrder) (sid : SourceId) (oDummyPacket : KeyPacket) {nBackendId : ℕ}

/-- The owner is told of the keys as they arrive, and of the removal. -/
theorem dispatch_wireBytes (o : ByteOrder) {es : List BufferedKey} {ps : List StagedPacket}
    (h : es.Forall₂ Encodes ps) (hsize : es.length ≤ sendBufferSize)
    {b : GtkBackend (List OwnerCall)} (hid : nBackendId < b.inputSources.length)
    (hlen : b.permanentAddrs.length = b.inputSources.length) :
    ∃ bContinue b', dispatch recorder order sid nBackendId ioInOnly (recvMessage (wireBytes o ps))
        oDummyPacket b = .ok (bContinue, b') ∧
      b'.owner = b.owner ++ ((keysBeforeRemove es).map
        (fun e => keyCall nBackendId e (wireKey o e.key)) ++ removeCalls nBackendId es) := by
  obtain ⟨hcalls, hstop⟩ := readPackets_encoded o nBackendId h
  rw [dispatch_recorder order oDummyPacket hid, readMessage_wireBytes o (h.length_eq.symm ▸ hsize),
    hcalls]
  rcases hstop with ⟨hrem, hstop⟩ | ⟨hrem, p, hstop, hcmd⟩
  · refine ⟨true, _, by rw [hstop]; rfl, ?_⟩
    simp [removeCalls, hrem]
  · have hne : (Stop.packet oDummyPacket (.remove p)).cmd ≠ packetCmdKey := by
      rw [Stop.packet, hcmd]
      decide
    let b₁ := { b with owner := b.owner ++
      (keysBeforeRemove es).map fun e => keyCall nBackendId e (wireKey o e.key) }
    have hfinish : finish recorder sid nBackendId oDummyPacket (some (.remove p)) b₁ = _ :=
      finish_recorder_of_ne oDummyPacket hid hlen hne fun _ => hcmd
    rw [hstop, hfinish]
    refine ⟨false, _, rfl, ?_⟩
    simp [b₁, afterMessage, keyCalls, keyPackets, GtkBackend.destroySource, Stop.removes,
      removeCalls, hrem]

namespace BtKeyClient

/-- The packets that an event says were given to `::send`. -/
def eventBatch : ClientEvent → Option (List StagedPacket)
  | .sent _ aPackets _ => some aPackets
  | _ => none

/-- The packets given to the last `::send`. -/
def lastBatch (tr : List ClientEvent) : Option (List StagedPacket) := tr.findSome? eventBatch

theorem lastBatch_of_quietExt {tr tr' : List ClientEvent} (h : QuietExt tr tr') :
    lastBatch tr' = lastBatch tr :=
  h.eq_of fun e tr he => by cases e <;> first | rfl | cases he

theorem lastBatch_sendPackets {s : BtKeyClient} (hring : s.Ring) (hfault : s.fault = none)
    (res : SendResult) : ∃ ps, lastBatch (s.sendPacketsFromBufferedKeys res).trace = some ps ∧
      s.bufferedKeys.contents.Forall₂ Encodes ps := by
  obtain ⟨hv, hrun⟩ := sendPackets_eq hring hfault res
  refine ⟨s.staged.2.batch, ?_, hv.encodes⟩
  rw [hrun, lastBatch_of_quietExt (offerPackets_quiet _ _ res)]
  rfl

/-- **The wire round trip.** The server's owner is told what the entries of the ring buffer mean,
on a server of any byte order, if and only if the client is little-endian or every key that is to
arrive has the same bytes in either order. -/
theorem arrives_iff {s : BtKeyClient} (hring : s.Ring) (hfault : s.fault = none)
    (res : SendResult) (clientOrder serverOrder : ByteOrder) (sid : SourceId)
    (oDummyPacket : KeyPacket) {nBackendId : ℕ} {b : GtkBackend (List OwnerCall)}
    (hid : nBackendId < b.inputSources.length)
    (hlen : b.permanentAddrs.length = b.inputSources.length) :
    ∃ ps, lastBatch (s.sendPacketsFromBufferedKeys res).trace = some ps ∧
      (Arrives serverOrder sid nBackendId oDummyPacket (wireBytes clientOrder ps)
          s.bufferedKeys.contents b ↔
        clientOrder = .little ∨
          ∀ e ∈ keysBeforeRemove s.bufferedKeys.contents, byteSwap e.key = e.key) := by
  obtain ⟨ps, hlast, henc⟩ := lastBatch_sendPackets hring hfault res
  have hsize : s.bufferedKeys.contents.length ≤ sendBufferSize := by
    rw [CircularBuffer.length_contents, ← hring.capacity]
    exact hring.wf.count_le
  refine ⟨ps, hlast, ?_⟩
  obtain ⟨bContinue, b', hrun, howner⟩ :=
    dispatch_wireBytes serverOrder sid oDummyPacket clientOrder henc hsize hid hlen
  have hkeys : Arrives serverOrder sid nBackendId oDummyPacket (wireBytes clientOrder ps)
      s.bufferedKeys.contents b ↔
        ∀ e ∈ keysBeforeRemove s.bufferedKeys.contents, wireKey clientOrder e.key = e.key := by
    simp only [Arrives, hrun, Except.ok.injEq, Prod.mk.injEq]
    constructor
    · rintro ⟨_, _, ⟨-, rfl⟩, hcalls⟩ e he
      rw [howner, batchCalls] at hcalls
      have hmap := List.append_cancel_right (List.append_cancel_left hcalls)
      exact (OwnerCall.onBlueKey.inj (List.map_inj_left.mp hmap e he)).2.2
    · intro hall
      refine ⟨_, _, ⟨rfl, rfl⟩, ?_⟩
      rw [howner, batchCalls, List.map_congr_left fun e he => by rw [hall e he]]
  rw [hkeys]
  cases clientOrder with
  | little => simp [wireKey_little]
  | big => simp [wireKey_big]

/-- A connected client with one press in its ring buffer. -/
def onePress (eKey : HardwareKey) : BtKeyClient :=
  { defaultClient with
    state := .connected
    bufferedKeys := defaultClient.bufferedKeys.write ⟨.press, eKey, 0⟩ }

theorem arrives_big_palindrome : ∃ ps,
    lastBatch ((onePress 0x01000001).sendPacketsFromBufferedKeys .accepted).trace = some ps ∧
      Arrives .big 0 0 ⟨0, 0, 0, 0, 0⟩ (wireBytes .big ps)
        (onePress 0x01000001).bufferedKeys.contents oneClient := by
  obtain ⟨ps, hlast, hiff⟩ := arrives_iff (s := onePress 0x01000001)
    ⟨(CircularBuffer.wf_new (by decide)).write (by decide) _, by decide⟩ rfl .accepted .big .big 0
    ⟨0, 0, 0, 0, 0⟩ (b := oneClient) Nat.zero_lt_one rfl
  exact ⟨ps, hlast, hiff.mpr (.inr (by decide))⟩

/-- A big-endian client presses the key `30`, and the server is told of the key `0x1e000000`. -/
theorem not_arrives_big : ∃ ps,
    lastBatch ((onePress 30).sendPacketsFromBufferedKeys .accepted).trace = some ps ∧
      ¬ Arrives .little 0 0 ⟨0, 0, 0, 0, 0⟩ (wireBytes .big ps)
        (onePress 30).bufferedKeys.contents oneClient := by
  refine ⟨[⟨⟨magic1, magic2, packetCmdKey, keyPress, 30⟩, 0⟩], by decide, ?_⟩
  rintro ⟨bContinue, b', hrun, hcalls⟩
  have howner := congrArg (fun r => r.toOption.map fun r => r.2.owner) hrun
  simp only [Except.toOption, Option.map_some, hcalls] at howner
  revert howner
  decide

end BtKeyClient

end StmmInputBt
