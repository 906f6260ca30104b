import StmmInputBt.Server.Backend

/-!
# The receive path of the server

A dispatch of a receive source reads a message (`readMessage`): the packets from its start that
are valid and keep the connection, and the reason to stop, if any. `dispatch_reads` reduces the
code to this reading for every owner: the keys read are handed on one by one, then the
connection stays open or is closed with the packet that made it stop.

The effect that the protocol asks for is `afterMessage`. `dispatch_afterMessage_iff` compares
the code with it. `closeConnection` hands the packet it stopped at to `doServerReceive`, which
looks at the command of that packet again: a packet that carries the command `KEY`, among them
packets with wrong magic numbers and packets that were never initialised, is taken for a key
although the connection was given up.

## Main definitions

* `Stop`: why a dispatch closes the connection.
* `readPackets`, `readMessage`: the reading of a message.
* `GtkBackend.afterMessage`: the effect of a message.

## Main results

* `GtkBackend.dispatch_reads`.
* `GtkBackend.dispatch_afterMessage_iff`.
-/

namespace StmmInputBt

/-- Why a dispatch closes the connection. -/
inductive Stop
  | hangUp
  | recvFailed
  | badMagic (oPkt : KeyPacket)
  | badCmd (oPkt : KeyPacket)
  | remove (oPkt : KeyPacket)
  | partialPacket
  deriving DecidableEq

namespace Stop

/-- The packet handed on when the connection is closed: the one that made the dispatch stop, else
a packet that nobody has written. -/
def packet (oDummyPacket : KeyPacket) : Stop → KeyPacket
  | .badMagic oPkt | .badCmd oPkt | .remove oPkt => oPkt
  | .hangUp | .recvFailed | .partialPacket => oDummyPacket

/-- The client asks for the removal of the device. -/
def removes : Stop → Bool
  | .remove _ => true
  | _ => false

end Stop

/-- What a dispatch reads: the packets that keep the connection, then the reason to stop. -/
structure Reading where
  packets : List KeyPacket
  stop : Option Stop

/-- Read packets from the start while they have the magic numbers and the command `KEY` or
`NOOP`; `rest` tells whether bytes are left over after the last one. -/
def readPackets (rest : Bool) : List KeyPacket → Reading
  | [] => ⟨[], if rest then some .partialPacket else none⟩
  | p :: ps =>
    if !p.hasMagic then ⟨[], some (.badMagic p)⟩
    else if p.cmd = packetCmdRemoveDevice then ⟨[], some (.remove p)⟩
    else if p.cmd = packetCmdKey ∨ p.cmd = packetCmdNoop then
      ⟨p :: (readPackets rest ps).packets, (readPackets rest ps).stop⟩
    else ⟨[], some (.badCmd p)⟩

/-- The reading of what poll and `::recv` report. -/
def readMessage (nIOFlags : IOCondition) (recv : RecvResult) : Reading :=
  if nIOFlags.ioHup || nIOFlags.ioErr || nIOFlags.ioNval then ⟨[], some .hangUp⟩
  else if !nIOFlags.ioIn then ⟨[], none⟩
  else match recv with
    | .error => ⟨[], some .recvFailed⟩
    | .received bytes => readPackets (8 * (packetsOfWire bytes).length < bytes.length)
        (packetsOfWire bytes)

/-- The packets among `ps` that carry a key. -/
def keyPackets (ps : List KeyPacket) : List KeyPacket := ps.filter (·.cmd = packetCmdKey)

theorem keyPackets_cons_of_key {p : KeyPacket} (h : p.cmd = packetCmdKey) (ps : List KeyPacket) :
    keyPackets (p :: ps) = p :: keyPackets ps := by
  simp [keyPackets, h]

theorem keyPackets_cons_of_ne {p : KeyPacket} (h : p.cmd ≠ packetCmdKey) (ps : List KeyPacket) :
    keyPackets (p :: ps) = keyPackets ps := by
  simp [keyPackets, h]

/-- Only a packet with the command `REMOVE_DEVICE` removes, so a removing packet is no key. -/
theorem readPackets_removes_cmd {rest : Bool} {ps : List KeyPacket} {stop : Stop}
    (h : (readPackets rest ps).stop = some stop) (hrem : stop.removes) (oDummyPacket : KeyPacket) :
    (stop.packet oDummyPacket).cmd = packetCmdRemoveDevice := by
  induction ps with
  | nil =>
    cases rest
    · cases h
    · cases h
      cases hrem
  | cons p ps ih =>
    simp only [readPackets] at h
    split_ifs at h with hmagic hcmd hkeep
    · cases h
      cases hrem
    · cases h
      exact hcmd
    · exact ih h
    · cases h
      cases hrem

theorem readMessage_removes_cmd {nIOFlags : IOCondition} {recv : RecvResult} {stop : Stop}
    (h : (readMessage nIOFlags recv).stop = some stop) (hrem : stop.removes)
    (oDummyPacket : KeyPacket) :
    (stop.packet oDummyPacket).cmd = packetCmdRemoveDevice := by
  simp only [readMessage] at h
  split_ifs at h with hflags hin
  · cases h
    cases hrem
  · cases recv with
    | error =>
      cases h
      cases hrem
    | received bytes => exact readPackets_removes_cmd h hrem oDummyPacket

namespace GtkBackend

variable {σ : Type} (O : Owner σ) (order : ByteOrder) (sid : SourceId) (nBackendId : ℕ)
  (oDummyPacket : KeyPacket)

/-- How a dispatch ends once the keys of its message are handed on. -/
def finish (stop : Option Stop) (b : GtkBackend σ) : Except Fault (Bool × GtkBackend σ) :=
  match stop with
  | none => .ok (true, b)
  | some stop =>
    closeConnection O sid nBackendId true stop.removes (stop.packet oDummyPacket) b

/-- What the loop does with a packet, and what a reading makes of it: it stops there, it passes over
the packet, or it hands it on. -/
theorem processPackets_cons (nBytesReceived : ℕ) (p : KeyPacket) (ps : List KeyPacket)
    (nBufPos : ℕ) :
    let oPacket := p.btohl order
    let run := processPackets O order sid nBackendId oDummyPacket nBytesReceived
    (∃ stop, (∀ rest ps', readPackets rest (oPacket :: ps') = ⟨[], some stop⟩) ∧
        ∀ b, run (p :: ps) nBufPos b = finish O sid nBackendId oDummyPacket (some stop) b) ∨
      (∀ rest ps', readPackets rest (oPacket :: ps') =
        ⟨oPacket :: (readPackets rest ps').packets, (readPackets rest ps').stop⟩) ∧
      (oPacket.cmd ≠ packetCmdKey ∧
          (∀ b, run (p :: ps) nBufPos b = run ps (nBufPos + 8) b) ∨
        oPacket.cmd = packetCmdKey ∧
          ∀ b, run (p :: ps) nBufPos b = do
            let (bContinue, b) ← doServerReceive O nBackendId false oPacket b
            if !bContinue then closeConnection O sid nBackendId false false oPacket b
            else run ps (nBufPos + 8) b) := by
  simp only [readPackets, processPackets]
  by_cases hmagic : (p.btohl order).hasMagic
  · simp only [hmagic, Bool.not_true, Bool.false_eq_true, if_false]
    by_cases hrem : (p.btohl order).cmd = packetCmdRemoveDevice
    · simp only [if_pos hrem]
      exact .inl ⟨.remove (p.btohl order), fun _ _ => rfl, fun _ => rfl⟩
    · simp only [if_neg hrem]
      by_cases hnoop : (p.btohl order).cmd = packetCmdNoop
      · have hne : (p.btohl order).cmd ≠ packetCmdKey := by
          rw [hnoop]
          decide
        simp only [if_pos (Or.inr hnoop), if_neg (not_not.mpr hnoop)]
        exact .inr ⟨fun _ _ => trivial, .inl ⟨hne, fun _ => trivial⟩⟩
      · simp only [if_pos hnoop]
        by_cases hk : (p.btohl order).cmd = packetCmdKey
        · simp only [if_pos (Or.inl hk), if_neg (not_not.mpr hk)]
          exact .inr ⟨fun _ _ => trivial, .inr ⟨hk, fun _ => trivial⟩⟩
        · simp only [if_pos hk, if_neg (not_or.mpr ⟨hk, hnoop⟩)]
          exact .inl ⟨.badCmd (p.btohl order), fun _ _ => rfl, fun _ => rfl⟩
  · simp only [hmagic, Bool.not_false, if_true]
    exact .inl ⟨.badMagic (p.btohl order), fun _ _ => rfl, fun _ => rfl⟩

section Reads

variable {O nBackendId} {P : List KeyPacket → GtkBackend σ → Prop}
  (hkey : ∀ keys p b, P keys b → p.cmd = packetCmdKey →
    ∃ b', doServerReceive O nBackendId false p b = .ok (true, b') ∧ P (keys ++ [p]) b')

include hkey in
/-- The loop over the packets, for an owner that lets every key continue. `P` relates the keys
handed on so far to the backend. -/
theorem processPackets_reads (nBytesReceived : ℕ) (ps : List KeyPacket) (nBufPos : ℕ)
    (keys : List KeyPacket) (b : GtkBackend σ) (h : P keys b) :
    let reading := readPackets (nBufPos + 8 * ps.length < nBytesReceived) (ps.map (·.btohl order))
    ∃ b', P (keys ++ keyPackets reading.packets) b' ∧
      processPackets O order sid nBackendId oDummyPacket nBytesReceived ps nBufPos b =
        finish O sid nBackendId oDummyPacket reading.stop b' := by
  induction ps generalizing nBufPos keys b with
  | nil =>
    refine ⟨b, by simpa [readPackets, keyPackets] using h, ?_⟩
    by_cases hrest : nBufPos < nBytesReceived <;>
      simp [processPackets, readPackets, finish, hrest, Stop.removes, Stop.packet]
  | cons p ps ih =>
    have hpos : nBufPos + 8 * (p :: ps).length = nBufPos + 8 + 8 * ps.length := by
      rw [List.length_cons]
      ring
    rw [List.map_cons, hpos]
    rcases processPackets_cons O order sid nBackendId oDummyPacket nBytesReceived p ps nBufPos with
      ⟨stop, hread, hrun⟩ | ⟨hread, ⟨hne, hrun⟩ | ⟨hk, hrun⟩⟩
    · rw [hread, hrun]
      exact ⟨b, by simpa [keyPackets] using h, rfl⟩
    · rw [hread, hrun]
      simpa only [keyPackets_cons_of_ne hne] using ih (nBufPos + 8) keys b h
    · obtain ⟨b₁, hb₁, hP₁⟩ := hkey keys _ b h hk
      obtain ⟨b', hP', hrest⟩ := ih (nBufPos + 8) _ b₁ hP₁
      rw [hread, hrun, hb₁]
      exact ⟨b', by simpa [keyPackets_cons_of_key hk] using hP', hrest⟩

variable (nBackendId) in
include hkey in
/-- A dispatch hands on the keys of its message one by one and then finishes, for every owner
that lets the keys continue. -/
theorem dispatch_reads (nIOFlags : IOCondition) (recv : RecvResult) (b : GtkBackend σ)
    (h : P [] b) :
    let reading := readMessage nIOFlags recv
    ∃ b', P (keyPackets reading.packets) b' ∧
      dispatch O order sid nBackendId nIOFlags recv oDummyPacket b =
        finish O sid nBackendId oDummyPacket reading.stop b' := by
  simp only [readMessage, dispatch]
  split_ifs with hflags hin
  · exact ⟨b, by simpa [keyPackets] using h, rfl⟩
  · exact ⟨b, by simpa [keyPackets] using h, rfl⟩
  · cases recv with
    | error => exact ⟨b, by simpa [keyPackets] using h, rfl⟩
    | received bytes =>
      have hlen : (packetsOfMemory order bytes).length = (packetsOfWire bytes).length := by
        rw [← packetsOfMemory_ofLittle order, List.length_map]
      have hrun := processPackets_reads order sid oDummyPacket hkey bytes.length
        (packetsOfMemory order bytes) 0 [] b h
      simpa only [Nat.zero_add, List.nil_append, packetsOfMemory_ofLittle, hlen] using hrun

end Reads

/-! ### The effect of a message -/

/-- The call that a packet carrying a key causes. -/
def blueKeyCall (p : KeyPacket) : OwnerCall := .onBlueKey nBackendId p.keyType p.hardwareKey

/-- The calls that the keys of a message cause. -/
def keyCalls (ps : List KeyPacket) : List OwnerCall := (keyPackets ps).map (blueKeyCall nBackendId)

/-- The effect of a message on the backend: every key in it is handed to the owner, and when
reading has to stop the connection is closed and forgotten, with the device if the client asked
for its removal. -/
def afterMessage (reading : Reading) (b : GtkBackend (List OwnerCall)) :
    GtkBackend (List OwnerCall) :=
  let b := { b with owner := b.owner ++ keyCalls nBackendId reading.packets }
  match reading.stop with
  | none => b
  | some stop =>
    let b := { b.destroySource sid with inputSources := b.inputSources.set nBackendId none }
    if stop.removes then
      { b with
        permanentAddrs := b.permanentAddrs.set nBackendId emptyBdAddr
        owner := b.owner ++ [.onDeviceRemoved nBackendId] }
    else b

variable {nBackendId} {sid}

theorem doServerReceive_recorder_key {p : KeyPacket} {b : GtkBackend (List OwnerCall)}
    {bRemove : Bool} (hid : nBackendId < b.inputSources.length) (hp : p.cmd = packetCmdKey) :
    doServerReceive recorder nBackendId bRemove p b = .ok (true, { b with
      owner := b.owner ++ [blueKeyCall nBackendId p] }) := by
  simp only [doServerReceive, hid, decide_true, assertThat_true, hp, ↓reduceIte]
  rfl

/-- A dispatch with the recording owner: the keys of the message, then the end of the
dispatch. -/
theorem dispatch_recorder {b : GtkBackend (List OwnerCall)}
    (hid : nBackendId < b.inputSources.length) (nIOFlags : IOCondition) (recv : RecvResult) :
    dispatch recorder order sid nBackendId nIOFlags recv oDummyPacket b =
      finish recorder sid nBackendId oDummyPacket (readMessage nIOFlags recv).stop
        { b with owner := b.owner ++ keyCalls nBackendId (readMessage nIOFlags recv).packets } := by
  have hkey : ∀ keys p (b' : GtkBackend (List OwnerCall)),
      b' = { b with owner := b.owner ++ keys.map (blueKeyCall nBackendId) } →
      p.cmd = packetCmdKey → ∃ b'', doServerReceive recorder nBackendId false p b' =
        .ok (true, b'') ∧
          b'' = { b with owner := b.owner ++ (keys ++ [p]).map (blueKeyCall nBackendId) } := by
    rintro keys p b' rfl hp
    exact ⟨_, doServerReceive_recorder_key hid hp, by simp [blueKeyCall]⟩
  obtain ⟨b', rfl, hrun⟩ :=
    dispatch_reads order sid nBackendId oDummyPacket hkey nIOFlags recv b (by simp)
  exact hrun

/-- The stopping packet is handed on as a key when it carries that command, whatever made the
dispatch stop. -/
theorem finish_recorder_key {stop : Stop} {b : GtkBackend (List OwnerCall)}
    (hid : nBackendId < b.inputSources.length)
    (hcmd : (stop.packet oDummyPacket).cmd = packetCmdKey) :
    finish recorder sid nBackendId oDummyPacket (some stop) b =
      .ok (true, { b.destroySource sid with owner := b.owner ++ [blueKeyCall nBackendId
        (stop.packet oDummyPacket)] }) :=
  doServerReceive_recorder_key (b := b.destroySource sid) hid hcmd

/-- Otherwise the connection is forgotten, and the device if the client asked for that. -/
theorem finish_recorder_of_ne {stop : Stop} {b : GtkBackend (List OwnerCall)}
    (hid : nBackendId < b.inputSources.length)
    (hlen : b.permanentAddrs.length = b.inputSources.length)
    (hcmd : (stop.packet oDummyPacket).cmd ≠ packetCmdKey)
    (hrem : stop.removes → (stop.packet oDummyPacket).cmd = packetCmdRemoveDevice) :
    finish recorder sid nBackendId oDummyPacket (some stop) b =
      .ok (false, afterMessage sid nBackendId ⟨[], some stop⟩ b) := by
  simp only [finish, closeConnection, doServerReceive, destroySource, hid, hcmd, decide_true,
    assertThat_true, ↓reduceIte, afterMessage, keyCalls, keyPackets]
  cases hr : stop.removes with
  | false => simp [bind, Except.bind, pure, Except.pure]
  | true => simp [bind, Except.bind, pure, Except.pure, hrem hr, hlen, hid, recorder]

/-- **The receive path.** A dispatch has the effect of its message, and asks to be called again just
if there was no reason to stop, exactly when the packet handed on with the end of the connection, if
it comes to that, does not carry the command `KEY`: neither a packet whose magic numbers are wrong
nor the uninitialised packet of a connection that failed or of a rest of less than eight bytes. -/
theorem dispatch_afterMessage_iff (b : GtkBackend (List OwnerCall))
    (hid : nBackendId < b.inputSources.length)
    (hlen : b.permanentAddrs.length = b.inputSources.length)
    (nIOFlags : IOCondition) (recv : RecvResult) :
    dispatch recorder order sid nBackendId nIOFlags recv oDummyPacket b =
        .ok ((readMessage nIOFlags recv).stop.isNone,
          afterMessage sid nBackendId (readMessage nIOFlags recv) b) ↔
      ∀ stop, (readMessage nIOFlags recv).stop = some stop →
        (stop.packet oDummyPacket).cmd ≠ packetCmdKey := by
  rw [dispatch_recorder order oDummyPacket hid]
  let b₁ : GtkBackend (List OwnerCall) :=
    { b with owner := b.owner ++ keyCalls nBackendId (readMessage nIOFlags recv).packets }
  cases hstop : (readMessage nIOFlags recv).stop with
  | none =>
    simp only [afterMessage, hstop, finish, reduceCtorEq, false_implies, implies_true, iff_true]
    rfl
  | some stop =>
    simp only [Option.some.injEq, forall_eq']
    by_cases hcmd : (stop.packet oDummyPacket).cmd = packetCmdKey
    · have hno : stop.removes = false := by
        cases hr : stop.removes with
        | false => rfl
        | true =>
          have := readMessage_removes_cmd hstop hr oDummyPacket
          rw [hcmd] at this
          exact absurd this (by decide)
      rw [finish_recorder_key oDummyPacket (b := b₁) hid hcmd]
      refine ⟨fun hc => ?_, fun h => absurd hcmd h⟩
      -- the calls differ by the key made out of the stopping packet
      have howner := congrArg (fun r => r.2.owner.length) (Except.ok.inj hc)
      simp [afterMessage, hstop, hno, destroySource, b₁] at howner
    · refine ⟨fun _ => hcmd, fun _ => ?_⟩
      rw [finish_recorder_of_ne oDummyPacket (b := b₁) hid hlen hcmd
        fun hr => readMessage_removes_cmd hstop hr oDummyPacket]
      simp [afterMessage, hstop, keyCalls, keyPackets, destroySource, b₁]

/-- The address of a client. -/
def clientAddr : RemoteAddr := ⟨0x445566778899, by decide⟩

/-- A backend with one connected client. -/
def oneClient : GtkBackend (List OwnerCall) where
  owner := []
  permanentAddrs := [clientAddr]
  inputSources := [some 0]
  sources := [⟨0, 5, clientAddr, true⟩]

def ioInOnly : IOCondition := ⟨true, false, false, false⟩

/-- A press of the key `30` and the request to remove the device. -/
def pressThenRemove : List Byte :=
  [magic1, magic2, packetCmdKey, keyPress, 30, 0, 0, 0,
    magic1, magic2, packetCmdRemoveDevice, 0, 0, 0, 0, 0]

theorem dispatch_afterMessage_pressThenRemove :
    dispatch recorder .little 0 0 ioInOnly (.received pressThenRemove) ⟨0, 0, 0, 0, 0⟩ oneClient =
      .ok (false, afterMessage 0 0 (readMessage ioInOnly (.received pressThenRemove))
        oneClient) := by
  refine (dispatch_afterMessage_iff .little ⟨0, 0, 0, 0, 0⟩ oneClient (by decide) rfl ioInOnly
    (.received pressThenRemove)).mpr fun stop hstop => ?_
  have hread : (readMessage ioInOnly (.received pressThenRemove)).stop =
    some (.remove ⟨magic1, magic2, packetCmdRemoveDevice, 0, 0⟩) := by decide
  cases hstop.symm.trans hread
  decide

/-- Eight zero bytes but for the key type and the key: the magic numbers are wrong, and yet the
owner is told of a key. -/
theorem dispatch_badMagic_key :
    ¬ ∃ bContinue, dispatch recorder .little 0 0 ioInOnly (.received [0, 0, 0, 1, 30, 0, 0, 0])
      ⟨0, 0, 0, 0, 0⟩ oneClient =
        .ok (bContinue, afterMessage 0 0
          (readMessage ioInOnly (.received [0, 0, 0, 1, 30, 0, 0, 0])) oneClient) := by
  rintro ⟨bContinue, h⟩
  replace h := congrArg (fun r => r.toOption.map fun r => r.2.owner) h
  revert bContinue
  decide

end GtkBackend

end StmmInputBt
