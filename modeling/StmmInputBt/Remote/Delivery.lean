import StmmInputBt.Remote.System

/-!
# What arrives

Whatever clients, windows and listeners do, the server hands its manager the keys of the messages
that it has received, client by client in their order: connections of a client follow each other,
also when a client connects again while its old connection is open, and none of them carries a key
that another client has sent.

## Main definitions

* `RemoteSystem.Delivering`: the invariant.

## Main results

* `RemoteSystem.keysNamed_run`: the keys for the device of a client are those of the messages
  received from it.
* `RemoteSystem.sublist_passedKeys_run`: from clients that send nothing twice, a subsequence
  of the keys that were passed to `sendKeyToServer`.
-/

namespace StmmInputBt

open BtGtkDeviceManager BtKeyClient GtkBackend

/-! ### The reading of a message -/

/-- The key that a call of the owner hands on. -/
def OwnerCall.key? : OwnerCall → Option (KeyInputType × HardwareKey)
  | .onBlueKey _ eType eHK => some (eType, eHK)
  | .onDeviceAdded .. | .onDeviceRemoved _ => none

theorem keysUpToRemove_of_encodes {es : List BufferedKey} {ps : List StagedPacket}
    (h : es.Forall₂ Encodes ps) :
    keysUpToRemove ps = (es.takeWhile (·.keyType ≠ .removeDevice)).filterMap entryKey := by
  have hcmd {e : BufferedKey} {p : StagedPacket} (hep : Encodes e p) :
      p.packet.cmd = packetCmdRemoveDevice ↔ e.keyType = .removeDevice := by
    obtain ⟨old, rfl⟩ := hep
    cases htype : e.keyType <;> simp [encodePacket, htype, packetCmdKey, packetCmdNoop,
      packetCmdRemoveDevice]
  induction h with
  | nil => rfl
  | @cons e p es ps hep _ ih =>
    by_cases hrem : e.keyType = .removeDevice
    · simp [keysUpToRemove, hrem, (hcmd hep).mpr hrem]
    · have hp : p.packet.cmd ≠ packetCmdRemoveDevice := mt (hcmd hep).mp hrem
      rw [keysUpToRemove] at ih ⊢
      simp only [List.takeWhile_cons, hrem, hp, ne_eq, not_false_eq_true, decide_true, if_true,
        List.filterMap_cons, packetKey_of_encodes hep]
      rw [ih]

theorem filterMap_entryKey (es : List BufferedKey) :
    es.filterMap entryKey =
      (es.filter fun e => !isCommand e.keyType).map fun e =>
        ⟨e.keyType.toChar, e.key, e.serial⟩ := by
  induction es with
  | nil => rfl
  | cons e es ih => cases hcmd : isCommand e.keyType <;> simp [entryKey, hcmd, ih]

/-- The server reads the keys of a batch up to the first removal, and stops there. -/
theorem readMessage_batch (o : ByteOrder) {ps : List StagedPacket} (h : IsBatch ps) :
    let reading := readMessage ioInOnly (recvMessage (wireBytes o ps))
    (keyPackets reading.packets).map packetKeyOf = (keysUpToRemove ps).map (wireSentKey o) ∧
      ∀ oDummyPacket stop, reading.stop = some stop →
        (stop.packet oDummyPacket).cmd ≠ packetCmdKey := by
  obtain ⟨hlen, es, hes⟩ := h
  obtain ⟨hcalls, hstop⟩ := readPackets_encoded o 0 hes
  rw [readMessage_wireBytes o hlen]
  refine ⟨?_, fun oDummyPacket stop heq => ?_⟩
  · have hkeys := congrArg (List.filterMap OwnerCall.key?) hcalls
    rw [keyCalls, List.filterMap_map, List.filterMap_map] at hkeys
    have hread : OwnerCall.key? ∘ blueKeyCall 0 = some ∘ packetKeyOf := rfl
    have hmeant : (OwnerCall.key? ∘ fun e : BufferedKey => keyCall 0 e (wireKey o e.key)) =
        some ∘ fun e => (e.keyType.toChar, wireKey o e.key) := rfl
    rw [hread, hmeant, List.filterMap_eq_map, List.filterMap_eq_map] at hkeys
    rw [keysUpToRemove_of_encodes hes, filterMap_entryKey, List.map_map, hkeys]
    rfl
  · rcases hstop with ⟨-, hnone⟩ | ⟨-, p, hrem, hcmd⟩
    · rw [hnone] at heq
      cases heq
    · rw [hrem, Option.some.injEq] at heq
      subst heq
      rw [Stop.packet, hcmd]
      decide

theorem readMessage_of_reads {nIOFlags : IOCondition} (h : nIOFlags.reads) (recv : RecvResult) :
    readMessage nIOFlags recv = readMessage ioInOnly recv := by
  simp only [IOCondition.reads, Bool.and_eq_true, Bool.not_eq_true'] at h
  simp only [readMessage, h.1, h.2, ioInOnly]
  rfl

/-- Without a call of `::recv`, or when it fails, there is nothing to read. -/
theorem readMessage_of_not_reads {nIOFlags : IOCondition} {recv : RecvResult}
    (h : nIOFlags.reads = false ∨ recv = .error) :
    (readMessage nIOFlags recv).packets = [] ∧ ∀ oDummyPacket stop,
      (readMessage nIOFlags recv).stop = some stop → stop.packet oDummyPacket = oDummyPacket := by
  simp only [readMessage]
  split_ifs with hflags hin
  · exact ⟨rfl, fun _ stop heq => Option.some.inj heq ▸ rfl⟩
  · exact ⟨rfl, fun _ _ heq => heq.elim⟩
  · rcases h with h | rfl
    · have hreads : nIOFlags.reads = true := by simpa [IOCondition.reads, hflags] using hin
      exact absurd (h.symm.trans hreads) Bool.false_ne_true
    · exact ⟨rfl, fun _ stop heq => Option.some.inj heq ▸ rfl⟩

namespace RemoteSystem

section

variable {ι : Type} {peers : Peers ι} {s : RemoteSystem ι} {sid : SourceId}

theorem nextMessage_eq_some {aPackets : List StagedPacket} (h : s.nextMessage sid = some aPackets) :
    ∃ c, s.channels[sid]? = some c ∧ (s.sent c)[c.nReceived]? = some aPackets :=
  Option.bind_eq_some_iff.mp h

/-- Another dispatch of an attached source reads no packet. -/
theorem reading_of_not_takes {nIOFlags : IOCondition} {bRecvFails : Bool}
    (hatt : s.server.sources[sid]?.any (·.attached))
    (htakes : s.takes sid nIOFlags bRecvFails = false) :
    let reading := readMessage nIOFlags (s.recvResult peers sid bRecvFails)
    reading.packets = [] ∧ ∀ oDummyPacket stop,
      reading.stop = some stop → stop.packet oDummyPacket = oDummyPacket := by
  by_cases hreads : nIOFlags.reads
  · cases bRecvFails with
    | true => exact readMessage_of_not_reads (.inr rfl)
    | false =>
      have hnext : s.nextMessage sid = none := by
        simpa [takes, hatt, hreads] using htakes
      have hrecv : s.recvResult peers sid false = .received [] := by
        simp only [recvResult, hnext, Bool.false_eq_true, if_false]
        cases s.channels[sid]? <;> rfl
      rw [hrecv, readMessage_of_reads hreads]
      exact ⟨rfl, fun _ stop heq => nomatch heq⟩
  · exact readMessage_of_not_reads (.inl (Bool.eq_false_iff.mpr hreads))

end

variable {ι : Type} [DecidableEq ι] {peers : Peers ι} {s t : RemoteSystem ι} {calls : List KeyCall}

/-- What holds after a run in the course of which the manager was handed `calls`. -/
structure Delivering (peers : Peers ι) (s : RemoteSystem ι) (calls : List KeyCall) : Prop where
  cable : VirtualCable s.server
  batched : ∀ i, (s.clients i).Batched
  length : s.channels.length = s.server.sources.length
  peer : ∀ (k : ℕ) src c, s.server.sources[k]? = some src → src.attached →
    s.channels[k]? = some c → src.peer = peers.addr c.client
  /-- An attached source has the last connection of its client. -/
  last : ∀ (k : ℕ) src c, s.server.sources[k]? = some src → src.attached →
    s.channels[k]? = some c → ∀ (k' : ℕ) c', k < k' → s.channels[k']? = some c' →
      c'.client ≠ c.client
  opened : ∀ (k : ℕ) c, s.channels[k]? = some c →
    c.nSocket ≤ socketsOpened (s.clients c.client).trace
  received : ∀ (k : ℕ) c, s.channels[k]? = some c → c.nReceived ≤ (s.sent c).length
  /-- The connections of a client are those of its sockets, in order. -/
  sockets : ∀ (k k' : ℕ) c c', k < k' → s.channels[k]? = some c → s.channels[k']? = some c' →
    c.client = c'.client → c.nSocket < c'.nSocket
  handed : ∀ i, keysNamed (peers.addr i) calls =
    (s.deliveredKeys i).map (wireSentKey (peers.order i))

theorem delivering_start (peers : Peers ι) (settings : ι → ClientSettings)
    (enabledEventClasses : EventClass → Bool) (windows : Window → WindowState) :
    Delivering peers (start settings enabledEventClasses windows) [] where
  cable := virtualCable_start enabledEventClasses windows
  batched i := batched_new ..
  length := rfl
  peer k src c hk := by simp [start, GtkBackend.start] at hk
  last k src c hk := by simp [start, GtkBackend.start] at hk
  opened k c hc := by simp [start] at hc
  received k c hc := by simp [start] at hc
  sockets k k' c c' _ hc := by simp [start] at hc
  handed i := rfl

/-! ### A client does something -/

theorem Delivering.exists_trace (h : Delivering peers s calls) (op : RemoteOp ι) (i : ι) :
    (s.clientsAfter op i).Batched ∧
      ∃ es, (s.clientsAfter op i).trace = es ++ (s.clients i).trace := by
  have hsame : (s.clients i).Batched ∧ ∃ es, (s.clients i).trace = es ++ (s.clients i).trace :=
    ⟨h.batched i, [], rfl⟩
  cases op with
  | accept | dispatch | ui => exact hsame
  | client j op =>
    rw [clientsAfter]
    cases hstep : (s.clients j).step op with
    | error e => exact hsame
    | ok t =>
      dsimp only
      by_cases hij : i = j
      · subst hij
        obtain ⟨hfault, rfl⟩ := step_eq_ok.mp hstep
        have hc := ((h.batched i).alive (by simp [hfault])).1.coherent
        rw [Function.update_self]
        exact ⟨(h.batched i).perform hfault op, exists_trace_perform hc op⟩
      · rw [Function.update_of_ne hij]
        exact hsame

/-- What the server has received stays the same. -/
theorem Delivering.client (h : Delivering peers s calls) (op : RemoteOp ι) :
    Delivering peers { s with clients := s.clientsAfter op } calls := by
  let t : RemoteSystem ι := { s with clients := s.clientsAfter op }
  have hreceived (k : ℕ) (c : Channel ι) (hc : s.channels[k]? = some c) :
      c.nReceived ≤ (t.sent c).length ∧ t.received c = s.received c := by
    obtain ⟨es, hes⟩ := (h.exists_trace op c.client).2
    obtain ⟨more, hmore⟩ := messages_prefix c.nSocket es (s.clients c.client).trace
    have hsent : t.sent c = s.sent c ++ more := by
      change messages c.nSocket (s.clientsAfter op c.client).trace = _
      rw [hes, ← hmore, sent]
    have hle := h.received k c hc
    rw [RemoteSystem.received, hsent, List.take_append_of_le_length hle, List.length_append]
    exact ⟨by omega, rfl⟩
  refine ⟨h.cable, fun i => (h.exists_trace op i).1, h.length, h.peer, h.last, fun k c hc => ?_,
    fun k c hc => (hreceived k c hc).1, h.sockets, fun i => ?_⟩
  · obtain ⟨es, hes⟩ := (h.exists_trace op c.client).2
    change c.nSocket ≤ socketsOpened (s.clientsAfter op c.client).trace
    rw [hes]
    exact (h.opened k c hc).trans (socketsOpened_le_append ..)
  · rw [h.handed i, deliveredKeys, deliveredKeys]
    congr 1
    refine List.flatMap_congr fun c hmem => ?_
    obtain ⟨k, hk⟩ := List.mem_iff_getElem?.mp (List.mem_of_mem_filter hmem)
    rw [(hreceived k c hk).2]

/-! ### A client connects -/

theorem Delivering.accept (h : Delivering peers s calls) {i : ι} {nSocket nClientFD : ℕ}
    (hconnects : s.Connects i nSocket) {server : Server}
    (ht : s.server.step peers.serverOrder (.accept nClientFD (peers.addr i)) = .ok server) :
    Delivering peers { s with server, channels := s.channels ++ [⟨i, nSocket, 0⟩] } calls := by
  have hchannels (k : ℕ) : (s.channels ++ [⟨i, nSocket, 0⟩])[k]? =
      if k = s.channels.length then some ⟨i, nSocket, 0⟩ else s.channels[k]? :=
    getElem?_append_singleton ..
  -- a source that stays attached is not one of this client
  have hattached (k : ℕ) (src : BlueServerReceiveSource) (hk : server.sources[k]? = some src)
      (hatt : src.attached) : (k ≠ s.channels.length ∧ s.server.sources[k]? = some src ∧
        src.peer ≠ peers.addr i) ∨ k = s.channels.length ∧ src.peer = peers.addr i := by
    rcases h.cable.attached_step ht hk hatt with ⟨hold, hne⟩ | ⟨hlast, nFD, heq⟩
    · refine .inl ⟨?_, hold, fun hpeer => hne nClientFD (by rw [hpeer])⟩
      rw [h.length]
      exact (List.getElem?_eq_some_iff.mp hold).1.ne
    · exact .inr ⟨hlast.trans h.length.symm, (SystemOp.accept.inj heq).2.symm⟩
  refine ⟨(h.cable.step ht).1, h.batched, ?_, fun k src c hk hatt hc => ?_,
    fun k src c hk hatt hc k' c' hlt hc' => ?_, fun k c hc => ?_, fun k c hc => ?_,
    fun k k' c c' hlt hc hc' heq => ?_, fun j => ?_⟩
  · exact (List.length_append.trans (congrArg (· + 1) h.length)).trans
      (length_doServerAcceptClient ht).symm
  · rw [hchannels] at hc
    rcases hattached k src hk hatt with ⟨hne, hold, -⟩ | ⟨heq, hpeer⟩
    · rw [if_neg hne] at hc
      exact h.peer k src c hold hatt hc
    · rw [if_pos heq] at hc
      obtain rfl := Option.some.inj hc
      exact hpeer
  · rw [hchannels] at hc hc'
    rcases hattached k src hk hatt with ⟨hne, hold, hpeer⟩ | ⟨heq, -⟩
    · rw [if_neg hne] at hc
      split_ifs at hc' with hk'
      · obtain rfl := Option.some.inj hc'
        rintro rfl
        exact hpeer (h.peer k src c hold hatt hc)
      · exact h.last k src c hold hatt hc k' c' hlt hc'
    · rw [if_neg (by omega), List.getElem?_eq_none (by omega)] at hc'
      cases hc'
  · rw [hchannels] at hc
    split_ifs at hc
    · obtain rfl := Option.some.inj hc
      exact hconnects.2.1
    · exact h.opened k c hc
  · rw [hchannels] at hc
    split_ifs at hc
    · obtain rfl := Option.some.inj hc
      exact Nat.zero_le _
    · exact h.received k c hc
  · rw [hchannels] at hc hc'
    split_ifs at hc hc' with hk hk' hk'
    · omega
    · rw [List.getElem?_eq_none (by omega)] at hc'
      cases hc'
    · obtain rfl := Option.some.inj hc'
      exact hconnects.2.2 c (List.mem_of_getElem? hc) heq
    · exact h.sockets k k' c c' hlt hc hc' heq
  · rw [h.handed j, deliveredKeys, deliveredKeys, List.filter_append, List.flatMap_append]
    -- nothing has been received over the new connection
    by_cases hij : i = j <;> simp [hij, RemoteSystem.received, sent]

/-! ### The server receives -/

/-- One more message has been received over the last connection of a client. -/
theorem deliveredKeys_modify {sid : ℕ} {c : Channel ι} (hc : s.channels[sid]? = some c)
    (hlast : ∀ (k' : ℕ) c', sid < k' → s.channels[k']? = some c' → c'.client ≠ c.client)
    {aPackets : List StagedPacket} (hnext : (s.sent c)[c.nReceived]? = some aPackets)
    (server : Server) (i : ι) :
    deliveredKeys { s with
      server
      channels := s.channels.modify sid fun c => { c with nReceived := c.nReceived + 1 } } i =
        s.deliveredKeys i ++ if c.client = i then keysUpToRemove aPackets else [] := by
  obtain ⟨hlt, hget⟩ := List.getElem?_eq_some_iff.mp hc
  have hsplit : s.channels = s.channels.take sid ++ c :: s.channels.drop (sid + 1) := by
    rw [← hget, List.getElem_cons_drop, List.take_append_drop]
  have hmodify : (s.channels.modify sid fun c => { c with nReceived := c.nReceived + 1 }) =
      s.channels.take sid ++ { c with nReceived := c.nReceived + 1 } ::
        s.channels.drop (sid + 1) := by
    rw [List.modify_eq_take_cons_drop hlt, hget]
  have hafter : (s.channels.drop (sid + 1)).filter (·.client = c.client) = [] := by
    refine List.filter_eq_nil_iff.mpr fun c' hmem => ?_
    obtain ⟨n, hn⟩ := List.mem_iff_getElem?.mp hmem
    rw [List.getElem?_drop] at hn
    simpa using hlast (sid + 1 + n) c' (by omega) hn
  have htake : (s.sent c).take (c.nReceived + 1) = (s.sent c).take c.nReceived ++ [aPackets] := by
    rw [List.take_add_one, hnext]
    rfl
  simp only [deliveredKeys, hmodify]
  conv_rhs => rw [hsplit]
  split_ifs with hi
  · subst hi
    simp only [List.filter_append, List.filter_cons, decide_true, if_true, hafter,
      List.flatMap_append, List.flatMap_singleton]
    have hreceived : (s.sent c).take (c.nReceived + 1) = s.received c ++ [aPackets] := htake
    simp only [RemoteSystem.received, sent] at hreceived ⊢
    rw [hreceived]
    simp [List.append_assoc]
  · simp [hi, RemoteSystem.received, sent]

variable {sid : ℕ} {nIOFlags : IOCondition} {bRecvFails : Bool} {oDummyPacket : KeyPacket}

/-- What a dispatch reads that takes a message off its connection. -/
theorem Delivering.reading_of_takes (h : Delivering peers s calls)
    (htakes : s.takes sid nIOFlags bRecvFails) :
    let reading := readMessage nIOFlags (s.recvResult peers sid bRecvFails)
    ∃ c aPackets, s.channels[sid]? = some c ∧ (s.sent c)[c.nReceived]? = some aPackets ∧
      (keyPackets reading.packets).map packetKeyOf =
        (keysUpToRemove aPackets).map (wireSentKey (peers.order c.client)) ∧
      ∀ oDummyPacket stop, reading.stop = some stop →
        (stop.packet oDummyPacket).cmd ≠ packetCmdKey := by
  simp only [takes, Bool.and_eq_true, Bool.not_eq_true'] at htakes
  obtain ⟨⟨⟨-, hreads⟩, hfails⟩, hsome⟩ := htakes
  obtain ⟨aPackets, hnext⟩ := Option.isSome_iff_exists.mp hsome
  obtain ⟨c, hc, hget⟩ := nextMessage_eq_some hnext
  have hrecv : s.recvResult peers sid bRecvFails =
      recvMessage (wireBytes (peers.order c.client) aPackets) := by
    simp only [recvResult, hfails, hc, hnext, Bool.false_eq_true, if_false]
  rw [hrecv, readMessage_of_reads hreads]
  exact ⟨c, aPackets, hc, hget, readMessage_batch _
    ((h.batched c.client).sends.isBatch (List.mem_of_getElem? hget))⟩

/-- The connections stay the same but for what has been received. -/
theorem Delivering.channelsAfter_dispatch (h : Delivering peers s calls)
    (oDummyPacket : KeyPacket) {k : ℕ} {c : Channel ι}
    (hc : (s.channelsAfter (.dispatch sid nIOFlags bRecvFails oDummyPacket))[k]? = some c) :
    ∃ c₀, s.channels[k]? = some c₀ ∧ c.client = c₀.client ∧ c.nSocket = c₀.nSocket ∧
      c.nReceived ≤ (s.sent c₀).length := by
  rw [channelsAfter] at hc
  split_ifs at hc with htakes
  · rw [List.getElem?_modify] at hc
    obtain ⟨c₀, hc₀, rfl⟩ := Option.map_eq_some_iff.mp hc
    refine ⟨c₀, hc₀, ?_⟩
    split_ifs with hk
    · obtain ⟨c₁, aPackets, hc₁, hget, -⟩ := h.reading_of_takes htakes
      obtain rfl := Option.some.inj (hc₀.symm.trans (hk ▸ hc₁))
      exact ⟨rfl, rfl, (List.getElem?_eq_some_iff.mp hget).1⟩
    · exact ⟨rfl, rfl, h.received k c₀ hc₀⟩
  · exact ⟨c, hc, rfl, rfl, h.received k c hc⟩

/-- The keys that a dispatch hands on are those of the message that it takes off the connection. -/
theorem Delivering.handed_dispatch (h : Delivering peers s calls)
    (hdummy : oDummyPacket.cmd ≠ packetCmdKey) {server : Server}
    (ht : s.server.step peers.serverOrder
      (.dispatch sid nIOFlags (s.recvResult peers sid bRecvFails) oDummyPacket) = .ok server)
    (i : ι) :
    keysNamed (peers.addr i) (calls ++ GtkBackend.handedKeys peers.serverOrder s.server
      (.dispatch sid nIOFlags (s.recvResult peers sid bRecvFails) oDummyPacket)) =
        (deliveredKeys { s with
          server
          channels := s.channelsAfter (.dispatch sid nIOFlags bRecvFails oDummyPacket) } i).map
            (wireSentKey (peers.order i)) := by
  rw [keysNamed_append, h.handed i, channelsAfter]
  cases hsrc : s.server.sources[sid]? with
  | none =>
    have htakes : s.takes sid nIOFlags bRecvFails = false := by simp [takes, hsrc]
    rw [handedKeys_of_not_attached (fun src hk => absurd (hsrc.symm.trans hk) (by simp)) ht, htakes]
    simp only [keysNamed_nil, List.append_nil, Bool.false_eq_true, if_false]
    rfl
  | some src =>
    cases hatt : src.attached with
    | false =>
      have htakes : s.takes sid nIOFlags bRecvFails = false := by simp [takes, hsrc, hatt]
      rw [handedKeys_of_not_attached
        (fun src' hk => Option.some.inj (hsrc.symm.trans hk) ▸ hatt) ht, htakes]
      simp only [keysNamed_nil, List.append_nil, Bool.false_eq_true, if_false]
      rfl
    | true =>
      cases htakes : s.takes sid nIOFlags bRecvFails with
      | false =>
        have hattached : s.server.sources[sid]?.any (·.attached) := by rw [hsrc]; exact hatt
        obtain ⟨hpackets, hstop⟩ := reading_of_not_takes hattached htakes
        rw [h.cable.keysNamed_dispatch hsrc hatt
          (fun stop heq => (hstop oDummyPacket stop heq).symm ▸ hdummy) ht, hpackets]
        simp only [keyPackets, List.filter_nil, List.map_nil, ite_self, List.append_nil,
          Bool.false_eq_true, if_false]
        rfl
      | true =>
        obtain ⟨c, aPackets, hc, hget, hkeys, hstop⟩ := h.reading_of_takes htakes
        have hpeer := h.peer sid src c hsrc hatt hc
        have hclient : src.peer.1 = peers.addr i ↔ c.client = i := by
          rw [hpeer, Subtype.val_inj, peers.injective.eq_iff]
        rw [h.cable.keysNamed_dispatch hsrc hatt (hstop oDummyPacket) ht, hkeys, if_pos rfl,
          deliveredKeys_modify hc (h.last sid src c hsrc hatt hc) hget, List.map_append]
        congr 1
        split_ifs with hi hi' hi'
        · rw [hclient.mp hi]
        · exact absurd (hclient.mp hi) hi'
        · exact absurd (hclient.mpr hi') hi
        · rfl

theorem Delivering.dispatch (h : Delivering peers s calls)
    (hdummy : oDummyPacket.cmd ≠ packetCmdKey) {server : Server}
    (ht : s.server.step peers.serverOrder
      (.dispatch sid nIOFlags (s.recvResult peers sid bRecvFails) oDummyPacket) = .ok server) :
    Delivering peers { s with
      server, channels := s.channelsAfter (.dispatch sid nIOFlags bRecvFails oDummyPacket) }
        (calls ++ GtkBackend.handedKeys peers.serverOrder s.server
          (.dispatch sid nIOFlags (s.recvResult peers sid bRecvFails) oDummyPacket)) := by
  have hattached (k : ℕ) (src : BlueServerReceiveSource) (hk : server.sources[k]? = some src)
      (hatt : src.attached) : s.server.sources[k]? = some src := by
    rcases h.cable.attached_step ht hk hatt with ⟨hold, -⟩ | ⟨-, nFD, heq⟩
    · exact hold
    · cases heq
  refine ⟨(h.cable.step ht).1, h.batched, ?_, fun k src c hk hatt hc => ?_,
    fun k src c hk hatt hc k' c' hlt hc' => ?_, fun k c hc => ?_, fun k c hc => ?_,
    fun k k' c c' hlt hc hc' heq => ?_, h.handed_dispatch hdummy ht⟩
  · rw [h.cable.length_sources ht (by simp), ← h.length, channelsAfter]
    split_ifs
    · exact List.length_modify ..
    · rfl
  · obtain ⟨c₀, hc₀, hclient, -⟩ := h.channelsAfter_dispatch oDummyPacket hc
    rw [hclient]
    exact h.peer k src c₀ (hattached k src hk hatt) hatt hc₀
  · obtain ⟨c₀, hc₀, hclient, -⟩ := h.channelsAfter_dispatch oDummyPacket hc
    obtain ⟨c₀', hc₀', hclient', -⟩ := h.channelsAfter_dispatch oDummyPacket hc'
    rw [hclient, hclient']
    exact h.last k src c₀ (hattached k src hk hatt) hatt hc₀ k' c₀' hlt hc₀'
  · obtain ⟨c₀, hc₀, hclient, hsocket, -⟩ := h.channelsAfter_dispatch oDummyPacket hc
    rw [hclient, hsocket]
    exact h.opened k c₀ hc₀
  · obtain ⟨c₀, hc₀, hclient, hsocket, hle⟩ := h.channelsAfter_dispatch oDummyPacket hc
    rw [sent, hclient, hsocket]
    exact hle
  · obtain ⟨c₀, hc₀, hclient, hsocket, -⟩ := h.channelsAfter_dispatch oDummyPacket hc
    obtain ⟨c₀', hc₀', hclient', hsocket', -⟩ := h.channelsAfter_dispatch oDummyPacket hc'
    rw [hsocket, hsocket']
    exact h.sockets k k' c₀ c₀' hlt hc₀ hc₀' (hclient ▸ hclient' ▸ heq)

/-! ### Runs -/

/-- **One step.** -/
theorem Delivering.step (h : Delivering peers s calls) {op : RemoteOp ι} (hclean : op.Clean)
    (ht : s.step peers op = .ok t) : Delivering peers t (calls ++ s.handedKeys peers op) := by
  cases op with
  | client i op =>
    obtain rfl := Except.ok.inj ht
    rw [handedKeys, serverOp, List.append_nil]
    exact h.client (.client i op)
  | accept i nSocket nClientFD =>
    by_cases hconnects : s.Connects i nSocket
    · simp only [RemoteSystem.step, handedKeys, serverOp, channelsAfter, hconnects, if_true] at ht ⊢
      obtain ⟨server, hserver, rfl⟩ := Run.map_eq_ok.mp ht
      rw [handedKeys_eq_nil (by simp) hserver, List.append_nil]
      exact h.accept hconnects hserver
    · simp only [RemoteSystem.step, handedKeys, serverOp, hconnects, if_false] at ht ⊢
      obtain rfl := Except.ok.inj ht
      rw [List.append_nil]
      exact h
  | dispatch sid nIOFlags bRecvFails oDummyPacket =>
    obtain ⟨server, hserver, rfl⟩ := Run.map_eq_ok.mp ht
    exact h.dispatch hclean hserver
  | ui op =>
    obtain ⟨server, hserver, rfl⟩ := Run.map_eq_ok.mp ht
    have hsources := sources_ui hserver
    simp only [handedKeys, serverOp, handedKeys_eq_nil (by simp) hserver, List.append_nil]
    refine ⟨(h.cable.step hserver).1, h.batched, ?_, ?_, ?_, h.opened, h.received, h.sockets,
      h.handed⟩
    · exact h.length.trans (congrArg List.length hsources).symm
    · exact fun k src c hk => h.peer k src c (hsources ▸ hk)
    · exact fun k src c hk => h.last k src c (hsources ▸ hk)

/-- The server received the keys from what the client sent. -/
theorem Delivering.sublist_acceptedKeys (h : Delivering peers s calls) (i : ι) :
    (s.deliveredKeys i).Sublist (acceptedKeys (s.clients i).trace) := by
  have hmessage (ps : List StagedPacket) : (keysUpToRemove ps).Sublist (ps.filterMap packetKey) :=
    (List.takeWhile_sublist _).filterMap _
  have hchannel (c : Channel ι) :
      ((s.received c).flatMap keysUpToRemove).Sublist (messageKeys (s.sent c)) := by
    rw [messageKeys, List.filterMap_flatten]
    exact (List.Sublist.flatMap_right _ fun ps _ => hmessage ps).trans
      ((List.take_sublist _ _).flatMap _)
  -- the connections of the client are some of its sockets, in order
  let ns := (s.channels.filter (·.client = i)).map Channel.nSocket
  have hsorted : ns.Pairwise (· < ·) := by
    have hpairs : s.channels.Pairwise fun c c' =>
        c.client = c'.client → c.nSocket < c'.nSocket := by
      refine List.pairwise_iff_getElem.mpr fun k k' hk hk' hlt heq => ?_
      exact h.sockets k k' _ _ hlt (List.getElem?_eq_getElem hk) (List.getElem?_eq_getElem hk') heq
    refine List.pairwise_map.mpr ((hpairs.filter _).imp_of_mem fun hc hc' hlt => hlt ?_)
    simp only [List.mem_filter, decide_eq_true_eq] at hc hc'
    rw [hc.2, hc'.2]
  have hsub : ns.Sublist (List.range (socketsOpened (s.clients i).trace + 1)) := by
    refine List.sublist_of_subperm_of_sortedLE (List.subperm_of_subset hsorted.nodup ?_)
      hsorted.sortedLT.sortedLE (List.sortedLT_range _).sortedLE
    intro n hn
    obtain ⟨c, hc, rfl⟩ := List.mem_map.mp hn
    simp only [List.mem_filter, decide_eq_true_eq] at hc
    obtain ⟨k, hk⟩ := List.mem_iff_getElem?.mp hc.1
    have hle := h.opened k c hk
    rw [hc.2] at hle
    exact List.mem_range.mpr (Nat.lt_succ_of_le hle)
  rw [acceptedKeys_eq_flatMap]
  refine List.Sublist.trans ?_ (hsub.flatMap _)
  rw [List.flatMap_map]
  refine List.Sublist.flatMap_right _ fun c hc => ?_
  simp only [List.mem_filter, decide_eq_true_eq] at hc
  rw [← hc.2]
  exact hchannel c

/-- **Delivery.** After any run of clients, server, windows and listeners, the keys that the manager
has been handed for the device of a client are those of the messages that the server has received
from it, in order. They are a subsequence of the keys that `::send` has accepted from this
client. -/
theorem keysNamed_run (peers : Peers ι) (settings : ι → ClientSettings)
    (enabledEventClasses : EventClass → Bool) (windows : Window → WindowState)
    {ops : List (RemoteOp ι)} (hclean : ∀ op ∈ ops, op.Clean) {t : RemoteSystem ι}
    (hrun : Run.exec (RemoteSystem.step peers) (start settings enabledEventClasses windows) ops =
      .ok t) (i : ι) :
    keysNamed (peers.addr i) (Run.trace (RemoteSystem.step peers) (handedKeys peers)
        (start settings enabledEventClasses windows) ops) =
      (t.deliveredKeys i).map (wireSentKey (peers.order i)) ∧
    (t.deliveredKeys i).Sublist (acceptedKeys (t.clients i).trace) := by
  have hguard : Run.Guarded (RemoteSystem.step peers) (fun _ op => op.Clean)
      (start settings enabledEventClasses windows) ops :=
    Run.guarded_of_forall_mem fun op hop _ => hclean op hop
  have h := Run.invariant_trace_of_guarded (handedKeys peers) (P := Delivering peers)
    (fun s calls op t h hclean ht => h.step hclean ht)
    (delivering_start peers settings enabledEventClasses windows) hguard hrun
  rw [List.nil_append] at h
  exact ⟨h.handed i, h.sublist_acceptedKeys i⟩

/-! ### Clients that send nothing twice -/

/-- The client, if one does something, does not send a batch again that has been accepted. -/
def SendsOnce (s : RemoteSystem ι) : RemoteOp ι → Prop
  | .client i op => (s.clients i).SendsOnce op
  | _ => True

instance (s : RemoteSystem ι) (op : RemoteOp ι) : Decidable (s.SendsOnce op) :=
  match op with
  | .client i op => inferInstanceAs (Decidable ((s.clients i).SendsOnce op))
  | .accept .. | .dispatch .. | .ui _ => isTrue trivial

/-- What is known of a client that sends nothing twice, also once it has died. -/
structure Once (s : BtKeyClient) : Prop where
  ordered : s.AtMostOnceInOrder
  nodup : (passedKeys s.trace).Nodup
  alive : s.fault ≠ some .packetsOverrun → s.SentOnce

theorem once_client (settings : ClientSettings) : Once settings.client where
  ordered := (sentOnce_new ..).atMostOnceInOrder
  nodup := .nil
  alive _ := sentOnce_new ..

theorem Once.step {c c' : BtKeyClient} (h : Once c) {op : ClientOp} (honce : c.SendsOnce op)
    (hstep : c.step op = .ok c') : Once c' := by
  obtain ⟨hfault, rfl⟩ := step_eq_ok.mp hstep
  have hs := h.alive (by simp [hfault])
  by_cases hover : c.overruns op
  · obtain ⟨hdead, oKey, htrace⟩ := (perform_cases hs.coherent hs.ring hfault op).dies hover
    refine ⟨?_, ?_, fun hne => absurd hdead hne⟩
    · simpa [AtMostOnceInOrder, htrace, eventAccepted, eventPassed] using h.ordered
    · simpa [htrace, eventPassed] using h.nodup
  · have ht := hs.step hfault (Bool.eq_false_iff.mpr hover) honce
    exact ⟨ht.atMostOnceInOrder, ht.nodup, fun _ => ht⟩

theorem once_clientsAfter {op : RemoteOp ι} (h : ∀ i, Once (s.clients i)) (honce : s.SendsOnce op)
    (i : ι) : Once (s.clientsAfter op i) := by
  cases op with
  | accept | dispatch | ui => exact h i
  | client j op =>
    rw [clientsAfter]
    cases hstep : (s.clients j).step op with
    | error e => exact h i
    | ok c =>
      dsimp only
      by_cases hij : i = j
      · subst hij
        rw [Function.update_self]
        exact (h i).step honce hstep
      · rw [Function.update_of_ne hij]
        exact h i

/-- A step does to the clients what it says. -/
theorem clients_step {op : RemoteOp ι} (ht : s.step peers op = .ok t) :
    t.clients = s.clientsAfter op := by
  rw [RemoteSystem.step] at ht
  cases hop : s.serverOp peers op with
  | none =>
    rw [hop] at ht
    obtain rfl := Except.ok.inj ht
    rfl
  | some serverOp =>
    rw [hop] at ht
    obtain ⟨server, -, rfl⟩ := Run.map_eq_ok.mp ht
    cases op with
    | client i op => cases hop
    | accept | dispatch | ui => rfl

/-- **At most once, in order, end to end.** If no client sends a batch again that has been accepted,
the keys that the manager has been handed for the device of a client are a subsequence of the keys
passed to `sendKeyToServer` of this client, at most one for each call. -/
theorem sublist_passedKeys_run (peers : Peers ι) (settings : ι → ClientSettings)
    (enabledEventClasses : EventClass → Bool) (windows : Window → WindowState)
    {ops : List (RemoteOp ι)} (hclean : ∀ op ∈ ops, op.Clean)
    (honce : Run.Guarded (RemoteSystem.step peers) SendsOnce
      (start settings enabledEventClasses windows) ops) {t : RemoteSystem ι}
    (hrun : Run.exec (RemoteSystem.step peers) (start settings enabledEventClasses windows) ops =
      .ok t) (i : ι) :
    (passedKeys (t.clients i).trace).Nodup ∧
      ∃ ks : List SentKey, ks.Sublist (passedKeys (t.clients i).trace) ∧
        keysNamed (peers.addr i) (Run.trace (RemoteSystem.step peers) (handedKeys peers)
          (start settings enabledEventClasses windows) ops) =
            ks.map (wireSentKey (peers.order i)) := by
  have hguard : Run.Guarded (RemoteSystem.step peers) (fun s op => op.Clean ∧ s.SendsOnce op)
      (start settings enabledEventClasses windows) ops :=
    (Run.guarded_of_forall_mem fun op hop _ => hclean op hop).and honce
  have h := Run.invariant_trace_of_guarded (handedKeys peers)
    (P := fun s calls => Delivering peers s calls ∧ ∀ i, Once (s.clients i))
    (fun s calls op t h hop ht => ⟨h.1.step hop.1 ht, fun i => by
      rw [clients_step ht]
      exact once_clientsAfter h.2 hop.2 i⟩)
    ⟨delivering_start peers settings enabledEventClasses windows, fun i => once_client _⟩
    hguard hrun
  rw [List.nil_append] at h
  exact ⟨(h.2 i).nodup, t.deliveredKeys i,
    (h.1.sublist_acceptedKeys i).trans (h.2 i).ordered, h.1.handed i⟩

/-- Two clients, on hosts of different byte orders. -/
def twoPeers : Peers Bool where
  addr i := if i then clientAddr else ⟨0x001122334455, by decide⟩
  injective := by decide
  order i := if i then .little else .big
  serverOrder := .little

def defaultSettings : ClientSettings := ⟨10000, 1000, 500, 5000, 0, zeroPackets⟩

/-- The second client connects again while its old connection is open. -/
def interleavedOps : List (RemoteOp Bool) :=
  (connectOps 0).map (.client true ·) ++ (connectOps 0).map (.client false ·) ++
    [.accept true 1 5, .client true (.sendKeyToServer .press 30 .accepted), .accept false 1 6,
      .client false (.sendKeyToServer .press 44 .accepted),
      .dispatch 1 ioInOnly false ⟨0, 0, 1, 0, 0⟩, .client false .disconnectFromServer,
      .client false (.connectToServer 1 7 (.opened 5 .connected)),
      .accept false 2 7, .client false (.sendKeyToServer .release 44 .accepted),
      .dispatch 2 ioInOnly false ⟨0, 0, 1, 0, 0⟩, .dispatch 0 ioInOnly false ⟨0, 0, 1, 0, 0⟩]

theorem keysNamed_interleavedOps : ∃ t,
    Run.exec (RemoteSystem.step twoPeers) (start (fun _ => defaultSettings) (fun _ => true)
      fun _ => ⟨true, false⟩) interleavedOps = .ok t ∧
    keysNamed (twoPeers.addr false) (Run.trace (RemoteSystem.step twoPeers) (handedKeys twoPeers)
      (start (fun _ => defaultSettings) (fun _ => true) fun _ => ⟨true, false⟩) interleavedOps) =
        [(keyPress, 0x2c000000), (keyRelease, 0x2c000000)] := by
  have hview : (Run.exec (RemoteSystem.step twoPeers) (start (fun _ => defaultSettings)
      (fun _ => true) fun _ => ⟨true, false⟩) interleavedOps).toOption.map
        (fun t => (t.deliveredKeys false).map (wireSentKey .big)) =
          some [(keyPress, 0x2c000000), (keyRelease, 0x2c000000)] := by decide +kernel
  obtain ⟨t, hrun, hkeys⟩ := Run.exists_exec_of_view hview
  have hclean : ∀ op ∈ interleavedOps, op.Clean := by
    simp [interleavedOps, connectOps, RemoteOp.Clean, packetCmdKey]
  exact ⟨t, hrun, (keysNamed_run twoPeers _ _ _ hclean hrun false).1.trans hkeys⟩

theorem sublist_passedKeys_interleavedOps : ∃ t,
    Run.exec (RemoteSystem.step twoPeers) (start (fun _ => defaultSettings) (fun _ => true)
      fun _ => ⟨true, false⟩) interleavedOps = .ok t ∧
    passedKeys (t.clients true).trace = [⟨keyPress, 30, 0⟩] ∧
    ∃ ks : List SentKey, ks.Sublist (passedKeys (t.clients true).trace) ∧
      keysNamed (twoPeers.addr true) (Run.trace (RemoteSystem.step twoPeers) (handedKeys twoPeers)
        (start (fun _ => defaultSettings) (fun _ => true) fun _ => ⟨true, false⟩) interleavedOps) =
          ks.map (wireSentKey .little) := by
  have hview : (Run.exec (RemoteSystem.step twoPeers) (start (fun _ => defaultSettings)
      (fun _ => true) fun _ => ⟨true, false⟩) interleavedOps).toOption.map
        (fun t => passedKeys (t.clients true).trace) = some [⟨keyPress, 30, 0⟩] := by decide +kernel
  obtain ⟨t, hrun, hpassed⟩ := Run.exists_exec_of_view hview
  have hclean : ∀ op ∈ interleavedOps, op.Clean := by
    simp [interleavedOps, connectOps, RemoteOp.Clean, packetCmdKey]
  have honce : Run.Guarded (RemoteSystem.step twoPeers) SendsOnce (start (fun _ => defaultSettings)
      (fun _ => true) fun _ => ⟨true, false⟩) interleavedOps := by decide +kernel
  exact ⟨t, hrun, hpassed, (sublist_passedKeys_run twoPeers _ _ _ hclean honce hrun true).2⟩

end RemoteSystem

end StmmInputBt
