import StmmInputBt.Client.Sending
import StmmInputBt.Client.Link

/-!
# The messages of the client

Every batch that `::send` accepts leaves the client as one message on its current socket. The
sockets are counted in the order in which `::socket` returned them; the history of the client says
which message went out on which of them.

## Main definitions

* `BtKeyClient.socketsOpened`, `BtKeyClient.messages`: the sockets so far, and the messages on one
  of them.
* `IsBatch`: packets that encode entries, no more than `m_aPackets` has room for.

## Main results

* `BtKeyClient.acceptedKeys_eq_flatMap`: the accepted keys are those of the messages, socket by
  socket.
* `BtKeyClient.messages_prefix`: a message on a socket is never taken back.
* `BtKeyClient.Batched.perform`: every message encodes entries, whatever happens to the client.
-/

namespace StmmInputBt

/-- Packets that encode entries, as many as `m_aPackets` has room for. -/
structure IsBatch (ps : List StagedPacket) : Prop where
  length_le : ps.length ≤ sendBufferSize
  encodes : ∃ es : List BufferedKey, es.Forall₂ Encodes ps

namespace BtKeyClient

variable {s t u v : BtKeyClient} {op : ClientOp} {res : SendResult}

/-- How many descriptors `::socket` has returned. -/
def socketsOpened : List ClientEvent → ℕ
  | [] => 0
  | .opened _ :: tr => socketsOpened tr + 1
  | .closed _ :: tr | .established _ :: tr | .passed _ :: tr | .put .. :: tr | .sent .. :: tr
  | .stateChanged _ :: tr | .error _ :: tr => socketsOpened tr

/-- The messages on the socket with the given number, the earliest first. -/
def messages (nSocket : ℕ) : List ClientEvent → List (List StagedPacket)
  | [] => []
  | .sent _ aPackets .accepted :: tr =>
    if socketsOpened tr = nSocket then messages nSocket tr ++ [aPackets] else messages nSocket tr
  | .sent _ _ (.failed _) :: tr | .sent _ _ .again :: tr | .opened _ :: tr | .closed _ :: tr
  | .established _ :: tr | .passed _ :: tr | .put .. :: tr | .stateChanged _ :: tr
  | .error _ :: tr => messages nSocket tr

/-- The keys in messages. -/
def messageKeys (ms : List (List StagedPacket)) : List SentKey := ms.flatten.filterMap packetKey

@[simp] theorem messageKeys_nil : messageKeys [] = [] := rfl

@[simp] theorem messageKeys_append (ms ms' : List (List StagedPacket)) :
    messageKeys (ms ++ ms') = messageKeys ms ++ messageKeys ms' := by
  simp [messageKeys]

@[simp] theorem messageKeys_singleton (ps : List StagedPacket) :
    messageKeys [ps] = ps.filterMap packetKey := by
  simp [messageKeys]

theorem socketsOpened_le_append (es tr : List ClientEvent) :
    socketsOpened tr ≤ socketsOpened (es ++ tr) := by
  induction es with
  | nil => exact le_rfl
  | cons e es ih => cases e <;> first | exact ih | exact ih.trans (Nat.le_succ _)

/-- Nothing has been sent on a socket that is still to come. -/
theorem messages_eq_nil {tr : List ClientEvent} {nSocket : ℕ} (h : socketsOpened tr < nSocket) :
    messages nSocket tr = [] := by
  induction tr with
  | nil => rfl
  | cons e tr ih =>
    cases e with
    | sent nFD aPackets res =>
      cases res with
      | accepted =>
        have hne : socketsOpened tr ≠ nSocket := Nat.ne_of_lt h
        rw [messages, if_neg hne]
        exact ih h
      | again | failed => exact ih h
    | opened nFD => exact ih ((Nat.lt_succ_self _).trans h)
    | closed | established | passed | put | stateChanged | error => exact ih h

/-- What has gone out on a socket stays. -/
theorem messages_prefix (nSocket : ℕ) (es tr : List ClientEvent) :
    messages nSocket tr <+: messages nSocket (es ++ tr) := by
  induction es with
  | nil => exact List.prefix_rfl
  | cons e es ih =>
    cases e with
    | sent nFD aPackets res =>
      cases res with
      | accepted =>
        simp only [List.cons_append, messages]
        split_ifs
        · exact ih.trans (List.prefix_append _ _)
        · exact ih
      | again | failed => exact ih
    | opened | closed | established | passed | put | stateChanged | error => exact ih

/-- The accepted keys are those of the messages, one socket after the other. -/
theorem acceptedKeys_eq_flatMap (tr : List ClientEvent) :
    acceptedKeys tr = (List.range (socketsOpened tr + 1)).flatMap fun nSocket =>
      messageKeys (messages nSocket tr) := by
  induction tr with
  | nil => rfl
  | cons e tr ih =>
    cases e with
    | sent nFD aPackets res =>
      rw [acceptedKeys_cons, ih]
      cases res with
      | accepted =>
        have hbefore : ∀ nSocket ∈ List.range (socketsOpened tr),
            messageKeys (messages nSocket (.sent nFD aPackets .accepted :: tr)) =
              messageKeys (messages nSocket tr) := fun nSocket hmem => by
          rw [messages, if_neg (List.mem_range.mp hmem).ne']
        rw [socketsOpened, List.range_succ, List.flatMap_append, List.flatMap_append,
          List.flatMap_congr hbefore, List.append_assoc]
        simp only [List.flatMap_singleton, messages, if_true, messageKeys_append,
          messageKeys_singleton, eventAccepted]
      | again | failed => simp only [eventAccepted, List.append_nil, socketsOpened, messages]
    | opened nFD =>
      rw [acceptedKeys_cons_of_quiet _ _ rfl, ih]
      simp only [socketsOpened]
      rw [List.range_succ (n := socketsOpened tr + 1), List.flatMap_append, List.flatMap_singleton]
      simp only [messages, messages_eq_nil (Nat.lt_succ_self (socketsOpened tr)), messageKeys_nil,
        List.append_nil]
    | closed | stateChanged | error =>
      rw [acceptedKeys_cons_of_quiet _ _ rfl, ih]
      simp only [socketsOpened, messages]
    | established | passed | put =>
      rw [acceptedKeys_cons, ih]
      simp only [eventAccepted, List.append_nil, socketsOpened, messages]

/-! ### What is in a message -/

/-- Everything that was ever given to `::send` is a batch. -/
def SendsBatches (tr : List ClientEvent) : Prop :=
  ∀ nFD aPackets res, .sent nFD aPackets res ∈ tr → IsBatch aPackets

theorem sendsBatches_cons {e : ClientEvent} {tr : List ClientEvent} :
    SendsBatches (e :: tr) ↔
      (∀ nFD aPackets res, e = .sent nFD aPackets res → IsBatch aPackets) ∧ SendsBatches tr := by
  simp only [SendsBatches, List.mem_cons]
  constructor
  · exact fun h => ⟨fun nFD aPackets res he => h nFD aPackets res (.inl he.symm),
      fun nFD aPackets res hmem => h nFD aPackets res (.inr hmem)⟩
  · rintro ⟨he, htr⟩ nFD aPackets res (rfl | hmem)
    · exact he nFD aPackets res rfl
    · exact htr nFD aPackets res hmem

theorem sendsBatches_cons_of_ne {e : ClientEvent} {tr : List ClientEvent}
    (he : ∀ nFD aPackets res, e ≠ .sent nFD aPackets res) :
    SendsBatches (e :: tr) ↔ SendsBatches tr := by
  rw [sendsBatches_cons]
  exact and_iff_right fun nFD aPackets res h => absurd h (he nFD aPackets res)

theorem sendsBatches_cons_of_quiet (e : ClientEvent) (tr : List ClientEvent) (he : e.quiet) :
    SendsBatches (e :: tr) = SendsBatches tr := by
  refine propext (sendsBatches_cons_of_ne ?_)
  rintro nFD aPackets res rfl
  cases he

theorem SendsBatches.isBatch {tr : List ClientEvent} (h : SendsBatches tr) {nSocket : ℕ}
    {aPackets : List StagedPacket} (hmem : aPackets ∈ messages nSocket tr) : IsBatch aPackets := by
  induction tr with
  | nil => cases hmem
  | cons e tr ih =>
    obtain ⟨he, htr⟩ := sendsBatches_cons.mp h
    cases e with
    | sent nFD aPackets' res =>
      cases res with
      | accepted =>
        rw [messages] at hmem
        split_ifs at hmem
        · rcases List.mem_append.mp hmem with hmem | hmem
          · exact ih htr hmem
          · exact List.mem_singleton.mp hmem ▸ he _ _ _ rfl
        · exact ih htr hmem
      | again | failed => exact ih htr hmem
    | opened | closed | established | passed | put | stateChanged | error => exact ih htr hmem

theorem Staged.isBatch (h : Staged s v) (hring : s.Ring) : IsBatch v.batch := by
  refine ⟨?_, _, h.encodes⟩
  rw [← h.encodes.length_eq, CircularBuffer.length_contents]
  exact hring.count_le

theorem Offered.sendsBatches (h : Offered s res t) (hbatch : IsBatch s.batch) :
    SendsBatches t.trace ↔ SendsBatches s.trace := by
  rw [h.trace.eq_of sendsBatches_cons_of_quiet, sendsBatches_cons]
  refine and_iff_right fun nFD aPackets res' heq => ?_
  cases heq
  exact hbatch

theorem Prepared.sendsBatches {oKey : BufferedKey} {kept : List BufferedKey}
    (h : Prepared s oKey kept u) : SendsBatches u.trace ↔ SendsBatches s.trace := by
  rcases h.trace with h | ⟨-, h⟩ <;> rw [h]
  · rw [sendsBatches_cons_of_ne (by simp), sendsBatches_cons_of_ne (by simp)]
  · rw [sendsBatches_cons_of_ne (by simp)]

/-- An operation that has room sends batches only. -/
theorem StepCase.batches (h : StepCase s op t) (hring : s.Ring) (hbatch : IsBatch s.batch)
    (hroom : s.overruns op = false) :
    IsBatch t.batch ∧ (SendsBatches t.trace ↔ SendsBatches s.trace) := by
  cases h with
  | idle _ _ hqueue _ h =>
    exact ⟨hqueue.batch ▸ hbatch, Iff.of_eq (h.eq_of sendsBatches_cons_of_quiet
      fun n tr => propext (sendsBatches_cons_of_ne (by simp)))⟩
  | ignored _ _ oKey _ h =>
    subst h
    exact ⟨hbatch, sendsBatches_cons_of_ne (by simp)⟩
  | enqueued _ _ _ oKey kept h =>
    refine ⟨?_, h.sendsBatches⟩
    rw [batch, h.packets, h.totPackets]
    exact hbatch
  | overrun _ hover => exact absurd (hroom.symm.trans hover) Bool.false_ne_true
  | sent _ _ _ _ oKey kept u v res hu hv h =>
    have hv' := hv.isBatch hu.ring
    refine ⟨h.queue.batch ▸ hv', ?_⟩
    rw [h.sendsBatches hv', hv.trace, hu.sendsBatches]
  | deferred _ _ nSourceId nIOFlags res res' hop hdisp h =>
    exact ⟨h.queue.batch ▸ hbatch, h.sendsBatches hbatch⟩
  | deferredMore _ _ nSourceId nIOFlags res' hop hdisp nElapsed v hv h =>
    have hv' := hv.isBatch ⟨hring.wf, hring.capacity⟩
    refine ⟨h.queue.batch ▸ hv', ?_⟩
    rw [h.sendsBatches hv', hv.trace]
    simp only [emit]
    rw [sendsBatches_cons]
    refine and_iff_right fun nFD aPackets res heq => ?_
    cases heq
    exact hbatch

/-- What holds of every client, also of one that has died of a write past its packets. -/
structure Batched (s : BtKeyClient) : Prop where
  sends : SendsBatches s.trace
  alive : s.fault ≠ some .packetsOverrun → s.Sane ∧ IsBatch s.batch

theorem batched_new (nTimeoutConnect nTimeoutSend nInterval nNoopAfter : ℤ) (btAddr : BitVec 48)
    (packets : Vector StagedPacket sendBufferSize) :
    (new nTimeoutConnect nTimeoutSend nInterval nNoopAfter btAddr packets).Batched where
  sends nFD aPackets res hmem := by cases hmem
  alive _ := ⟨sane_new .., by simp [batch, new], [], by simp [batch, new]⟩

theorem Batched.perform (h : s.Batched) (hfault : s.fault = none) (op : ClientOp) :
    (s.perform op).Batched := by
  obtain ⟨hs, hbatch⟩ := h.alive (by simp [hfault])
  have hcase := perform_cases hs.coherent hs.ring hfault op
  by_cases hover : s.overruns op
  · obtain ⟨hdead, oKey, htrace⟩ := hcase.dies hover
    refine ⟨?_, fun hne => absurd hdead hne⟩
    rw [htrace]
    exact (sendsBatches_cons_of_ne (by simp)).mpr h.sends
  · have hroom : s.overruns op = false := Bool.eq_false_iff.mpr hover
    obtain ⟨hbatch', hsends⟩ := hcase.batches hs.ring hbatch hroom
    exact ⟨hsends.mpr h.sends,
      fun _ => ⟨hs.step (fun _ => hroom) (step_eq_ok.mpr ⟨hfault, rfl⟩), hbatch'⟩⟩

/-- The history only grows. -/
theorem exists_trace_perform (hc : s.Coherent) (op : ClientOp) :
    ∃ es, (s.perform op).trace = es ++ s.trace := by
  by_cases hop : ∀ nSourceId, op ≠ .destroySource nSourceId
  · obtain ⟨es, h⟩ := linked_perform hc hop
    exact ⟨es, h.trace⟩
  · obtain ⟨nSourceId, rfl⟩ : ∃ nSourceId, op = .destroySource nSourceId := by
      simpa using hop
    rcases destroySource_cases (s := s) nSourceId with h | ⟨src, -, -, -, -, -, h⟩
    · exact ⟨[], congrArg trace h⟩
    · rw [perform, h]
      dsimp only
      split_ifs
      · exact ⟨[_], rfl⟩
      · exact ⟨[], rfl⟩

end BtKeyClient

end StmmInputBt
