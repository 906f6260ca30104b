import StmmInputBt.Client.Coherence

/-!
# The bounds of the client's buffers

`sendKeyToServer` makes place in the ring buffer before it writes; `sendRemoveToServer` and the
keep-alive of the interval timer write without looking. The ring buffer can be full when the
client is connected: the send timeout goes back to `STATE_CONNECTED` and keeps the keys that were
buffered while sending. A command is then one entry too many, for the ring buffer and for
`m_aPackets`.

## Main definitions

* `BtKeyClient.Bounded`: no write to a full ring buffer, none past the packets.
* `BtKeyClient.HasRoom`: the operation does not write a command to a full ring buffer.

## Main results

* `BtKeyClient.bounded_iff`.
-/

namespace StmmInputBt

namespace BtKeyClient

variable {s t u v : BtKeyClient} {op : ClientOp} {res : SendResult}

/-- Every write to the ring buffer found room. -/
def WritesFit (tr : List ClientEvent) : Prop := ∀ oKey bFull, .put oKey bFull ∈ tr → bFull = false

/-- The buffers have stayed within their bounds. -/
structure Bounded (s : BtKeyClient) : Prop where
  writes : WritesFit s.trace
  size_le : s.bufferedKeys.size ≤ sendBufferSize
  packets : s.fault ≠ some .packetsOverrun

/-- A client that is alive does not write a command to a full ring buffer. -/
def HasRoom (s : BtKeyClient) (op : ClientOp) : Prop := s.fault = none → s.overruns op = false

instance (s : BtKeyClient) (op : ClientOp) : Decidable (s.HasRoom op) :=
  inferInstanceAs (Decidable (_ → _))

theorem step_eq_ok : s.step op = .ok t ↔ s.fault = none ∧ t = s.perform op := by
  rw [step]
  cases s.fault <;> simp [eq_comm]

/-! ### The ring buffer -/

theorem Staged.trace (h : Staged s v) : v.trace = s.trace := by rw [h.eq]

/-- An operation that has room keeps the ring buffer well formed. -/
theorem StepCase.ring (h : StepCase s op t) (hring : s.Ring) (hroom : s.overruns op = false) :
    t.Ring := by
  cases h with
  | idle _ _ hqueue => exact hqueue.ring hring
  | ignored _ _ oKey _ h =>
    subst h
    exact ⟨hring.wf, hring.capacity⟩
  | enqueued _ _ _ oKey kept h => exact h.ring
  | overrun _ hover => exact absurd (hroom.symm.trans hover) Bool.false_ne_true
  | sent _ _ _ _ oKey kept u v res hu hv h => exact h.queue.ring hv.ring
  | deferred _ _ nSourceId nIOFlags res res' hop hdisp h => exact h.queue.ring hring
  | deferredMore _ _ nSourceId nIOFlags res' hop hdisp nElapsed v hv h =>
    exact h.queue.ring hv.ring

theorem Offered.fault_ne (h : Offered s res t) : t.fault ≠ some .packetsOverrun := by
  rcases h.fault with h | h <;> simp [h]

theorem StepCase.fault_ne (h : StepCase s op t) (hfault : s.fault = none)
    (hroom : s.overruns op = false) : t.fault ≠ some .packetsOverrun := by
  cases h with
  | idle _ _ _ hfault' => simp [hfault']
  | ignored _ _ oKey _ h =>
    subst h
    simp [emit, hfault]
  | enqueued _ _ _ oKey kept h => simp [h.fault, hfault]
  | overrun _ hover => exact absurd (hroom.symm.trans hover) Bool.false_ne_true
  | sent _ _ _ _ oKey kept u v res hu hv h => exact h.fault_ne
  | deferred _ _ nSourceId nIOFlags res res' hop hdisp h => exact h.fault_ne
  | deferredMore _ _ nSourceId nIOFlags res' hop hdisp nElapsed v hv h => exact h.fault_ne

/-! ### The writes -/

theorem writesFit_cons_of_ne {e : ClientEvent} {tr : List ClientEvent}
    (he : ∀ oKey, e ≠ .put oKey true) : WritesFit (e :: tr) ↔ WritesFit tr := by
  refine ⟨fun h oKey bFull hmem => h oKey bFull (List.mem_cons_of_mem _ hmem),
    fun h oKey bFull hmem => ?_⟩
  rcases List.mem_cons.mp hmem with rfl | hmem
  · cases bFull with
    | false => rfl
    | true => exact absurd rfl (he oKey)
  · exact h oKey bFull hmem

theorem writesFit_cons_of_quiet (e : ClientEvent) (tr : List ClientEvent) (he : e.quiet) :
    WritesFit (e :: tr) = WritesFit tr := by
  refine propext (writesFit_cons_of_ne ?_)
  rintro oKey rfl
  cases he

theorem Offered.writesFit (h : Offered s res t) : WritesFit t.trace ↔ WritesFit s.trace :=
  (Iff.of_eq (h.trace.eq_of writesFit_cons_of_quiet)).trans (writesFit_cons_of_ne (by simp))

theorem Prepared.writesFit {oKey : BufferedKey} {kept : List BufferedKey}
    (h : Prepared s oKey kept u) : WritesFit u.trace ↔ WritesFit s.trace := by
  rcases h.trace with h | ⟨-, h⟩ <;> rw [h]
  · rw [writesFit_cons_of_ne (by simp), writesFit_cons_of_ne (by simp)]
  · rw [writesFit_cons_of_ne (by simp)]

theorem StepCase.writesFit (h : StepCase s op t) (hroom : s.overruns op = false) :
    WritesFit t.trace ↔ WritesFit s.trace := by
  cases h with
  | idle _ _ _ _ h =>
    exact Iff.of_eq (h.eq_of writesFit_cons_of_quiet
      fun n tr => propext (writesFit_cons_of_ne (by simp)))
  | ignored _ _ oKey _ h =>
    subst h
    exact writesFit_cons_of_ne (by simp)
  | enqueued _ _ _ oKey kept h => exact h.writesFit
  | overrun _ hover => exact absurd (hroom.symm.trans hover) Bool.false_ne_true
  | sent _ _ _ _ oKey kept u v res hu hv h => rw [h.writesFit, hv.trace, hu.writesFit]
  | deferred _ _ nSourceId nIOFlags res res' hop hdisp h => exact h.writesFit
  | deferredMore _ _ nSourceId nIOFlags res' hop hdisp nElapsed v hv h =>
    rw [h.writesFit, hv.trace]
    exact writesFit_cons_of_ne (by simp)

/-! ### Runs -/

/-- What holds between two operations of a client whose buffers have stayed within bounds. -/
structure Sane (s : BtKeyClient) : Prop where
  coherent : s.Coherent
  ring : s.Ring

theorem sane_new (nTimeoutConnect nTimeoutSend nInterval nNoopAfter : ℤ) (btAddr : BitVec 48)
    (packets : Vector StagedPacket sendBufferSize) :
    (new nTimeoutConnect nTimeoutSend nInterval nNoopAfter btAddr packets).Sane :=
  ⟨coherent_new .., CircularBuffer.wf_new (by decide), by simp [new, CircularBuffer.capacity,
    CircularBuffer.new]⟩

theorem Sane.step (h : s.Sane) (hroom : s.HasRoom op) (hstep : s.step op = .ok t) : t.Sane := by
  obtain ⟨hfault, rfl⟩ := step_eq_ok.mp hstep
  exact ⟨coherent_perform h.coherent op,
    (perform_cases h.coherent h.ring hfault op).ring h.ring (hroom hfault)⟩

/-- **The bounds of the buffers.** Along a run of the client, every write to the ring buffer finds
room, the buffer never holds more than `s_nSendBufferSize` entries and no packet is written past
the end of `m_aPackets`, if and only if no removal is requested and no keep-alive packet gets due
while the client is connected with a full ring buffer. -/
theorem bounded_iff (nTimeoutConnect nTimeoutSend nInterval nNoopAfter : ℤ) (btAddr : BitVec 48)
    (packets : Vector StagedPacket sendBufferSize) (ops : List ClientOp) :
    let s := new nTimeoutConnect nTimeoutSend nInterval nNoopAfter btAddr packets
    Run.Always step Bounded s ops ↔ Run.Guarded step HasRoom s ops := by
  refine Run.always_iff_guarded_of_invariant (J := fun s => Bounded s ∧ s.Sane) (fun s h => h.1)
    ?_ ?_ ⟨⟨by simp [WritesFit, new], by simp [new, CircularBuffer.new, CircularBuffer.size],
      by simp [new]⟩, sane_new ..⟩
  · rintro s op t ⟨hb, hs⟩ hroom hstep
    have ht := hs.step hroom hstep
    obtain ⟨hfault, rfl⟩ := step_eq_ok.mp hstep
    have hcase := perform_cases hs.coherent hs.ring hfault op
    exact ⟨⟨(hcase.writesFit (hroom hfault)).mpr hb.writes, ht.ring.count_le,
      hcase.fault_ne hfault (hroom hfault)⟩, ht⟩
  · rintro s op ⟨hb, hs⟩ hroom
    simp only [HasRoom, Classical.not_imp, Bool.not_eq_false] at hroom
    obtain ⟨hfault, hover⟩ := hroom
    refine ⟨_, step_eq_ok.mpr ⟨hfault, rfl⟩, fun hb' => ?_⟩
    exact hb'.packets ((perform_cases hs.coherent hs.ring hfault op).dies hover).1

/-- The packets of a client that has sent nothing. -/
def zeroPackets : Vector StagedPacket sendBufferSize :=
  .replicate sendBufferSize ⟨⟨0, 0, 0, 0, 0⟩, 0⟩

/-- The client with the default timeouts. -/
def defaultClient : BtKeyClient := new 10000 1000 500 5000 0 zeroPackets

/-- The socket is writable. -/
def ioOutOnly : WriteCondition := ⟨true, false, false, false⟩

/-- A connection that is established in two steps, on the descriptor `5`, with the first pending
source. -/
def connectOps (nSourceId : ℕ) : List ClientOp :=
  [.connectToServer 1 7 (.opened 5 .inProgress), .dispatch nSourceId ioOutOnly .again .again]

/-- Keys have room, also once the ring buffer is full. -/
example : Run.Guarded step HasRoom defaultClient
    (connectOps 0 ++ List.replicate 22 (.sendKeyToServer .press 30 .again)) := by decide

/-- The server does not read: the first key cannot be sent, twenty more fill the ring buffer. Then
the send times out and the removal is requested. -/
def congestedRemoval : List ClientOp :=
  connectOps 0 ++ List.replicate 21 (.sendKeyToServer .press 30 .again) ++
    List.replicate 3 (.intervalTick .again) ++ [.sendRemoveToServer .again]

theorem not_bounded_congestedRemoval :
    ¬ Run.Always step Bounded defaultClient congestedRemoval := by
  intro h
  have hrun : (Run.exec step defaultClient congestedRemoval).toOption.map (·.fault) =
      some (some .packetsOverrun) := by decide
  obtain ⟨t, hexec, hfault⟩ := Run.exists_exec_of_view hrun
  exact (h.last hexec).packets hfault

end BtKeyClient

end StmmInputBt
