import StmmInputBt.Client.BufferBounds
import StmmInputBt.Foundation.Outbox

/-!
# What the client sends

The keys on their way through the client form an outbox: `sendKeyToServer` gives a key, the ring
buffer is the queue, `m_aPackets` the batch, and a `::send` that succeeds delivers the batch.
As long as a batch that has been accepted is not sent again, every operation is a few steps of
the outbox (`BtKeyClient.StepCase.outbox`), and the keys are sent at most once and in order.

A batch is sent again when the socket becomes writable after the deferred send has succeeded:
`doPendingSend` asks to be called again and keeps `m_refPendingSend`.

## Main definitions

* `BtKeyClient.acceptedKeys`, `BtKeyClient.passedKeys`: the keys accepted by `::send` and those
  passed to `sendKeyToServer`.
* `BtKeyClient.AtMostOnceInOrder`, `BtKeyClient.SendsOnce`.
* `BtKeyClient.outbox`: the outbox that a client stands for.

## Main results

* `BtKeyClient.StepCase.outbox`.
* `BtKeyClient.atMostOnceInOrder_iff`.
-/

namespace StmmInputBt

namespace BtKeyClient

variable {s t u v : BtKeyClient} {op : ClientOp} {res : SendResult}

/-! ### Keys in the history -/

/-- A key as it travels in a packet, of a certain call of `sendKeyToServer`. -/
structure SentKey where
  keyType : KeyInputType
  key : HardwareKey
  serial : ℕ
  deriving DecidableEq

/-- The key of an entry that is no command. -/
def entryKey (e : BufferedKey) : Option SentKey :=
  if isCommand e.keyType then none else some ⟨e.keyType.toChar, e.key, e.serial⟩

/-- The key of a packet with the command `KEY`. -/
def packetKey (p : StagedPacket) : Option SentKey :=
  if p.packet.cmd = packetCmdKey then some ⟨p.packet.keyType, p.packet.hardwareKey, p.serial⟩
  else none

theorem packetKey_of_encodes {e : BufferedKey} {p : StagedPacket} (h : Encodes e p) :
    packetKey p = entryKey e := by
  obtain ⟨old, rfl⟩ := h
  cases htype : e.keyType <;> simp [packetKey, entryKey, encodePacket, isCommand, htype,
    packetCmdKey, packetCmdNoop, packetCmdRemoveDevice]

theorem filterMap_packetKey_of_encodes {es : List BufferedKey} {ps : List StagedPacket}
    (h : es.Forall₂ Encodes ps) : ps.filterMap packetKey = es.filterMap entryKey := by
  induction h with
  | nil => rfl
  | cons hep _ ih => rw [List.filterMap_cons, List.filterMap_cons, packetKey_of_encodes hep, ih]

/-- The keys of the packets in `m_aPackets`. -/
def batchKeys (s : BtKeyClient) : List SentKey := s.batch.filterMap packetKey

/-- The keys that an event reports as accepted by `::send`. -/
def eventAccepted : ClientEvent → List SentKey
  | .sent _ aPackets .accepted => aPackets.filterMap packetKey
  | _ => []

/-- The key that an event reports as passed to `sendKeyToServer`. -/
def eventPassed : ClientEvent → List SentKey
  | .passed oKey => (entryKey oKey).toList
  | _ => []

/-- What an event reports about `::send`. -/
def eventSend : ClientEvent → Option SendResult
  | .sent _ _ res => some res
  | _ => none

/-- The keys accepted by `::send`, the earliest first. -/
def acceptedKeys (tr : List ClientEvent) : List SentKey := tr.reverse.flatMap eventAccepted

/-- The keys passed to `sendKeyToServer`, the earliest first. -/
def passedKeys (tr : List ClientEvent) : List SentKey := tr.reverse.flatMap eventPassed

/-- The result of the last `::send`. -/
def lastSend (tr : List ClientEvent) : Option SendResult := tr.findSome? eventSend

@[simp] theorem acceptedKeys_cons (e : ClientEvent) (tr : List ClientEvent) :
    acceptedKeys (e :: tr) = acceptedKeys tr ++ eventAccepted e := by
  simp [acceptedKeys]

@[simp] theorem passedKeys_cons (e : ClientEvent) (tr : List ClientEvent) :
    passedKeys (e :: tr) = passedKeys tr ++ eventPassed e := by
  simp [passedKeys]

@[simp] theorem lastSend_cons (e : ClientEvent) (tr : List ClientEvent) :
    lastSend (e :: tr) = (eventSend e).or (lastSend tr) := by
  cases h : eventSend e <;> simp [lastSend, h]

theorem acceptedKeys_cons_of_quiet (e : ClientEvent) (tr : List ClientEvent) (he : e.quiet) :
    acceptedKeys (e :: tr) = acceptedKeys tr := by
  cases e <;> simp_all [ClientEvent.quiet, eventAccepted]

theorem passedKeys_cons_of_quiet (e : ClientEvent) (tr : List ClientEvent) (he : e.quiet) :
    passedKeys (e :: tr) = passedKeys tr := by
  cases e <;> simp_all [ClientEvent.quiet, eventPassed]

theorem lastSend_cons_of_quiet (e : ClientEvent) (tr : List ClientEvent) (he : e.quiet) :
    lastSend (e :: tr) = lastSend tr := by
  cases e <;> simp_all [ClientEvent.quiet, eventSend]

theorem Idle.acceptedKeys (h : Idle s t) :
    acceptedKeys t.trace = BtKeyClient.acceptedKeys s.trace :=
  h.eq_of acceptedKeys_cons_of_quiet fun n tr => by simp [eventAccepted]

theorem Idle.passedKeys (h : Idle s t) : passedKeys t.trace = BtKeyClient.passedKeys s.trace :=
  h.eq_of passedKeys_cons_of_quiet fun n tr => by simp [eventPassed]

theorem Idle.lastSend (h : Idle s t) : lastSend t.trace = BtKeyClient.lastSend s.trace :=
  h.eq_of lastSend_cons_of_quiet fun n tr => by simp [eventSend]

/-- An operation that does not send leaves the pending send or gives it up. -/
theorem Idle.refPendingSend (h : Idle s t) :
    t.refPendingSend = s.refPendingSend ∨ t.refPendingSend = none := by
  cases h with
  | nothing _ hsend | connecting _ _ hsend | established _ _ hsend | timedOut _ _ hsend =>
    exact .inl hsend
  | closed _ hsend => exact .inr hsend

/-- The keys accepted by `::send` are a subsequence of those passed to `sendKeyToServer`, with at
most one packet for each call. -/
def AtMostOnceInOrder (s : BtKeyClient) : Prop :=
  (acceptedKeys s.trace).Sublist (passedKeys s.trace)

/-- The operation sends a batch with a key once more, successfully, that the last `::send` has
accepted. -/
def resends (s : BtKeyClient) : ClientOp → Bool
  | .dispatch nSourceId nIOFlags .accepted _ =>
    s.fault.isNone && s.dispatchesSend nSourceId nIOFlags &&
      lastSend s.trace = some .accepted && !s.batchKeys.isEmpty
  | _ => false

/-- The operation does not send an accepted batch again. -/
def SendsOnce (s : BtKeyClient) (op : ClientOp) : Prop := s.resends op = false

instance (s : BtKeyClient) (op : ClientOp) : Decidable (s.SendsOnce op) :=
  inferInstanceAs (Decidable (_ = _))

/-! ### The client as an outbox -/

/-- The keys in the ring buffer. -/
def queuedKeys (s : BtKeyClient) : List SentKey := s.bufferedKeys.contents.filterMap entryKey

/-- The keys of a batch that the last `::send` refused and that is going to be sent again. -/
def pendingKeys (s : BtKeyClient) : List SentKey :=
  if s.refPendingSend.isSome ∧ lastSend s.trace = some .again then s.batchKeys else []

/-- The outbox of the keys. -/
def outbox (s : BtKeyClient) : Outbox SentKey where
  given := passedKeys s.trace
  queue := s.queuedKeys
  batch := s.pendingKeys
  delivered := acceptedKeys s.trace

theorem SameQueue.queuedKeys (h : SameQueue s t) : t.queuedKeys = s.queuedKeys := by
  rw [BtKeyClient.queuedKeys, h.bufferedKeys, BtKeyClient.queuedKeys]

theorem SameQueue.batchKeys (h : SameQueue s t) : t.batchKeys = s.batchKeys := by
  rw [BtKeyClient.batchKeys, h.batch, BtKeyClient.batchKeys]

theorem Offered.acceptedKeys (h : Offered s res t) : acceptedKeys t.trace =
    BtKeyClient.acceptedKeys s.trace ++ if res = .accepted then s.batchKeys else [] := by
  rw [h.trace.eq_of acceptedKeys_cons_of_quiet, acceptedKeys_cons]
  cases res <;> simp [eventAccepted, batchKeys]

theorem Offered.passedKeys (h : Offered s res t) :
    passedKeys t.trace = BtKeyClient.passedKeys s.trace := by
  rw [h.trace.eq_of passedKeys_cons_of_quiet, passedKeys_cons]
  simp [eventPassed]

theorem Offered.lastSend (h : Offered s res t) : lastSend t.trace = some res := by
  rw [h.trace.eq_of lastSend_cons_of_quiet, lastSend_cons]
  rfl

/-- Offering a batch delivers it, keeps it for later or gives it up. -/
theorem Offered.outbox (h : Offered s res t) :
    Outbox.Steps { s.outbox with batch := s.batchKeys } t.outbox := by
  have hqueue := h.queue.queuedKeys
  have hbatch := h.queue.batchKeys
  simp only [BtKeyClient.outbox, pendingKeys, hqueue, hbatch, h.passedKeys, h.acceptedKeys,
    h.lastSend, Option.some.injEq]
  cases res with
  | accepted =>
    simp only [reduceCtorEq, and_false, if_false, if_true]
    exact .single (.deliver _)
  | again =>
    simp only [and_true, reduceCtorEq, if_false, List.append_nil]
    split_ifs
    · exact .refl
    · exact .single (.forget _)
  | failed sError =>
    simp only [reduceCtorEq, and_false, if_false, List.append_nil]
    exact .single (.forget _)

/-- Staging moves the queue into the batch. -/
theorem Staged.outbox (h : Staged s v) :
    Outbox.Steps s.outbox { v.outbox with batch := v.batchKeys } := by
  have hbatch : v.batchKeys = s.queuedKeys := filterMap_packetKey_of_encodes h.encodes
  have hqueue : v.queuedKeys = [] := by rw [queuedKeys, h.empty, List.filterMap_nil]
  refine .single ?_
  simp only [BtKeyClient.outbox, hbatch, hqueue, h.trace]
  exact .stage _

/-- A key that is put is given and queued, after the oldest one has been dropped if the ring
buffer was full. -/
theorem Prepared.outbox {oKey : BufferedKey} {kept : List BufferedKey}
    (h : Prepared s oKey kept u) : Outbox.Steps s.outbox u.outbox := by
  have hqueue : u.queuedKeys = kept.filterMap entryKey ++ (entryKey oKey).toList := by
    rw [queuedKeys, h.contents, List.filterMap_append]
    cases hkey : entryKey oKey <;> simp [hkey]
  have hpending : u.pendingKeys = s.pendingKeys := by
    have hlast : BtKeyClient.lastSend u.trace = BtKeyClient.lastSend s.trace := by
      rcases h.trace with h | ⟨-, h⟩ <;> simp [h, eventSend]
    rw [pendingKeys, hlast, h.refPendingSend, pendingKeys, batchKeys, batchKeys, batch, batch,
      h.packets, h.totPackets]
  have haccepted : BtKeyClient.acceptedKeys u.trace = BtKeyClient.acceptedKeys s.trace := by
    rcases h.trace with h | ⟨-, h⟩ <;> simp [h, eventAccepted]
  have hpassed : BtKeyClient.passedKeys u.trace =
      BtKeyClient.passedKeys s.trace ++ (entryKey oKey).toList := by
    rcases h.trace with h | ⟨hcmd, h⟩
    · simp [h, eventPassed]
    · simp [h, eventPassed, entryKey, hcmd]
  have hkept : Outbox.Steps s.outbox { s.outbox with queue := kept.filterMap entryKey } := by
    rcases h.kept with rfl | ⟨oOldest, hcons, -⟩ | ⟨-, rfl⟩
    · exact .refl
    · cases hkey : entryKey oOldest with
      | none =>
        have : s.outbox.queue = kept.filterMap entryKey := by
          simp [BtKeyClient.outbox, queuedKeys, hcons, hkey]
        rw [← this]
      | some x =>
        refine .single (.drop _ (x := x) ?_)
        simp [BtKeyClient.outbox, queuedKeys, hcons, hkey]
    · exact .single (.clear _)
  refine hkept.trans ?_
  simp only [BtKeyClient.outbox, hqueue, hpending, haccepted, hpassed]
  cases entryKey oKey with
  | none => simpa using Relation.ReflTransGen.refl
  | some x => exact .single (.accept _ x)

/-- What holds between two operations of a client that has sent every batch once. -/
structure SentOnce (s : BtKeyClient) : Prop extends Sane s where
  ordered : s.outbox.Ordered
  /-- A send is pending only for a batch that was refused, or after it has been accepted. -/
  pending : s.refPendingSend.isSome →
    lastSend s.trace = some .again ∨ lastSend s.trace = some .accepted
  accepted : lastSend s.trace = some .accepted → s.batchKeys ⊆ acceptedKeys s.trace
  serial_lt : ∀ k ∈ passedKeys s.trace, k.serial < s.nextSerial
  nodup : (passedKeys s.trace).Nodup

theorem SentOnce.atMostOnceInOrder (h : s.SentOnce) : s.AtMostOnceInOrder := h.ordered.delivered

/-- The operation that dispatches the pending send is no other one. -/
theorem resends_dispatch {nSourceId : ℕ} {nIOFlags : WriteCondition} {res' : SendResult}
    (hfault : s.fault = none) (hdisp : s.dispatchesSend nSourceId nIOFlags) :
    s.resends (.dispatch nSourceId nIOFlags .accepted res') = true ↔
      lastSend s.trace = some .accepted ∧ s.batchKeys ≠ [] := by
  simp [resends, hfault, hdisp]

/-- The pending send, unless it sends an accepted batch again, offers the batch of the outbox. -/
theorem SentOnce.pendingOutbox (h : s.SentOnce) (hsend : s.refPendingSend.isSome)
    (hnot : ¬ (lastSend s.trace = some .accepted ∧ s.batchKeys ≠ [])) :
    s.outbox = { s.outbox with batch := s.batchKeys } := by
  have hpending : s.pendingKeys = s.batchKeys := by
    rw [pendingKeys]
    rcases h.pending hsend with hlast | hlast
    · rw [if_pos ⟨hsend, hlast⟩]
    · rw [if_neg (by simp [hlast])]
      exact (not_not.mp fun hne => hnot ⟨hlast, hne⟩).symm
  simp only [outbox, hpending]

theorem Idle.outbox (hqueue : SameQueue s t) (h : Idle s t) : Outbox.Steps s.outbox t.outbox := by
  rcases h.refPendingSend with hsend | hsend
  · have hsame : t.outbox = s.outbox := by
      simp only [BtKeyClient.outbox, pendingKeys, hqueue.queuedKeys, hqueue.batchKeys, hsend,
        h.acceptedKeys, h.passedKeys, h.lastSend]
    rw [hsame]
  · -- the connection is given up, and with it the batch
    refine .single ?_
    simp only [BtKeyClient.outbox, pendingKeys, hqueue.queuedKeys, hsend, h.acceptedKeys,
      h.passedKeys, Option.isSome_none, Bool.false_eq_true, false_and, if_false]
    exact .forget _

/-- A `::send` that succeeds delivers the batch. -/
theorem step_outbox_accepted (s : BtKeyClient) (nElapsed : ℤ) :
    Outbox.Step { s.outbox with batch := s.batchKeys }
      { s.emit (.sent s.clientFD s.batch .accepted) with lastSentTime := nElapsed }.outbox := by
  simp only [BtKeyClient.outbox, emit, pendingKeys, queuedKeys, batchKeys, batch,
    passedKeys_cons, acceptedKeys_cons, lastSend_cons, eventPassed, eventAccepted, eventSend,
    List.append_nil, Option.some_or, Option.some.injEq, reduceCtorEq, and_false, if_false]
  exact .deliver _

/-- **The client refines the outbox.** An operation that has room and does not send an accepted
batch again is a sequence of steps of the outbox. -/
theorem StepCase.outbox (h : StepCase s op t) (hs : s.SentOnce) (hfault : s.fault = none)
    (hroom : s.overruns op = false) (honce : s.SendsOnce op) :
    Outbox.Steps s.outbox t.outbox := by
  have hpendingOutbox {nSourceId : ℕ} {nIOFlags : WriteCondition} {res' : SendResult}
      (hdisp : s.dispatchesSend nSourceId nIOFlags)
      (hop : op = .dispatch nSourceId nIOFlags .accepted res') :
      s.outbox = { s.outbox with batch := s.batchKeys } := by
    subst hop
    refine hs.pendingOutbox (refPendingSend_of_dispatchesSend hdisp) ?_
    · rw [← resends_dispatch hfault hdisp, honce]
      exact Bool.false_ne_true
  cases h with
  | idle _ _ hqueue _ h => exact h.outbox hqueue
  | ignored _ _ oKey _ h =>
    subst h
    simp only [BtKeyClient.outbox, emit, pendingKeys, queuedKeys, batchKeys, batch,
      passedKeys_cons, acceptedKeys_cons, lastSend_cons, eventPassed, eventAccepted, eventSend,
      List.append_nil, Option.none_or]
    cases entryKey oKey with
    | none => simpa using Relation.ReflTransGen.refl
    | some x => exact .single (.refuse _ x)
  | enqueued _ _ _ oKey kept h => exact h.outbox
  | overrun _ hover => exact absurd (hroom.symm.trans hover) Bool.false_ne_true
  | sent _ _ _ _ oKey kept u v res hu hv h => exact (hu.outbox.trans hv.outbox).trans h.outbox
  | deferred _ _ nSourceId nIOFlags res res' hop hdisp h hres =>
    by_cases hacc : res = .accepted
    · subst hacc
      rw [hpendingOutbox hdisp hop]
      exact h.outbox
    · -- the connection is given up
      have hnone := hres.resolve_left hacc
      refine .single ?_
      simp only [BtKeyClient.outbox, pendingKeys, h.queue.queuedKeys, h.passedKeys,
        h.acceptedKeys, hnone, hacc, Option.isSome_none, Bool.false_eq_true, false_and, if_false,
        List.append_nil]
      exact .forget _
  | deferredMore _ _ nSourceId nIOFlags res' hop hdisp nElapsed v hv h =>
    rw [hpendingOutbox hdisp hop]
    exact ((Relation.ReflTransGen.single (step_outbox_accepted s nElapsed)).trans hv.outbox).trans
      h.outbox

/-! ### Runs -/

/-- An operation passes at most one key, with a new serial number. -/
theorem StepCase.passedKeys (h : StepCase s op t) :
    BtKeyClient.passedKeys t.trace = BtKeyClient.passedKeys s.trace ∧
        (t.fault ≠ some .packetsOverrun → s.nextSerial ≤ t.nextSerial) ∨
      ∃ k, BtKeyClient.passedKeys t.trace = BtKeyClient.passedKeys s.trace ++ [k] ∧
        k.serial = s.nextSerial ∧ t.nextSerial = s.nextSerial + 1 := by
  have hput {oKey : BufferedKey} {kept : List BufferedKey} {u : BtKeyClient}
      (hu : Prepared s oKey kept u) :
      BtKeyClient.passedKeys u.trace = BtKeyClient.passedKeys s.trace ∨
        ∃ k, BtKeyClient.passedKeys u.trace = BtKeyClient.passedKeys s.trace ++ [k] ∧
          k.serial = s.nextSerial := by
    rcases hu.trace with htrace | ⟨-, htrace⟩
    · by_cases hcmd : isCommand oKey.keyType
      · simp [htrace, eventPassed, entryKey, hcmd]
      · exact .inr ⟨⟨oKey.keyType.toChar, oKey.key, oKey.serial⟩,
          by simp [htrace, eventPassed, entryKey, hcmd], hu.serial⟩
    · simp [htrace, eventPassed]
  cases h with
  | idle _ _ hqueue _ h =>
    exact .inl ⟨h.passedKeys, fun _ => hqueue.nextSerial.ge⟩
  | ignored _ _ oKey hserial h =>
    subst h
    by_cases hcmd : isCommand oKey.keyType
    · exact .inl ⟨by simp [emit, eventPassed, entryKey, hcmd], fun _ => Nat.le_succ _⟩
    · exact .inr ⟨⟨oKey.keyType.toChar, oKey.key, oKey.serial⟩,
        by simp [emit, eventPassed, entryKey, hcmd], hserial, rfl⟩
  | enqueued _ _ _ oKey kept h =>
    rcases hput h with hpassed | ⟨k, hpassed, hk⟩
    · exact .inl ⟨hpassed, fun _ => by rw [h.nextSerial]; exact Nat.le_succ _⟩
    · exact .inr ⟨k, hpassed, hk, h.nextSerial⟩
  | overrun _ _ hdead oKey htrace =>
    exact .inl ⟨by simp [htrace, eventPassed], fun hne => absurd hdead hne⟩
  | sent _ _ _ _ oKey kept u v res hu hv h =>
    have hserial : t.nextSerial = s.nextSerial + 1 := by
      rw [h.queue.nextSerial, hv.eq]
      exact hu.nextSerial
    rw [h.passedKeys, hv.trace]
    rcases hput hu with hpassed | ⟨k, hpassed, hk⟩
    · exact .inl ⟨hpassed, fun _ => by omega⟩
    · exact .inr ⟨k, hpassed, hk, hserial⟩
  | deferred _ _ nSourceId nIOFlags res res' hop hdisp h =>
    exact .inl ⟨h.passedKeys, fun _ => h.queue.nextSerial.ge⟩
  | deferredMore _ _ nSourceId nIOFlags res' hop hdisp nElapsed v hv h =>
    refine .inl ⟨?_, fun _ => ?_⟩
    · rw [h.passedKeys, hv.trace]
      simp [emit, eventPassed]
    · rw [h.queue.nextSerial, hv.eq]
      exact le_rfl

/-- Either nothing is sent, or the batch is the one of the last `::send`. -/
theorem StepCase.lastSend (h : StepCase s op t) (hroom : s.overruns op = false) :
    (BtKeyClient.lastSend t.trace = BtKeyClient.lastSend s.trace ∧ t.batchKeys = s.batchKeys ∧
        BtKeyClient.acceptedKeys t.trace = BtKeyClient.acceptedKeys s.trace ∧
        (t.refPendingSend.isSome → s.refPendingSend.isSome)) ∨
      ∃ v res, Offered v res t := by
  cases h with
  | idle _ _ hqueue _ h =>
    refine .inl ⟨h.lastSend, hqueue.batchKeys, h.acceptedKeys, fun hsend => ?_⟩
    rcases h.refPendingSend with hkept | hnone
    · exact hkept ▸ hsend
    · rw [hnone] at hsend
      cases hsend
  | ignored _ _ oKey _ h =>
    subst h
    exact .inl ⟨by simp [emit, eventSend], rfl, by simp [emit, eventAccepted], id⟩
  | enqueued _ _ _ oKey kept h =>
    refine .inl ⟨?_, ?_, ?_, by rw [h.refPendingSend]; exact id⟩
    · rcases h.trace with h | ⟨-, h⟩ <;> simp [h, eventSend]
    · rw [batchKeys, batch, h.packets, h.totPackets, batchKeys, batch]
    · rcases h.trace with h | ⟨-, h⟩ <;> simp [h, eventAccepted]
  | overrun _ hover => exact absurd (hroom.symm.trans hover) Bool.false_ne_true
  | sent _ _ _ _ oKey kept u v res hu hv h => exact .inr ⟨v, res, h⟩
  | deferred _ _ nSourceId nIOFlags res res' hop hdisp h => exact .inr ⟨s, res, h⟩
  | deferredMore _ _ nSourceId nIOFlags res' hop hdisp nElapsed v hv h => exact .inr ⟨v, res', h⟩

theorem SentOnce.step (hs : s.SentOnce) (hfault : s.fault = none) (hroom : s.overruns op = false)
    (honce : s.SendsOnce op) : (s.perform op).SentOnce := by
  have hcase := perform_cases hs.coherent hs.ring hfault op
  have hsane : (s.perform op).Sane :=
    hs.toSane.step (fun _ => hroom) (step_eq_ok.mpr ⟨hfault, rfl⟩)
  have hpassed : (∀ k ∈ passedKeys (s.perform op).trace, k.serial < (s.perform op).nextSerial) ∧
      (passedKeys (s.perform op).trace).Nodup := by
    rcases hcase.passedKeys with ⟨hpassed, hle⟩ | ⟨k, hpassed, hk, hserial⟩
    · rw [hpassed]
      have hle := hle (hcase.fault_ne hfault hroom)
      exact ⟨fun k hk => (hs.serial_lt k hk).trans_le hle, hs.nodup⟩
    · rw [hpassed, hserial]
      refine ⟨fun k' hk' => ?_, hs.nodup.append (List.nodup_singleton k) ?_⟩
      · rcases List.mem_append.mp hk' with h | h
        · exact (hs.serial_lt k' h).trans (Nat.lt_succ_self _)
        · rw [List.mem_singleton.mp h, hk]
          exact Nat.lt_succ_self _
      · rw [List.disjoint_singleton]
        exact fun hmem => (hs.serial_lt k hmem).ne hk
  refine { hsane with
    ordered := hs.ordered.of_reflTransGen (hcase.outbox hs hfault hroom honce)
    pending := fun hsend => ?_
    accepted := fun hlast => ?_
    serial_lt := hpassed.1
    nodup := hpassed.2 }
  · rcases hcase.lastSend hroom with ⟨hlast, -, -, himp⟩ | ⟨v, res, hoff⟩
    · rw [hlast]
      exact hs.pending (himp hsend)
    · rw [hoff.lastSend]
      rcases hoff.pendingSend with hnone | ⟨rfl, -⟩ | rfl
      · rw [hnone] at hsend
        cases hsend
      · exact .inr rfl
      · exact .inl rfl
  · rcases hcase.lastSend hroom with ⟨hlast', hbatch, hacc, -⟩ | ⟨v, res, hoff⟩
    · rw [hbatch, hacc]
      exact hs.accepted (hlast'.symm.trans hlast)
    · rw [hoff.lastSend, Option.some.injEq] at hlast
      rw [hoff.acceptedKeys, if_pos hlast, hoff.queue.batchKeys]
      exact List.subset_append_right _ _

/-- Sending an accepted batch again makes a key arrive twice. -/
theorem SentOnce.not_atMostOnceInOrder (hs : s.SentOnce) (honce : s.resends op) :
    ∃ t, s.step op = .ok t ∧ ¬ t.AtMostOnceInOrder := by
  obtain ⟨nSourceId, nIOFlags, res', rfl⟩ : ∃ nSourceId nIOFlags res',
      op = .dispatch nSourceId nIOFlags .accepted res' := by
    simp only [resends] at honce
    split at honce
    · exact ⟨_, _, _, rfl⟩
    · cases honce
  simp only [resends, Bool.and_eq_true, Option.isNone_iff_eq_none, decide_eq_true_eq,
    Bool.not_eq_true', List.isEmpty_eq_false_iff_exists_mem] at honce
  obtain ⟨⟨⟨hfault, hdisp⟩, hlast⟩, k, hk⟩ := honce
  refine ⟨_, step_eq_ok.mpr ⟨hfault, rfl⟩, fun hsub => ?_⟩
  have hcase := perform_cases hs.coherent hs.ring hfault
    (.dispatch nSourceId nIOFlags .accepted res')
  -- the keys of the batch are accepted once more, and no key is passed
  obtain ⟨more, hacc, hpassed⟩ : ∃ more,
      acceptedKeys (s.perform (.dispatch nSourceId nIOFlags .accepted res')).trace =
        acceptedKeys s.trace ++ s.batchKeys ++ more ∧
      passedKeys (s.perform (.dispatch nSourceId nIOFlags .accepted res')).trace =
        passedKeys s.trace := by
    have hreach' (h : s.reachesSend (.dispatch nSourceId nIOFlags .accepted res') = false) :
        False := Bool.false_ne_true (h.symm.trans hdisp)
    cases hcase with
    | idle hreach | ignored hreach | enqueued hreach => exact (hreach' hreach).elim
    | overrun hreach => exact (hreach' hreach).elim
    | sent _ _ _ hop => exact absurd rfl (hop _ _ _ _)
    | deferred _ _ nSourceId' nIOFlags' res res'' hop _ h =>
      cases hop
      exact ⟨[], by rw [h.acceptedKeys, if_pos rfl, List.append_nil], h.passedKeys⟩
    | deferredMore _ _ nSourceId' nIOFlags' res'' hop _ nElapsed v hv h =>
      cases hop
      refine ⟨if res' = .accepted then v.batchKeys else [], ?_, ?_⟩
      · rw [h.acceptedKeys, hv.trace]
        simp only [emit, acceptedKeys_cons, eventAccepted, batchKeys]
      · rw [h.passedKeys, hv.trace]
        simp [emit, eventPassed]
  have hnodup : (acceptedKeys s.trace ++ s.batchKeys ++ more).Nodup :=
    hacc ▸ (hpassed ▸ hs.nodup : (passedKeys _).Nodup).sublist hsub
  exact (List.disjoint_of_nodup_append (hnodup.sublist (List.sublist_append_left _ _)))
    (hs.accepted hlast hk) hk

theorem sentOnce_new (nTimeoutConnect nTimeoutSend nInterval nNoopAfter : ℤ) (btAddr : BitVec 48)
    (packets : Vector StagedPacket sendBufferSize) :
    (new nTimeoutConnect nTimeoutSend nInterval nNoopAfter btAddr packets).SentOnce where
  toSane := sane_new ..
  ordered := List.Sublist.slnil
  pending h := by cases h
  accepted h := by cases h
  serial_lt k hk := by cases hk
  nodup := .nil

/-- **At most once, in order.** Along a run of the client, the keys accepted by `::send` are a
subsequence of the keys passed to `sendKeyToServer`, at most one for each call, if and only if no
pending send successfully sends a batch with a key that the last `::send` has accepted already. -/
theorem atMostOnceInOrder_iff (nTimeoutConnect nTimeoutSend nInterval nNoopAfter : ℤ)
    (btAddr : BitVec 48) (packets : Vector StagedPacket sendBufferSize) (ops : List ClientOp) :
    let s := new nTimeoutConnect nTimeoutSend nInterval nNoopAfter btAddr packets
    Run.Always step AtMostOnceInOrder s ops ↔ Run.Guarded step SendsOnce s ops := by
  refine Run.always_iff_guarded_of_invariant
    (J := fun s => s.AtMostOnceInOrder ∧ (s.fault ≠ some .packetsOverrun → s.SentOnce))
    (fun s h => h.1) ?_ ?_
    ⟨(sentOnce_new ..).atMostOnceInOrder, fun _ => sentOnce_new ..⟩
  · rintro s op t ⟨hsub, hs⟩ honce hstep
    obtain ⟨hfault, rfl⟩ := step_eq_ok.mp hstep
    replace hs := hs (by simp [hfault])
    by_cases hover : s.overruns op
    · -- the program dies before it sends anything
      obtain ⟨hdead, oKey, htrace⟩ := (perform_cases hs.coherent hs.ring hfault op).dies hover
      refine ⟨?_, fun hne => absurd hdead hne⟩
      simpa [AtMostOnceInOrder, htrace, eventAccepted, eventPassed] using hsub
    · have ht := hs.step hfault (Bool.eq_false_iff.mpr hover) honce
      exact ⟨ht.atMostOnceInOrder, fun _ => ht⟩
  · rintro s op ⟨hsub, hs⟩ honce
    have honce : s.resends op := Bool.eq_true_of_not_eq_false honce
    refine (hs fun hdead => ?_).not_atMostOnceInOrder honce
    simp only [resends] at honce
    split at honce
    · simp [hdead] at honce
    · cases honce

/-- One deferred send is in order. -/
example : Run.Guarded step SendsOnce defaultClient (connectOps 0 ++
    [.sendKeyToServer .press 30 .again, .dispatch 1 ioOutOnly .accepted .again]) := by decide

/-- The first `::send` of a key fails with `EAGAIN`; then the socket gets writable, and stays so. -/
def deferredKey : List ClientOp :=
  connectOps 0 ++ [.sendKeyToServer .press 30 .again, .dispatch 1 ioOutOnly .accepted .again,
    .dispatch 1 ioOutOnly .accepted .again]

theorem not_atMostOnceInOrder_deferredKey :
    ¬ Run.Always step AtMostOnceInOrder defaultClient deferredKey := by
  intro h
  have hrun : (Run.exec step defaultClient deferredKey).toOption.map
      (fun t => (acceptedKeys t.trace, passedKeys t.trace)) =
        some ([⟨keyPress, 30, 0⟩, ⟨keyPress, 30, 0⟩], [⟨keyPress, 30, 0⟩]) := by decide
  obtain ⟨t, hexec, hkeys⟩ := Run.exists_exec_of_view hrun
  obtain ⟨hacc, hpassed⟩ := Prod.mk.inj hkeys
  have hsub := (h.last hexec).length_le
  rw [hacc, hpassed] at hsub
  exact absurd hsub (by decide)

end BtKeyClient

end StmmInputBt
