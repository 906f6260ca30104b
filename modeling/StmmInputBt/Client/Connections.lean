import StmmInputBt.Client.BufferBounds

/-!
# What the client sends on a connection

A connection should carry only what was put into the ring buffer after it was established. The
ring buffer outlives the connections, however: `disconnectInternal` does not clear it. Entries
that were buffered while a send was pending stay in it and travel with the first batch of the
next connection.

## Main definitions

* `BtKeyClient.putSinceEstablished`, `BtKeyClient.establishedEmpty`: the current connection in
  the history.
* `BtKeyClient.NoLeak`: every packet given to `::send` encodes an entry of its connection.
* `BtKeyClient.SendsOwn`: the operation sends only on a connection that was established with an
  empty ring buffer.

## Main results

* `BtKeyClient.noLeak_iff`.
-/

namespace StmmInputBt

namespace BtKeyClient

variable {s t u v : BtKeyClient} {op : ClientOp} {res : SendResult}

/-- The entries put into the ring buffer since the last connection was established. -/
def putSinceEstablished : List ClientEvent → List BufferedKey
  | [] => []
  | .put oKey _ :: tr => oKey :: putSinceEstablished tr
  | .established _ :: _ => []
  | .opened _ :: tr | .closed _ :: tr | .passed _ :: tr | .sent .. :: tr | .stateChanged _ :: tr
  | .error _ :: tr => putSinceEstablished tr

/-- The ring buffer was empty when the last connection was established. -/
def establishedEmpty : List ClientEvent → Bool
  | [] => true
  | .established nBuffered :: _ => nBuffered = 0
  | .put .. :: tr | .opened _ :: tr | .closed _ :: tr | .passed _ :: tr | .sent .. :: tr
  | .stateChanged _ :: tr | .error _ :: tr => establishedEmpty tr

/-- Every packet given to `::send` encodes an entry that was put into the ring buffer after the
connection had been established. -/
def NoLeak : List ClientEvent → Prop
  | [] => True
  | .sent _ aPackets _ :: tr =>
    (∀ p ∈ aPackets, ∃ e ∈ putSinceEstablished tr, Encodes e p) ∧ NoLeak tr
  | .put .. :: tr | .opened _ :: tr | .closed _ :: tr | .passed _ :: tr | .established _ :: tr
  | .stateChanged _ :: tr | .error _ :: tr => NoLeak tr

/-- A client that is alive sends only on a connection that was established with an empty ring
buffer. -/
def SendsOwn (s : BtKeyClient) (op : ClientOp) : Prop :=
  s.fault = none → s.reachesSend op → establishedEmpty s.trace

instance (s : BtKeyClient) (op : ClientOp) : Decidable (s.SendsOwn op) :=
  inferInstanceAs (Decidable (_ → _))

theorem putSinceEstablished_of_quietExt {tr tr' : List ClientEvent} (h : QuietExt tr tr') :
    putSinceEstablished tr' = putSinceEstablished tr :=
  h.eq_of fun e tr he => by cases e <;> first | rfl | cases he

theorem establishedEmpty_of_quietExt {tr tr' : List ClientEvent} (h : QuietExt tr tr') :
    establishedEmpty tr' = establishedEmpty tr :=
  h.eq_of fun e tr he => by cases e <;> first | rfl | cases he

theorem noLeak_cons_of_quiet (e : ClientEvent) (tr : List ClientEvent) (he : e.quiet) :
    NoLeak (e :: tr) = NoLeak tr := by
  cases e <;> first | rfl | cases he

theorem noLeak_of_quietExt {tr tr' : List ClientEvent} (h : QuietExt tr tr') :
    NoLeak tr' = NoLeak tr :=
  h.eq_of noLeak_cons_of_quiet

/-! ### Encoding -/

theorem encodes_iff {e : BufferedKey} {p : StagedPacket} : Encodes e p ↔ p = encodePacket e p := by
  constructor
  · rintro ⟨old, rfl⟩
    cases htype : e.keyType <;> simp [encodePacket, htype]
  · exact fun h => ⟨p, h⟩

instance (e : BufferedKey) (p : StagedPacket) : Decidable (Encodes e p) :=
  decidable_of_iff _ encodes_iff.symm

instance NoLeak.decidable : (tr : List ClientEvent) → Decidable (NoLeak tr)
  | [] => isTrue trivial
  | .sent _ _ _ :: tr =>
    have := NoLeak.decidable tr
    inferInstanceAs (Decidable (_ ∧ _))
  | .put .. :: tr | .opened _ :: tr | .closed _ :: tr | .passed _ :: tr | .established _ :: tr
  | .stateChanged _ :: tr | .error _ :: tr => NoLeak.decidable tr

theorem serial_of_encodes {e : BufferedKey} {p : StagedPacket} (h : Encodes e p) :
    p.serial = e.serial := by
  obtain ⟨old, rfl⟩ := h
  rfl

/-- The packets encode entries that are all among `es`. -/
theorem forall_encodes_of_forall₂ {es es' : List BufferedKey} {ps : List StagedPacket}
    (h : es.Forall₂ Encodes ps) (hsub : es ⊆ es') : ∀ p ∈ ps, ∃ e ∈ es', Encodes e p := by
  induction h with
  | nil => simp
  | cons hep _ ih =>
    obtain ⟨he, hes⟩ := List.cons_subset.mp hsub
    exact List.forall_mem_cons.mpr ⟨⟨_, he, hep⟩, ih hes⟩

/-- Every entry is encoded by one of the packets. -/
theorem exists_encodes_of_forall₂ {es : List BufferedKey} {ps : List StagedPacket}
    (h : es.Forall₂ Encodes ps) {e : BufferedKey} (he : e ∈ es) : ∃ p ∈ ps, Encodes e p := by
  induction h with
  | nil => cases he
  | cons hep _ ih =>
    rcases List.mem_cons.mp he with rfl | he
    · exact ⟨_, List.mem_cons_self, hep⟩
    · obtain ⟨p, hp, hep⟩ := ih he
      exact ⟨p, List.mem_cons_of_mem _ hp, hep⟩

/-! ### Runs -/

/-- What holds between two operations of a client that has sent only its own entries on every
connection. -/
structure SentOwn (s : BtKeyClient) : Prop extends Sane s where
  noLeak : NoLeak s.trace
  serial_lt : ∀ e ∈ s.bufferedKeys.contents, e.serial < s.nextSerial
  /-- On a connection that was established with an empty ring buffer. -/
  contents : establishedEmpty s.trace → s.state.online →
    s.bufferedKeys.contents ⊆ putSinceEstablished s.trace
  pending : establishedEmpty s.trace → s.refPendingSend.isSome →
    ∀ p ∈ s.batch, ∃ e ∈ putSinceEstablished s.trace, Encodes e p
  /-- On any other connection nothing has been put or sent. -/
  leftover : establishedEmpty s.trace = false → s.state.online →
    s.state = .connected ∧ s.refPendingSend = none ∧ putSinceEstablished s.trace = [] ∧
      s.bufferedKeys.contents ≠ []

theorem Coherent.refPendingSend_eq_none (h : s.Coherent) (hoff : s.state.online = false) :
    s.refPendingSend = none := by
  rw [← Option.not_isSome_iff_eq_none]
  exact fun hsend => Bool.false_ne_true (hoff.symm.trans (h.pendingSend hsend))

/-- Nothing of the queue changes and the connection is closed, or was not open before. -/
theorem SentOwn.of_offline (hs : s.SentOwn) (ht : t.Sane) (hqueue : SameQueue s t)
    (htrace : QuietExt s.trace t.trace) (hoff : t.state.online = false) : t.SentOwn where
  toSane := ht
  noLeak := (noLeak_of_quietExt htrace).mpr hs.noLeak
  serial_lt e he := by
    rw [hqueue.bufferedKeys] at he
    rw [hqueue.nextSerial]
    exact hs.serial_lt e he
  contents _ hon := absurd (hoff.symm.trans hon) Bool.false_ne_true
  pending _ hsend := by
    rw [ht.coherent.refPendingSend_eq_none hoff] at hsend
    cases hsend
  leftover _ hon := absurd (hoff.symm.trans hon) Bool.false_ne_true

theorem SentOwn.idle (hs : s.SentOwn) (ht : t.Sane) (hqueue : SameQueue s t) (h : Idle s t) :
    t.SentOwn := by
  have hserial : ∀ e ∈ t.bufferedKeys.contents, e.serial < t.nextSerial := by
    rw [hqueue.bufferedKeys, hqueue.nextSerial]
    exact hs.serial_lt
  have hleak : NoLeak t.trace := by
    rw [h.eq_of noLeak_cons_of_quiet fun n tr => rfl]
    exact hs.noLeak
  cases h with
  | nothing hstate hsend htrace =>
    have hput := putSinceEstablished_of_quietExt htrace
    have hempty := establishedEmpty_of_quietExt htrace
    refine ⟨ht, hleak, hserial, ?_, ?_, ?_⟩
    · rw [hput, hempty, hstate, hqueue.bufferedKeys]
      exact hs.contents
    · rw [hput, hempty, hsend, hqueue.batch]
      exact hs.pending
    · rw [hput, hempty, hsend, hstate, hqueue.bufferedKeys]
      exact hs.leftover
  | closed hstate _ htrace =>
    exact hs.of_offline ht hqueue htrace (by rw [hstate]; rfl)
  | connecting _ hstate _ htrace =>
    exact hs.of_offline ht hqueue htrace (by rw [hstate]; rfl)
  | timedOut hstate hstate' hsend htrace =>
    have hput := putSinceEstablished_of_quietExt htrace
    have hempty := establishedEmpty_of_quietExt htrace
    have hon : s.state.online := by rw [hstate]; rfl
    refine ⟨ht, hleak, hserial, ?_, ?_, ?_⟩
    · rw [hput, hempty, hqueue.bufferedKeys]
      exact fun hemp _ => hs.contents hemp hon
    · rw [hput, hempty, hsend, hqueue.batch]
      exact hs.pending
    · rw [hempty]
      intro hemp _
      obtain ⟨hconn, -⟩ := hs.leftover hemp hon
      rw [hstate] at hconn
      cases hconn
  | established hoff hstate hsend tr hquiet htrace =>
    have hput : putSinceEstablished t.trace = [] := putSinceEstablished_of_quietExt htrace
    have hempty : establishedEmpty t.trace = decide (s.bufferedKeys.count = 0) :=
      establishedEmpty_of_quietExt htrace
    have hnone := hs.coherent.refPendingSend_eq_none hoff
    refine ⟨ht, hleak, hserial, ?_, ?_, ?_⟩
    · intro hemp _
      rw [hempty, decide_eq_true_eq] at hemp
      rw [hqueue.bufferedKeys, CircularBuffer.contents_eq_nil.mpr
        (CircularBuffer.isEmpty_iff.mpr hemp)]
      exact List.nil_subset _
    · rw [hsend, hnone]
      exact fun _ h => absurd h Bool.false_ne_true
    · intro hemp _
      rw [hempty, decide_eq_false_iff_not] at hemp
      refine ⟨hstate, hsend.trans hnone, hput, ?_⟩
      rw [hqueue.bufferedKeys, ne_eq, CircularBuffer.contents_eq_nil, CircularBuffer.isEmpty_iff]
      exact hemp

/-- The entries that are kept have been there. -/
theorem Prepared.kept_subset {oKey : BufferedKey} {kept : List BufferedKey}
    (h : Prepared s oKey kept u) : kept ⊆ s.bufferedKeys.contents := by
  rcases h.kept with rfl | ⟨oOldest, hcons, -⟩ | ⟨-, rfl⟩
  · exact List.Subset.refl _
  · rw [hcons]
    exact List.subset_cons_self _ _
  · exact List.nil_subset _

theorem Prepared.trace_facts {oKey : BufferedKey} {kept : List BufferedKey}
    (h : Prepared s oKey kept u) :
    putSinceEstablished u.trace = oKey :: putSinceEstablished s.trace ∧
      establishedEmpty u.trace = establishedEmpty s.trace ∧ (NoLeak u.trace ↔ NoLeak s.trace) := by
  rcases h.trace with h | ⟨-, h⟩ <;> exact h ▸ ⟨rfl, rfl, .rfl⟩

/-- An entry is put on a connection that was established with an empty ring buffer. -/
theorem SentOwn.prepared (hs : s.SentOwn) (hon : s.state.online)
    (hemp : establishedEmpty s.trace) {oKey : BufferedKey} {kept : List BufferedKey}
    (h : Prepared s oKey kept u) : u.SentOwn := by
  obtain ⟨hput, hempty, hleak⟩ := h.trace_facts
  refine ⟨⟨h.coherent hs.coherent, h.ring⟩, hleak.mpr hs.noLeak, ?_, ?_, ?_, ?_⟩
  · intro e he
    rw [h.contents] at he
    rw [h.nextSerial]
    rcases List.mem_append.mp he with he | he
    · exact (hs.serial_lt e (h.kept_subset he)).trans (Nat.lt_succ_self _)
    · rw [List.mem_singleton.mp he, h.serial]
      exact Nat.lt_succ_self _
  · intro _ _
    rw [h.contents, hput]
    refine List.append_subset.mpr ⟨fun e he => ?_, by simp⟩
    exact List.mem_cons_of_mem _ (hs.contents hemp hon (h.kept_subset he))
  · intro _ hsend
    rw [h.refPendingSend] at hsend
    rw [batch, h.packets, h.totPackets, hput]
    intro p hp
    obtain ⟨e, he, hep⟩ := hs.pending hemp hsend p hp
    exact ⟨e, List.mem_cons_of_mem _ he, hep⟩
  · rw [hempty, hemp]
    exact fun h => absurd h.symm Bool.false_ne_true

/-- A batch of own entries is offered on such a connection. -/
theorem SentOwn.offered (hv : NoLeak v.trace) (hemp : establishedEmpty v.trace)
    (hbatch : ∀ p ∈ v.batch, ∃ e ∈ putSinceEstablished v.trace, Encodes e p)
    (hserial : ∀ e ∈ v.bufferedKeys.contents, e.serial < v.nextSerial)
    (hcontents : v.bufferedKeys.contents ⊆ putSinceEstablished v.trace) (ht : t.Sane)
    (h : Offered v res t) : t.SentOwn := by
  have hput : putSinceEstablished t.trace = putSinceEstablished v.trace :=
    (putSinceEstablished_of_quietExt h.trace).trans rfl
  have hempty : establishedEmpty t.trace = establishedEmpty v.trace :=
    (establishedEmpty_of_quietExt h.trace).trans rfl
  refine ⟨ht, (noLeak_of_quietExt h.trace).mpr ⟨hbatch, hv⟩, ?_, ?_, ?_, ?_⟩
  · rw [h.queue.bufferedKeys, h.queue.nextSerial]
    exact hserial
  · rw [h.queue.bufferedKeys, hput]
    exact fun _ _ => hcontents
  · rw [h.queue.batch, hput]
    exact fun _ _ => hbatch
  · rw [hempty, hemp]
    exact fun h => absurd h.symm Bool.false_ne_true

/-- The staged batch consists of the entries, which were all put on this connection. -/
theorem Staged.encodes_put (h : Staged s v)
    (hcontents : s.bufferedKeys.contents ⊆ putSinceEstablished s.trace) :
    ∀ p ∈ v.batch, ∃ e ∈ putSinceEstablished v.trace, Encodes e p :=
  forall_encodes_of_forall₂ h.encodes (h.trace ▸ hcontents)

theorem SentOwn.step (hs : s.SentOwn) (hfault : s.fault = none) (hroom : s.overruns op = false)
    (hown : s.SendsOwn op) : (s.perform op).SentOwn := by
  have ht : (s.perform op).Sane :=
    hs.toSane.step (fun _ => hroom) (step_eq_ok.mpr ⟨hfault, rfl⟩)
  cases perform_cases hs.coherent hs.ring hfault op with
  | idle _ _ hqueue _ h => exact hs.idle ht hqueue h
  | ignored _ _ oKey _ h =>
    rw [h] at ht ⊢
    exact ⟨ht, hs.noLeak, fun e he => (hs.serial_lt e he).trans (Nat.lt_succ_self _), hs.contents,
      hs.pending, hs.leftover⟩
  | enqueued _ _ hsending oKey kept h =>
    have hon : s.state.online := by rw [hsending]; rfl
    cases hemp : establishedEmpty s.trace with
    | true => exact hs.prepared hon hemp h
    | false =>
      obtain ⟨hconn, -⟩ := hs.leftover hemp hon
      rw [hsending] at hconn
      cases hconn
  | overrun _ hover => exact absurd (hroom.symm.trans hover) Bool.false_ne_true
  | sent hreach _ hon _ oKey kept u v res hu hv h =>
    have hemp := hown hfault hreach
    have hsu := hs.prepared hon hemp hu
    have hempu : establishedEmpty u.trace := by rw [hu.trace_facts.2.1, hemp]
    refine SentOwn.offered ?_ ?_ (hv.encodes_put (hsu.contents hempu (hu.state ▸ hon))) ?_ ?_ ht h
    · exact hv.trace ▸ hsu.noLeak
    · exact hv.trace ▸ hempu
    · simp [hv.empty]
    · simp [hv.empty]
  | deferred hreach _ nSourceId nIOFlags res res' _ hdisp h =>
    have hemp := hown hfault hreach
    have hsend := refPendingSend_of_dispatchesSend hdisp
    exact SentOwn.offered hs.noLeak hemp (hs.pending hemp hsend) hs.serial_lt
      (hs.contents hemp (hs.coherent.pendingSend hsend)) ht h
  | deferredMore hreach _ nSourceId nIOFlags res' _ hdisp nElapsed v hv h =>
    have hemp := hown hfault hreach
    have hsend := refPendingSend_of_dispatchesSend hdisp
    have hcontents := hs.contents hemp (hs.coherent.pendingSend hsend)
    refine SentOwn.offered ?_ ?_ (hv.encodes_put hcontents) ?_ ?_ ht h
    · exact hv.trace ▸ ⟨hs.pending hemp hsend, hs.noLeak⟩
    · exact hv.trace ▸ hemp
    · simp [hv.empty]
    · simp [hv.empty]

/-- The first batch on a connection that was established with entries in the ring buffer carries
one of them. -/
theorem SentOwn.leaks (hs : s.SentOwn) (hown : ¬ s.SendsOwn op) :
    ∃ t, s.step op = .ok t ∧ ¬ NoLeak t.trace := by
  simp only [SendsOwn, Classical.not_imp, Bool.not_eq_true] at hown
  obtain ⟨hfault, hreach, hemp⟩ := hown
  refine ⟨_, step_eq_ok.mpr ⟨hfault, rfl⟩, ?_⟩
  cases perform_cases hs.coherent hs.ring hfault op with
  | idle hreach' | ignored hreach' | enqueued hreach' | overrun hreach' =>
    exact absurd (hreach'.symm.trans hreach) Bool.false_ne_true
  | deferred _ _ nSourceId nIOFlags res res' _ hdisp
  | deferredMore _ _ nSourceId nIOFlags res' _ hdisp =>
    have hsend := refPendingSend_of_dispatchesSend hdisp
    obtain ⟨-, hnone, -⟩ := hs.leftover hemp (hs.coherent.pendingSend hsend)
    rw [hnone] at hsend
    cases hsend
  | sent _ _ hon _ oKey kept u v res hu hv h =>
    obtain ⟨hconn, -, hput, hne⟩ := hs.leftover hemp hon
    obtain ⟨e, he⟩ : ∃ e, e ∈ kept := by
      refine List.exists_mem_of_ne_nil _ ?_
      rcases hu.kept with rfl | ⟨oOldest, -, hlen⟩ | ⟨hsending, -⟩
      · exact hne
      · rintro rfl
        exact absurd hlen (by decide)
      · rw [hconn] at hsending
        cases hsending
    have hlt := hs.serial_lt e (hu.kept_subset he)
    obtain ⟨p, hp, hep⟩ := exists_encodes_of_forall₂ hv.encodes
      (hu.contents ▸ List.mem_append_left _ he : e ∈ u.bufferedKeys.contents)
    rw [noLeak_of_quietExt h.trace, hv.trace]
    rintro ⟨hall, -⟩
    obtain ⟨e', he', hep'⟩ := hall p hp
    rw [hu.trace_facts.1, hput, List.mem_singleton] at he'
    rw [← serial_of_encodes hep, serial_of_encodes hep', he', hu.serial] at hlt
    exact lt_irrefl _ hlt

theorem sentOwn_new (nTimeoutConnect nTimeoutSend nInterval nNoopAfter : ℤ) (btAddr : BitVec 48)
    (packets : Vector StagedPacket sendBufferSize) :
    (new nTimeoutConnect nTimeoutSend nInterval nNoopAfter btAddr packets).SentOwn where
  toSane := sane_new ..
  noLeak := trivial
  serial_lt e he := by cases he
  contents _ h := absurd h Bool.false_ne_true
  pending _ h := absurd h Bool.false_ne_true
  leftover h := absurd h.symm Bool.false_ne_true

/-- **Connections do not leak keys into each other.** Along a run of the client, every packet given
to `::send` encodes an entry that was put into the ring buffer after its connection had been
established, if and only if nothing is sent on a connection that was established while entries
were left in the ring buffer. -/
theorem noLeak_iff (nTimeoutConnect nTimeoutSend nInterval nNoopAfter : ℤ) (btAddr : BitVec 48)
    (packets : Vector StagedPacket sendBufferSize) (ops : List ClientOp) :
    let s := new nTimeoutConnect nTimeoutSend nInterval nNoopAfter btAddr packets
    Run.Always step (fun s => NoLeak s.trace) s ops ↔ Run.Guarded step SendsOwn s ops := by
  refine Run.always_iff_guarded_of_invariant
    (J := fun s => NoLeak s.trace ∧ (s.fault ≠ some .packetsOverrun → s.SentOwn))
    (fun s h => h.1) ?_ ?_ ⟨trivial, fun _ => sentOwn_new ..⟩
  · rintro s op t ⟨hleak, hs⟩ hown hstep
    obtain ⟨hfault, rfl⟩ := step_eq_ok.mp hstep
    replace hs := hs (by simp [hfault])
    by_cases hover : s.overruns op
    · -- the program dies before it sends anything
      obtain ⟨hdead, oKey, htrace⟩ := (perform_cases hs.coherent hs.ring hfault op).dies hover
      exact ⟨htrace ▸ hleak, fun hne => absurd hdead hne⟩
    · have ht := hs.step hfault (Bool.eq_false_iff.mpr hover) hown
      exact ⟨ht.noLeak, fun _ => ht⟩
  · rintro s op ⟨hleak, hs⟩ hown
    have hfault : s.fault = none := not_not.mp fun hne => hown fun h => absurd h hne
    exact (hs (by simp [hfault])).leaks hown

/-- Two connections without congestion. -/
example : Run.Guarded step SendsOwn defaultClient (connectOps 0 ++
    [.sendKeyToServer .press 30 .accepted, .disconnectFromServer,
      .connectToServer 2 7 (.opened 5 .inProgress), .dispatch 1 ioOutOnly .again .again,
      .sendKeyToServer .press 31 .accepted]) := by decide

/-- The server does not read, two keys are buffered, and the user reconnects, this time to another
server, and presses a key. -/
def reconnect : List ClientOp :=
  connectOps 0 ++ List.replicate 3 (.sendKeyToServer .press 30 .again) ++ [.disconnectFromServer] ++
    [.connectToServer 2 7 (.opened 5 .inProgress), .dispatch 2 ioOutOnly .again .again,
      .sendKeyToServer .press 31 .accepted]

theorem not_noLeak_reconnect :
    ¬ Run.Always step (fun s => NoLeak s.trace) defaultClient reconnect := by
  intro h
  have hrun : (Run.exec step defaultClient reconnect).toOption.map
      (fun t => decide (NoLeak t.trace)) = some false := by decide
  obtain ⟨t, hexec, hleak⟩ := Run.exists_exec_of_view hrun
  exact of_decide_eq_false hleak (h.last hexec)

end BtKeyClient

end StmmInputBt
