import StmmInputBt.Client.Link

/-!
# The descriptors of the client

Who closes a descriptor that `::socket` has returned: the client itself, or the destructor of a
pending source that still holds the number. The client hands its descriptor to a source with each
pending connect and each pending send. Only the source of a connect that succeeds gives it back;
any other source closes the number once more when it is destroyed, long after the client has
closed the connection, and by then the number may belong to a later one.

## Main definitions

* `DescriptorEvent`, `BtKeyClient.descriptorEvents`: what happens to descriptors, and who does it.
* `ClosesOwn`: every close closes a descriptor that is open, and a source closes the one that it
  was handed.
* `BtKeyClient.closesAtDestruction`: the destructor of a source calls `::close`.

## Main results

* `BtKeyClient.closesOwn_iff`.
-/

namespace StmmInputBt

/-- What happens to a descriptor. -/
inductive DescriptorEvent
  | opened (nFD : ℤ)
  /-- The client gives its descriptor to a new source as well. -/
  | handed (nSourceId : ℕ) (nFD : ℤ)
  | closedByClient (nFD : ℤ)
  | closedBySource (nSourceId : ℕ) (nFD : ℤ)
  deriving DecidableEq

/-- The descriptor that a `::close` was called with. -/
def DescriptorEvent.closedFD : DescriptorEvent → Option ℤ
  | .closedByClient nFD | .closedBySource _ nFD => some nFD
  | .opened _ | .handed .. => none

/-- The number was returned by `::socket` and not closed since. The latest event is first, here
and below. -/
def IsOpen (nFD : ℤ) : List DescriptorEvent → Prop
  | [] => False
  | e :: es => e = .opened nFD ∨ e.closedFD ≠ some nFD ∧ IsOpen nFD es

/-- The number was handed to the source and not closed since. -/
def HeldSince (nSourceId : ℕ) (nFD : ℤ) : List DescriptorEvent → Prop
  | [] => False
  | e :: es => e = .handed nSourceId nFD ∨ e.closedFD ≠ some nFD ∧ HeldSince nSourceId nFD es

/-- Every `::close` is called with a number that is open, and a source calls it while the
connection is still the one that it was handed. -/
def ClosesOwn : List DescriptorEvent → Prop
  | [] => True
  | .closedByClient nFD :: es => IsOpen nFD es ∧ ClosesOwn es
  | .closedBySource nSourceId nFD :: es => IsOpen nFD es ∧ HeldSince nSourceId nFD es ∧ ClosesOwn es
  | .opened _ :: es | .handed .. :: es => ClosesOwn es

theorem ClosesOwn.of_append {es es' : List DescriptorEvent} (h : ClosesOwn (es ++ es')) :
    ClosesOwn es' := by
  induction es with
  | nil => exact h
  | cons e es ih =>
    cases e with
    | opened nFD | handed nSourceId nFD => exact ih h
    | closedByClient nFD => exact ih h.2
    | closedBySource nSourceId nFD => exact ih h.2.2

namespace BtKeyClient

variable {s t : BtKeyClient} {op : ClientOp} {es : List DescriptorEvent}

/-- Who calls `::close` during the operation. -/
def closer : ClientOp → ℤ → DescriptorEvent
  | .destroySource nSourceId => .closedBySource nSourceId
  | _ => .closedByClient

/-- The descriptor event that an event of the history stands for. -/
def descriptorEvent (close : ℤ → DescriptorEvent) : ClientEvent → Option DescriptorEvent
  | .opened nFD => some (.opened nFD)
  | .closed nFD => some (close nFD)
  | _ => none

/-- A new source is handed the descriptor that it is created with. -/
def handedEvents (s t : BtKeyClient) : List DescriptorEvent :=
  (t.sources[s.sources.length]?).toList.map fun src => .handed s.sources.length src.clientFD

/-- What an operation does to descriptors, the latest event first. -/
def descriptorEvents (s : BtKeyClient) (op : ClientOp) : List DescriptorEvent :=
  match s.step op with
  | .error _ => []
  | .ok t => handedEvents s t ++ (newEvents s t).filterMap (descriptorEvent (closer op))

/-- The source is destroyed and closes the descriptor that it holds. -/
def closesAtDestruction (s : BtKeyClient) : ClientOp → Bool
  | .destroySource nSourceId =>
    match s.sources[nSourceId]? with
    | none => false
    | some src =>
      !(src.attached || src.destroyed || s.refPendingConnect = some nSourceId ||
        s.refPendingSend = some nSourceId) && 0 ≤ src.clientFD
  | _ => false

/-- A source that is destroyed has given its descriptor back. -/
def DescriptorReturned (s : BtKeyClient) (op : ClientOp) : Prop :=
  s.fault = none → s.closesAtDestruction op = false

instance (s : BtKeyClient) (op : ClientOp) : Decidable (s.DescriptorReturned op) :=
  inferInstanceAs (Decidable (_ → _))

/-- The client closes what is open, and no source that is left holds what it may close. -/
structure OwnsDescriptors (s : BtKeyClient) (es : List DescriptorEvent) : Prop where
  coherent : s.Coherent
  closesOwn : ClosesOwn es
  isOpen : ∀ nFD, IsOpen nFD es ↔ 0 ≤ s.clientFD ∧ nFD = s.clientFD
  sources : ∀ nSourceId nFD, 0 ≤ nFD →
    (s.sources.map PendingWriteSource.held)[nSourceId]? = some (nFD, false) →
    (s.refPendingConnect = some nSourceId ∨ s.refPendingSend = some nSourceId) ∧
        nFD = s.clientFD ∨
      ¬ HeldSince nSourceId nFD es

/-! ### One operation -/

theorem handedEvents_of_length (h : t.sources.length = s.sources.length) :
    handedEvents s t = [] := by
  rw [handedEvents, List.getElem?_eq_none h.le]
  rfl

theorem handedEvents_of_same
    (h : t.sources.map PendingWriteSource.held = s.sources.map PendingWriteSource.held) :
    handedEvents s t = [] :=
  handedEvents_of_length (by simpa using congrArg List.length h)

theorem handedEvents_of_append {nFD : ℤ} (h : t.sources.map PendingWriteSource.held =
    s.sources.map PendingWriteSource.held ++ [(nFD, false)]) :
    handedEvents s t = [.handed s.sources.length nFD] := by
  have hget := congrArg (·[s.sources.length]?) h
  rw [List.getElem?_map, List.getElem?_append_right (by simp)] at hget
  cases hsrc : t.sources[s.sources.length]? with
  | none => simp [hsrc] at hget
  | some src =>
    have hheld : src.held = (nFD, false) := by simpa [hsrc] using hget
    have hfd : src.clientFD = nFD := congrArg Prod.fst hheld
    rw [handedEvents, hsrc, ← hfd]
    rfl

theorem filterMap_descriptorEvent (close : ℤ → DescriptorEvent) (es : List ClientEvent) :
    (es.filter ClientEvent.isDescriptor).filterMap (descriptorEvent close) =
      es.filterMap (descriptorEvent close) := by
  rw [List.filterMap_filter]
  refine List.filterMap_congr fun e _ => ?_
  cases e <;> rfl

/-- While the client has no descriptor, no source holds one that it may close. -/
theorem OwnsDescriptors.not_heldSince (h : OwnsDescriptors s es) (hs : s.clientFD < 0)
    {nSourceId : ℕ} {nFD : ℤ} (hfd : 0 ≤ nFD)
    (hsrc : (s.sources.map PendingWriteSource.held)[nSourceId]? = some (nFD, false)) :
    ¬ HeldSince nSourceId nFD es := by
  refine (h.sources nSourceId nFD hfd hsrc).resolve_left ?_
  rintro ⟨-, rfl⟩
  exact absurd hfd (not_le.mpr hs)

theorem OwnsDescriptors.not_isOpen (h : OwnsDescriptors s es) (hs : s.clientFD < 0) (nFD : ℤ) :
    ¬ IsOpen nFD es := fun hopen => absurd ((h.isOpen nFD).mp hopen).1 (not_le.mpr hs)

/-- A source holds what it held before, or it is the new one. -/
theorem held_of_append {nFD' nFD : ℤ} {nSourceId : ℕ} (hsources :
    t.sources.map PendingWriteSource.held =
      s.sources.map PendingWriteSource.held ++ [(nFD', false)])
    (hsrc : (t.sources.map PendingWriteSource.held)[nSourceId]? = some (nFD, false)) :
    (s.sources.map PendingWriteSource.held)[nSourceId]? = some (nFD, false) ∧
        nSourceId ≠ s.sources.length ∨
      nSourceId = s.sources.length ∧ nFD' = nFD := by
  rw [hsources] at hsrc
  rw [getElem?_append_singleton, List.length_map] at hsrc
  split_ifs at hsrc with hnew
  · obtain ⟨rfl, -⟩ := Prod.mk.inj (Option.some.inj hsrc)
    exact .inr ⟨hnew, rfl⟩
  · exact .inl ⟨hsrc, hnew⟩

/-- What happens to the descriptor of the client, happens to its own. -/
theorem OwnsDescriptors.link (h : OwnsDescriptors s es) (ht : t.Coherent) {l : List ClientEvent}
    (hl : LinkCase s t l) : OwnsDescriptors t
      (handedEvents s t ++ (l.filterMap (descriptorEvent .closedByClient) ++ es)) := by
  cases hl with
  | kept hsame =>
    rw [handedEvents_of_same hsame.sources]
    refine ⟨ht, h.closesOwn, fun nFD => ?_, fun nSourceId nFD hfd hsrc => ?_⟩
    · rw [hsame.clientFD]
      exact h.isOpen nFD
    · rw [hsame.pendingConnect, hsame.pendingSend, hsame.clientFD]
      exact h.sources nSourceId nFD hfd (hsame.sources ▸ hsrc)
  | refused nFD' hs htfd hconnect hsend hsources =>
    rw [handedEvents_of_same hsources]
    refine ⟨ht, ⟨.inl rfl, h.closesOwn⟩, fun nFD => ?_, fun nSourceId nFD hfd hsrc => .inr ?_⟩
    · have hnot := h.not_isOpen hs nFD
      simp [descriptorEvent, IsOpen, DescriptorEvent.closedFD, htfd, hnot]
    · have hnot := h.not_heldSince hs hfd (hsources ▸ hsrc)
      simp [descriptorEvent, HeldSince, DescriptorEvent.closedFD, hnot]
  | failed hs htfd hconnect hsend hsources =>
    rw [handedEvents_of_same hsources]
    refine ⟨ht, h.closesOwn, fun nFD => ?_, fun nSourceId nFD hfd hsrc => .inr ?_⟩
    · simpa [htfd] using h.not_isOpen hs nFD
    · exact h.not_heldSince hs hfd (hsources ▸ hsrc)
  | connected nFD' hs htfd hconnect hsend hsources =>
    rw [handedEvents_of_same hsources]
    refine ⟨ht, h.closesOwn, fun nFD => ?_, fun nSourceId nFD hfd hsrc => .inr ?_⟩
    · have hnot := h.not_isOpen hs nFD
      simp [descriptorEvent, IsOpen, DescriptorEvent.closedFD, htfd, hnot, eq_comm]
    · have hnot := h.not_heldSince hs hfd (hsources ▸ hsrc)
      simp [descriptorEvent, HeldSince, DescriptorEvent.closedFD, hnot]
  | connecting nFD' hs htfd hconnect hsend hsources htimer =>
    rw [handedEvents_of_append hsources]
    refine ⟨ht, h.closesOwn, fun nFD => ?_, fun nSourceId nFD hfd hsrc => ?_⟩
    · have hnot := h.not_isOpen hs nFD
      simp [descriptorEvent, IsOpen, DescriptorEvent.closedFD, htfd, hnot, eq_comm]
    · rcases held_of_append hsources hsrc with ⟨hold, hne⟩ | ⟨rfl, rfl⟩
      · have hnot := h.not_heldSince hs hfd hold
        exact .inr (by
          simp [descriptorEvent, HeldSince, DescriptorEvent.closedFD, hnot, hne.symm])
      · exact .inl ⟨.inl hconnect, htfd.symm⟩
  | closed hs htfd hconnect hsend hsources =>
    rw [handedEvents_of_same hsources]
    refine ⟨ht, ⟨(h.isOpen _).mpr ⟨hs, rfl⟩, h.closesOwn⟩, fun nFD => ?_,
      fun nSourceId nFD hfd hsrc => .inr ?_⟩
    · have hnot : ¬ IsOpen nFD (.closedByClient s.clientFD :: es) := by
        rintro (heq | ⟨hne, hopen⟩)
        · cases heq
        · exact hne (congrArg some ((h.isOpen nFD).mp hopen).2.symm)
      exact iff_of_false hnot (by simp [htfd])
    · rcases h.sources nSourceId nFD hfd (hsources ▸ hsrc) with ⟨-, rfl⟩ | hnot
      · simp [descriptorEvent, HeldSince, DescriptorEvent.closedFD]
      · simp [descriptorEvent, HeldSince, DescriptorEvent.closedFD, hnot]
  | pending hs htfd hconnect hsend hsources =>
    rw [handedEvents_of_append hsources]
    refine ⟨ht, h.closesOwn, fun nFD => ?_, fun nSourceId nFD hfd hsrc => ?_⟩
    · rw [htfd]
      simpa [IsOpen, DescriptorEvent.closedFD] using h.isOpen nFD
    · rcases held_of_append hsources hsrc with ⟨hold, hne⟩ | ⟨rfl, rfl⟩
      · rcases h.sources nSourceId nFD hfd hold with ⟨href | href, rfl⟩ | hnot
        · exact .inl ⟨.inl (hconnect.trans href), htfd.symm⟩
        · rw [hs] at href
          cases href
        · exact .inr (by simp [HeldSince, DescriptorEvent.closedFD, hnot, hne.symm])
      · exact .inl ⟨.inr hsend, htfd.symm⟩
  | established nId hs htfd hconnect hsend hsources =>
    have hlen : t.sources.length = s.sources.length := by simpa using congrArg List.length hsources
    rw [handedEvents_of_length hlen]
    refine ⟨ht, h.closesOwn, fun nFD => ?_, fun nSourceId nFD hfd hsrc => ?_⟩
    · rw [htfd]
      exact h.isOpen nFD
    · rw [hsources, List.getElem?_modify, Option.map_eq_map, Option.map_eq_some_iff] at hsrc
      obtain ⟨p, hget, hp⟩ := hsrc
      split_ifs at hp with hid
      · -- the source of the connect has given the descriptor back
        have hback : -1 = nFD := congrArg Prod.fst hp
        omega
      · rw [htfd]
        rcases h.sources nSourceId nFD hfd (hp ▸ hget) with ⟨href | href, hnfd⟩ | hnot
        · rw [hs, Option.some.injEq] at href
          exact absurd href hid
        · exact .inl ⟨.inr (hsend.trans href), hnfd⟩
        · exact .inr hnot

theorem closer_of_ne (hop : ∀ nSourceId, op ≠ .destroySource nSourceId) :
    closer op = .closedByClient := by
  cases op with
  | destroySource nSourceId => exact absurd rfl (hop nSourceId)
  | _ => rfl

/-- A source that has given its descriptor back is destroyed in silence. -/
theorem OwnsDescriptors.destroySource (h : OwnsDescriptors s es) (nSourceId : ℕ)
    (hguard : s.closesAtDestruction (.destroySource nSourceId) = false) :
    OwnsDescriptors (s.destroySource nSourceId)
      (handedEvents s (s.destroySource nSourceId) ++
        ((newEvents s (s.destroySource nSourceId)).filterMap
          (descriptorEvent (.closedBySource nSourceId)) ++ es)) := by
  rcases destroySource_cases (s := s) nSourceId with heq | ⟨src, hsrc, hatt, hdes, hco, hse, heq⟩
  · rw [heq, handedEvents_of_same rfl, newEvents_eq_nil rfl]
    exact h
  · have hfd : ¬ 0 ≤ src.clientFD := by
      intro hfd
      simp [closesAtDestruction, hsrc, hatt, hdes, hco, hse, hfd] at hguard
    have htrace : (s.destroySource nSourceId).trace = s.trace := by
      rw [heq]
      exact if_neg hfd
    have hhanded : handedEvents s (s.destroySource nSourceId) = [] := by simp [heq, handedEvents]
    rw [hhanded, newEvents_eq_nil htrace]
    refine ⟨coherent_perform h.coherent (.destroySource nSourceId), h.closesOwn, fun nFD => ?_,
      fun nSourceId' nFD hnfd hget => ?_⟩
    · rw [heq]
      exact h.isOpen nFD
    · rw [heq] at hget ⊢
      refine h.sources nSourceId' nFD hnfd ?_
      rw [List.getElem?_map, List.getElem?_modify, Option.map_eq_map, Option.map_map,
        Option.map_eq_some_iff] at hget
      obtain ⟨src', hget', hheld⟩ := hget
      rw [Function.comp_apply] at hheld
      split_ifs at hheld with hid
      · -- what has been destroyed is not looked at any more
        cases congrArg Prod.snd hheld
      · rw [List.getElem?_map, hget', Option.map_some, ← hheld]

theorem OwnsDescriptors.step (h : OwnsDescriptors s es) (hguard : s.DescriptorReturned op)
    (hstep : s.step op = .ok t) : OwnsDescriptors t (descriptorEvents s op ++ es) := by
  obtain ⟨hfault, rfl⟩ := step_eq_ok.mp hstep
  rw [descriptorEvents, hstep]
  dsimp only
  rw [List.append_assoc]
  by_cases hop : ∀ nSourceId, op ≠ .destroySource nSourceId
  · obtain ⟨l, hl⟩ := linked_perform h.coherent hop
    have hlink := h.link (coherent_perform h.coherent op) hl.link
    rw [filterMap_descriptorEvent] at hlink
    rw [newEvents_eq hl.trace, closer_of_ne hop]
    exact hlink
  · push Not at hop
    obtain ⟨nSourceId, rfl⟩ := hop
    exact h.destroySource nSourceId (hguard hfault)

theorem destroySource_of_closes {nSourceId : ℕ}
    (h : s.closesAtDestruction (.destroySource nSourceId)) :
    ∃ src, s.sources[nSourceId]? = some src ∧ src.destroyed = false ∧ 0 ≤ src.clientFD ∧
      s.refPendingConnect ≠ some nSourceId ∧ s.refPendingSend ≠ some nSourceId ∧
      s.destroySource nSourceId = { s with
        sources := s.sources.modify nSourceId fun src => { src with destroyed := true }
        trace := .closed src.clientFD :: s.trace } := by
  rw [closesAtDestruction] at h
  cases hsrc : s.sources[nSourceId]? with
  | none => simp [hsrc] at h
  | some src =>
    simp only [hsrc, Bool.and_eq_true, Bool.not_eq_true', Bool.or_eq_false_iff,
      decide_eq_false_iff_not, decide_eq_true_eq] at h
    obtain ⟨⟨⟨⟨hatt, hdes⟩, hco⟩, hse⟩, hfd⟩ := h
    refine ⟨src, rfl, hdes, hfd, hco, hse, ?_⟩
    simp [BtKeyClient.destroySource, hsrc, hatt, hdes, hco, hse, hfd, emit]

/-- The descriptor that the source closes was closed before. -/
theorem OwnsDescriptors.closes_alien (h : OwnsDescriptors s es)
    (hguard : ¬ s.DescriptorReturned op) : ¬ ClosesOwn (descriptorEvents s op ++ es) := by
  simp only [DescriptorReturned, Classical.not_imp, Bool.not_eq_false] at hguard
  obtain ⟨hfault, hcloses⟩ := hguard
  cases op with
  | destroySource nSourceId =>
    obtain ⟨src, hsrc, hdes, hfd, hco, hse, heq⟩ := destroySource_of_closes hcloses
    have hstep : s.step (.destroySource nSourceId) = .ok (s.destroySource nSourceId) :=
      step_eq_ok.mpr ⟨hfault, rfl⟩
    have htrace : (s.destroySource nSourceId).trace = [.closed src.clientFD] ++ s.trace := by
      rw [heq]
      rfl
    have hhanded : handedEvents s (s.destroySource nSourceId) = [] := by simp [heq, handedEvents]
    have hevents : descriptorEvents s (.destroySource nSourceId) =
        [.closedBySource nSourceId src.clientFD] := by
      rw [descriptorEvents, hstep]
      dsimp only
      rw [hhanded, newEvents_eq htrace]
      rfl
    have hheld : (s.sources.map PendingWriteSource.held)[nSourceId]? =
        some (src.clientFD, false) := by
      rw [List.getElem?_map, hsrc, Option.map_some, PendingWriteSource.held, hdes]
    rw [hevents]
    rintro ⟨-, hsince, -⟩
    rcases h.sources nSourceId src.clientFD hfd hheld with ⟨href | href, -⟩ | hnot
    · exact hco href
    · exact hse href
    · exact hnot hsince
  | _ => cases hcloses

/-! ### Runs -/

/-- **The descriptors of the client.** Along a run, every `::close` closes a descriptor that is
open and belongs to the one that closes it, if and only if every source of the run that is
destroyed has given its descriptor back. -/
theorem closesOwn_iff (nTimeoutConnect nTimeoutSend nInterval nNoopAfter : ℤ)
    (btAddr : BitVec 48) (packets : Vector StagedPacket sendBufferSize) (ops : List ClientOp) :
    let s := new nTimeoutConnect nTimeoutSend nInterval nNoopAfter btAddr packets
    ClosesOwn (Run.trace step (fun s op => (descriptorEvents s op).reverse) s ops).reverse ↔
      Run.Guarded step DescriptorReturned s ops := by
  intro s
  have hnew : OwnsDescriptors s [] :=
    ⟨coherent_new .., trivial, fun nFD => by simp [IsOpen, s, new], by simp [s, new]⟩
  refine Run.trace_iff_guarded_of_invariant (P := fun l => ClosesOwn l.reverse)
    (J := fun s l => OwnsDescriptors s l.reverse) (fun _ _ h => h.closesOwn) ?_ ?_ ?_ ?_ (l := [])
    hnew
  · intro l l' h
    rw [List.reverse_append] at h
    exact h.of_append
  · intro s l op t h hguard hstep
    rw [List.reverse_append, List.reverse_reverse]
    exact h.step hguard hstep
  · intro s op e hstep
    refine ⟨fun hfault => ?_, by rw [descriptorEvents, hstep]; rfl⟩
    rw [step_eq_ok.mpr ⟨hfault, rfl⟩] at hstep
    cases hstep
  · intro s l op h hguard
    rw [List.reverse_append, List.reverse_reverse]
    exact h.closes_alien hguard

/-- The source of a connect that succeeded can be destroyed. -/
example : Run.Guarded step DescriptorReturned defaultClient
    (connectOps 0 ++ [.destroySource 0, .disconnectFromServer]) := by decide

/-- The user gives up on a connection; the next one gets the same descriptor, and loses it when
the source of the first one is destroyed. -/
def abandonedConnect : List ClientOp :=
  [.connectToServer 1 7 (.opened 5 .inProgress), .disconnectFromServer,
    .dispatch 0 ⟨false, false, false, true⟩ .again .again] ++ connectOps 1 ++ [.destroySource 0]

theorem not_closesOwn_abandonedConnect :
    ¬ ClosesOwn (Run.trace step (fun s op => (descriptorEvents s op).reverse) defaultClient
      abandonedConnect).reverse := by
  have htrace : Run.trace step (fun s op => (descriptorEvents s op).reverse) defaultClient
      abandonedConnect = [.opened 5, .handed 0 5, .closedByClient 5, .opened 5, .handed 1 5,
        .closedBySource 0 5] := by decide
  rw [htrace]
  simp [ClosesOwn, HeldSince, DescriptorEvent.closedFD]

end BtKeyClient

end StmmInputBt
