import StmmInputBt.Client.Link

/-!
# The state machine of the client

What holds of the state of the client in every state that a run reaches: it fits the socket and
the source of a pending connect, and every change of it is signalled. The interval timer is
another matter. It is created when a connect has to wait; a connect that succeeds at once does
without, and the first `::send` that does not fail then calls a method of a null pointer. And
nothing but the socket leads out of `STATE_REMOVING`.

## Main definitions

* `BtKeyClient.StateFits`, `BtKeyClient.SignalsChange`: the state against the socket, and against
  what the signals show.
* `BtKeyClient.TimerReady`: the interval timer is there when it is needed.
* `BtKeyClient.ReturnsWithin`: the user and the timer bring the client back to
  `STATE_DISCONNECTED`.

## Main results

* `BtKeyClient.stateFits_run`, `BtKeyClient.timerReady_iff`, `BtKeyClient.returns_iff`.
-/

namespace StmmInputBt

namespace BtKeyClient

variable {s t : BtKeyClient} {op : ClientOp}

theorem Coherent.step (hc : s.Coherent) (h : s.step op = .ok t) : t.Coherent := by
  obtain ⟨-, rfl⟩ := step_eq_ok.mp h
  exact coherent_perform hc op

/-! ### The state, the socket and the signals -/

/-- The state fits the socket and the source of a pending connect; the asserts on the state hold
where `connectToServer` and `doPendingConnect` come to them. -/
structure StateFits (s : BtKeyClient) : Prop where
  clientFD : 0 ≤ s.clientFD ↔ s.state ≠ .disconnected
  pendingConnect : s.refPendingConnect.isSome ↔ s.state = .connecting
  connectAssert : s.state ≠ .removing → ¬ 0 ≤ s.clientFD → s.state = .disconnected
  pendingConnectAssert : ∀ nSourceId, s.refPendingConnect = some nSourceId → s.state = .connecting

/-- An operation that changes the state signals the state it ends in. -/
def SignalsChange (s : BtKeyClient) (op : ClientOp) : Prop :=
  ∀ t, s.step op = .ok t → t.state ≠ s.state → lastShown (newEvents s t) = some t.state

theorem Coherent.stateFits (hc : s.Coherent) : s.StateFits where
  clientFD := hc.clientFD
  pendingConnect := hc.pendingConnect
  connectAssert := fun _ hfd => not_not.mp fun hs => hfd (hc.clientFD.mpr hs)
  pendingConnectAssert := fun nSourceId hconnect => hc.pendingConnect.mp (by rw [hconnect]; rfl)

variable (op) in
/-- What the signals of an operation show last is the state that it ends in. -/
theorem Coherent.signalled (hc : s.Coherent) :
    Signalled s.state (s.perform op).state (newEvents s (s.perform op)) := by
  by_cases hop : ∀ nSourceId, op ≠ .destroySource nSourceId
  · obtain ⟨es, h⟩ := linked_perform hc hop
    rw [newEvents_eq h.trace]
    exact h.signalled
  · push Not at hop
    obtain ⟨nSourceId, rfl⟩ := hop
    rw [perform]
    rcases destroySource_cases (s := s) nSourceId with h | ⟨src, -, -, -, -, -, h⟩
    · rw [h, newEvents_eq_nil rfl]
      exact .inr ⟨rfl, rfl⟩
    · rw [h]
      refine .inr ⟨?_, rfl⟩
      -- at most the descriptor of the source is closed
      by_cases hfd : 0 ≤ src.clientFD
      · simp only [if_pos hfd]
        rw [newEvents_eq List.singleton_append.symm]
        rfl
      · simp [newEvents, lastShown, hfd]

theorem Coherent.signalsChange (hc : s.Coherent) (op : ClientOp) : s.SignalsChange op := by
  intro t hstep hne
  obtain ⟨-, rfl⟩ := step_eq_ok.mp hstep
  exact (hc.signalled op).eq_of_ne hne

/-- **The state of the client.** Whatever is done to the client and however the socket calls go,
the state fits the socket and the pending connect, and every change is signalled. -/
theorem stateFits_run (nTimeoutConnect nTimeoutSend nInterval nNoopAfter : ℤ)
    (btAddr : BitVec 48) (packets : Vector StagedPacket sendBufferSize) (ops : List ClientOp) :
    let s := new nTimeoutConnect nTimeoutSend nInterval nNoopAfter btAddr packets
    Run.Always step StateFits s ops ∧ Run.Guarded step SignalsChange s ops := by
  have hnew := coherent_new nTimeoutConnect nTimeoutSend nInterval nNoopAfter btAddr packets
  have hstep : ∀ s op t, Coherent s → step s op = .ok t → Coherent t := fun _ _ _ => Coherent.step
  exact ⟨Run.always_of_invariant (fun _ hc => hc.stateFits) hstep hnew,
    Run.guarded_of_invariant (fun _ op hc => hc.signalsChange op) hstep hnew⟩

/-! ### The interval timer -/

/-- The interval timer is there whenever it is needed: no method of it was called in vain, and
when it fires the timeouts are looked at. -/
structure TimerReady (s : BtKeyClient) : Prop where
  timer : s.state ≠ .disconnected → s.refIntervalTimeout.isSome
  noNullCall : s.fault ≠ some .nullTimer
  fires : s.state ≠ .disconnected → ∀ res, ∃ nElapsed, s.intervalCallback res =
    { s with refIntervalTimeout := some nElapsed }.doIntervalTimeout nElapsed res

/-- `connectToServer` comes to a `::connect` that succeeds at once. -/
def connectsAtOnce (s : BtKeyClient) : ClientOp → Bool
  | .connectToServer _ _ (.opened _ .connected) => s.state ≠ .removing && s.clientFD < 0
  | _ => false

/-- A client that is alive does not connect at once before it has a timer. -/
def ConnectsWithTimer (s : BtKeyClient) (op : ClientOp) : Prop :=
  s.fault = none → s.connectsAtOnce op → s.refIntervalTimeout.isSome

instance (s : BtKeyClient) (op : ClientOp) : Decidable (s.ConnectsWithTimer op) :=
  inferInstanceAs (Decidable (_ → _ → _))

theorem timerReady_of (htimer : s.state ≠ .disconnected → s.refIntervalTimeout.isSome)
    (hfault : s.fault ≠ some .nullTimer) : s.TimerReady := by
  refine ⟨htimer, hfault, fun hs res => ?_⟩
  obtain ⟨nTotMillisec, hsome⟩ := Option.isSome_iff_exists.mp (htimer hs)
  exact ⟨nTotMillisec + s.interval, by rw [intervalCallback, hsome]⟩

/-- Only `connectToServer` leads out of `STATE_DISCONNECTED`. -/
theorem Coherent.stays_disconnected (hc : s.Coherent) (hs : s.state = .disconnected)
    (hop : ∀ oBtAddr nL2capPort calls, op ≠ .connectToServer oBtAddr nL2capPort calls) :
    (s.perform op).state = .disconnected := by
  have hfd : s.clientFD < 0 := not_le.mp fun h => hc.clientFD.mp h hs
  have hconnect : s.refPendingConnect = none := by
    rw [← Option.not_isSome_iff_eq_none, hc.pendingConnect, hs]
    decide
  have hsend : s.refPendingSend = none := by
    rw [← Option.not_isSome_iff_eq_none]
    intro h
    have hon := hc.pendingSend h
    rw [hs] at hon
    cases hon
  cases op with
  | connectToServer oBtAddr nL2capPort calls => exact absurd rfl (hop _ _ _)
  | disconnectFromServer => simp [perform, disconnectFromServer, disconnectInternal, hs, hfd]
  | sendKeyToServer eType eKey res => simp [perform, sendKeyToServer, emit, hs]
  | sendRemoveToServer res => simp [perform, sendRemoveToServer, hs]
  | intervalTick res =>
    simp only [perform, intervalCallback, doIntervalTimeout]
    split <;> simp [hs]
  | dispatch nSourceId nIOFlags res res' =>
    have hslot (slot : Option PendingSlot) :
        (s.dispatchSlot nSourceId slot nIOFlags res res').2 = s := by
      simp only [dispatchSlot]
      cases slot with
      | none => rfl
      | some slot => cases slot <;> simp [doPendingConnect, doPendingSend, hconnect, hsend]
    simp only [perform, dispatch]
    split
    · exact hs
    · split_ifs <;> simp [hslot, hs]
  | destroySource nSourceId =>
    simp only [perform]
    rcases destroySource_cases (s := s) nSourceId with h | ⟨src, -, -, -, -, -, h⟩ <;> rw [h] <;>
      exact hs

theorem Coherent.disconnected_iff (hc : s.Coherent) : s.state = .disconnected ↔ s.clientFD < 0 := by
  rw [← not_le, hc.clientFD, not_not]

/-- A step that does not connect at once without a timer keeps the timer ready. -/
theorem TimerReady.step (h : s.TimerReady) (hc : s.Coherent) (hguard : s.ConnectsWithTimer op)
    (hstep : s.step op = .ok t) : t.TimerReady := by
  obtain ⟨hfault, rfl⟩ := step_eq_ok.mp hstep
  by_cases hdestroy : ∀ nSourceId, op ≠ .destroySource nSourceId
  · obtain ⟨es, hl⟩ := linked_perform hc hdestroy
    refine timerReady_of (fun ht => ?_) fun hnull => ?_
    · by_cases hs : s.state = .disconnected
      · by_cases hop : ∀ oBtAddr nL2capPort calls, op ≠ .connectToServer oBtAddr nL2capPort calls
        · exact absurd (hc.stays_disconnected hs hop) ht
        · push Not at hop
          obtain ⟨oBtAddr, nL2capPort, calls, rfl⟩ := hop
          have hfd := hc.disconnected_iff.mp hs
          have hrem : s.state ≠ .removing := by
            rw [hs]
            decide
          simp only [perform, connectToServer, hrem, if_false, not_le.mpr hfd] at ht ⊢
          cases calls with
          | socketFailed sError | getFlagsFailed nFD sError | setFlagsFailed nFD sError =>
            exact absurd hs ht
          | opened nFD result =>
            cases result with
            | failed sError => exact absurd hs ht
            | inProgress => rfl
            | connected => exact hguard hfault (by simp [connectsAtOnce, hrem, hfd])
      · exact hl.timer (h.timer hs)
    · rcases hl.fault hnull with hnull | ⟨htimer, hs⟩
      · exact h.noNullCall hnull
      · have := h.timer hs
        rw [htimer] at this
        cases this
  · push Not at hdestroy
    obtain ⟨nSourceId, rfl⟩ := hdestroy
    simp only [perform]
    rcases destroySource_cases (s := s) nSourceId with heq | ⟨src, -, -, -, -, -, heq⟩ <;> rw [heq]
    · exact h
    · exact timerReady_of h.timer h.noNullCall

/-- **The interval timer is there when it is needed**, along a run of the client, if and only if
no `::connect` of the run succeeds at once while there is no timer yet. -/
theorem timerReady_iff (nTimeoutConnect nTimeoutSend nInterval nNoopAfter : ℤ)
    (btAddr : BitVec 48) (packets : Vector StagedPacket sendBufferSize) (ops : List ClientOp) :
    let s := new nTimeoutConnect nTimeoutSend nInterval nNoopAfter btAddr packets
    Run.Always step TimerReady s ops ↔ Run.Guarded step ConnectsWithTimer s ops := by
  refine Run.always_iff_guarded_of_invariant (J := fun s => s.TimerReady ∧ s.Coherent)
    (fun s h => h.1) ?_ ?_ ⟨timerReady_of (by simp [new]) (by simp [new]), coherent_new ..⟩
  · rintro s op t ⟨h, hc⟩ hguard hstep
    exact ⟨h.step hc hguard hstep, hc.step hstep⟩
  · rintro s op ⟨h, hc⟩ hguard
    simp only [ConnectsWithTimer, Classical.not_imp] at hguard
    obtain ⟨hfault, honce, htimer⟩ := hguard
    refine ⟨_, step_eq_ok.mpr ⟨hfault, rfl⟩, fun ht => ?_⟩
    cases op with
    | connectToServer oBtAddr nL2capPort calls =>
      cases calls with
      | opened nFD result =>
        cases result with
        | connected =>
          simp only [connectsAtOnce, ne_eq, decide_not, Bool.and_eq_true, Bool.not_eq_true',
            decide_eq_false_iff_not, decide_eq_true_eq] at honce
          have heq : s.perform (.connectToServer oBtAddr nL2capPort (.opened nFD .connected)) =
              { s.emit (.opened nFD) with
                clientFD := nFD
                btAddr := oBtAddr
                l2capPort := nL2capPort }.connectSocket .connected := by
            simp only [perform, connectToServer, honce.1, if_false, not_le.mpr honce.2]
          rw [heq] at ht
          exact htimer (ht.timer (by simp [connectSocket, signalStateChanged, emit]))
        | inProgress | failed sError => cases honce
      | _ => cases honce
    | _ => cases honce

/-- A server on the same host answers at once; the first key then finds no timer. -/
def connectAtOnceAndSend : List ClientOp :=
  [.connectToServer 1 7 (.opened 5 .connected), .sendKeyToServer .press 30 .accepted]

theorem not_timerReady_connectAtOnce :
    ¬ Run.Always step TimerReady defaultClient connectAtOnceAndSend := by
  intro h
  have hrun : (Run.exec step defaultClient connectAtOnceAndSend).toOption.map (·.fault) =
      some (some .nullTimer) := by decide
  obtain ⟨t, hexec, hfault⟩ := Run.exists_exec_of_view hrun
  exact (h.last hexec).noNullCall hfault

/-! ### The way back -/

/-- A call of `connectToServer` would connect. -/
def CanConnect (s : BtKeyClient) : Prop := ∀ oBtAddr nL2capPort nFD,
  (s.connectToServer oBtAddr nL2capPort (.opened nFD .connected)).state = .connected

/-- `disconnectFromServer` and then `n` ticks of the interval timer, whatever a `::send` of theirs
would return, lead to `STATE_DISCONNECTED` and make `connectToServer` work again. -/
def ReturnsWithin (n : ℕ) (s : BtKeyClient) : Prop :=
  ∀ aResults : List SendResult, aResults.length = n →
    ∃ t, Run.exec step s (.disconnectFromServer :: aResults.map .intervalTick) = .ok t ∧
      t.state = .disconnected ∧ t.CanConnect

theorem Coherent.canConnect (hc : s.Coherent) (hs : s.state = .disconnected) : s.CanConnect := by
  intro oBtAddr nL2capPort nFD
  have hrem : s.state ≠ .removing := by
    rw [hs]
    decide
  rw [connectToServer, if_neg hrem, if_neg (not_le.mpr (hc.disconnected_iff.mp hs))]
  rfl

theorem Coherent.returnsWithin (hc : s.Coherent) (hfault : s.fault = none)
    (hs : s.state ≠ .removing) : s.ReturnsWithin 0 := by
  intro aResults hlen
  rw [List.length_eq_zero_iff] at hlen
  subst hlen
  refine ⟨s.disconnectInternal "", ?_, ?_⟩
  · have hstep : s.step .disconnectFromServer = .ok (s.disconnectInternal "") :=
      step_eq_ok.mpr ⟨hfault, by rw [perform, disconnectFromServer, if_neg hs]⟩
    exact Run.exec_cons_of_ok hstep
  · have hstate : (s.disconnectInternal "").state = .disconnected := by
      by_cases hfd : s.clientFD < 0
      · rw [disconnectInternal, if_pos hfd]
        exact hc.disconnected_iff.mpr hfd
      · exact (disconnectInternal_closes (not_lt.mp hfd) "").1
    exact ⟨hstate, (coherent_disconnectInternal hc "").canConnect hstate⟩

/-- In `STATE_REMOVING` neither the user nor the timer does anything. -/
theorem stays_removing (hs : s.state = .removing) (aResults : List SendResult)
    (h : Run.exec step s (aResults.map .intervalTick) = .ok t) : t.state = .removing := by
  induction aResults generalizing s with
  | nil => exact Except.ok.inj h ▸ hs
  | cons res aResults ih =>
    rw [List.map_cons] at h
    obtain ⟨u, hu, hrest⟩ := Run.exec_cons_eq_ok.mp h
    obtain ⟨-, rfl⟩ := step_eq_ok.mp hu
    refine ih ?_ hrest
    simp only [perform, intervalCallback, doIntervalTimeout]
    split <;> simp [hs]

theorem not_returnsWithin (hfault : s.fault = none) (hs : s.state = .removing) (n : ℕ) :
    ¬ s.ReturnsWithin n := by
  intro hn
  obtain ⟨t, ht, hstate, -⟩ := hn (List.replicate n .again) (List.length_replicate ..)
  have hstep : s.step .disconnectFromServer = .ok s :=
    step_eq_ok.mpr ⟨hfault, by rw [perform, disconnectFromServer, if_pos hs]⟩
  rw [Run.exec_cons_of_ok hstep] at ht
  have hremoving := stays_removing hs _ ht
  rw [hstate] at hremoving
  cases hremoving

/-- **The way back to `STATE_DISCONNECTED`.** In every state that a run of the client reaches
alive, `disconnectFromServer` and some number of ticks lead back to `STATE_DISCONNECTED` if and
only if the client is not in `STATE_REMOVING`. -/
theorem returns_iff (nTimeoutConnect nTimeoutSend nInterval nNoopAfter : ℤ)
    (btAddr : BitVec 48) (packets : Vector StagedPacket sendBufferSize) (ops : List ClientOp) :
    Run.Always step (fun s => s.fault = none → ((∃ n, s.ReturnsWithin n) ↔ s.state ≠ .removing))
      (new nTimeoutConnect nTimeoutSend nInterval nNoopAfter btAddr packets) ops := by
  refine Run.always_of_invariant (I := Coherent) (fun s hc hfault => ?_)
    (fun _ _ _ => Coherent.step) (coherent_new ..)
  exact ⟨fun ⟨n, hn⟩ hs => not_returnsWithin hfault hs n hn,
    fun hs => ⟨0, hc.returnsWithin hfault hs⟩⟩

/-- The socket of a client that asks for its removal never becomes writable. -/
def removalUnanswered : List ClientOp := connectOps 0 ++ [.sendRemoveToServer .again]

theorem not_returns_removalUnanswered : ∃ s,
    Run.exec step defaultClient removalUnanswered = .ok s ∧ ¬ ∃ n, s.ReturnsWithin n := by
  have hrun : (Run.exec step defaultClient removalUnanswered).toOption.map
      (fun s => (s.fault, s.state)) = some (none, .removing) := by decide
  obtain ⟨s, hexec, hview⟩ := Run.exists_exec_of_view hrun
  rw [Prod.mk.injEq] at hview
  exact ⟨s, hexec, fun ⟨n, hn⟩ => not_returnsWithin hview.1 hview.2 n hn⟩

end BtKeyClient

end StmmInputBt
