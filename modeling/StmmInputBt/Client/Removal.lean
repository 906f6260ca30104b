import StmmInputBt.Client.Link

/-!
# The removal of the virtual plug

A batch with a `REMOVE` packet that `::send` accepts should end the connection. Where
`sendPacketsFromBufferedKeys` sends it at the first attempt, `disconnectInternal` does that. Where
`::send` said `EAGAIN` and `doPendingSend` sends the batch later, nothing does: the client goes to
`STATE_CONNECTED` with the socket open, past an assert on the state that fails.

## Main definitions

* `BtKeyClient.RemovalEnds`: what an accepted removal should do.
* `BtKeyClient.defersRemoval`: an accepted removal that does not end the connection.
* `BtKeyClient.RemovalStaged`: where a staged removal can be found.

## Main results

* `BtKeyClient.removalEnds_iff`.
-/

namespace StmmInputBt

/-- The packet asks for the removal of the device. -/
def StagedPacket.isRemoval (p : StagedPacket) : Bool := p.packet.cmd = packetCmdRemoveDevice

theorem isRemoval_of_encodes {e : BufferedKey} {p : StagedPacket} (h : Encodes e p) :
    p.isRemoval = decide (e.keyType = .removeDevice) := by
  obtain ⟨old, rfl⟩ := h
  cases htype : e.keyType <;> simp [StagedPacket.isRemoval, encodePacket, htype, packetCmdKey,
    packetCmdNoop, packetCmdRemoveDevice]

/-- The entries lead to a batch with a removal. -/
def removes (es : List BufferedKey) : Bool := es.any (·.keyType = .removeDevice)

theorem any_isRemoval_of_encodes {es : List BufferedKey} {ps : List StagedPacket}
    (h : es.Forall₂ Encodes ps) : ps.any StagedPacket.isRemoval = removes es := by
  induction h with
  | nil => rfl
  | cons hep _ ih =>
    rw [removes, List.any_cons, List.any_cons, isRemoval_of_encodes hep, ih]
    rfl

namespace BtKeyClient

variable {s t u v : BtKeyClient} {op : ClientOp} {res : SendResult}

/-- The batch in `m_aPackets` holds a removal. -/
def stagesRemoval (s : BtKeyClient) : Bool := s.batch.any StagedPacket.isRemoval

/-- The assert on the state in `doPendingSend` holds, if a batch with a removal is accepted
there. -/
def PendingSendAssert (s : BtKeyClient) : ClientOp → Prop
  | .dispatch nSourceId nIOFlags .accepted _ =>
    s.dispatchesSend nSourceId nIOFlags → s.stagesRemoval → s.state = .sending
  | _ => True

/-- Where `::send` accepts a batch with a removal, the operation that leads from `s` to `t` leaves
the client in `STATE_DISCONNECTED` with its socket closed. -/
def AcceptedEnds (s t : BtKeyClient) : Prop :=
  ∀ nFD aPackets, .sent nFD aPackets .accepted ∈ newEvents s t →
    aPackets.any StagedPacket.isRemoval → t.state = .disconnected ∧ t.clientFD < 0

/-- An accepted removal ends the connection, past no assert that fails. -/
def RemovalEnds (s : BtKeyClient) (op : ClientOp) : Prop :=
  ∀ t, s.step op = .ok t → s.PendingSendAssert op ∧ AcceptedEnds s t

/-- The operation sends a batch with a removal successfully, but as a deferred batch, or without
an interval timer. -/
def defersRemoval (s : BtKeyClient) : ClientOp → Bool
  | .dispatch nSourceId nIOFlags .accepted _ =>
    s.dispatchesSend nSourceId nIOFlags && s.stagesRemoval
  | .sendKeyToServer eType eKey .accepted =>
    s.state = .connected && s.refIntervalTimeout.isNone &&
      removes (s.makePlace.putBufferedKey ⟨eType, eKey, s.nextSerial⟩).bufferedKeys.contents
  | .sendRemoveToServer .accepted =>
    s.reachesSend (.sendRemoveToServer .accepted) && s.refIntervalTimeout.isNone
  | _ => false

/-- A client that is alive does not have a removal accepted later than at the first attempt, nor
without an interval timer. -/
def RemovesAtOnce (s : BtKeyClient) (op : ClientOp) : Prop :=
  s.fault = none → s.defersRemoval op = false

instance (s : BtKeyClient) (op : ClientOp) : Decidable (s.RemovesAtOnce op) :=
  inferInstanceAs (Decidable (_ → _))

/-- Where a staged removal can be found: not in `STATE_SENDING`, and not with keys waiting behind
a pending send. -/
structure RemovalStaged (s : BtKeyClient) : Prop where
  sending : s.state = .sending → s.stagesRemoval = false
  pending : s.refPendingSend.isSome → s.stagesRemoval → s.bufferedKeys.contents = []

/-! ### Where a `::send` leads to -/

/-- `t` is `s` after its batch, with a removal or not, has been given to `::send` at the first
attempt. -/
structure SendEnds (s : BtKeyClient) (bRemoval : Bool) (res : SendResult) (t : BtKeyClient) :
    Prop where
  accepted : res = .accepted → bRemoval → s.refIntervalTimeout.isSome →
    t.state = .disconnected ∧ t.clientFD = -1
  crashed : res = .accepted → s.refIntervalTimeout = none → t.state = s.state
  sending : t.fault = none → t.state = .sending → bRemoval = false

theorem offerPackets_accepted_none (h : s.refIntervalTimeout = none)
    (eOldState eNewState : ClientState) : s.offerPackets eOldState eNewState .accepted =
      { s.emit (.sent s.clientFD s.batch .accepted) with fault := some .nullTimer } := by
  simp only [offerPackets, emit, h]

theorem offerPackets_accepted_some {nElapsed : ℤ} (h : s.refIntervalTimeout = some nElapsed)
    (eOldState eNewState : ClientState) : s.offerPackets eOldState eNewState .accepted =
      if eNewState ≠ .sending then
        { s.emit (.sent s.clientFD s.batch .accepted) with
          lastSentTime := nElapsed, lastError := "" }.disconnectInternal ""
      else
        { s.emit (.sent s.clientFD s.batch .accepted) with
          lastSentTime := nElapsed, lastError := "" }.changeState eOldState .connected := by
  simp only [offerPackets, emit, h]

theorem sendEnds_offerPackets (hc : s.Coherent) (hon : s.state.online) (es : List BufferedKey)
    (res : SendResult) :
    SendEnds s (removes es) res (s.offerPackets s.state (stagedState es .sending) res) := by
  have hfd : 0 ≤ s.clientFD := hc.nonneg_of_online hon
  cases res with
  | failed sError =>
    have hclosed := disconnectInternal_closes
      (s := s.emit (.sent s.clientFD s.batch (.failed sError))) hfd ("Failed to send: " ++ sError)
    refine ⟨by simp, by simp, fun _ hsending => ?_⟩
    have hstate := hclosed.1.symm.trans hsending
    cases hstate
  | again =>
    refine ⟨by simp, by simp, ?_⟩
    simp only [offerPackets]
    split
    · simp
    · intro _ hsending
      rw [changeState_state, stagedState] at hsending
      by_contra hremoves
      rw [Bool.not_eq_false, removes] at hremoves
      rw [if_pos hremoves] at hsending
      cases hsending
  | accepted =>
    cases htimer : s.refIntervalTimeout with
    | none =>
      rw [offerPackets_accepted_none htimer]
      exact ⟨by simp [htimer], fun _ _ => rfl, by simp⟩
    | some nElapsed =>
      rw [offerPackets_accepted_some htimer]
      split_ifs with hnew
      · obtain ⟨hstate, hclosed, -, -⟩ := disconnectInternal_closes
          (s := { s.emit (.sent s.clientFD s.batch .accepted) with
            lastSentTime := nElapsed, lastError := "" }) hfd ""
        refine ⟨fun _ _ _ => ⟨hstate, hclosed⟩, by simp [htimer], fun _ hsending => ?_⟩
        rw [hstate] at hsending
        cases hsending
      · refine ⟨fun _ hremoves _ => absurd ?_ hnew, by simp [htimer], fun _ hsending => ?_⟩
        · rw [stagedState, if_pos (by exact hremoves)]
          decide
        · rw [changeState_state] at hsending
          cases hsending

/-- What `sendPacketsFromBufferedKeys` comes to. -/
theorem sendEnds_sendPackets (hc : s.Coherent) (hring : s.Ring) (hon : s.state.online)
    (hfault : s.fault = none) (res : SendResult) :
    ∃ v, Staged s v ∧ Offered v res (s.sendPacketsFromBufferedKeys res) ∧
      SendEnds v (removes s.bufferedKeys.contents) res (s.sendPacketsFromBufferedKeys res) := by
  obtain ⟨v, hv, hcv, hstate, hfaultv, hrun⟩ := sendPackets_offers hc hring hfault res
  rw [hrun]
  exact ⟨v, hv, offered_offerPackets hcv (hstate ▸ hon) hfaultv (stagedState_online _) res,
    sendEnds_offerPackets hcv (hstate ▸ hon) _ res⟩

/-- A batch that has been offered leaves nothing behind a pending send. -/
theorem SendEnds.removalStaged {bRemoval : Bool} (h : SendEnds v bRemoval res t) (hv : Staged s v)
    (ho : Offered v res t) (hremoves : bRemoval = removes s.bufferedKeys.contents)
    (hfault : t.fault = none) : t.RemovalStaged := by
  refine ⟨fun hs => ?_, fun _ _ => ?_⟩
  · rw [stagesRemoval, ho.queue.batch, any_isRemoval_of_encodes hv.encodes, ← hremoves]
    exact h.sending hfault hs
  · rw [ho.queue.bufferedKeys]
    exact hv.empty

/-! ### What was sent -/

/-- None of the events is a `::send`. -/
def NoSend (es : List ClientEvent) : Prop := ∀ nFD aPackets res, .sent nFD aPackets res ∉ es

theorem noSend_nil : NoSend [] := fun _ _ _ => List.not_mem_nil

theorem noSend_of_quiet {es : List ClientEvent} (h : ∀ e ∈ es, e.quiet) : NoSend es := by
  intro nFD aPackets res hmem
  have hquiet := h _ hmem
  cases hquiet

/-- With no `::send`, there is nothing to end. -/
theorem acceptedEnds_of_noSend {es : List ClientEvent} (h : t.trace = es ++ s.trace)
    (hes : NoSend es) : AcceptedEnds s t := by
  intro nFD aPackets hmem
  rw [newEvents_eq h] at hmem
  exact absurd hmem (hes _ _ _)

/-- Between `s` and `t` there was one `::send`. -/
theorem acceptedEnds_of_one (es es' : List ClientEvent) {nFD : ℤ} {aPackets : List StagedPacket}
    (h : t.trace = es ++ .sent nFD aPackets res :: (es' ++ s.trace)) (hes : NoSend es)
    (hes' : NoSend es') : AcceptedEnds s t ↔
      (res = .accepted → aPackets.any StagedPacket.isRemoval →
        t.state = .disconnected ∧ t.clientFD < 0) := by
  have hnew : newEvents s t = es ++ .sent nFD aPackets res :: es' :=
    newEvents_eq (by rw [h, List.append_assoc, List.cons_append])
  constructor
  · rintro hends rfl
    exact hends nFD aPackets (by rw [hnew]; simp)
  · intro hone nFD' aPackets' hmem hremoval
    rw [hnew, List.mem_append, List.mem_cons] at hmem
    rcases hmem with hmem | heq | hmem
    · exact absurd hmem (hes _ _ _)
    · cases heq
      exact hone rfl hremoval
    · exact absurd hmem (hes' _ _ _)

/-! ### The operations that send -/

/-- A batch that is sent at the first attempt. -/
theorem acceptedEnds_sendPackets {oKey : BufferedKey} {kept : List BufferedKey}
    (hu : Prepared s oKey kept u) (htimer : u.refIntervalTimeout = s.refIntervalTimeout)
    (hc : s.Coherent) (hon : s.state.online) (hfault : s.fault = none) (res : SendResult) :
    (AcceptedEnds s (u.sendPacketsFromBufferedKeys res) ↔
      ¬ (res = .accepted ∧ s.refIntervalTimeout = none ∧ removes u.bufferedKeys.contents)) ∧
    ((u.sendPacketsFromBufferedKeys res).fault = none →
      (u.sendPacketsFromBufferedKeys res).RemovalStaged) := by
  have honu : u.state.online := hu.state ▸ hon
  obtain ⟨v, hv, ho, hend⟩ := sendEnds_sendPackets (hu.coherent hc) hu.ring honu
    (hu.fault.trans hfault) res
  have hvtimer : v.refIntervalTimeout = s.refIntervalTimeout := by rw [hv.eq]; exact htimer
  have hvtrace : v.trace = u.trace := by rw [hv.eq]
  have hvstate : v.state = u.state := by rw [hv.eq]
  refine ⟨?_, hend.removalStaged hv ho rfl⟩
  obtain ⟨es, htrace, hes⟩ := ho.trace
  obtain ⟨es', hutrace, hes'⟩ : ∃ es', u.trace = es' ++ s.trace ∧ NoSend es' := by
    rcases hu.trace with h | ⟨-, h⟩
    · exact ⟨[.put oKey false, .passed oKey], h, by simp [NoSend]⟩
    · exact ⟨[.put oKey false], h, by simp [NoSend]⟩
  rw [hvtrace, hutrace] at htrace
  rw [acceptedEnds_of_one es es' htrace (noSend_of_quiet hes) hes',
    any_isRemoval_of_encodes hv.encodes]
  constructor
  · rintro hends ⟨rfl, hnone, hremoves⟩
    have hstate := (hend.crashed rfl (hvtimer.trans hnone)).trans (hvstate.trans hu.state)
    have hdisc := (hends rfl hremoves).1
    rw [hstate] at hdisc
    rw [hdisc] at hon
    cases hon
  · rintro hnot rfl hremoves
    have htimer' : v.refIntervalTimeout.isSome := by
      rw [hvtimer, Option.isSome_iff_ne_none]
      exact fun hnone => hnot ⟨rfl, hnone, hremoves⟩
    obtain ⟨hdisc, hfd⟩ := hend.accepted rfl hremoves htimer'
    exact ⟨hdisc, by rw [hfd]; decide⟩

theorem removal_sendKeyToServer (hc : s.Coherent) (hring : s.Ring) (hfault : s.fault = none)
    (hs : s.state = .connected) (eType : Hk.KeyInputType) (eKey : HardwareKey) (res : SendResult) :
    (AcceptedEnds s (s.sendKeyToServer eType eKey res) ↔
      s.defersRemoval (.sendKeyToServer eType eKey res) = false) ∧
    ((s.sendKeyToServer eType eKey res).fault = none →
      (s.sendKeyToServer eType eKey res).RemovalStaged) := by
  obtain ⟨kept, hu⟩ := prepared_makePlace hring eType eKey
  let oKey : BufferedKey := ⟨eType, eKey, s.nextSerial⟩
  let u := ({ s.emit (.passed oKey) with
    nextSerial := s.nextSerial + 1 }.makePlace).putBufferedKey oKey
  have hsend : s.sendKeyToServer eType eKey res = u.sendPacketsFromBufferedKeys res := by
    simp only [sendKeyToServer, u, oKey, emit, hs]
  have hbuffered : u.bufferedKeys = (s.makePlace.putBufferedKey oKey).bufferedKeys := by
    by_cases hfull : s.bufferedKeys.isFull <;> simp [u, makePlace, emit, putBufferedKey, hfull]
  have htimer : u.refIntervalTimeout = s.refIntervalTimeout := by
    by_cases hfull : s.bufferedKeys.isFull <;> simp [u, makePlace, emit, putBufferedKey, hfull]
  obtain ⟨hends, hstaged⟩ := acceptedEnds_sendPackets hu htimer hc (by rw [hs]; rfl) hfault res
  rw [hsend]
  refine ⟨hends.trans ?_, hstaged⟩
  rw [hbuffered]
  cases res <;> simp [defersRemoval, hs, oKey]

/-- In `STATE_SENDING` the ring buffer is emptied before the command is put. -/
theorem prepared_clearAndPut (hring : s.Ring) (hs : s.state = .sending) :
    Prepared s ⟨.removeDevice, hkNull, s.nextSerial⟩ []
      ({ s with bufferedKeys := s.bufferedKeys.clear }.putCommand .removeDevice) := by
  have hring' : Ring { s with bufferedKeys := s.bufferedKeys.clear } :=
    ⟨hring.wf.clear, hring.capacity⟩
  have hnotFull : ¬ s.bufferedKeys.clear.isFull := by
    rw [CircularBuffer.isFull_iff]
    exact hring'.wf.capacity_pos.ne
  have hput := prepared_putCommand hring' hnotFull .removeDevice rfl
  exact ⟨hput.ring, hput.contents, .inr (.inr ⟨hs, rfl⟩), hput.serial, hput.nextSerial, hput.trace,
    hput.packets, hput.totPackets, hput.state, hput.clientFD, hput.refPendingConnect,
    hput.refPendingSend, hput.fault⟩

theorem removes_of_prepared {oKey : BufferedKey} {kept : List BufferedKey}
    (hu : Prepared s oKey kept u) (hkey : oKey.keyType = .removeDevice) :
    removes u.bufferedKeys.contents := by
  simp [removes, hu.contents, hkey]

theorem removal_sendRemoveToServer (hc : s.Coherent) (hring : s.Ring) (hfault : s.fault = none)
    (hreach : s.reachesSend (.sendRemoveToServer res)) :
    (AcceptedEnds s (s.sendRemoveToServer res) ↔
      s.defersRemoval (.sendRemoveToServer res) = false) ∧
    ((s.sendRemoveToServer res).fault = none → (s.sendRemoveToServer res).RemovalStaged) := by
  have hreach' := hreach
  simp only [reachesSend, Bool.and_eq_true, Bool.or_eq_true, decide_eq_true_eq,
    Bool.not_eq_true'] at hreach'
  obtain ⟨hon, hroom⟩ := hreach'
  have hoff : ¬ (s.state = .connecting ∨ s.state = .disconnected) := by
    rintro (h | h) <;> simp [h, ClientState.online] at hon
  obtain ⟨kept, u, hu, htimer, hsend⟩ : ∃ kept u,
      Prepared s ⟨.removeDevice, hkNull, s.nextSerial⟩ kept u ∧
      u.refIntervalTimeout = s.refIntervalTimeout ∧
      s.sendRemoveToServer res = u.sendPacketsFromBufferedKeys res := by
    rw [sendRemoveToServer, if_neg hoff]
    by_cases hs : s.state = .sending
    · exact ⟨[], _, prepared_clearAndPut hring hs, rfl, by rw [if_pos hs]⟩
    · have hfull : ¬ s.bufferedKeys.isFull := Bool.eq_false_iff.mp (hroom.resolve_left hs)
      exact ⟨_, _, prepared_putCommand hring hfull .removeDevice rfl, rfl, by rw [if_neg hs]⟩
  obtain ⟨hends, hstaged⟩ := acceptedEnds_sendPackets hu htimer hc hon hfault res
  rw [hsend]
  refine ⟨hends.trans ?_, hstaged⟩
  rw [removes_of_prepared hu rfl]
  cases res <;> simp [defersRemoval, reachesSend, hon, hroom, Option.isSome_iff_ne_none]

theorem removal_intervalCallback (hc : s.Coherent) (hring : s.Ring) (hfault : s.fault = none)
    (hreach : s.reachesSend (.intervalTick res)) :
    AcceptedEnds s (s.intervalCallback res) ∧
    ((s.intervalCallback res).fault = none → (s.intervalCallback res).RemovalStaged) := by
  simp only [reachesSend, Bool.and_eq_true, decide_eq_true_eq, Bool.not_eq_true'] at hreach
  obtain ⟨⟨hs, hdue⟩, hfull⟩ := hreach
  rw [noopDueAtTick] at hdue
  cases htimer : s.refIntervalTimeout with
  | none => simp [htimer] at hdue
  | some nTotMillisec =>
  rw [htimer, Option.any_some] at hdue
  let s' : BtKeyClient := { s with refIntervalTimeout := some (nTotMillisec + s.interval) }
  have hsend : s.intervalCallback res =
      (s'.putCommand .noop).sendPacketsFromBufferedKeys res := by
    have hs' : s'.state = .connected := hs
    have hdue' : s'.noopIsDue (nTotMillisec + s.interval) := hdue
    rw [intervalCallback, htimer]
    change s'.doIntervalTimeout (nTotMillisec + s.interval) res = _
    rw [doIntervalTimeout, hs']
    exact if_pos hdue'
  have hu := prepared_putCommand (s := s') ⟨hring.wf, hring.capacity⟩ (Bool.eq_false_iff.mp hfull)
    .noop rfl
  obtain ⟨hends, hstaged⟩ := acceptedEnds_sendPackets hu rfl (hc.congr rfl rfl rfl rfl)
    (by simp [s', hs, ClientState.online]) hfault res
  rw [hsend]
  exact ⟨hends.mpr (by simp [s']), hstaged⟩

/-! ### The deferred send -/

theorem dispatch_of_dispatchesSend {nSourceId : ℕ} {nIOFlags : WriteCondition}
    (hdisp : s.dispatchesSend nSourceId nIOFlags) (res res' : SendResult) :
    ∃ sources, s.dispatch nSourceId nIOFlags res res' =
      { (s.offerPending res res').2 with sources } := by
  simp only [dispatchesSend, Bool.and_eq_true, decide_eq_true_eq, Bool.not_eq_true'] at hdisp
  obtain ⟨⟨⟨hsend, hsrc⟩, hout⟩, herror⟩ := hdisp
  obtain ⟨src, hget, hatt, hslot⟩ : ∃ src, s.sources[nSourceId]? = some src ∧
      src.attached = true ∧ src.slot = some .doPendingSend := by
    cases hget : s.sources[nSourceId]? with
    | none => simp [hget] at hsrc
    | some src => exact ⟨src, rfl, by simpa [hget] using hsrc⟩
  have hrun : s.dispatchSlot nSourceId src.slot nIOFlags res res' = s.offerPending res res' := by
    simp [dispatchSlot, hslot, hout, herror, doPendingSend, hsend]
  rw [dispatch, hget]
  simp only [hatt, hrun, Bool.not_true, Bool.false_eq_true, if_false]
  split_ifs
  · exact ⟨_, rfl⟩
  · exact ⟨_, rfl⟩

/-- Where the deferred `::send` fails the connection ends. -/
theorem removal_sendFailed (hfd : 0 ≤ s.clientFD) (res : SendResult) (hres : res ≠ .accepted)
    (sError : String) :
    AcceptedEnds s ((s.emit (.sent s.clientFD s.batch res)).disconnectInternal sError) ∧
    ((s.emit (.sent s.clientFD s.batch res)).disconnectInternal sError).RemovalStaged := by
  obtain ⟨hstate, -, -, hnone⟩ := disconnectInternal_closes
    (s := s.emit (.sent s.clientFD s.batch res)) hfd sError
  obtain ⟨es, htrace, hes⟩ := disconnectInternal_quiet
    (s := s.emit (.sent s.clientFD s.batch res)) sError
  refine ⟨(acceptedEnds_of_one es [] htrace (noSend_of_quiet hes) noSend_nil).mpr
    fun h => absurd h hres, fun hs => ?_, fun hs => ?_⟩
  · rw [hstate] at hs
    cases hs
  · rw [hnone] at hs
    cases hs

/-- The keys that wait behind a batch without a removal are sent after it. -/
theorem removal_sendBehind (hc : s.Coherent) (hring : s.Ring) (hfault : s.fault = none)
    (hon : s.state.online) (hnone : s.stagesRemoval = false) {nElapsed : ℤ}
    (htimer : s.refIntervalTimeout = some nElapsed) (res : SendResult) :
    let t := { s.emit (.sent s.clientFD s.batch .accepted) with
      lastSentTime := nElapsed }.sendPacketsFromBufferedKeys res
    AcceptedEnds s t ∧ (t.fault = none → t.RemovalStaged) := by
  let s' : BtKeyClient :=
    { s.emit (.sent s.clientFD s.batch .accepted) with lastSentTime := nElapsed }
  obtain ⟨v, hv, ho, hend⟩ := sendEnds_sendPackets (s := s') (hc.congr rfl rfl rfl rfl)
    ⟨hring.wf, hring.capacity⟩ hon hfault res
  refine ⟨fun nFD aPackets hmem hremoval => ?_, hend.removalStaged hv ho rfl⟩
  obtain ⟨es, htrace, hes⟩ := ho.trace
  have hvtrace : v.trace = .sent s.clientFD s.batch .accepted :: s.trace := by rw [hv.eq]; rfl
  have hvtimer : v.refIntervalTimeout = some nElapsed := by rw [hv.eq]; exact htimer
  have hnew : newEvents s (s'.sendPacketsFromBufferedKeys res) =
      es ++ [.sent v.clientFD v.batch res, .sent s.clientFD s.batch .accepted] :=
    newEvents_eq (by rw [htrace, hvtrace]; simp)
  rw [hnew, List.mem_append, List.mem_cons, List.mem_singleton] at hmem
  rcases hmem with hmem | heq | heq
  · exact absurd hmem (noSend_of_quiet hes _ _ _)
  · cases heq
    rw [any_isRemoval_of_encodes hv.encodes] at hremoval
    obtain ⟨hstate, hclosed⟩ := hend.accepted rfl hremoval (by rw [hvtimer]; rfl)
    exact ⟨hstate, by rw [hclosed]; decide⟩
  · cases heq
    exact absurd (hnone.symm.trans hremoval) Bool.false_ne_true

/-- The batch of the deferred send, and perhaps one of the keys that came after it. -/
theorem removal_offerPending (hc : s.Coherent) (hring : s.Ring) (hfault : s.fault = none)
    (hstaged : s.RemovalStaged) (hsend : s.refPendingSend.isSome) (res res' : SendResult) :
    (AcceptedEnds s (s.offerPending res res').2 ↔ ¬ (res = .accepted ∧ s.stagesRemoval)) ∧
    ((s.offerPending res res').2.fault = none → (s.offerPending res res').2.RemovalStaged) := by
  have hon : s.state.online := hc.pendingSend hsend
  have hfd : 0 ≤ s.clientFD := hc.nonneg_of_online hon
  have hdisc : s.state ≠ .disconnected := by
    rintro hs
    rw [hs] at hon
    cases hon
  simp only [offerPending]
  cases res with
  | again =>
    obtain ⟨hends, hnext⟩ := removal_sendFailed hfd .again (by simp) _
    exact ⟨iff_of_true hends (by simp), fun _ => hnext⟩
  | failed sError =>
    obtain ⟨hends, hnext⟩ := removal_sendFailed hfd (.failed sError) (by simp) _
    exact ⟨iff_of_true hends (by simp), fun _ => hnext⟩
  | accepted =>
    dsimp only
    split
    · refine ⟨?_, by simp⟩
      rw [acceptedEnds_of_one [] [] rfl noSend_nil noSend_nil]
      simp [stagesRemoval, emit, hdisc]
    · rename_i nElapsed htimer
      split_ifs with hempty
      · refine ⟨?_, fun _ => ⟨by simp [signalStateChanged, emit], fun _ _ => ?_⟩⟩
        · rw [acceptedEnds_of_one [.stateChanged .connected] [] rfl
            (by simp [NoSend]) noSend_nil]
          simp [stagesRemoval, signalStateChanged, emit]
        · exact CircularBuffer.contents_eq_nil.mpr hempty
      · -- keys wait behind the batch, which has no removal then
        have hnone : s.stagesRemoval = false := by
          rw [Bool.eq_false_iff]
          exact fun h => hempty (CircularBuffer.contents_eq_nil.mp (hstaged.pending hsend h))
        obtain ⟨hends, hnext⟩ := removal_sendBehind hc hring hfault hon hnone htimer res'
        exact ⟨iff_of_true hends (by simp [hnone]), hnext⟩

/-! ### Every operation -/

/-- An operation that does not come to `::send` sends nothing. -/
theorem StepCase.noSend (h : StepCase s op t) (hreach : s.reachesSend op = false) :
    ∃ es, t.trace = es ++ s.trace ∧ NoSend es := by
  cases h with
  | idle _ _ hqueue hfault h =>
    cases h with
    | nothing _ _ htrace | closed _ _ htrace | connecting _ _ _ htrace | timedOut _ _ _ htrace =>
      obtain ⟨es, htrace, hes⟩ := htrace
      exact ⟨es, htrace, noSend_of_quiet hes⟩
    | established _ _ _ tr hquiet htrace =>
      obtain ⟨es, rfl, hes⟩ := hquiet
      obtain ⟨es', htrace, hes'⟩ := htrace
      refine ⟨es' ++ .established s.bufferedKeys.count :: es, by simpa using htrace, ?_⟩
      intro nFD aPackets res hmem
      rw [List.mem_append, List.mem_cons] at hmem
      rcases hmem with hmem | heq | hmem
      · exact noSend_of_quiet hes' _ _ _ hmem
      · cases heq
      · exact noSend_of_quiet hes _ _ _ hmem
  | ignored _ _ oKey hserial h =>
    subst h
    exact ⟨[.passed oKey], rfl, by simp [NoSend]⟩
  | enqueued _ _ _ oKey kept h =>
    rcases h.trace with htrace | ⟨-, htrace⟩
    · exact ⟨[.put oKey false, .passed oKey], htrace, by simp [NoSend]⟩
    · exact ⟨[.put oKey false], htrace, by simp [NoSend]⟩
  | overrun _ _ _ oKey htrace => exact ⟨[.put oKey true], htrace, by simp [NoSend]⟩
  | sent hreach' | deferred hreach' | deferredMore hreach' =>
    exact absurd (hreach.symm.trans hreach') Bool.false_ne_true

/-- What is neither sent nor put leaves the removal where it is. -/
theorem RemovalStaged.of_same (h : s.RemovalStaged) (hbatch : t.batch = s.batch)
    (hring : t.bufferedKeys = s.bufferedKeys) (hsending : t.state = .sending → s.state = .sending)
    (hsend : t.refPendingSend.isSome → s.refPendingSend.isSome) : t.RemovalStaged := by
  have hstages : t.stagesRemoval = s.stagesRemoval := by rw [stagesRemoval, hbatch, stagesRemoval]
  refine ⟨fun hs => ?_, fun hpending hremoval => ?_⟩
  · rw [hstages]
    exact h.sending (hsending hs)
  · rw [hring]
    exact h.pending (hsend hpending) (hstages ▸ hremoval)

theorem StepCase.removalStaged (h : StepCase s op t) (hstaged : s.RemovalStaged)
    (hreach : s.reachesSend op = false) (hfault : t.fault = none) : t.RemovalStaged := by
  cases h with
  | idle _ _ hqueue _ h =>
    refine hstaged.of_same hqueue.batch hqueue.bufferedKeys (fun hs => ?_) fun hs => ?_
    · cases h with
      | nothing hstate => exact hstate.symm.trans hs
      | closed hstate | connecting _ hstate | established _ hstate | timedOut _ hstate =>
        cases hstate.symm.trans hs
    · cases h with
      | nothing _ hsend | connecting _ _ hsend | established _ _ hsend | timedOut _ _ hsend =>
        exact hsend ▸ hs
      | closed _ hsend =>
        rw [hsend] at hs
        cases hs
  | ignored _ _ oKey hserial h =>
    subst h
    exact hstaged.of_same rfl rfl id id
  | enqueued _ _ hs oKey kept h =>
    have hnone : t.stagesRemoval = false := by
      rw [stagesRemoval, batch, h.packets, h.totPackets]
      exact hstaged.sending hs
    exact ⟨fun _ => hnone, fun _ hremoval =>
      absurd (hnone.symm.trans hremoval) Bool.false_ne_true⟩
  | overrun _ _ hdead =>
    rw [hfault] at hdead
    cases hdead
  | sent hreach' | deferred hreach' | deferredMore hreach' =>
    exact absurd (hreach.symm.trans hreach') Bool.false_ne_true

theorem pendingSendAssert_of_ne (h : s.defersRemoval op = false) : s.PendingSendAssert op := by
  cases op with
  | dispatch nSourceId nIOFlags res res' =>
    cases res with
    | accepted =>
      intro hdisp hremoval
      simp [defersRemoval, hdisp, hremoval] at h
    | again | failed sError => trivial
  | _ => trivial

/-- A removal is deferred only where something is sent. -/
theorem reachesSend_of_defersRemoval (h : s.defersRemoval op) : s.reachesSend op := by
  cases op with
  | sendKeyToServer eType eKey res => cases res <;> simp_all [defersRemoval, reachesSend]
  | sendRemoveToServer res => cases res <;> simp_all [defersRemoval]
  | dispatch nSourceId nIOFlags res res' =>
    cases res <;> simp_all [defersRemoval, reachesSend]
  | _ => cases h

/-- **One operation.** An accepted removal ends the connection unless it is deferred. -/
theorem removal_perform (hc : s.Coherent) (hring : s.Ring) (hfault : s.fault = none)
    (hstaged : s.RemovalStaged) (op : ClientOp) :
    (AcceptedEnds s (s.perform op) ↔ s.defersRemoval op = false) ∧
    ((s.perform op).fault = none → (s.perform op).RemovalStaged) := by
  by_cases hreach : s.reachesSend op
  · cases op with
    | sendKeyToServer eType eKey res =>
      exact removal_sendKeyToServer hc hring hfault (by simpa [reachesSend] using hreach) ..
    | sendRemoveToServer res => exact removal_sendRemoveToServer hc hring hfault hreach
    | intervalTick res =>
      obtain ⟨hends, hnext⟩ := removal_intervalCallback hc hring hfault hreach
      exact ⟨iff_of_true hends rfl, hnext⟩
    | dispatch nSourceId nIOFlags res res' =>
      obtain ⟨sources, heq⟩ := dispatch_of_dispatchesSend hreach res res'
      obtain ⟨hends, hnext⟩ := removal_offerPending hc hring hfault hstaged
        (refPendingSend_of_dispatchesSend hreach) res res'
      simp only [perform, heq]
      refine ⟨hends.trans ?_, fun hf => ⟨(hnext hf).sending, (hnext hf).pending⟩⟩
      have hdisp : s.dispatchesSend nSourceId nIOFlags = true := hreach
      cases res <;> simp [defersRemoval, hdisp]
    | connectToServer | disconnectFromServer | destroySource => cases hreach
  · rw [Bool.not_eq_true] at hreach
    have hcase := perform_cases hc hring hfault op
    obtain ⟨es, htrace, hes⟩ := hcase.noSend hreach
    refine ⟨iff_of_true (acceptedEnds_of_noSend htrace hes) ?_, hcase.removalStaged hstaged hreach⟩
    rw [Bool.eq_false_iff]
    exact fun h => absurd (hreach.symm.trans (reachesSend_of_defersRemoval h)) Bool.false_ne_true

/-! ### Runs -/

/-- A client that is alive knows where a staged removal is. -/
structure RemovalKnown (s : BtKeyClient) : Prop where
  coherent : s.Coherent
  ring : s.fault = none → s.Ring
  staged : s.fault = none → s.RemovalStaged

theorem RemovalKnown.step (h : s.RemovalKnown) (hstep : s.step op = .ok t) : t.RemovalKnown := by
  obtain ⟨hfault, rfl⟩ := step_eq_ok.mp hstep
  refine ⟨coherent_perform h.coherent op, fun hf => ?_,
    (removal_perform h.coherent (h.ring hfault) hfault (h.staged hfault) op).2⟩
  have hcase := perform_cases h.coherent (h.ring hfault) hfault op
  refine hcase.ring (h.ring hfault) ?_
  rw [Bool.eq_false_iff]
  intro hover
  rw [(hcase.dies hover).1] at hf
  cases hf

theorem RemovalKnown.ends_iff (h : s.RemovalKnown) (op : ClientOp) :
    s.RemovalEnds op ↔ s.RemovesAtOnce op := by
  constructor
  · intro hends hfault
    exact (removal_perform h.coherent (h.ring hfault) hfault (h.staged hfault) op).1.mp
      (hends _ (step_eq_ok.mpr ⟨hfault, rfl⟩)).2
  · intro hguard t hstep
    obtain ⟨hfault, rfl⟩ := step_eq_ok.mp hstep
    exact ⟨pendingSendAssert_of_ne (hguard hfault),
      (removal_perform h.coherent (h.ring hfault) hfault (h.staged hfault) op).1.mpr
        (hguard hfault)⟩

/-- **An accepted removal ends the connection**, at every step of a run of the client, if and only
if no step of the run has a removal accepted as a deferred batch, or while there is no interval
timer. -/
theorem removalEnds_iff (nTimeoutConnect nTimeoutSend nInterval nNoopAfter : ℤ)
    (btAddr : BitVec 48) (packets : Vector StagedPacket sendBufferSize) (ops : List ClientOp) :
    let s := new nTimeoutConnect nTimeoutSend nInterval nNoopAfter btAddr packets
    Run.Guarded step RemovalEnds s ops ↔ Run.Guarded step RemovesAtOnce s ops := by
  have hsane := sane_new nTimeoutConnect nTimeoutSend nInterval nNoopAfter btAddr packets
  refine Run.guarded_congr_of_invariant (I := RemovalKnown) (fun _ op h => h.ends_iff op)
    (fun _ _ _ => RemovalKnown.step)
    ⟨coherent_new .., fun _ => ?_, fun _ => ⟨by simp [new], by simp [new]⟩⟩
  exact hsane.ring

/-- The removal is requested on a congested socket, which gets writable later. -/
def congestedSocket : List ClientOp := connectOps 0 ++ [.sendRemoveToServer .again]

theorem not_removalEnds_deferredRemoval : ¬ Run.Guarded step RemovalEnds defaultClient
    (congestedSocket ++ [.dispatch 1 ioOutOnly .accepted .accepted]) := by
  intro h
  let op : ClientOp := .dispatch 1 ioOutOnly .accepted .accepted
  let aPackets : List StagedPacket := [⟨⟨magic1, magic2, packetCmdRemoveDevice, 0, 0⟩, 0⟩]
  have hrun : (Run.exec step defaultClient congestedSocket).toOption.map
      (fun s => (s.fault, (s.perform op).state, newEvents s (s.perform op))) =
        some (none, .connected, [.stateChanged .connected, .sent 5 aPackets .accepted]) := by
    decide
  obtain ⟨s, hexec, hview⟩ := Run.exists_exec_of_view hrun
  simp only [Prod.mk.injEq] at hview
  obtain ⟨hfault, hstate, hnew⟩ := hview
  obtain ⟨-, hends⟩ := h.of_exec hexec _ (step_eq_ok.mpr ⟨hfault, rfl⟩)
  have hdisc := (hends 5 aPackets (by rw [hnew]; simp) (by decide)).1
  rw [hstate] at hdisc
  cases hdisc

end BtKeyClient

end StmmInputBt
