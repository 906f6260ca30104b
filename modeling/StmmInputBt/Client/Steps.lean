import StmmInputBt.Client.KeyClient
import StmmInputBt.Foundation.Run

/-!
# What a step of the client does

The operations of the client share a few functions: `sendPacketsFromBufferedKeys` empties the
ring buffer into `m_aPackets` and offers the batch to the socket, `disconnectInternal` ends the
connection. One specification for each of them, and one theorem about `perform` that says what
any operation does to the ring buffer, to the packets and to the history.

## Main definitions

* `BtKeyClient.Ring`, `BtKeyClient.Coherent`: what holds of the client between two operations.
* `BtKeyClient.Prepared`, `BtKeyClient.Staged`, `BtKeyClient.Offered`: the three phases of
  sending.
* `BtKeyClient.overruns`, `BtKeyClient.reachesSend`: the operations that write past the packets
  and those that call `::send`.
* `BtKeyClient.StepCase`: what an operation does.

## Main results

* `BtKeyClient.sendPackets_eq`, `BtKeyClient.sendPackets_overrun`.
* `BtKeyClient.perform_cases`.
-/

namespace StmmInputBt

/-- The packet `p` is what writing the entry `e` leaves, over whatever was there. -/
def Encodes (e : BufferedKey) (p : StagedPacket) : Prop := ∃ old, p = encodePacket e old

/-- Connected to a server. -/
def ClientState.online : ClientState → Bool
  | .connected | .sending | .removing => true
  | .disconnected | .connecting => false

/-- The event is neither about entries nor about sending, nor does it establish a connection. -/
def ClientEvent.quiet : ClientEvent → Bool
  | .opened _ | .closed _ | .stateChanged _ | .error _ => true
  | .established _ | .passed _ | .put .. | .sent .. => false

/-- Only quiet events have been added to a history. -/
def QuietExt (tr tr' : List ClientEvent) : Prop :=
  ∃ es : List ClientEvent, tr' = es ++ tr ∧ ∀ e ∈ es, e.quiet

theorem QuietExt.refl (tr : List ClientEvent) : QuietExt tr tr := ⟨[], rfl, by simp⟩

theorem QuietExt.cons {tr tr' : List ClientEvent} (h : QuietExt tr tr') {e : ClientEvent}
    (he : e.quiet) : QuietExt tr (e :: tr') := by
  obtain ⟨es, rfl, hes⟩ := h
  exact ⟨e :: es, rfl, by simpa [he] using hes⟩

/-- What quiet events do not add to, quiet extensions do not change. -/
theorem QuietExt.eq_of {α : Sort*} {f : List ClientEvent → α}
    (hf : ∀ e tr, e.quiet → f (e :: tr) = f tr) {tr tr' : List ClientEvent}
    (h : QuietExt tr tr') : f tr' = f tr := by
  obtain ⟨es, rfl, hes⟩ := h
  induction es with
  | nil => rfl
  | cons e es ih =>
    obtain ⟨he, hes⟩ := List.forall_mem_cons.mp hes
    exact (hf e _ he).trans (ih hes)

namespace BtKeyClient

variable {s t u v : BtKeyClient} {op : ClientOp} {res res' : SendResult}

/-- The ring buffer is well formed, and as large as `m_aPackets`. -/
structure Ring (s : BtKeyClient) : Prop where
  wf : s.bufferedKeys.Wf
  capacity : s.bufferedKeys.capacity = sendBufferSize

/-- The state fits the socket and the pending sources. -/
structure Coherent (s : BtKeyClient) : Prop where
  clientFD : 0 ≤ s.clientFD ↔ s.state ≠ .disconnected
  pendingConnect : s.refPendingConnect.isSome ↔ s.state = .connecting
  pendingSend : s.refPendingSend.isSome → s.state.online

/-- Neither the entries nor the packets differ. -/
structure SameQueue (s t : BtKeyClient) : Prop where
  bufferedKeys : t.bufferedKeys = s.bufferedKeys
  packets : t.packets = s.packets
  totPackets : t.totPackets = s.totPackets
  nextSerial : t.nextSerial = s.nextSerial

theorem SameQueue.refl (s : BtKeyClient) : SameQueue s s := ⟨rfl, rfl, rfl, rfl⟩

theorem SameQueue.trans (h : SameQueue s t) (h' : SameQueue t u) : SameQueue s u :=
  ⟨h'.bufferedKeys.trans h.bufferedKeys, h'.packets.trans h.packets,
    h'.totPackets.trans h.totPackets, h'.nextSerial.trans h.nextSerial⟩

theorem SameQueue.batch (h : SameQueue s t) : t.batch = s.batch := by
  rw [BtKeyClient.batch, h.packets, h.totPackets, BtKeyClient.batch]

theorem SameQueue.ring (h : SameQueue s t) (hr : s.Ring) : t.Ring :=
  ⟨h.bufferedKeys ▸ hr.wf, h.bufferedKeys ▸ hr.capacity⟩

theorem Ring.count_le (h : s.Ring) : s.bufferedKeys.count ≤ sendBufferSize :=
  h.capacity ▸ h.wf.count_le

/-! ### The end of a connection -/

theorem disconnectInternal_sameQueue (e : String) : SameQueue s (s.disconnectInternal e) := by
  rw [disconnectInternal]
  split_ifs <;> exact ⟨rfl, rfl, rfl, rfl⟩

theorem disconnectInternal_quiet (e : String) :
    QuietExt s.trace (s.disconnectInternal e).trace := by
  rw [disconnectInternal]
  split_ifs
  · exact .refl _
  · exact ((QuietExt.refl _).cons rfl).cons rfl
  · exact (((QuietExt.refl _).cons rfl).cons rfl).cons rfl

@[simp] theorem disconnectInternal_fault (e : String) :
    (s.disconnectInternal e).fault = s.fault := by
  rw [disconnectInternal]
  split_ifs <;> rfl

/-- A connection that is open is closed. -/
theorem disconnectInternal_closes (h : 0 ≤ s.clientFD) (e : String) :
    (s.disconnectInternal e).state = .disconnected ∧ (s.disconnectInternal e).clientFD = -1 ∧
      (s.disconnectInternal e).refPendingConnect = none ∧
      (s.disconnectInternal e).refPendingSend = none := by
  rw [disconnectInternal]
  rw [if_neg (not_lt.mpr h)]
  split_ifs <;> exact ⟨rfl, rfl, rfl, rfl⟩

/-! ### Staging and offering a batch -/

/-- The state that sending a batch leads to. -/
def stagedState (es : List BufferedKey) (eNewState : ClientState) : ClientState :=
  if es.any (·.keyType = .removeDevice) then .removing else eNewState

/-- `v` is `s` after the entries of the ring buffer have been moved to the packets. -/
structure Staged (s v : BtKeyClient) : Prop where
  eq : v = { s with
    bufferedKeys := v.bufferedKeys, packets := v.packets, totPackets := v.totPackets }
  ring : v.Ring
  empty : v.bufferedKeys.contents = []
  encodes : s.bufferedKeys.contents.Forall₂ Encodes v.batch

theorem take_set_packets (packets : Vector StagedPacket sendBufferSize) {n : ℕ}
    (h : n < sendBufferSize) (p : StagedPacket) :
    (packets.set n p).toList.take (n + 1) = packets.toList.take n ++ [p] := by
  rw [Vector.toList_set, List.take_add_one, List.take_set_of_le le_rfl, List.getElem?_set_self]
  · rfl
  · simpa using h

/-- The loop moves all entries, as long as there is room for them. -/
theorem stagePackets_eq (n : ℕ) (eNewState : ClientState) (s : BtKeyClient)
    (hring : s.Ring) (hn : s.bufferedKeys.count = n) (hle : s.totPackets + n ≤ sendBufferSize) :
    ∃ v ps, stagePackets n eNewState s = (stagedState s.bufferedKeys.contents eNewState, v) ∧
      v = { s with
        bufferedKeys := v.bufferedKeys, packets := v.packets, totPackets := s.totPackets + n } ∧
      v.Ring ∧ v.bufferedKeys.contents = [] ∧ v.batch = s.batch ++ ps ∧
      s.bufferedKeys.contents.Forall₂ Encodes ps := by
  induction n generalizing eNewState s with
  | zero =>
    have hnil : s.bufferedKeys.contents = [] :=
      CircularBuffer.contents_eq_nil.mpr (CircularBuffer.isEmpty_iff.mpr hn)
    refine ⟨s, [], ?_, rfl, hring, hnil, (List.append_nil _).symm, ?_⟩
    · rw [hnil]
      rfl
    · rw [hnil]
      exact .nil
  | succ n ih =>
    have hempty : ¬ s.bufferedKeys.isEmpty := by
      rw [CircularBuffer.isEmpty_iff]
      omega
    have hlt : s.totPackets < sendBufferSize := by omega
    let oPair := s.bufferedKeys.read.1
    let p := encodePacket oPair s.packets[s.totPackets]
    let s' : BtKeyClient := { s with
      bufferedKeys := s.bufferedKeys.read.2
      packets := s.packets.set s.totPackets p
      totPackets := s.totPackets + 1 }
    have hring' : s'.Ring := ⟨hring.wf.read hempty, hring.capacity⟩
    obtain ⟨v, ps, hrun, heq, hv, hnil, hbatch, henc⟩ :=
      ih (if oPair.keyType = .removeDevice then .removing else eNewState) s' hring'
        (by simp [s', hn]) (by change s.totPackets + 1 + n ≤ _; omega)
    have hcons : s.bufferedKeys.contents = oPair :: s'.bufferedKeys.contents :=
      hring.wf.contents_eq_cons hempty
    refine ⟨v, p :: ps, ?_, ?_, hv, hnil, ?_, ?_⟩
    · have hstage : stagePackets (n + 1) eNewState s = stagePackets n
          (if oPair.keyType = .removeDevice then .removing else eNewState) s' := by
        rw [stagePackets]
        exact dif_pos hlt
      rw [hstage, hrun, hcons]
      by_cases hrem : oPair.keyType = .removeDevice <;> simp [stagedState, hrem]
    · rw [heq]
      simp only [s', BtKeyClient.mk.injEq, true_and, and_true]
      omega
    · rw [hbatch, List.append_cons]
      exact congrArg (· ++ ps) (take_set_packets s.packets hlt p)
    · rw [hcons]
      exact .cons ⟨_, rfl⟩ henc

/-- What the loop makes of all entries. -/
def staged (s : BtKeyClient) : ClientState × BtKeyClient :=
  stagePackets s.bufferedKeys.count .sending { s with totPackets := 0 }

theorem sendPacketsFromBufferedKeys_eq (res : SendResult) : s.sendPacketsFromBufferedKeys res =
    if s.staged.2.fault.isSome then s.staged.2
    else s.staged.2.offerPackets s.state s.staged.1 res := rfl

/-- `sendPacketsFromBufferedKeys` offers the entries of the ring buffer as one batch. -/
theorem sendPackets_eq (hring : s.Ring) (hfault : s.fault = none) (res : SendResult) :
    Staged s s.staged.2 ∧ s.sendPacketsFromBufferedKeys res =
      s.staged.2.offerPackets s.state (stagedState s.bufferedKeys.contents .sending) res := by
  obtain ⟨v, ps, hrun, heq, hv, hnil, hbatch, henc⟩ :=
    stagePackets_eq s.bufferedKeys.count .sending { s with totPackets := 0 }
      ⟨hring.wf, hring.capacity⟩ rfl (by simpa using hring.count_le)
  have hps : v.batch = ps := by simpa [BtKeyClient.batch] using hbatch
  rw [sendPacketsFromBufferedKeys_eq, staged, hrun]
  refine ⟨⟨?_, hv, hnil, hps ▸ henc⟩, ?_⟩
  · rw [heq]
  · have hv' : v.fault = none := by rw [heq]; exact hfault
    rw [if_neg (by simp [hv'])]

/-- Too many entries: the loop writes past the packets. -/
theorem stagePackets_overrun (n : ℕ) (eNewState : ClientState) (s : BtKeyClient)
    (hle : s.totPackets ≤ sendBufferSize) (hlt : sendBufferSize < s.totPackets + n) :
    (stagePackets n eNewState s).2.fault = some .packetsOverrun ∧
      (stagePackets n eNewState s).2.trace = s.trace := by
  induction n generalizing eNewState s with
  | zero => omega
  | succ n ih =>
    rw [stagePackets]
    split_ifs with h
    · exact ih _ _ h (by change _ < s.totPackets + 1 + n; omega)
    · exact ⟨rfl, rfl⟩

theorem sendPackets_overrun (hcount : sendBufferSize < s.bufferedKeys.count) (res : SendResult) :
    (s.sendPacketsFromBufferedKeys res).fault = some .packetsOverrun ∧
      (s.sendPacketsFromBufferedKeys res).trace = s.trace := by
  obtain ⟨hfault, htrace⟩ := stagePackets_overrun s.bufferedKeys.count .sending
    { s with totPackets := 0 } (Nat.zero_le _) (by simpa using hcount)
  rw [sendPacketsFromBufferedKeys_eq, staged, if_pos (by simp [hfault])]
  exact ⟨hfault, htrace⟩

/-- `t` is `s` after its batch has been given to `::send` and the result has been dealt with. -/
structure Offered (s : BtKeyClient) (res : SendResult) (t : BtKeyClient) : Prop where
  queue : SameQueue s t
  trace : QuietExt (.sent s.clientFD s.batch res :: s.trace) t.trace
  pendingSend : t.refPendingSend = none ∨
    res = .accepted ∧ t.refPendingSend = s.refPendingSend ∨ res = .again
  state : t.state.online ∨ t.state = .disconnected ∧ t.refPendingSend = none
  fault : t.fault = none ∨ t.fault = some .nullTimer

theorem Coherent.nonneg_of_online (h : s.Coherent) (hon : s.state.online) : 0 ≤ s.clientFD := by
  rw [h.clientFD]
  rintro hs
  simp [hs, ClientState.online] at hon

theorem Coherent.pendingConnect_of_online (h : s.Coherent) (hon : s.state.online) :
    s.refPendingConnect = none := by
  rw [← Option.not_isSome_iff_eq_none, h.pendingConnect]
  rintro hs
  simp [hs, ClientState.online] at hon

/-- Staying connected is coherent. -/
theorem Coherent.of_online (h : s.Coherent) (hon : s.state.online) (hfd : t.clientFD = s.clientFD)
    (hconnect : t.refPendingConnect = s.refPendingConnect) (ht : t.state.online) :
    t.Coherent := by
  have hs := h.nonneg_of_online hon
  have hnone := h.pendingConnect_of_online hon
  cases hstate : t.state <;> simp only [hstate, ClientState.online, Bool.false_eq_true] at ht <;>
    exact ⟨by simp [hfd, hs, hstate], by simp [hconnect, hnone, hstate], fun _ => by
      simp [hstate, ClientState.online]⟩

/-- Giving up a connection after a `::send`. -/
theorem offered_disconnectInternal (hc : s.Coherent) (hon : s.state.online)
    (hfault : s.fault = none) (e : String) (hqueue : SameQueue s u) (hfd : u.clientFD = s.clientFD)
    (htrace : u.trace = .sent s.clientFD s.batch res :: s.trace) (hu : u.fault = s.fault) :
    Offered s res (u.disconnectInternal e) := by
  obtain ⟨hstate, -, -, hsend⟩ :=
    disconnectInternal_closes (hfd ▸ hc.nonneg_of_online hon : 0 ≤ u.clientFD) e
  refine ⟨hqueue.trans (disconnectInternal_sameQueue e), htrace ▸ disconnectInternal_quiet e,
    .inl hsend, .inr ⟨hstate, hsend⟩, .inl ?_⟩
  rw [disconnectInternal_fault, hu, hfault]

theorem ensurePendingSend_sameQueue : SameQueue s s.ensurePendingSend := by
  rw [ensurePendingSend]
  split_ifs <;> exact ⟨rfl, rfl, rfl, rfl⟩

@[simp] theorem ensurePendingSend_trace : s.ensurePendingSend.trace = s.trace := by
  rw [ensurePendingSend]
  split_ifs <;> rfl

@[simp] theorem ensurePendingSend_state : s.ensurePendingSend.state = s.state := by
  rw [ensurePendingSend]
  split_ifs <;> rfl

@[simp] theorem ensurePendingSend_fault : s.ensurePendingSend.fault = s.fault := by
  rw [ensurePendingSend]
  split_ifs <;> rfl

@[simp] theorem ensurePendingSend_clientFD : s.ensurePendingSend.clientFD = s.clientFD := by
  rw [ensurePendingSend]
  split_ifs <;> rfl

@[simp] theorem ensurePendingSend_refPendingConnect :
    s.ensurePendingSend.refPendingConnect = s.refPendingConnect := by
  rw [ensurePendingSend]
  split_ifs <;> rfl

theorem SameQueue.changeState (h : SameQueue s t) (e e' : ClientState) :
    SameQueue s (t.changeState e e') := by
  rw [BtKeyClient.changeState]
  split_ifs <;> exact h.trans ⟨rfl, rfl, rfl, rfl⟩

theorem changeState_quiet (e e' : ClientState) : QuietExt s.trace (s.changeState e e').trace := by
  rw [changeState]
  split_ifs
  · exact (QuietExt.refl _).cons rfl
  · exact .refl _

@[simp] theorem changeState_state (e e' : ClientState) : (s.changeState e e').state = e' := by
  rw [changeState]
  split_ifs <;> rfl

@[simp] theorem changeState_fault (e e' : ClientState) :
    (s.changeState e e').fault = s.fault := by
  rw [changeState]
  split_ifs <;> rfl

@[simp] theorem changeState_clientFD (e e' : ClientState) :
    (s.changeState e e').clientFD = s.clientFD := by
  rw [changeState]
  split_ifs <;> rfl

@[simp] theorem changeState_refPendingConnect (e e' : ClientState) :
    (s.changeState e e').refPendingConnect = s.refPendingConnect := by
  rw [changeState]
  split_ifs <;> rfl

@[simp] theorem changeState_refPendingSend (e e' : ClientState) :
    (s.changeState e e').refPendingSend = s.refPendingSend := by
  rw [changeState]
  split_ifs <;> rfl

theorem offerPackets_quiet (eOldState eNewState : ClientState) (res : SendResult) :
    QuietExt (.sent s.clientFD s.batch res :: s.trace)
      (s.offerPackets eOldState eNewState res).trace := by
  let s' := s.emit (.sent s.clientFD s.batch res)
  simp only [offerPackets]
  cases res with
  | failed sError => exact disconnectInternal_quiet (s := s') _
  | again =>
    dsimp only
    split
    · exact ensurePendingSend_trace (s := s') ▸ .refl _
    · exact ensurePendingSend_trace (s := s') ▸ changeState_quiet ..
  | accepted =>
    dsimp only
    split
    · exact .refl _
    · split_ifs
      · exact disconnectInternal_quiet _
      · exact changeState_quiet ..

theorem offered_offerPackets (hc : s.Coherent) (hon : s.state.online) (hfault : s.fault = none)
    {eNewState : ClientState} (hnew : eNewState.online) (res : SendResult) :
    Offered s res (s.offerPackets s.state eNewState res) := by
  let s' := s.emit (.sent s.clientFD s.batch res)
  have hs' : SameQueue s s' := ⟨rfl, rfl, rfl, rfl⟩
  cases res with
  | failed sError =>
    exact offered_disconnectInternal hc hon hfault _ hs' rfl rfl rfl
  | again =>
    have hqueue := hs'.trans (ensurePendingSend_sameQueue (s := s'))
    simp only [offerPackets]
    split
    · refine ⟨hqueue.trans ⟨rfl, rfl, rfl, rfl⟩, ?_, .inr (.inr rfl), .inl ?_, .inr rfl⟩
      · exact ensurePendingSend_trace (s := s') ▸ .refl _
      · exact (ensurePendingSend_state (s := s')).symm ▸ hon
    · refine ⟨?_, ?_, .inr (.inr rfl), .inl (by rwa [changeState_state]), .inl ?_⟩
      · apply SameQueue.changeState
        exact hqueue.trans ⟨rfl, rfl, rfl, rfl⟩
      · exact ensurePendingSend_trace (s := s') ▸ changeState_quiet ..
      · exact (changeState_fault ..).trans ((ensurePendingSend_fault (s := s')).trans hfault)
  | accepted =>
    simp only [offerPackets]
    split
    · exact ⟨hs'.trans ⟨rfl, rfl, rfl, rfl⟩, .refl _, .inr (.inl ⟨rfl, rfl⟩), .inl hon, .inr rfl⟩
    · split_ifs
      · exact offered_disconnectInternal hc hon hfault _ ⟨rfl, rfl, rfl, rfl⟩ rfl rfl rfl
      · refine ⟨?_, changeState_quiet .., .inr (.inl ⟨rfl, changeState_refPendingSend ..⟩),
          .inl (by rw [changeState_state]; rfl), .inl ((changeState_fault ..).trans hfault)⟩
        apply SameQueue.changeState
        exact hs'.trans ⟨rfl, rfl, rfl, rfl⟩

/-! ### Which operations send -/

/-- The keep-alive packet will be due when the timer fires. -/
def noopDueAtTick (s : BtKeyClient) : Bool :=
  s.refIntervalTimeout.any fun nElapsed => s.noopIsDue (nElapsed + s.interval)

/-- The main loop hands the socket of the pending send to `doPendingSend`, without an error. -/
def dispatchesSend (s : BtKeyClient) (nSourceId : ℕ) (nIOFlags : WriteCondition) : Bool :=
  s.refPendingSend = some nSourceId &&
    (s.sources[nSourceId]?).any (fun src => src.attached && src.slot = some .doPendingSend) &&
    nIOFlags.ioOut && !(nIOFlags.ioHup || nIOFlags.ioErr || nIOFlags.ioNval)

theorem refPendingSend_of_dispatchesSend {nSourceId : ℕ} {nIOFlags : WriteCondition}
    (h : s.dispatchesSend nSourceId nIOFlags) : s.refPendingSend.isSome := by
  simp only [dispatchesSend, Bool.and_eq_true, decide_eq_true_eq] at h
  rw [h.1.1.1]
  rfl

/-- The operation writes a command to a ring buffer that is full. -/
def overruns (s : BtKeyClient) : ClientOp → Bool
  | .sendRemoveToServer _ =>
    (s.state = .connected || s.state = .removing) && s.bufferedKeys.isFull
  | .intervalTick _ => s.state = .connected && s.noopDueAtTick && s.bufferedKeys.isFull
  | _ => false

/-- The operation calls `::send`. -/
def reachesSend (s : BtKeyClient) : ClientOp → Bool
  | .sendKeyToServer .. => s.state = .connected
  | .sendRemoveToServer _ => s.state.online && (s.state = .sending || !s.bufferedKeys.isFull)
  | .intervalTick _ => s.state = .connected && s.noopDueAtTick && !s.bufferedKeys.isFull
  | .dispatch nSourceId nIOFlags _ _ => s.dispatchesSend nSourceId nIOFlags
  | _ => false

/-! ### What an operation does -/

/-- A `KEY_INPUT_TYPE` that stands for a command of the client, not for a key. -/
def isCommand (eType : Hk.KeyInputType) : Bool := eType = .removeDevice || eType = .noop

/-- `u` is `s` after the entry `oKey` has been put after the entries `kept`. -/
structure Prepared (s : BtKeyClient) (oKey : BufferedKey) (kept : List BufferedKey)
    (u : BtKeyClient) : Prop where
  ring : u.Ring
  contents : u.bufferedKeys.contents = kept ++ [oKey]
  kept : kept = s.bufferedKeys.contents ∨
    (∃ oOldest, s.bufferedKeys.contents = oOldest :: kept ∧ kept.length + 1 = sendBufferSize) ∨
    s.state = .sending ∧ kept = []
  serial : oKey.serial = s.nextSerial
  nextSerial : u.nextSerial = s.nextSerial + 1
  trace : u.trace = .put oKey false :: .passed oKey :: s.trace ∨
    isCommand oKey.keyType ∧ u.trace = .put oKey false :: s.trace
  packets : u.packets = s.packets
  totPackets : u.totPackets = s.totPackets
  state : u.state = s.state
  clientFD : u.clientFD = s.clientFD
  refPendingConnect : u.refPendingConnect = s.refPendingConnect
  refPendingSend : u.refPendingSend = s.refPendingSend
  fault : u.fault = s.fault

/-- What an operation that does not send does to the connection. -/
inductive Idle (s t : BtKeyClient) : Prop
  | nothing (hstate : t.state = s.state) (hsend : t.refPendingSend = s.refPendingSend)
      (htrace : QuietExt s.trace t.trace)
  | closed (hstate : t.state = .disconnected) (hsend : t.refPendingSend = none)
      (htrace : QuietExt s.trace t.trace)
  | connecting (hs : s.state = .disconnected) (hstate : t.state = .connecting)
      (hsend : t.refPendingSend = s.refPendingSend) (htrace : QuietExt s.trace t.trace)
  | established (hs : s.state.online = false) (hstate : t.state = .connected)
      (hsend : t.refPendingSend = s.refPendingSend) (tr : List ClientEvent)
      (hquiet : QuietExt s.trace tr)
      (htrace : QuietExt (.established s.bufferedKeys.count :: tr) t.trace)
  | timedOut (hs : s.state = .sending) (hstate : t.state = .connected)
      (hsend : t.refPendingSend = s.refPendingSend) (htrace : QuietExt s.trace t.trace)

/-- What neither quiet events nor the establishing of a connection add to, an operation that does
not send does not change. -/
theorem Idle.eq_of {α : Sort*} {f : List ClientEvent → α}
    (hf : ∀ e tr, e.quiet → f (e :: tr) = f tr) (hest : ∀ n tr, f (.established n :: tr) = f tr)
    (h : Idle s t) : f t.trace = f s.trace := by
  cases h with
  | nothing _ _ htrace | closed _ _ htrace => exact htrace.eq_of hf
  | connecting _ _ _ htrace | timedOut _ _ _ htrace => exact htrace.eq_of hf
  | established _ _ _ tr hquiet htrace =>
    exact (htrace.eq_of hf).trans ((hest _ tr).trans (hquiet.eq_of hf))

/-- What an operation does. -/
inductive StepCase (s : BtKeyClient) (op : ClientOp) (t : BtKeyClient) : Prop
  | idle (hreach : s.reachesSend op = false) (hover : s.overruns op = false)
      (hqueue : SameQueue s t) (hfault : t.fault = none) (h : Idle s t)
  | ignored (hreach : s.reachesSend op = false) (hover : s.overruns op = false)
      (oKey : BufferedKey) (hserial : oKey.serial = s.nextSerial)
      (h : t = { s.emit (.passed oKey) with nextSerial := s.nextSerial + 1 })
  | enqueued (hreach : s.reachesSend op = false) (hover : s.overruns op = false)
      (hs : s.state = .sending) (oKey : BufferedKey) (kept : List BufferedKey)
      (h : Prepared s oKey kept t)
  | overrun (hreach : s.reachesSend op = false) (hover : s.overruns op)
      (hfault : t.fault = some .packetsOverrun) (oKey : BufferedKey)
      (htrace : t.trace = .put oKey true :: s.trace)
  | sent (hreach : s.reachesSend op) (hover : s.overruns op = false) (hs : s.state.online)
      (hop : ∀ nSourceId nIOFlags res res', op ≠ .dispatch nSourceId nIOFlags res res')
      (oKey : BufferedKey) (kept : List BufferedKey) (u v : BtKeyClient) (res : SendResult)
      (hu : Prepared s oKey kept u) (hv : Staged u v) (h : Offered v res t)
  | deferred (hreach : s.reachesSend op) (hover : s.overruns op = false)
      (nSourceId : ℕ) (nIOFlags : WriteCondition) (res res' : SendResult)
      (hop : op = .dispatch nSourceId nIOFlags res res')
      (hdisp : s.dispatchesSend nSourceId nIOFlags) (h : Offered s res t)
      (hres : res = .accepted ∨ t.refPendingSend = none)
  | deferredMore (hreach : s.reachesSend op) (hover : s.overruns op = false)
      (nSourceId : ℕ) (nIOFlags : WriteCondition) (res' : SendResult)
      (hop : op = .dispatch nSourceId nIOFlags .accepted res')
      (hdisp : s.dispatchesSend nSourceId nIOFlags) (nElapsed : ℤ) (v : BtKeyClient)
      (hv : Staged { s.emit (.sent s.clientFD s.batch .accepted) with lastSentTime := nElapsed } v)
      (h : Offered v res' t)

/-- A client that writes past the packets dies before it sends anything. -/
theorem StepCase.dies (h : StepCase s op t) (hover : s.overruns op) :
    t.fault = some .packetsOverrun ∧ ∃ oKey, t.trace = .put oKey true :: s.trace := by
  cases h with
  | overrun _ _ hdead oKey htrace => exact ⟨hdead, oKey, htrace⟩
  | idle _ hover' | ignored _ hover' | enqueued _ hover' | sent _ hover' | deferred _ hover'
  | deferredMore _ hover' => exact absurd (hover'.symm.trans hover) Bool.false_ne_true

/-- The entry is put after the older entries, of which the oldest one had to go if the buffer was
full. -/
theorem prepared_makePlace (hring : s.Ring) (eType : Hk.KeyInputType) (eKey : HardwareKey) :
    let oKey : BufferedKey := ⟨eType, eKey, s.nextSerial⟩
    ∃ kept, Prepared s oKey kept
      (({ s.emit (.passed oKey) with nextSerial := s.nextSerial + 1 }.makePlace).putBufferedKey
        oKey) := by
  intro oKey
  by_cases hfull : s.bufferedKeys.isFull
  · have hcount := CircularBuffer.isFull_iff.mp hfull
    have hcap := hring.capacity
    have hempty : ¬ s.bufferedKeys.isEmpty := by
      rw [CircularBuffer.isEmpty_iff, hcount, hcap]
      decide
    have hnotFull : ¬ s.bufferedKeys.read.2.isFull := by
      rw [CircularBuffer.isFull_iff, CircularBuffer.count_read, CircularBuffer.capacity_read,
        hcount, hcap]
      decide
    have hwf := hring.wf.read hempty
    have hcons := hring.wf.contents_eq_cons hempty
    have hlen := congrArg List.length hcons
    rw [CircularBuffer.length_contents, List.length_cons, hcount, hcap] at hlen
    have hmake : { s.emit (.passed oKey) with nextSerial := s.nextSerial + 1 }.makePlace =
        { s.emit (.passed oKey) with
          nextSerial := s.nextSerial + 1, bufferedKeys := s.bufferedKeys.read.2 } := if_pos hfull
    refine ⟨s.bufferedKeys.read.2.contents, ?_⟩
    rw [hmake]
    refine ⟨⟨hwf.write hnotFull _, ?_⟩, hwf.contents_write hnotFull _,
      .inr (.inl ⟨_, hcons, hlen.symm⟩), rfl, rfl, .inl ?_, rfl, rfl, rfl, rfl, rfl, rfl, rfl⟩
    · exact (CircularBuffer.capacity_write _).trans hcap
    · simp [putBufferedKey, emit, hnotFull]
  · have hmake : { s.emit (.passed oKey) with nextSerial := s.nextSerial + 1 }.makePlace =
        { s.emit (.passed oKey) with nextSerial := s.nextSerial + 1 } := if_neg hfull
    refine ⟨s.bufferedKeys.contents, ?_⟩
    rw [hmake]
    refine ⟨⟨hring.wf.write hfull _, ?_⟩, hring.wf.contents_write hfull _, .inl rfl, rfl, rfl,
      .inl ?_, rfl, rfl, rfl, rfl, rfl, rfl, rfl⟩
    · exact (CircularBuffer.capacity_write _).trans hring.capacity
    · simp [putBufferedKey, emit, hfull]

/-- A command is put without looking whether there is room. -/
theorem prepared_putCommand (hring : s.Ring) (hfull : ¬ s.bufferedKeys.isFull)
    (eType : Hk.KeyInputType) (hcmd : isCommand eType) :
    Prepared s ⟨eType, hkNull, s.nextSerial⟩ s.bufferedKeys.contents (s.putCommand eType) := by
  refine ⟨⟨hring.wf.write hfull _, ?_⟩, hring.wf.contents_write hfull _, .inl rfl, rfl, rfl,
    .inr ⟨hcmd, ?_⟩, rfl, rfl, rfl, rfl, rfl, rfl, rfl⟩
  · exact (CircularBuffer.capacity_write _).trans hring.capacity
  · simp [putCommand, putBufferedKey, emit, hfull]

/-- Coherence is about the state, the socket and the pending sources. -/
theorem Coherent.congr (h : s.Coherent) (hstate : t.state = s.state)
    (hfd : t.clientFD = s.clientFD) (hconnect : t.refPendingConnect = s.refPendingConnect)
    (hsend : t.refPendingSend = s.refPendingSend) : t.Coherent :=
  ⟨by rw [hfd, hstate, h.clientFD], by rw [hconnect, hstate, h.pendingConnect], by
    rw [hsend, hstate]
    exact h.pendingSend⟩

theorem stagedState_online (es : List BufferedKey) : (stagedState es .sending).online := by
  rw [stagedState]
  split_ifs <;> rfl

theorem coherent_stagePackets (n : ℕ) (eNewState : ClientState) (hc : s.Coherent)
    (hnew : eNewState.online) :
    (stagePackets n eNewState s).2.Coherent ∧ (stagePackets n eNewState s).2.state = s.state ∧
      (stagePackets n eNewState s).1.online := by
  induction n generalizing eNewState s with
  | zero => exact ⟨hc, rfl, hnew⟩
  | succ n ih =>
    rw [stagePackets]
    dsimp only
    split_ifs
    · exact ih _ (hc.congr rfl rfl rfl rfl) rfl
    · exact ih _ (hc.congr rfl rfl rfl rfl) hnew
    · exact ⟨hc.congr rfl rfl rfl rfl, rfl, hnew⟩

/-- What is staged is as coherent as what it was staged from. -/
theorem coherent_staged (hc : s.Coherent) :
    s.staged.2.Coherent ∧ s.staged.2.state = s.state ∧ s.staged.1.online :=
  coherent_stagePackets _ _ (s := { s with totPackets := 0 }) (hc.congr rfl rfl rfl rfl) rfl

theorem sendPackets_offers (hc : s.Coherent) (hring : s.Ring) (hfault : s.fault = none)
    (res : SendResult) :
    ∃ v, Staged s v ∧ v.Coherent ∧ v.state = s.state ∧ v.fault = none ∧
      s.sendPacketsFromBufferedKeys res =
        v.offerPackets v.state (stagedState s.bufferedKeys.contents .sending) res := by
  obtain ⟨hv, hrun⟩ := sendPackets_eq hring hfault res
  obtain ⟨hcv, hstate, -⟩ := coherent_staged hc
  exact ⟨_, hv, hcv, hstate, by rw [hv.eq]; exact hfault, by rw [hrun, hstate]⟩

/-- `sendPacketsFromBufferedKeys` stages the entries and offers them. -/
theorem offered_sendPackets (hc : s.Coherent) (hring : s.Ring) (hon : s.state.online)
    (hfault : s.fault = none) (res : SendResult) :
    ∃ v, Staged s v ∧ Offered v res (s.sendPacketsFromBufferedKeys res) := by
  obtain ⟨v, hv, hcv, hstate, hfaultv, hrun⟩ := sendPackets_offers hc hring hfault res
  rw [hrun]
  exact ⟨v, hv, offered_offerPackets hcv (hstate ▸ hon) hfaultv (stagedState_online _) res⟩

theorem Prepared.coherent {oKey : BufferedKey} {kept : List BufferedKey}
    (hu : Prepared s oKey kept u) (hc : s.Coherent) : u.Coherent :=
  hc.congr hu.state hu.clientFD hu.refPendingConnect hu.refPendingSend

/-- What has been put is staged and offered. -/
theorem Prepared.sendPackets {oKey : BufferedKey} {kept : List BufferedKey}
    (hu : Prepared s oKey kept u) (hc : s.Coherent) (hon : s.state.online) (hfault : s.fault = none)
    (res : SendResult) :
    ∃ v, Staged u v ∧ Offered v res (u.sendPacketsFromBufferedKeys res) :=
  offered_sendPackets (hu.coherent hc) hu.ring (hu.state ▸ hon) (hu.fault.trans hfault) res

theorem SameQueue.sources (h : SameQueue s t) (sources : List PendingWriteSource) :
    SameQueue s { t with sources } :=
  ⟨h.bufferedKeys, h.packets, h.totPackets, h.nextSerial⟩

theorem Idle.sources (h : Idle s t) (sources : List PendingWriteSource) :
    Idle s { t with sources } := by
  cases h with
  | nothing hstate hsend htrace => exact .nothing hstate hsend htrace
  | closed hstate hsend htrace => exact .closed hstate hsend htrace
  | connecting hs hstate hsend htrace => exact .connecting hs hstate hsend htrace
  | established hs hstate hsend tr hquiet htrace =>
    exact .established hs hstate hsend tr hquiet htrace
  | timedOut hs hstate hsend htrace => exact .timedOut hs hstate hsend htrace

theorem Offered.sources (h : Offered s res t) (sources : List PendingWriteSource) :
    Offered s res { t with sources } :=
  ⟨h.queue.sources sources, h.trace, h.pendingSend, h.state, h.fault⟩

theorem idle_refl (s : BtKeyClient) : Idle s s := .nothing rfl rfl (.refl _)

theorem idle_disconnectInternal (e : String) : Idle s (s.disconnectInternal e) := by
  by_cases hfd : s.clientFD < 0
  · rw [disconnectInternal, if_pos hfd]
    exact idle_refl s
  · obtain ⟨hstate, -, -, hsend⟩ := disconnectInternal_closes (not_lt.mp hfd) e
    exact .closed hstate hsend (disconnectInternal_quiet e)

/-! ### The operations one by one -/

/-- Nothing is put and nothing is sent. -/
structure Rests (s t : BtKeyClient) : Prop where
  queue : SameQueue s t
  fault : t.fault = s.fault
  idle : Idle s t

theorem rests_refl (s : BtKeyClient) : Rests s s := ⟨.refl s, rfl, idle_refl s⟩

theorem rests_disconnectInternal (e : String) : Rests s (s.disconnectInternal e) :=
  ⟨disconnectInternal_sameQueue e, disconnectInternal_fault e, idle_disconnectInternal e⟩

theorem rests_connectToServer (hc : s.Coherent) (oBtAddr : BitVec 48) (nL2capPort : ℤ)
    (calls : SocketCalls) : Rests s (s.connectToServer oBtAddr nL2capPort calls) := by
  simp only [connectToServer]
  split_ifs with hrem hfd
  · exact rests_refl s
  · exact rests_refl s
  · have hstate : s.state = .disconnected := not_not.mp fun h => hfd (hc.clientFD.mpr h)
    have hquiet := QuietExt.refl s.trace
    cases calls with
    | socketFailed sError => exact ⟨⟨rfl, rfl, rfl, rfl⟩, rfl, .nothing rfl rfl (hquiet.cons rfl)⟩
    | getFlagsFailed nFD sError | setFlagsFailed nFD sError =>
      exact ⟨⟨rfl, rfl, rfl, rfl⟩, rfl,
        .nothing rfl rfl (((hquiet.cons rfl).cons rfl).cons rfl)⟩
    | opened nFD result =>
      cases result with
      | connected =>
        exact ⟨⟨rfl, rfl, rfl, rfl⟩, rfl, .established (by rw [hstate]; rfl) rfl rfl _
          (hquiet.cons (e := .opened nFD) rfl) ((QuietExt.refl _).cons rfl)⟩
      | inProgress =>
        exact ⟨⟨rfl, rfl, rfl, rfl⟩, rfl,
          .connecting hstate rfl rfl ((hquiet.cons rfl).cons rfl)⟩
      | failed sError =>
        exact ⟨⟨rfl, rfl, rfl, rfl⟩, rfl,
          .nothing rfl rfl (((hquiet.cons rfl).cons rfl).cons rfl)⟩

theorem rests_doPendingConnect (hc : s.Coherent) (nSourceId : ℕ) (bError : Bool) :
    Rests s (s.doPendingConnect nSourceId bError).2 := by
  rw [doPendingConnect]
  cases hconnect : s.refPendingConnect with
  | none => exact rests_refl s
  | some nId =>
    have hstate : s.state = .connecting := hc.pendingConnect.mp (by rw [hconnect]; rfl)
    simp only
    split_ifs
    · exact rests_refl s
    · exact rests_disconnectInternal _
    · exact ⟨⟨rfl, rfl, rfl, rfl⟩, rfl, .established (by rw [hstate]; rfl) rfl rfl _
        (.refl _) ((QuietExt.refl _).cons rfl)⟩

theorem rests_destroySource (nSourceId : ℕ) : Rests s (s.destroySource nSourceId) := by
  rw [destroySource]
  cases s.sources[nSourceId]? with
  | none => exact rests_refl s
  | some src =>
    simp only
    split_ifs
    · exact rests_refl s
    · exact ⟨⟨rfl, rfl, rfl, rfl⟩, rfl, .nothing rfl rfl ((QuietExt.refl _).cons rfl)⟩
    · exact ⟨⟨rfl, rfl, rfl, rfl⟩, rfl, .nothing rfl rfl (.refl _)⟩

theorem stepCase_sendKeyToServer (hc : s.Coherent) (hring : s.Ring) (hfault : s.fault = none)
    (eType : Hk.KeyInputType) (eKey : HardwareKey) (res : SendResult) :
    StepCase s (.sendKeyToServer eType eKey res) (s.sendKeyToServer eType eKey res) := by
  obtain ⟨kept, hu⟩ := prepared_makePlace hring eType eKey
  rw [sendKeyToServer]
  cases hs : s.state with
  | connected =>
    simp only [emit, hs]
    obtain ⟨v, hv, h⟩ := hu.sendPackets hc (by rw [hs]; rfl) hfault res
    exact .sent (by simp [reachesSend, hs]) rfl (by rw [hs]; rfl) (by simp) _ kept _ v res hu hv
      (by simpa only [emit, hs] using h)
  | sending =>
    simp only [emit, hs]
    exact .enqueued (by simp [reachesSend, hs]) rfl hs _ kept (by simpa only [emit, hs] using hu)
  | disconnected | connecting | removing =>
    simp only [emit, hs]
    exact .ignored (by simp [reachesSend, hs]) rfl ⟨eType, eKey, s.nextSerial⟩ rfl
      (by simp only [emit, hs])

/-- A command written to a full ring buffer is one too many for the packets. -/
theorem putCommand_overrun (hring : s.Ring) (hfull : s.bufferedKeys.isFull)
    (eType : Hk.KeyInputType) (res : SendResult) :
    ((s.putCommand eType).sendPacketsFromBufferedKeys res).fault = some .packetsOverrun ∧
      ((s.putCommand eType).sendPacketsFromBufferedKeys res).trace =
        .put ⟨eType, hkNull, s.nextSerial⟩ true :: s.trace := by
  have hcount := CircularBuffer.isFull_iff.mp hfull
  obtain ⟨hfault, htrace⟩ := sendPackets_overrun (s := s.putCommand eType) (by
    change sendBufferSize < s.bufferedKeys.count + 1
    rw [hcount, hring.capacity]
    exact Nat.lt_succ_self _) res
  refine ⟨hfault, htrace.trans ?_⟩
  simp [putCommand, putBufferedKey, emit, hfull]

theorem stepCase_sendRemoveToServer (hc : s.Coherent) (hring : s.Ring) (hfault : s.fault = none)
    (res : SendResult) :
    StepCase s (.sendRemoveToServer res) (s.sendRemoveToServer res) := by
  rw [sendRemoveToServer]
  by_cases hoff : s.state = .connecting ∨ s.state = .disconnected
  · rw [if_pos hoff]
    refine .idle ?_ ?_ (.refl s) hfault (idle_refl s) <;>
      rcases hoff with h | h <;> simp [reachesSend, overruns, h, ClientState.online]
  · rw [if_neg hoff]
    have hon : s.state.online := by
      cases hs : s.state <;> simp_all [ClientState.online]
    by_cases hs : s.state = .sending
    · -- the ring buffer is emptied first
      let s' : BtKeyClient := { s with bufferedKeys := s.bufferedKeys.clear }
      have hring' : s'.Ring := ⟨hring.wf.clear, hring.capacity⟩
      have hnotFull : ¬ s'.bufferedKeys.isFull := by
        have := hring'.wf.capacity_pos
        rw [CircularBuffer.isFull_iff]
        exact this.ne
      have hput := prepared_putCommand hring' hnotFull .removeDevice rfl
      have hu : Prepared s ⟨.removeDevice, hkNull, s.nextSerial⟩ [] (s'.putCommand .removeDevice) :=
        ⟨hput.ring, hput.contents, .inr (.inr ⟨hs, rfl⟩), hput.serial, hput.nextSerial, hput.trace,
          hput.packets, hput.totPackets, hput.state, hput.clientFD, hput.refPendingConnect,
          hput.refPendingSend, hput.fault⟩
      obtain ⟨v, hv, h⟩ := hu.sendPackets hc hon hfault res
      rw [if_pos hs]
      exact .sent (by simp [reachesSend, ClientState.online, hs]) (by simp [overruns, hs]) hon
        (by simp) _ _ _ v res hu hv h
    · rw [if_neg hs]
      by_cases hfull : s.bufferedKeys.isFull
      · obtain ⟨hdead, htrace⟩ := putCommand_overrun hring hfull .removeDevice res
        refine .overrun (by simp [reachesSend, hs, hfull]) ?_ hdead _ htrace
        cases h : s.state <;> simp_all [overruns, ClientState.online]
      · have hu := prepared_putCommand hring hfull .removeDevice rfl
        obtain ⟨v, hv, h⟩ := hu.sendPackets hc hon hfault res
        exact .sent (by simp [reachesSend, hon, hfull]) (by simp [overruns, hfull]) hon
          (by simp) _ _ _ v res hu hv h

theorem stepCase_intervalCallback (hc : s.Coherent) (hring : s.Ring) (hfault : s.fault = none)
    (res : SendResult) : StepCase s (.intervalTick res) (s.intervalCallback res) := by
  rw [intervalCallback]
  cases htimer : s.refIntervalTimeout with
  | none =>
    exact .idle (by simp [reachesSend, noopDueAtTick, htimer])
      (by simp [overruns, noopDueAtTick, htimer]) (.refl s) hfault (idle_refl s)
  | some nTotMillisec =>
    let s' : BtKeyClient := { s with refIntervalTimeout := some (nTotMillisec + s.interval) }
    have hsame : SameQueue s s' := ⟨rfl, rfl, rfl, rfl⟩
    change StepCase s _ (s'.doIntervalTimeout (nTotMillisec + s.interval) res)
    have hdue : s.noopDueAtTick = s'.noopIsDue (nTotMillisec + s.interval) := by
      simp [noopDueAtTick, htimer, noopIsDue, s']
    rw [doIntervalTimeout]
    cases hs : s.state with
    | connected =>
      dsimp only
      by_cases hnoop : s'.noopIsDue (nTotMillisec + s.interval)
      · rw [if_pos hnoop]
        by_cases hfull : s.bufferedKeys.isFull
        · obtain ⟨hdead, htrace⟩ :=
            putCommand_overrun (s := s') ⟨hring.wf, hring.capacity⟩ hfull .noop res
          exact .overrun (by simp [reachesSend, hfull])
            (by simp [overruns, hs, hdue, hnoop, hfull]) hdead _ htrace
        · have hput := prepared_putCommand (s := s') ⟨hring.wf, hring.capacity⟩ hfull .noop
            rfl
          have hu : Prepared s ⟨.noop, hkNull, s.nextSerial⟩ s.bufferedKeys.contents
              (s'.putCommand .noop) :=
            ⟨hput.ring, hput.contents, .inl rfl, hput.serial, hput.nextSerial, hput.trace,
              hput.packets, hput.totPackets, hput.state, hput.clientFD, hput.refPendingConnect,
              hput.refPendingSend, hput.fault⟩
          obtain ⟨v, hv, h⟩ := hu.sendPackets hc (by rw [hs]; rfl) hfault res
          exact .sent (by simp [reachesSend, hs, hdue, hnoop, hfull]) (by simp [overruns, hfull])
            (by rw [hs]; rfl) (by simp) _ _ _ v res hu hv h
      · rw [if_neg hnoop]
        exact .idle (by simp [reachesSend, hdue, hnoop]) (by simp [overruns, hdue, hnoop]) hsame
          hfault (.nothing rfl rfl (.refl _))
    | connecting =>
      dsimp only
      split_ifs
      · have hrest : Rests s' (s'.disconnectInternal "Connecting timed out") :=
          rests_disconnectInternal _
        refine .idle (by simp [reachesSend, hs]) (by simp [overruns, hs])
          (hsame.trans hrest.queue) (hrest.fault.trans hfault) ?_
        obtain ⟨hstate, -, -, hsend⟩ := disconnectInternal_closes
          (s := s') (hc.clientFD.mpr (by simp [hs])) "Connecting timed out"
        exact .closed hstate hsend (disconnectInternal_quiet (s := s') _)
      · exact .idle (by simp [reachesSend, hs]) (by simp [overruns, hs]) hsame hfault
          (.nothing rfl rfl (.refl _))
    | sending =>
      dsimp only
      split_ifs
      · exact .idle (by simp [reachesSend, hs]) (by simp [overruns, hs]) ⟨rfl, rfl, rfl, rfl⟩
          hfault (.timedOut hs rfl rfl (((QuietExt.refl _).cons rfl).cons rfl))
      · exact .idle (by simp [reachesSend, hs]) (by simp [overruns, hs]) hsame hfault
          (.nothing rfl rfl (.refl _))
    | disconnected | removing =>
      dsimp only
      exact .idle (by simp [reachesSend, hs]) (by simp [overruns, hs]) hsame hfault
        (.nothing rfl rfl (.refl _))

theorem Rests.stepCase (h : Rests s t) (hfault : s.fault = none)
    (hreach : s.reachesSend op = false) (hover : s.overruns op = false) : StepCase s op t :=
  .idle hreach hover h.queue (h.fault.trans hfault) h.idle

theorem Rests.sources (h : Rests s t) (sources : List PendingWriteSource) :
    Rests s { t with sources } :=
  ⟨h.queue.sources sources, h.fault, h.idle.sources sources⟩

/-- The deferred send, without an error on the socket. -/
theorem stepCase_offerPending (hc : s.Coherent) (hring : s.Ring) (hfault : s.fault = none)
    {nSourceId : ℕ} {nIOFlags : WriteCondition} (res res' : SendResult)
    (hdisp : s.dispatchesSend nSourceId nIOFlags) (sources : List PendingWriteSource) :
    StepCase s (.dispatch nSourceId nIOFlags res res')
      { (s.offerPending res res').2 with sources } := by
  have hon : s.state.online := hc.pendingSend (refPendingSend_of_dispatchesSend hdisp)
  simp only [offerPending]
  cases res with
  | failed sError | again =>
    refine .deferred hdisp rfl _ _ _ res' rfl hdisp (Offered.sources ?_ sources) (.inr ?_)
    · exact offered_disconnectInternal hc hon hfault _ ⟨rfl, rfl, rfl, rfl⟩ rfl rfl rfl
    · exact (disconnectInternal_closes (s := s.emit _) (hc.nonneg_of_online hon) _).2.2.2
  | accepted =>
    have hquiet := QuietExt.refl (.sent s.clientFD s.batch .accepted :: s.trace)
    dsimp only
    split
    · exact .deferred hdisp rfl _ _ _ res' rfl hdisp
        ⟨⟨rfl, rfl, rfl, rfl⟩, hquiet, .inr (.inl ⟨rfl, rfl⟩), .inl hon, .inr rfl⟩ (.inl rfl)
    · rename_i nElapsed _
      split_ifs
      · exact .deferred hdisp rfl _ _ _ res' rfl hdisp
          ⟨⟨rfl, rfl, rfl, rfl⟩, hquiet.cons rfl, .inr (.inl ⟨rfl, rfl⟩), .inl rfl, .inl hfault⟩
          (.inl rfl)
      · let s' : BtKeyClient :=
          { s.emit (.sent s.clientFD s.batch .accepted) with lastSentTime := nElapsed }
        obtain ⟨v, hv, hoffered⟩ := offered_sendPackets (s := s') (hc.congr rfl rfl rfl rfl)
          ⟨hring.wf, hring.capacity⟩ hon hfault res'
        exact .deferredMore hdisp rfl _ _ res' rfl hdisp nElapsed v hv (hoffered.sources sources)

theorem stepCase_dispatch (hc : s.Coherent) (hring : s.Ring) (hfault : s.fault = none)
    (nSourceId : ℕ) (nIOFlags : WriteCondition) (res res' : SendResult) :
    StepCase s (.dispatch nSourceId nIOFlags res res')
      (s.dispatch nSourceId nIOFlags res res') := by
  have hrest (h : s.dispatchesSend nSourceId nIOFlags = false) {t : BtKeyClient}
      (ht : Rests s t) : StepCase s (.dispatch nSourceId nIOFlags res res') t :=
    ht.stepCase hfault h rfl
  rw [dispatch]
  cases hsrc : s.sources[nSourceId]? with
  | none => exact hrest (by simp [dispatchesSend, hsrc]) (rests_refl s)
  | some src =>
    dsimp only
    by_cases hatt : src.attached
    · rw [hatt, Bool.not_true, if_neg Bool.false_ne_true]
      -- whether the source is detached afterwards makes no difference
      suffices h : ∀ sources, StepCase s (.dispatch nSourceId nIOFlags res res')
          { (s.dispatchSlot nSourceId src.slot nIOFlags res res').2 with sources } by
        split_ifs
        · exact h _
        · exact h _
      intro sources
      simp only [dispatchSlot]
      cases hslot : src.slot with
      | none => exact hrest (by simp [dispatchesSend, hsrc, hslot]) ((rests_refl s).sources _)
      | some slot =>
        dsimp only
        split_ifs with hflags
        · refine hrest ?_ ((rests_refl s).sources _)
          simp only [Bool.and_eq_true, Bool.not_eq_true'] at hflags
          simp [dispatchesSend, hflags.1]
        · cases slot with
          | doPendingConnect =>
            exact hrest (by simp [dispatchesSend, hsrc, hslot])
              ((rests_doPendingConnect hc ..).sources _)
          | doPendingSend =>
            dsimp only
            by_cases hdisp : s.dispatchesSend nSourceId nIOFlags
            · have herror : (nIOFlags.ioHup || nIOFlags.ioErr || nIOFlags.ioNval) = false := by
                simp only [dispatchesSend, Bool.and_eq_true, Bool.not_eq_true'] at hdisp
                exact hdisp.2
              rw [herror]
              have hsend : s.refPendingSend = some nSourceId := by
                simp only [dispatchesSend, Bool.and_eq_true, decide_eq_true_eq] at hdisp
                exact hdisp.1.1.1
              simp only [doPendingSend, hsend, ne_eq, not_true_eq_false, if_false,
                Bool.false_eq_true]
              exact stepCase_offerPending hc hring hfault res res' hdisp sources
            · refine hrest (Bool.eq_false_iff.mpr hdisp) ?_
              rw [doPendingSend]
              cases hsend : s.refPendingSend with
              | none => exact (rests_refl s).sources _
              | some nId =>
                dsimp only
                split_ifs with hid herror
                · exact (rests_refl s).sources _
                · exact (rests_disconnectInternal _).sources _
                · refine absurd ?_ hdisp
                  simp_all [dispatchesSend]
    · rw [Bool.not_eq_true] at hatt
      rw [hatt, Bool.not_false, if_pos rfl]
      exact hrest (by simp [dispatchesSend, hsrc, hatt]) (rests_refl s)

/-- **What an operation of the client does.** -/
theorem perform_cases (hc : s.Coherent) (hring : s.Ring) (hfault : s.fault = none)
    (op : ClientOp) : StepCase s op (s.perform op) := by
  cases op with
  | connectToServer oBtAddr nL2capPort calls =>
    exact (rests_connectToServer hc ..).stepCase hfault rfl rfl
  | disconnectFromServer =>
    refine Rests.stepCase ?_ hfault rfl rfl
    simp only [perform, disconnectFromServer]
    split_ifs
    · exact rests_refl s
    · exact rests_disconnectInternal _
  | sendKeyToServer eType eKey res => exact stepCase_sendKeyToServer hc hring hfault ..
  | sendRemoveToServer res => exact stepCase_sendRemoveToServer hc hring hfault res
  | intervalTick res => exact stepCase_intervalCallback hc hring hfault res
  | dispatch nSourceId nIOFlags res res' => exact stepCase_dispatch hc hring hfault ..
  | destroySource nSourceId => exact (rests_destroySource nSourceId).stepCase hfault rfl rfl

end BtKeyClient

end StmmInputBt
