import StmmInputBt.Client.Connections
import StmmInputBt.Client.Sending

/-!
# What becomes of the keys

A key that is passed to `sendKeyToServer` is accepted by `::send` sooner or later, waits in the ring
buffer or in a batch that is going to be sent again, or is lost. The client loses keys in a few ways
only: it is not connected when the key is passed; the ring buffer is full and the oldest key has to
go; a batch that waits is given up with its connection or overwritten by the next one, which
happens after `Sending timed out`; `::send` fails; the removal of the device empties the ring
buffer.

## Main definitions

* `BtKeyClient.lostBy`: the keys that an operation loses.
* `BtKeyClient.LosesNothing`: no key at all.

## Main results

* `BtKeyClient.loses_perform`: an operation loses just these keys.
* `BtKeyClient.accounts_run`: the keys along a run.
* `BtKeyClient.complete_iff`: when no key is missing.
-/

namespace StmmInputBt

namespace BtKeyClient

variable {s t u v : BtKeyClient} {op : ClientOp} {res : SendResult}

/-! ### Lost keys -/

/-- The key that has to make place for the next entry. -/
def pushedOut (s : BtKeyClient) : List SentKey :=
  if s.bufferedKeys.isFull then (entryKey s.bufferedKeys.read.1).toList else []

/-- The entries that are left when there is place for the next one. -/
def keptEntries (s : BtKeyClient) : List BufferedKey :=
  if s.bufferedKeys.isFull then s.bufferedKeys.read.2.contents else s.bufferedKeys.contents

/-- A `::send` that fails loses its batch. -/
def lostByResult (ks : List SentKey) : SendResult → List SentKey
  | .failed _ => ks
  | .accepted | .again => []

/-- The main loop hands the socket of the pending send to `doPendingSend`, with an error. -/
def failsSend (s : BtKeyClient) (nSourceId : ℕ) (nIOFlags : WriteCondition) : Bool :=
  s.refPendingSend = some nSourceId &&
    (s.sources[nSourceId]?).any (fun src => src.attached && src.slot = some .doPendingSend) &&
    (nIOFlags.ioHup || nIOFlags.ioErr || nIOFlags.ioNval)

/-- The keys that an operation loses. Staging a batch overwrites the one that waits. -/
def lostBy (s : BtKeyClient) : ClientOp → List SentKey
  | .sendKeyToServer eType eKey res =>
    let key := (entryKey ⟨eType, eKey, s.nextSerial⟩).toList
    match s.state with
    | .disconnected | .connecting | .removing => key
    | .sending => s.pushedOut
    | .connected =>
      s.pushedOut ++ (s.pendingKeys ++ lostByResult (s.keptEntries.filterMap entryKey ++ key) res)
  | .sendRemoveToServer res =>
    match s.state with
    | .disconnected | .connecting => []
    | .sending => s.queuedKeys ++ s.pendingKeys
    | .connected | .removing => s.pendingKeys ++ lostByResult s.queuedKeys res
  | .intervalTick res =>
    if s.state = .connected && s.noopDueAtTick then
      s.pendingKeys ++ lostByResult s.queuedKeys res
    else []
  | .disconnectFromServer => if s.state = .removing then [] else s.pendingKeys
  | .dispatch nSourceId nIOFlags res res' =>
    if s.dispatchesSend nSourceId nIOFlags then
      match res with
      | .accepted => if s.refIntervalTimeout.isSome then lostByResult s.queuedKeys res' else []
      | .again | .failed _ => s.pendingKeys
    else if s.failsSend nSourceId nIOFlags then s.pendingKeys
    else []
  | .connectToServer .. | .destroySource _ => []

/-- A client that is alive loses no key. -/
def LosesNothing (s : BtKeyClient) (op : ClientOp) : Prop := s.fault = none → s.lostBy op = []

instance (s : BtKeyClient) (op : ClientOp) : Decidable (s.LosesNothing op) :=
  inferInstanceAs (Decidable (_ → _))

/-! ### The parts of an operation -/

/-- Quiet events do not touch the outbox. -/
theorem outbox_of_quiet (hqueue : SameQueue s t) (hsend : t.refPendingSend = s.refPendingSend)
    (htrace : QuietExt s.trace t.trace) : t.outbox = s.outbox := by
  simp only [outbox, pendingKeys, hqueue.queuedKeys, hqueue.batchKeys, hsend,
    htrace.eq_of acceptedKeys_cons_of_quiet, htrace.eq_of passedKeys_cons_of_quiet,
    htrace.eq_of lastSend_cons_of_quiet]

/-- Giving up a connection gives up the batch that waits. -/
theorem outbox_disconnectInternal (hfd : 0 ≤ s.clientFD) (e : String) :
    (s.disconnectInternal e).outbox = { s.outbox with batch := [] } := by
  obtain ⟨-, -, -, hsend⟩ := disconnectInternal_closes hfd e
  have hqueue := disconnectInternal_sameQueue (s := s) e
  have htrace := disconnectInternal_quiet (s := s) e
  simp only [outbox, pendingKeys, hqueue.queuedKeys, hsend,
    htrace.eq_of acceptedKeys_cons_of_quiet, htrace.eq_of passedKeys_cons_of_quiet,
    Option.isSome_none, Bool.false_eq_true, false_and, if_false]

theorem loses_disconnectInternal (hc : s.Coherent) (e : String) :
    s.outbox.Loses s.pendingKeys (s.disconnectInternal e).outbox := by
  by_cases hfd : s.clientFD < 0
  · have hstate : s.state = .disconnected :=
      not_not.mp fun hne => absurd (hc.clientFD.mpr hne) (not_le.mpr hfd)
    have hpending : s.pendingKeys = [] := by
      simp [pendingKeys, hc.refPendingSend_eq_none (by rw [hstate]; rfl)]
    rw [hpending, disconnectInternal, if_pos hfd]
    exact .refl _
  · rw [outbox_disconnectInternal (not_lt.mp hfd)]
    exact .forget _

/-- A batch that waits has a pending send. -/
theorem offerPackets_pendingSend (eOldState eNewState : ClientState) :
    (v.offerPackets eOldState eNewState .again).refPendingSend.isSome := by
  have hensure (w : BtKeyClient) : w.ensurePendingSend.refPendingSend.isSome := by
    rw [ensurePendingSend]
    split_ifs with h
    · exact h
    · rfl
  simp only [offerPackets]
  split
  · exact hensure _
  · rw [changeState_refPendingSend]
    exact hensure _

theorem loses_offerPackets (hc : v.Coherent) (hon : v.state.online) (hfault : v.fault = none)
    {eNewState : ClientState} (hnew : eNewState.online) :
    Outbox.Loses { v.outbox with batch := v.batchKeys } (lostByResult v.batchKeys res)
      (v.offerPackets v.state eNewState res).outbox := by
  have h := offered_offerPackets hc hon hfault hnew res
  have hbatch := h.queue.batchKeys
  cases res with
  | accepted =>
    have houtbox : (v.offerPackets v.state eNewState .accepted).outbox =
        { v.outbox with batch := [], delivered := v.outbox.delivered ++ v.batchKeys } := by
      simp [outbox, pendingKeys, h.queue.queuedKeys, h.passedKeys, h.acceptedKeys, h.lastSend]
    rw [houtbox]
    exact .deliver _
  | again =>
    have hsome := offerPackets_pendingSend (v := v) v.state eNewState
    have houtbox : (v.offerPackets v.state eNewState .again).outbox =
        { v.outbox with batch := v.batchKeys } := by
      simp [outbox, pendingKeys, h.queue.queuedKeys, h.passedKeys, h.acceptedKeys, h.lastSend,
        hsome, hbatch]
    rw [houtbox]
    exact .refl _
  | failed sError =>
    have houtbox : (v.offerPackets v.state eNewState (.failed sError)).outbox =
        { v.outbox with batch := [] } := by
      simp [outbox, pendingKeys, h.queue.queuedKeys, h.passedKeys, h.acceptedKeys, h.lastSend]
    rw [houtbox]
    exact .forget _

/-- What the batch that waits is lost to, and what is lost with the new one. -/
theorem loses_sendPackets (hc : s.Coherent) (hring : s.Ring) (hon : s.state.online)
    (hfault : s.fault = none) (res : SendResult) :
    s.outbox.Loses (s.pendingKeys ++ lostByResult s.queuedKeys res)
      (s.sendPacketsFromBufferedKeys res).outbox := by
  obtain ⟨v, hv, hcv, hstate, hfaultv, hrun⟩ := sendPackets_offers hc hring hfault res
  have hbatch : v.batchKeys = s.queuedKeys := filterMap_packetKey_of_encodes hv.encodes
  have hqueue : v.queuedKeys = [] := by rw [queuedKeys, hv.empty, List.filterMap_nil]
  have hstaged : Outbox.Loses s.outbox s.pendingKeys { v.outbox with batch := v.batchKeys } := by
    simp only [outbox, hbatch, hqueue, hv.trace]
    exact .stage _
  rw [hrun, ← hbatch]
  exact hstaged.trans (loses_offerPackets hcv (hstate ▸ hon) hfaultv (stagedState_online _))

/-- What an entry changes that is put. -/
theorem Prepared.outbox_eq {oKey : BufferedKey} {kept : List BufferedKey}
    (h : Prepared s oKey kept u) :
    u.outbox = ⟨passedKeys s.trace ++ (entryKey oKey).toList,
      kept.filterMap entryKey ++ (entryKey oKey).toList, s.pendingKeys, acceptedKeys s.trace⟩ := by
  have hqueue : u.queuedKeys = kept.filterMap entryKey ++ (entryKey oKey).toList := by
    rw [queuedKeys, h.contents, List.filterMap_append]
    cases hkey : entryKey oKey <;> simp [hkey]
  have hpending : u.pendingKeys = s.pendingKeys := by
    have hlast : lastSend u.trace = lastSend s.trace := by
      rcases h.trace with h | ⟨-, h⟩ <;> simp [h, eventSend]
    rw [pendingKeys, hlast, h.refPendingSend, pendingKeys, batchKeys, batchKeys, batch, batch,
      h.packets, h.totPackets]
  have haccepted : acceptedKeys u.trace = acceptedKeys s.trace := by
    rcases h.trace with h | ⟨-, h⟩ <;> simp [h, eventAccepted]
  have hpassed : passedKeys u.trace = passedKeys s.trace ++ (entryKey oKey).toList := by
    rcases h.trace with h | ⟨hcmd, h⟩
    · simp [h, eventPassed]
    · simp [h, eventPassed, entryKey, hcmd]
  simp only [BtKeyClient.outbox, hqueue, hpending, haccepted, hpassed]

/-- The oldest key has to go if the ring buffer is full. -/
theorem loses_keep (hring : s.Ring) :
    s.outbox.Loses s.pushedOut { s.outbox with queue := s.keptEntries.filterMap entryKey } := by
  rw [pushedOut, keptEntries]
  split_ifs with hfull
  · have hempty : ¬ s.bufferedKeys.isEmpty := by
      rw [CircularBuffer.isEmpty_iff, CircularBuffer.isFull_iff.mp hfull, hring.capacity]
      decide
    have hcons := hring.wf.contents_eq_cons hempty
    cases hkey : entryKey s.bufferedKeys.read.1 with
    | none =>
      have hqueue : s.bufferedKeys.read.2.contents.filterMap entryKey = s.outbox.queue := by
        simp [outbox, queuedKeys, hcons, hkey]
      rw [hqueue]
      exact .refl _
    | some x => exact .drop _ (by simp [outbox, queuedKeys, hcons, hkey])
  · exact .refl _

theorem contents_makePlace (hring : s.Ring) (oKey : BufferedKey) :
    (s.makePlace.putBufferedKey oKey).bufferedKeys.contents = s.keptEntries ++ [oKey] := by
  rw [makePlace, keptEntries]
  split_ifs with hfull
  · have hcount := CircularBuffer.isFull_iff.mp hfull
    have hempty : ¬ s.bufferedKeys.isEmpty := by
      rw [CircularBuffer.isEmpty_iff, hcount, hring.capacity]
      decide
    have hnotFull : ¬ s.bufferedKeys.read.2.isFull := by
      rw [CircularBuffer.isFull_iff, CircularBuffer.count_read, CircularBuffer.capacity_read,
        hcount, hring.capacity]
      decide
    exact (hring.wf.read hempty).contents_write hnotFull oKey
  · exact hring.wf.contents_write hfull oKey

/-- A key that is put where the oldest one made place, if that was needed. -/
theorem loses_putKey (hring : s.Ring) {oKey : BufferedKey} {kept : List BufferedKey}
    (h : Prepared s oKey kept u) (hkept : kept = s.keptEntries) :
    s.outbox.Loses s.pushedOut u.outbox := by
  have haccept : Outbox.Loses { s.outbox with queue := kept.filterMap entryKey } [] u.outbox := by
    rw [h.outbox_eq]
    cases entryKey oKey with
    | none => simpa [outbox] using Outbox.Loses.refl _
    | some x => exact .accept _ x
  rw [← List.append_nil s.pushedOut]
  exact (loses_keep hring).trans (hkept ▸ haccept)

/-- A command is no key. -/
theorem outbox_putCommand {oKey : BufferedKey} {kept : List BufferedKey}
    (h : Prepared s oKey kept u) (hcmd : isCommand oKey.keyType) :
    u.outbox = { s.outbox with queue := kept.filterMap entryKey } := by
  have hkey : entryKey oKey = none := by simp [entryKey, hcmd]
  rw [h.outbox_eq, hkey, Option.toList_none, List.append_nil, List.append_nil]
  rfl

/-- What does not send and keeps the pending send keeps the outbox. -/
theorem outbox_of_idle (hqueue : SameQueue s t) (h : Idle s t)
    (hsend : s.refPendingSend.isSome → t.refPendingSend = s.refPendingSend) :
    t.outbox = s.outbox := by
  have hsame : t.refPendingSend = s.refPendingSend := by
    by_cases hsome : s.refPendingSend.isSome
    · exact hsend hsome
    · rw [Option.not_isSome_iff_eq_none] at hsome
      rcases h.refPendingSend with heq | hnone
      · exact heq
      · rw [hnone, hsome]
  simp only [outbox, pendingKeys, hqueue.queuedKeys, hqueue.batchKeys, hsame, h.acceptedKeys,
    h.passedKeys, h.lastSend]

/-! ### The operations one by one -/

theorem loses_connectToServer (hc : s.Coherent) (oBtAddr : BitVec 48) (nL2capPort : ℤ)
    (calls : SocketCalls) :
    s.outbox.Loses [] (s.connectToServer oBtAddr nL2capPort calls).outbox := by
  have h := rests_connectToServer hc oBtAddr nL2capPort calls
  rw [outbox_of_idle h.queue h.idle fun hsome => ?_]
  · exact .refl _
  · have hfd := hc.nonneg_of_online (hc.pendingSend hsome)
    simp only [connectToServer, hfd, if_true]
    split_ifs <;> rfl

theorem loses_destroySource (nSourceId : ℕ) :
    s.outbox.Loses [] (s.destroySource nSourceId).outbox := by
  have h := rests_destroySource (s := s) nSourceId
  rw [outbox_of_idle h.queue h.idle fun _ => ?_]
  · exact .refl _
  · rw [destroySource]
    cases s.sources[nSourceId]? with
    | none => rfl
    | some src =>
      dsimp only
      split_ifs <;> rfl

theorem loses_sendKeyToServer (hc : s.Coherent) (hring : s.Ring) (hfault : s.fault = none)
    (eType : Hk.KeyInputType) (eKey : HardwareKey) (res : SendResult) :
    s.outbox.Loses (s.lostBy (.sendKeyToServer eType eKey res))
      (s.sendKeyToServer eType eKey res).outbox := by
  let oKey : BufferedKey := ⟨eType, eKey, s.nextSerial⟩
  let s' : BtKeyClient := { s.emit (.passed oKey) with nextSerial := s.nextSerial + 1 }
  obtain ⟨kept, hu⟩ := prepared_makePlace hring eType eKey
  have hkept : kept = s.keptEntries := by
    have hcontents : (s'.makePlace.putBufferedKey oKey).bufferedKeys.contents =
        s.keptEntries ++ [oKey] := contents_makePlace (s := s') ⟨hring.wf, hring.capacity⟩ oKey
    exact List.append_cancel_right (hu.contents.symm.trans hcontents)
  have hput := loses_putKey hring hu hkept
  rw [lostBy]
  cases hstate : s.state with
  | sending =>
    have hrun : s.sendKeyToServer eType eKey res = s'.makePlace.putBufferedKey oKey := by
      simp only [sendKeyToServer, s', oKey, emit, hstate]
    exact hrun ▸ hput
  | connected =>
    have hrun : s.sendKeyToServer eType eKey res =
        (s'.makePlace.putBufferedKey oKey).sendPacketsFromBufferedKeys res := by
      simp only [sendKeyToServer, s', oKey, emit, hstate]
    have hsent := loses_sendPackets (hu.coherent hc) hu.ring (by rw [hu.state, hstate]; rfl)
      (hu.fault.trans hfault) res
    have hpending := congrArg Outbox.batch hu.outbox_eq
    have hqueued := congrArg Outbox.queue hu.outbox_eq
    simp only [outbox] at hpending hqueued
    rw [hpending, hqueued, hkept] at hsent
    exact hrun ▸ hput.trans hsent
  | disconnected | connecting | removing =>
    -- the key is passed and forgotten
    have hrun : s.sendKeyToServer eType eKey res = s' := by
      simp only [sendKeyToServer, s', oKey, emit, hstate]
    have houtbox : s'.outbox =
        { s.outbox with given := s.outbox.given ++ (entryKey oKey).toList } := by
      simp [s', emit, outbox, pendingKeys, queuedKeys, batchKeys, batch, eventPassed,
        eventAccepted, eventSend]
    dsimp only
    rw [hrun, houtbox]
    cases entryKey oKey with
    | none => simpa [outbox] using Outbox.Loses.refl _
    | some x => exact .refuse _ x

/-- A command is put behind the entries and all of them are sent. -/
theorem loses_putCommand (hc : s.Coherent) (hring : s.Ring) (hon : s.state.online)
    (hfault : s.fault = none) (hfull : ¬ s.bufferedKeys.isFull) {eType : Hk.KeyInputType}
    (hcmd : isCommand eType) (res : SendResult) :
    s.outbox.Loses (s.pendingKeys ++ lostByResult s.queuedKeys res)
      ((s.putCommand eType).sendPacketsFromBufferedKeys res).outbox := by
  have hu := prepared_putCommand hring hfull eType hcmd
  have houtbox : (s.putCommand eType).outbox = s.outbox := outbox_putCommand hu hcmd
  have hsent := loses_sendPackets (hu.coherent hc) hu.ring (hu.state ▸ hon) (hu.fault.trans hfault)
    res
  have hpending : (s.putCommand eType).pendingKeys = s.pendingKeys := congrArg Outbox.batch houtbox
  have hqueued : (s.putCommand eType).queuedKeys = s.queuedKeys := congrArg Outbox.queue houtbox
  rwa [houtbox, hpending, hqueued] at hsent

theorem loses_sendRemoveToServer (hc : s.Coherent) (hring : s.Ring) (hfault : s.fault = none)
    (hroom : s.overruns (.sendRemoveToServer res) = false) :
    s.outbox.Loses (s.lostBy (.sendRemoveToServer res)) (s.sendRemoveToServer res).outbox := by
  cases hstate : s.state with
  | disconnected | connecting =>
    rw [sendRemoveToServer, if_pos (by simp [hstate]), lostBy, hstate]
    exact .refl _
  | sending =>
    -- the ring buffer is emptied first
    let s' : BtKeyClient := { s with bufferedKeys := s.bufferedKeys.clear }
    have hring' : s'.Ring := ⟨hring.wf.clear, hring.capacity⟩
    have hnotFull : ¬ s'.bufferedKeys.isFull := by
      rw [CircularBuffer.isFull_iff]
      exact hring'.wf.capacity_pos.ne
    have hcleared : s.outbox.Loses s.queuedKeys s'.outbox := by
      have houtbox : s'.outbox = { s.outbox with queue := [] } := by
        simp [s', outbox, pendingKeys, queuedKeys, batchKeys, batch]
      rw [houtbox]
      exact .clear _
    have hqueued : s'.queuedKeys = [] := by simp [s', queuedKeys]
    have hon : s'.state.online := by change s.state.online; rw [hstate]; rfl
    have hcmd : isCommand Hk.KeyInputType.removeDevice := rfl
    have hsent := loses_putCommand (hc.congr (t := s') rfl rfl rfl rfl) hring' hon hfault hnotFull
      hcmd res
    have hnone : lostByResult [] res = [] := by cases res <;> rfl
    rw [hqueued, hnone, List.append_nil] at hsent
    have hlost : s.lostBy (.sendRemoveToServer res) = s.queuedKeys ++ s.pendingKeys := by
      rw [lostBy, hstate]
    rw [hlost, sendRemoveToServer, if_neg (by simp [hstate]), if_pos hstate]
    exact hcleared.trans hsent
  | connected | removing =>
    have hfull : s.bufferedKeys.isFull = false := by simpa [overruns, hstate] using hroom
    rw [sendRemoveToServer, if_neg (by simp [hstate]), if_neg (by simp [hstate]), lostBy, hstate]
    have hcmd : isCommand Hk.KeyInputType.removeDevice := rfl
    exact loses_putCommand hc hring (by rw [hstate]; rfl) hfault (Bool.eq_false_iff.mp hfull) hcmd
      res

theorem loses_intervalCallback (hc : s.Coherent) (hring : s.Ring) (hfault : s.fault = none)
    (hroom : s.overruns (.intervalTick res) = false) :
    s.outbox.Loses (s.lostBy (.intervalTick res)) (s.intervalCallback res).outbox := by
  rw [intervalCallback, lostBy]
  cases htimer : s.refIntervalTimeout with
  | none =>
    rw [if_neg (by simp [noopDueAtTick, htimer])]
    exact .refl _
  | some nTotMillisec =>
    let s' : BtKeyClient := { s with refIntervalTimeout := some (nTotMillisec + s.interval) }
    have hc' : s'.Coherent := hc.congr rfl rfl rfl rfl
    have hdue : s.noopDueAtTick = s'.noopIsDue (nTotMillisec + s.interval) := by
      simp [noopDueAtTick, htimer, noopIsDue, s']
    change s.outbox.Loses _ (s'.doIntervalTimeout (nTotMillisec + s.interval) res).outbox
    rw [doIntervalTimeout]
    cases hs : s.state with
    | connected =>
      by_cases hnoop : s'.noopIsDue (nTotMillisec + s.interval)
      · have hfull : s.bufferedKeys.isFull = false := by
          simpa [overruns, hs, hdue, hnoop] using hroom
        simp only [hdue, hnoop, decide_true, Bool.and_self, if_true]
        exact loses_putCommand hc' ⟨hring.wf, hring.capacity⟩
          (by change s.state.online; rw [hs]; rfl) hfault (Bool.eq_false_iff.mp hfull) rfl res
      · simp only [hdue, hnoop, decide_true, Bool.and_false, Bool.false_eq_true, if_false]
        exact .refl _
    | connecting =>
      have hpending : s'.pendingKeys = [] := by
        have hnone := hc.refPendingSend_eq_none (by rw [hs]; rfl)
        simp [pendingKeys, s', hnone]
      rw [if_neg (by simp)]
      dsimp only
      split_ifs
      · exact hpending ▸ loses_disconnectInternal hc' _
      · exact .refl _
    | sending =>
      rw [if_neg (by simp)]
      dsimp only
      split_ifs
      · -- the batch that waits is kept
        let t : BtKeyClient := { s' with
          lastError := "Sending timed out"
          state := .connected }.signalError.signalStateChanged
        have houtbox : t.outbox = s.outbox :=
          outbox_of_quiet ⟨rfl, rfl, rfl, rfl⟩ rfl (((QuietExt.refl _).cons rfl).cons rfl)
        change s.outbox.Loses [] t.outbox
        rw [houtbox]
        exact .refl _
      · exact .refl _
    | disconnected | removing =>
      rw [if_neg (by simp)]
      exact .refl _

theorem loses_disconnectFromServer (hc : s.Coherent) :
    s.outbox.Loses (s.lostBy .disconnectFromServer) s.disconnectFromServer.outbox := by
  rw [disconnectFromServer, lostBy]
  split_ifs
  · exact .refl _
  · exact loses_disconnectInternal hc _

/-- What has accumulated in the ring buffer while a batch was waiting. -/
theorem loses_sendAccumulated (hc : s.Coherent) (hring : s.Ring) (hon : s.state.online)
    (hfault : s.fault = none) (hpending : s.pendingKeys = []) (res : SendResult) :
    s.outbox.Loses (lostByResult s.queuedKeys res)
      (if s.bufferedKeys.isEmpty then { s with state := .connected }.signalStateChanged
        else s.sendPacketsFromBufferedKeys res).outbox := by
  split_ifs with hempty
  · have hqueued : s.queuedKeys = [] := by
      rw [queuedKeys, CircularBuffer.contents_eq_nil.mpr hempty, List.filterMap_nil]
    have houtbox : ({ s with state := .connected }.signalStateChanged).outbox = s.outbox :=
      outbox_of_quiet ⟨rfl, rfl, rfl, rfl⟩ rfl ((QuietExt.refl _).cons rfl)
    have hnone : lostByResult [] res = [] := by cases res <;> rfl
    rw [hqueued, hnone, houtbox]
    exact .refl _
  · have hsent := loses_sendPackets hc hring hon hfault res
    rw [hpending, List.nil_append] at hsent
    exact hsent

theorem loses_offerPending (hs : s.SentOnce) (hfault : s.fault = none) {nSourceId : ℕ}
    {nIOFlags : WriteCondition} (res res' : SendResult)
    (hdisp : s.dispatchesSend nSourceId nIOFlags)
    (honce : s.SendsOnce (.dispatch nSourceId nIOFlags res res')) :
    s.outbox.Loses (s.lostBy (.dispatch nSourceId nIOFlags res res'))
      (s.offerPending res res').2.outbox := by
  have hsome := refPendingSend_of_dispatchesSend hdisp
  have hon : s.state.online := hs.coherent.pendingSend hsome
  let s' : BtKeyClient := s.emit (.sent s.clientFD s.batch res)
  simp only [lostBy, hdisp, if_true]
  cases res with
  | failed sError | again =>
    -- the batch is given up with the connection
    have hfd : 0 ≤ s'.clientFD := hs.coherent.nonneg_of_online hon
    have houtbox (e : String) : (s'.disconnectInternal e).outbox =
        { s.outbox with batch := [] } := by
      rw [outbox_disconnectInternal hfd]
      simp [s', outbox, emit, queuedKeys, eventPassed, eventAccepted]
    have hforget : s.outbox.Loses s.pendingKeys { s.outbox with batch := [] } := .forget _
    exact (houtbox _).symm ▸ hforget
  | accepted =>
    have hwaits : s.outbox = { s.outbox with batch := s.batchKeys } := by
      refine hs.pendingOutbox hsome ?_
      rw [← resends_dispatch hfault hdisp, honce]
      exact Bool.false_ne_true
    have hdeliver {t : BtKeyClient} (ht : t.outbox = { s.outbox with
        batch := [], delivered := s.outbox.delivered ++ s.batchKeys }) :
          s.outbox.Loses [] t.outbox := by
      rw [ht, hwaits]
      exact .deliver _
    cases htimer : s.refIntervalTimeout with
    | none =>
      have hrun : (s.offerPending .accepted res').2 = { s' with fault := some .nullTimer } := by
        simp only [offerPending, emit, htimer, s']
      rw [hrun]
      exact hdeliver (by simp [s', outbox, pendingKeys, emit, queuedKeys, batchKeys, batch,
        eventPassed, eventAccepted, eventSend])
    | some nElapsed =>
      let s'' : BtKeyClient := { s' with lastSentTime := nElapsed }
      have hdelivered : s.outbox.Loses [] s''.outbox :=
        hdeliver (by simp [s'', s', outbox, pendingKeys, emit, queuedKeys, batchKeys, batch,
          eventPassed, eventAccepted, eventSend])
      have hrun : (s.offerPending .accepted res').2 =
          if s.bufferedKeys.isEmpty then { s'' with state := .connected }.signalStateChanged
          else s''.sendPacketsFromBufferedKeys res' := by
        simp only [offerPending, emit, htimer, s'', s']
        split_ifs <;> rfl
      rw [hrun]
      simp only [Option.isSome_some, if_true]
      exact hdelivered.trans (loses_sendAccumulated (s := s'') (hs.coherent.congr rfl rfl rfl rfl)
        ⟨hs.ring.wf, hs.ring.capacity⟩ hon hfault
        (by simp [s'', s', pendingKeys, emit, eventSend]) res')

/-- A dispatch that neither sends nor fails a pending send loses nothing. -/
theorem lostBy_dispatch_eq_nil {nSourceId : ℕ} {nIOFlags : WriteCondition}
    (hdisp : s.dispatchesSend nSourceId nIOFlags = false)
    (hfails : s.failsSend nSourceId nIOFlags = false) (res res' : SendResult) :
    s.lostBy (.dispatch nSourceId nIOFlags res res') = [] := by
  simp [lostBy, hdisp, hfails]

/-- The slot of a pending send. -/
theorem loses_doPendingSend (hs : s.SentOnce) (hfault : s.fault = none) {nSourceId : ℕ}
    {src : PendingWriteSource} (hsrc : s.sources[nSourceId]? = some src) (hatt : src.attached)
    (hslot : src.slot = some .doPendingSend) {nIOFlags : WriteCondition}
    (hflags : (!nIOFlags.ioOut && !(nIOFlags.ioHup || nIOFlags.ioErr || nIOFlags.ioNval)) = false)
    {res res' : SendResult} (honce : s.SendsOnce (.dispatch nSourceId nIOFlags res res')) :
    s.outbox.Loses (s.lostBy (.dispatch nSourceId nIOFlags res res'))
      (s.doPendingSend nSourceId (nIOFlags.ioHup || nIOFlags.ioErr || nIOFlags.ioNval) res
        res').2.outbox := by
  cases hsend : s.refPendingSend with
  | none =>
    rw [lostBy_dispatch_eq_nil (by simp [dispatchesSend, hsend]) (by simp [failsSend, hsend])]
    simp only [doPendingSend, hsend]
    exact .refl _
  | some nId =>
    by_cases hid : nSourceId = nId
    · subst hid
      cases herror : nIOFlags.ioHup || nIOFlags.ioErr || nIOFlags.ioNval with
      | false =>
        have hdisp : s.dispatchesSend nSourceId nIOFlags := by
          simp_all [dispatchesSend]
        simp only [doPendingSend, hsend, ne_eq, not_true_eq_false, if_false, Bool.false_eq_true]
        exact loses_offerPending hs hfault res res' hdisp honce
      | true =>
        have hlost : s.lostBy (.dispatch nSourceId nIOFlags res res') = s.pendingKeys := by
          simp [lostBy, dispatchesSend, failsSend, herror, hsend, hsrc, hatt, hslot]
        simp only [doPendingSend, hsend, ne_eq, not_true_eq_false, if_false, if_true]
        exact hlost ▸ loses_disconnectInternal hs.coherent _
    · rw [lostBy_dispatch_eq_nil (by simp [dispatchesSend, hsend, Ne.symm hid])
        (by simp [failsSend, hsend, Ne.symm hid])]
      simp only [doPendingSend, hsend, ne_eq, hid, not_false_eq_true, if_true]
      exact .refl _

/-- The slot of a pending connect. -/
theorem loses_doPendingConnect (hc : s.Coherent) (nSourceId : ℕ) (bError : Bool) :
    s.outbox.Loses [] (s.doPendingConnect nSourceId bError).2.outbox := by
  have h := rests_doPendingConnect hc nSourceId bError
  have houtbox := outbox_of_idle h.queue h.idle fun hsome => ?_
  · rw [houtbox]
    exact .refl _
  · -- nothing is pending while the client connects
    have hnone : s.refPendingConnect = none :=
      hc.pendingConnect_of_online (hc.pendingSend hsome)
    simp [doPendingConnect, hnone]

theorem loses_dispatch (hs : s.SentOnce) (hfault : s.fault = none) (nSourceId : ℕ)
    (nIOFlags : WriteCondition) (res res' : SendResult)
    (honce : s.SendsOnce (.dispatch nSourceId nIOFlags res res')) :
    s.outbox.Loses (s.lostBy (.dispatch nSourceId nIOFlags res res'))
      (s.dispatch nSourceId nIOFlags res res').outbox := by
  rw [dispatch]
  cases hsrc : s.sources[nSourceId]? with
  | none =>
    rw [lostBy_dispatch_eq_nil (by simp [dispatchesSend, hsrc]) (by simp [failsSend, hsrc])]
    exact .refl _
  | some src =>
    dsimp only
    by_cases hatt : src.attached
    · rw [hatt, Bool.not_true, if_neg Bool.false_ne_true]
      suffices h : s.outbox.Loses (s.lostBy (.dispatch nSourceId nIOFlags res res'))
          (s.dispatchSlot nSourceId src.slot nIOFlags res res').2.outbox by
        split_ifs
        · exact h
        · exact h
      simp only [dispatchSlot]
      cases hslot : src.slot with
      | none =>
        rw [lostBy_dispatch_eq_nil (by simp [dispatchesSend, hsrc, hslot])
          (by simp [failsSend, hsrc, hslot])]
        exact .refl _
      | some slot =>
        dsimp only
        split_ifs with hflags
        · simp only [Bool.and_eq_true, Bool.not_eq_true'] at hflags
          rw [lostBy_dispatch_eq_nil (by simp [dispatchesSend, hflags.1])
            (by simp [failsSend, hflags.2])]
          exact .refl _
        · cases slot with
          | doPendingConnect =>
            rw [lostBy_dispatch_eq_nil (by simp [dispatchesSend, hsrc, hslot])
              (by simp [failsSend, hsrc, hslot])]
            exact loses_doPendingConnect hs.coherent nSourceId _
          | doPendingSend =>
            exact loses_doPendingSend hs hfault hsrc hatt hslot (Bool.eq_false_iff.mpr hflags)
              honce
    · rw [Bool.not_eq_true] at hatt
      rw [hatt, Bool.not_false, if_pos rfl, lostBy_dispatch_eq_nil
        (by simp [dispatchesSend, hsrc, hatt]) (by simp [failsSend, hsrc, hatt])]
      exact .refl _

/-- **What an operation loses.** -/
theorem loses_perform (hs : s.SentOnce) (hfault : s.fault = none) (hroom : s.overruns op = false)
    (honce : s.SendsOnce op) : s.outbox.Loses (s.lostBy op) (s.perform op).outbox := by
  cases op with
  | connectToServer => exact loses_connectToServer hs.coherent ..
  | disconnectFromServer => exact loses_disconnectFromServer hs.coherent
  | sendKeyToServer => exact loses_sendKeyToServer hs.coherent hs.ring hfault ..
  | sendRemoveToServer => exact loses_sendRemoveToServer hs.coherent hs.ring hfault hroom
  | intervalTick => exact loses_intervalCallback hs.coherent hs.ring hfault hroom
  | dispatch => exact loses_dispatch hs hfault _ _ _ _ honce
  | destroySource => exact loses_destroySource ..

/-! ### Runs -/

/-- No key is missing: those accepted, those that wait and those in the ring buffer are all that
have been passed. -/
def Complete (s : BtKeyClient) : Prop :=
  acceptedKeys s.trace ++ (s.pendingKeys ++ s.queuedKeys) = passedKeys s.trace

/-- The client sends no batch again that has been accepted, and writes no command to a full ring
buffer. -/
def SendsOnceWithRoom (s : BtKeyClient) (op : ClientOp) : Prop := s.SendsOnce op ∧ s.HasRoom op

instance (s : BtKeyClient) (op : ClientOp) : Decidable (s.SendsOnceWithRoom op) :=
  inferInstanceAs (Decidable (_ ∧ _))

/-- What holds along a run in the course of which the keys `lost` were lost. -/
structure Accounted (s : BtKeyClient) (lost : List SentKey) : Prop where
  once : s.SentOnce
  accounts : s.outbox.Accounts lost

theorem accounted_new (nTimeoutConnect nTimeoutSend nInterval nNoopAfter : ℤ) (btAddr : BitVec 48)
    (packets : Vector StagedPacket sendBufferSize) :
    (new nTimeoutConnect nTimeoutSend nInterval nNoopAfter btAddr packets).Accounted [] :=
  ⟨sentOnce_new .., rfl⟩

theorem Accounted.step {lost : List SentKey} (h : s.Accounted lost) (hop : s.SendsOnceWithRoom op)
    (hstep : s.step op = .ok t) : t.Accounted (lost ++ s.lostBy op) := by
  obtain ⟨hfault, rfl⟩ := step_eq_ok.mp hstep
  have hroom := hop.2 hfault
  exact ⟨h.once.step hfault hroom hop.1,
    h.accounts.loses (loses_perform h.once hfault hroom hop.1)⟩

theorem Accounted.complete_iff_lost {lost : List SentKey} (h : s.Accounted lost) :
    s.Complete ↔ lost = [] := h.accounts.eq_given_iff h.once.ordered

/-- **What becomes of the keys.** Along a run of the client, every call of `sendKeyToServer` with a
key is accounted for just once: the key has been accepted by `::send`, waits in a batch or in the
ring buffer, or is one of those that the operations lost. -/
theorem accounts_run (nTimeoutConnect nTimeoutSend nInterval nNoopAfter : ℤ) (btAddr : BitVec 48)
    (packets : Vector StagedPacket sendBufferSize) {ops : List ClientOp}
    (hops : Run.Guarded step SendsOnceWithRoom
      (new nTimeoutConnect nTimeoutSend nInterval nNoopAfter btAddr packets) ops)
    (hrun : Run.exec step
      (new nTimeoutConnect nTimeoutSend nInterval nNoopAfter btAddr packets) ops = .ok t) :
    (passedKeys t.trace).Nodup ∧
      (passedKeys t.trace).Perm (acceptedKeys t.trace ++ t.pendingKeys ++ t.queuedKeys ++
        Run.trace step lostBy
          (new nTimeoutConnect nTimeoutSend nInterval nNoopAfter btAddr packets) ops) := by
  have h := Run.invariant_trace_of_guarded lostBy (P := Accounted) (l := [])
    (fun s lost op t h hop ht => h.step hop ht) (accounted_new ..) hops hrun
  refine ⟨h.once.nodup, Multiset.coe_eq_coe.mp ?_⟩
  simp only [← Multiset.coe_add]
  exact h.accounts

/-- **When no key is missing.** Along a run of the client, all the keys that were passed so far are
accepted, wait or are in the ring buffer at any time, in this order, if and only if no operation
loses one. -/
theorem complete_iff (nTimeoutConnect nTimeoutSend nInterval nNoopAfter : ℤ) (btAddr : BitVec 48)
    (packets : Vector StagedPacket sendBufferSize) {ops : List ClientOp}
    (hops : Run.Guarded step SendsOnceWithRoom
      (new nTimeoutConnect nTimeoutSend nInterval nNoopAfter btAddr packets) ops) :
    Run.Always step Complete
        (new nTimeoutConnect nTimeoutSend nInterval nNoopAfter btAddr packets) ops ↔
      Run.Guarded step LosesNothing
        (new nTimeoutConnect nTimeoutSend nInterval nNoopAfter btAddr packets) ops := by
  refine Run.always_iff_guarded_under (I := fun s => ∃ lost, s.Accounted lost)
    (R := SendsOnceWithRoom) (fun s op t ⟨lost, h⟩ hop ht => ⟨_, h.step hop ht⟩) ?_ ?_
    ⟨[], accounted_new ..⟩ ((accounted_new ..).complete_iff_lost.mpr rfl) hops
  · rintro s op t ⟨lost, h⟩ hop hcomplete ht
    obtain rfl := h.complete_iff_lost.mp hcomplete
    have hlost : t.Complete ↔ s.lostBy op = [] := by simpa using (h.step hop ht).complete_iff_lost
    rw [hlost, LosesNothing, (step_eq_ok.mp ht).1]
    exact ⟨fun hnil _ => hnil, fun hnil => hnil rfl⟩
  · intro s op e _ _ _ he hfault
    rw [step, hfault] at he
    cases he

/-- A key is sent after a tick, and then the server stops reading: the next key waits, a third one
is in the ring buffer. When sending times out and a fourth key is sent, the second one is
overwritten. -/
def timeoutOps : List ClientOp :=
  connectOps 0 ++ [.sendKeyToServer .press 30 .accepted, .sendKeyToServer .release 30 .again,
    .sendKeyToServer .press 31 .again] ++ List.replicate 3 (.intervalTick .again) ++
    [.sendKeyToServer .release 31 .accepted]

theorem accounts_timeoutOps : ∃ t, Run.exec step defaultClient timeoutOps = .ok t ∧
    (passedKeys t.trace).Perm (acceptedKeys t.trace ++ t.pendingKeys ++ t.queuedKeys ++
      [⟨keyRelease, 30, 1⟩]) := by
  have hops : Run.Guarded step SendsOnceWithRoom defaultClient timeoutOps := by decide
  have hlost : Run.trace step lostBy defaultClient timeoutOps = [⟨keyRelease, 30, 1⟩] := by decide
  have halive : (Run.exec step defaultClient timeoutOps).toOption.map (·.fault) = some none := by
    decide
  obtain ⟨t, hrun, -⟩ := Run.exists_exec_of_view halive
  have hperm := (accounts_run 10000 1000 500 5000 0 zeroPackets hops hrun).2
  exact ⟨t, hrun, hlost ▸ hperm⟩

theorem complete_deferredOps : Run.Always step Complete defaultClient
    (connectOps 0 ++ [.sendKeyToServer .press 30 .again, .sendKeyToServer .release 30 .again,
      .dispatch 1 ioOutOnly .accepted .accepted]) :=
  (complete_iff 10000 1000 500 5000 0 zeroPackets (by decide)).mpr (by decide)

end BtKeyClient

end StmmInputBt
