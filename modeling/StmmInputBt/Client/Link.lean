import StmmInputBt.Client.BufferBounds
import StmmInputBt.Foundation.Lists

/-!
# What a step does to the connection

The descriptor of the client, its pending sources, its state and the interval timer: one relation
that says what an operation does to them, whatever it does to the keys. An operation either
leaves the descriptor alone, gets a new one, closes it, gives it to a new source, or takes it
back from the source of a connect that succeeded; and whenever it changes the state it signals
the new one.

## Main definitions

* `BtKeyClient.newEvents`: the events that a step has added to the history.
* `BtKeyClient.LinkCase`: what happens to the descriptor and to the pending sources.
* `BtKeyClient.Linked`: the same with the state and the timer.

## Main results

* `BtKeyClient.linked_perform`.
-/

namespace StmmInputBt

/-- The state that a `m_oStateChangedSignal` shows. -/
def ClientEvent.shownState : ClientEvent → Option ClientState
  | .stateChanged eState => some eState
  | .opened _ | .closed _ | .established _ | .passed _ | .put .. | .sent .. | .error _ => none

/-- The event is about a descriptor. -/
def ClientEvent.isDescriptor : ClientEvent → Bool
  | .opened _ | .closed _ => true
  | .stateChanged _ | .established _ | .passed _ | .put .. | .sent .. | .error _ => false

/-- The event neither shows a state nor is it about a descriptor. -/
def ClientEvent.isLocal (e : ClientEvent) : Bool := e.shownState.isNone && !e.isDescriptor

/-- The state that the last `m_oStateChangedSignal` showed. -/
def lastShown (es : List ClientEvent) : Option ClientState := es.findSome? ClientEvent.shownState

/-- The descriptor that a source closes when it is destroyed, and whether it was. -/
def PendingWriteSource.held (src : PendingWriteSource) : ℤ × Bool := (src.clientFD, src.destroyed)

/-- Where the state has changed, the last signal showed the new one. -/
def Signalled (eOldState eNewState : ClientState) (es : List ClientEvent) : Prop :=
  lastShown es = some eNewState ∨ lastShown es = none ∧ eNewState = eOldState

theorem Signalled.eq_of_ne {eOldState eNewState : ClientState} {es : List ClientEvent}
    (h : Signalled eOldState eNewState es) (hne : eNewState ≠ eOldState) :
    lastShown es = some eNewState :=
  h.resolve_right fun h => hne h.2

theorem lastShown_of_local {es : List ClientEvent} (h : ∀ e ∈ es, e.isLocal) :
    lastShown es = none := by
  refine List.findSome?_eq_none_iff.mpr fun e he => ?_
  have hlocal := h e he
  rw [ClientEvent.isLocal, Bool.and_eq_true] at hlocal
  simpa using hlocal.1

theorem filter_isDescriptor_of_local {es : List ClientEvent} (h : ∀ e ∈ es, e.isLocal) :
    es.filter ClientEvent.isDescriptor = [] := by
  refine List.filter_eq_nil_iff.mpr fun e he => ?_
  have hlocal := h e he
  rw [ClientEvent.isLocal, Bool.and_eq_true] at hlocal
  simpa using hlocal.2

namespace BtKeyClient

variable {s t u : BtKeyClient} {es es' : List ClientEvent}

/-- The events that `t` has and `s` had not, the latest first. -/
def newEvents (s t : BtKeyClient) : List ClientEvent :=
  t.trace.take (t.trace.length - s.trace.length)

theorem newEvents_eq (h : t.trace = es ++ s.trace) : newEvents s t = es := by
  simp [newEvents, h]

theorem newEvents_eq_nil (h : t.trace = s.trace) : newEvents s t = [] := newEvents_eq h

/-- The connection of `t` is that of `s`. -/
structure SameLink (s t : BtKeyClient) : Prop where
  clientFD : t.clientFD = s.clientFD
  pendingConnect : t.refPendingConnect = s.refPendingConnect
  pendingSend : t.refPendingSend = s.refPendingSend
  sources : t.sources.map PendingWriteSource.held = s.sources.map PendingWriteSource.held

/-- What happens to the descriptor and to the pending sources, and the events that tell. -/
inductive LinkCase (s t : BtKeyClient) : List ClientEvent → Prop
  | kept (h : SameLink s t) : LinkCase s t []
  /-- A new descriptor is closed at once. -/
  | refused (nFD : ℕ) (hs : s.clientFD < 0) (ht : t.clientFD = -1)
      (hconnect : t.refPendingConnect = s.refPendingConnect)
      (hsend : t.refPendingSend = s.refPendingSend)
      (hsources : t.sources.map PendingWriteSource.held = s.sources.map PendingWriteSource.held) :
      LinkCase s t [.closed nFD, .opened nFD]
  /-- No descriptor could be had. -/
  | failed (hs : s.clientFD < 0) (ht : t.clientFD = -1)
      (hconnect : t.refPendingConnect = s.refPendingConnect)
      (hsend : t.refPendingSend = s.refPendingSend)
      (hsources : t.sources.map PendingWriteSource.held = s.sources.map PendingWriteSource.held) :
      LinkCase s t []
  /-- Connected at once. -/
  | connected (nFD : ℕ) (hs : s.clientFD < 0) (ht : t.clientFD = nFD)
      (hconnect : t.refPendingConnect = s.refPendingConnect)
      (hsend : t.refPendingSend = s.refPendingSend)
      (hsources : t.sources.map PendingWriteSource.held = s.sources.map PendingWriteSource.held) :
      LinkCase s t [.opened nFD]
  /-- A new source waits for the connection. -/
  | connecting (nFD : ℕ) (hs : s.clientFD < 0) (ht : t.clientFD = nFD)
      (hconnect : t.refPendingConnect = some s.sources.length)
      (hsend : t.refPendingSend = s.refPendingSend)
      (hsources : t.sources.map PendingWriteSource.held =
        s.sources.map PendingWriteSource.held ++ [((nFD : ℤ), false)])
      (htimer : t.refIntervalTimeout.isSome) :
      LinkCase s t [.opened nFD]
  /-- The end of a connection. -/
  | closed (hs : 0 ≤ s.clientFD) (ht : t.clientFD = -1) (hconnect : t.refPendingConnect = none)
      (hsend : t.refPendingSend = none)
      (hsources : t.sources.map PendingWriteSource.held = s.sources.map PendingWriteSource.held) :
      LinkCase s t [.closed s.clientFD]
  /-- A new source waits until the socket is writable. -/
  | pending (hs : s.refPendingSend = none) (ht : t.clientFD = s.clientFD)
      (hconnect : t.refPendingConnect = s.refPendingConnect)
      (hsend : t.refPendingSend = some s.sources.length)
      (hsources : t.sources.map PendingWriteSource.held =
        s.sources.map PendingWriteSource.held ++ [(s.clientFD, false)]) :
      LinkCase s t []
  /-- The connection is there: its source gives the descriptor back. -/
  | established (nId : ℕ) (hs : s.refPendingConnect = some nId) (ht : t.clientFD = s.clientFD)
      (hconnect : t.refPendingConnect = none) (hsend : t.refPendingSend = s.refPendingSend)
      (hsources : t.sources.map PendingWriteSource.held =
        (s.sources.map PendingWriteSource.held).modify nId fun p => (-1, p.2)) :
      LinkCase s t []

/-- What a part of an operation does to the connection, the state and the timer. -/
structure Linked (s t : BtKeyClient) (es : List ClientEvent) : Prop where
  trace : t.trace = es ++ s.trace
  signalled : Signalled s.state t.state es
  link : LinkCase s t (es.filter ClientEvent.isDescriptor)
  timer : s.refIntervalTimeout.isSome → t.refIntervalTimeout.isSome
  fault : t.fault = some .nullTimer →
    s.fault = some .nullTimer ∨ s.refIntervalTimeout = none ∧ s.state ≠ .disconnected

/-! ### Parts that leave the connection alone -/

theorem SameLink.refl (s : BtKeyClient) : SameLink s s := ⟨rfl, rfl, rfl, rfl⟩

theorem SameLink.length (h : SameLink s t) : t.sources.length = s.sources.length := by
  simpa using congrArg List.length h.sources

theorem LinkCase.congr_left {l : List ClientEvent} (h : SameLink s t) (hl : LinkCase t u l) :
    LinkCase s u l := by
  have hlen := h.length
  obtain ⟨hfd, hconnect, hsend, hsources⟩ := h
  cases hl with
  | kept h' =>
    exact .kept ⟨h'.clientFD.trans hfd, h'.pendingConnect.trans hconnect,
      h'.pendingSend.trans hsend, h'.sources.trans hsources⟩
  | refused nFD hs hu hc hse hso =>
    exact .refused nFD (hfd ▸ hs) hu (hc.trans hconnect) (hse.trans hsend) (hso.trans hsources)
  | failed hs hu hc hse hso =>
    exact .failed (hfd ▸ hs) hu (hc.trans hconnect) (hse.trans hsend) (hso.trans hsources)
  | connected nFD hs hu hc hse hso =>
    exact .connected nFD (hfd ▸ hs) hu (hc.trans hconnect) (hse.trans hsend) (hso.trans hsources)
  | connecting nFD hs hu hc hse hso htimer =>
    exact .connecting nFD (hfd ▸ hs) hu (hlen ▸ hc) (hse.trans hsend)
      (by rw [hso, hsources]) htimer
  | closed hs hu hc hse hso =>
    rw [hfd] at hs ⊢
    exact .closed hs hu hc hse (hso.trans hsources)
  | pending hs hu hc hse hso =>
    exact .pending (hsend.symm.trans hs) (hu.trans hfd) (hc.trans hconnect) (hlen ▸ hse)
      (by rw [hso, hsources, hfd])
  | established nId hs hu hc hse hso =>
    exact .established nId (hconnect.symm.trans hs) (hu.trans hfd) hc (hse.trans hsend)
      (by rw [hso, hsources])

theorem LinkCase.congr_right {l : List ClientEvent} (hl : LinkCase s t l) (h : SameLink t u)
    (htimer : t.refIntervalTimeout.isSome → u.refIntervalTimeout.isSome) : LinkCase s u l := by
  obtain ⟨hfd, hconnect, hsend, hsources⟩ := h
  cases hl with
  | kept h' =>
    exact .kept ⟨hfd.trans h'.clientFD, hconnect.trans h'.pendingConnect,
      hsend.trans h'.pendingSend, hsources.trans h'.sources⟩
  | refused nFD hs ht hc hse hso =>
    exact .refused nFD hs (hfd.trans ht) (hconnect.trans hc) (hsend.trans hse) (hsources.trans hso)
  | failed hs ht hc hse hso =>
    exact .failed hs (hfd.trans ht) (hconnect.trans hc) (hsend.trans hse) (hsources.trans hso)
  | connected nFD hs ht hc hse hso =>
    exact .connected nFD hs (hfd.trans ht) (hconnect.trans hc) (hsend.trans hse)
      (hsources.trans hso)
  | connecting nFD hs ht hc hse hso htimer' =>
    exact .connecting nFD hs (hfd.trans ht) (hconnect.trans hc) (hsend.trans hse)
      (hsources.trans hso) (htimer htimer')
  | closed hs ht hc hse hso =>
    exact .closed hs (hfd.trans ht) (hconnect.trans hc) (hsend.trans hse) (hsources.trans hso)
  | pending hs ht hc hse hso =>
    exact .pending hs (hfd.trans ht) (hconnect.trans hc) (hsend.trans hse) (hsources.trans hso)
  | established nId hs ht hc hse hso =>
    exact .established nId hs (hfd.trans ht) (hconnect.trans hc) (hsend.trans hse)
      (hsources.trans hso)

/-- A part of an operation that neither signals nor touches the connection. -/
structure Local (s t : BtKeyClient) (es : List ClientEvent) : Prop where
  same : SameLink s t
  state : t.state = s.state
  trace : t.trace = es ++ s.trace
  isLocal : ∀ e ∈ es, e.isLocal
  timer : t.refIntervalTimeout.isSome = s.refIntervalTimeout.isSome
  fault : t.fault = some .nullTimer → s.fault = some .nullTimer

theorem Local.refl (s : BtKeyClient) : Local s s [] :=
  ⟨.refl s, rfl, rfl, by simp, rfl, id⟩

theorem Local.update (h : Local s t es) (hsame : SameLink t u) (hstate : u.state = t.state)
    (htrace : u.trace = t.trace)
    (htimer : u.refIntervalTimeout.isSome = t.refIntervalTimeout.isSome)
    (hfault : u.fault = t.fault) : Local s u es :=
  ⟨⟨hsame.clientFD.trans h.same.clientFD, hsame.pendingConnect.trans h.same.pendingConnect,
    hsame.pendingSend.trans h.same.pendingSend, hsame.sources.trans h.same.sources⟩,
    hstate.trans h.state, htrace.trans h.trace, h.isLocal, htimer.trans h.timer,
    fun hf => h.fault (hfault ▸ hf)⟩

theorem Local.trans (h : Local s t es') (h' : Local t u es) : Local s u (es ++ es') :=
  ⟨⟨h'.same.clientFD.trans h.same.clientFD, h'.same.pendingConnect.trans h.same.pendingConnect,
    h'.same.pendingSend.trans h.same.pendingSend, h'.same.sources.trans h.same.sources⟩,
    h'.state.trans h.state, by rw [h'.trace, h.trace, List.append_assoc],
    fun e he => (List.mem_append.mp he).elim (h'.isLocal e) (h.isLocal e),
    h'.timer.trans h.timer, fun hf => h.fault (h'.fault hf)⟩

theorem Local.linked (h : Local s t es) : Linked s t es := by
  refine ⟨h.trace, .inr ⟨lastShown_of_local h.isLocal, h.state⟩, ?_, fun hs => h.timer ▸ hs,
    fun hf => .inl (h.fault hf)⟩
  rw [filter_isDescriptor_of_local h.isLocal]
  exact .kept h.same

theorem linked_refl (s : BtKeyClient) : Linked s s [] := (Local.refl s).linked

/-- What comes after a local part. -/
theorem Linked.after (h : Local s t es') (hl : Linked t u es) : Linked s u (es ++ es') := by
  refine ⟨by rw [hl.trace, h.trace, List.append_assoc], ?_, ?_, fun hs => hl.timer (h.timer ▸ hs),
    fun hf => ?_⟩
  · have hnone := lastShown_of_local h.isLocal
    have happend : lastShown (es ++ es') = lastShown es := by
      rw [lastShown, List.findSome?_append]
      rw [lastShown] at hnone
      simp [hnone, lastShown]
    rcases hl.signalled with hs | ⟨hs, hstate⟩
    · exact .inl (happend.trans hs)
    · exact .inr ⟨happend.trans hs, hstate.trans h.state⟩
  · rw [List.filter_append, filter_isDescriptor_of_local h.isLocal, List.append_nil]
    exact hl.link.congr_left h.same
  · rcases hl.fault hf with hf | ⟨htimer, hstate⟩
    · exact .inl (h.fault hf)
    · refine .inr ⟨?_, h.state ▸ hstate⟩
      rw [← Option.not_isSome_iff_eq_none, ← h.timer, htimer]
      simp

theorem held_detach (sources : List PendingWriteSource) (nSourceId : ℕ) :
    (sources.modify nSourceId fun src => { src with attached := false }).map
      PendingWriteSource.held = sources.map PendingWriteSource.held := by
  have hheld (src : PendingWriteSource) :
      PendingWriteSource.held { src with attached := false } = id src.held := rfl
  rw [map_modify hheld, List.modify_id]

/-- What the main loop marks on the sources makes no difference. -/
theorem Linked.detach (h : Linked s t es) (nSourceId : ℕ) :
    Linked s { t with sources := t.sources.modify nSourceId fun src =>
      { src with attached := false } } es := by
  have hsame : SameLink t { t with sources := t.sources.modify nSourceId fun src =>
    { src with attached := false } } := ⟨rfl, rfl, rfl, held_detach ..⟩
  exact ⟨h.trace, h.signalled, h.link.congr_right hsame id, h.timer, h.fault⟩

/-! ### The functions one by one -/

theorem linked_disconnectInternal (e : String) : ∃ es, Linked s (s.disconnectInternal e) es := by
  by_cases hfd : s.clientFD < 0
  · rw [disconnectInternal, if_pos hfd]
    exact ⟨[], linked_refl s⟩
  · rw [not_lt] at hfd
    rw [disconnectInternal, if_neg (not_lt.mpr hfd)]
    dsimp only
    by_cases he : e = ""
    · rw [if_pos he]
      exact ⟨[.stateChanged .disconnected, .closed s.clientFD], rfl, .inl rfl,
        .closed hfd rfl rfl rfl rfl, id, .inl⟩
    · rw [if_neg he]
      exact ⟨[.stateChanged .disconnected, .error e, .closed s.clientFD], rfl, .inl rfl,
        .closed hfd rfl rfl rfl rfl, id, .inl⟩

/-- The state changes after the connection, and is signalled if it differs from the old one. -/
theorem Linked.changeState (h : Linked s t es) (hnone : lastShown es = none) (e' : ClientState) :
    ∃ es, Linked s (t.changeState s.state e') es := by
  by_cases he : s.state = e'
  · rw [BtKeyClient.changeState, if_neg (not_not.mpr he)]
    exact ⟨es, h.trace, .inr ⟨hnone, he.symm⟩, h.link.congr_right ⟨rfl, rfl, rfl, rfl⟩ id, h.timer,
      h.fault⟩
  · rw [BtKeyClient.changeState, if_pos he]
    exact ⟨.stateChanged e' :: es, congrArg (ClientEvent.stateChanged e' :: ·) h.trace, .inl rfl,
      h.link.congr_right ⟨rfl, rfl, rfl, rfl⟩ id, h.timer, h.fault⟩

theorem linked_ensurePendingSend : Linked s s.ensurePendingSend [] := by
  rw [ensurePendingSend]
  split_ifs with hsend
  · exact linked_refl s
  · rw [Option.not_isSome_iff_eq_none] at hsend
    exact ⟨rfl, .inr ⟨rfl, rfl⟩, .pending hsend rfl rfl rfl (by
      simp [attachPendingWriteSource, PendingWriteSource.held]), id, .inl⟩

theorem Local.disconnectInternal (h : Local s t es) (e : String) :
    ∃ es, Linked s (t.disconnectInternal e) es := by
  obtain ⟨es', h'⟩ := linked_disconnectInternal (s := t) e
  exact ⟨_, h'.after h⟩

theorem local_sent (res : SendResult) : Local s (s.emit (.sent s.clientFD s.batch res))
    [.sent s.clientFD s.batch res] :=
  ⟨⟨rfl, rfl, rfl, rfl⟩, rfl, rfl, by simp; rfl, rfl, id⟩

theorem linked_offerPackets (hon : s.state.online) (eNewState : ClientState) (res : SendResult) :
    ∃ es, Linked s (s.offerPackets s.state eNewState res) es := by
  have hsent := local_sent (s := s) res
  have hstate : s.state ≠ .disconnected := by
    rintro hs
    rw [hs] at hon
    cases hon
  cases res with
  | failed sError => exact hsent.disconnectInternal _
  | again =>
    have hpending := linked_ensurePendingSend.after hsent
    simp only [offerPackets]
    split
    · rename_i htimer
      have htimer' : s.refIntervalTimeout = none := by
        rw [← htimer, ensurePendingSend]
        split_ifs <;> rfl
      exact ⟨_, hpending.trace, hpending.signalled,
        hpending.link.congr_right ⟨rfl, rfl, rfl, rfl⟩ id, hpending.timer,
        fun _ => .inr ⟨htimer', hstate⟩⟩
    · rename_i nElapsed _
      have hstarted : Linked s
          { (s.emit (.sent s.clientFD s.batch .again)).ensurePendingSend with
            startedSendingTime := nElapsed } [.sent s.clientFD s.batch .again] :=
        ⟨hpending.trace, hpending.signalled, hpending.link.congr_right ⟨rfl, rfl, rfl, rfl⟩ id,
          hpending.timer, hpending.fault⟩
      exact hstarted.changeState rfl eNewState
  | accepted =>
    simp only [offerPackets]
    split
    · rename_i htimer
      have hlinked := hsent.linked
      exact ⟨_, hlinked.trace, hlinked.signalled, hlinked.link.congr_right ⟨rfl, rfl, rfl, rfl⟩ id,
        hlinked.timer, fun _ => .inr ⟨htimer, hstate⟩⟩
    · have hlocal (nElapsed : ℤ) : Local s { s.emit (.sent s.clientFD s.batch .accepted) with
          lastSentTime := nElapsed, lastError := "" } [.sent s.clientFD s.batch .accepted] :=
        hsent.update ⟨rfl, rfl, rfl, rfl⟩ rfl rfl rfl rfl
      split_ifs
      · exact (hlocal _).disconnectInternal ""
      · exact (hlocal _).linked.changeState rfl .connected

/-- Staging moves keys; it may only write past the packets. -/
theorem local_stagePackets (n : ℕ) (eNewState : ClientState) :
    Local s (stagePackets n eNewState s).2 [] := by
  induction n generalizing eNewState s with
  | zero => exact .refl s
  | succ n ih =>
    rw [stagePackets]
    split_ifs
    · obtain ⟨hsame, hstate, htrace, -, htimer, hfault⟩ := ih (s := { s with
        bufferedKeys := s.bufferedKeys.read.2
        packets := s.packets.set s.totPackets (encodePacket s.bufferedKeys.read.1
          s.packets[s.totPackets])
        totPackets := s.totPackets + 1 })
        (if s.bufferedKeys.read.1.keyType = .removeDevice then .removing else eNewState)
      exact ⟨⟨hsame.clientFD, hsame.pendingConnect, hsame.pendingSend, hsame.sources⟩, hstate,
        htrace, by simp, htimer, hfault⟩
    · exact ⟨⟨rfl, rfl, rfl, rfl⟩, rfl, rfl, by simp, rfl, fun h => by cases h⟩

theorem linked_sendPackets (hon : s.state.online) (res : SendResult) :
    ∃ es, Linked s (s.sendPacketsFromBufferedKeys res) es := by
  have hlocal : Local s { s with totPackets := 0 } [] :=
    (Local.refl s).update ⟨rfl, rfl, rfl, rfl⟩ rfl rfl rfl rfl
  have hstage := local_stagePackets (s := { s with totPackets := 0 }) s.bufferedKeys.size .sending
  have hstate : (stagePackets s.bufferedKeys.size .sending { s with totPackets := 0 }).2.state =
      s.state := hstage.state
  rw [sendPacketsFromBufferedKeys]
  generalize stagePackets s.bufferedKeys.size .sending { s with totPackets := 0 } = r
    at hstage hstate ⊢
  dsimp only
  split_ifs
  · exact ⟨_, hstage.linked.after hlocal⟩
  · rw [← hstate] at hon ⊢
    obtain ⟨es, h⟩ := linked_offerPackets hon r.1 res
    exact ⟨_, (h.after hstage).after hlocal⟩

theorem linked_connectToServer (oBtAddr : BitVec 48) (nL2capPort : ℤ) (calls : SocketCalls) :
    ∃ es, Linked s (s.connectToServer oBtAddr nL2capPort calls) es := by
  simp only [connectToServer]
  split_ifs with hrem hfd
  · exact ⟨[], linked_refl s⟩
  · exact ⟨[], linked_refl s⟩
  · rw [not_le] at hfd
    cases calls with
    | socketFailed sError =>
      exact ⟨[.error ("Socket failed: " ++ sError)], rfl, .inr ⟨rfl, rfl⟩,
        .failed hfd rfl rfl rfl rfl, id, .inl⟩
    | getFlagsFailed nFD sError =>
      exact ⟨[.error ("Socket fcntl get failed: " ++ sError), .closed nFD, .opened nFD], rfl,
        .inr ⟨rfl, rfl⟩, .refused nFD hfd rfl rfl rfl rfl, id, .inl⟩
    | setFlagsFailed nFD sError =>
      exact ⟨[.error ("Socket fcntl set failed: " ++ sError), .closed nFD, .opened nFD], rfl,
        .inr ⟨rfl, rfl⟩, .refused nFD hfd rfl rfl rfl rfl, id, .inl⟩
    | opened nFD result =>
      cases result with
      | connected =>
        exact ⟨[.stateChanged .connected, .established s.bufferedKeys.size, .opened nFD], rfl,
          .inl rfl, .connected nFD hfd rfl rfl rfl rfl, id, .inl⟩
      | inProgress =>
        exact ⟨[.stateChanged .connecting, .opened nFD], rfl, .inl rfl,
          .connecting nFD hfd rfl rfl rfl (by
            simp [connectSocket, attachPendingWriteSource, signalStateChanged, emit,
              PendingWriteSource.held]) rfl, fun _ => rfl, .inl⟩
      | failed sError =>
        exact ⟨[.error ("Failed to connect: " ++ sError), .closed nFD, .opened nFD], rfl,
          .inr ⟨rfl, rfl⟩, .refused nFD hfd rfl rfl rfl rfl, id, .inl⟩

theorem linked_doPendingConnect (nSourceId : ℕ) (bError : Bool) :
    ∃ es, Linked s (s.doPendingConnect nSourceId bError).2 es := by
  rw [doPendingConnect]
  cases hconnect : s.refPendingConnect with
  | none => exact ⟨[], linked_refl s⟩
  | some nId =>
    dsimp only
    split_ifs
    · exact ⟨[], linked_refl s⟩
    · exact linked_disconnectInternal _
    · have hheld (src : PendingWriteSource) :
          PendingWriteSource.held { src with clientFD := -1 } = (-1, src.held.2) := rfl
      exact ⟨[.stateChanged .connected, .established s.bufferedKeys.size], rfl, .inl rfl,
        .established nId hconnect rfl rfl rfl (map_modify hheld ..), id, .inl⟩

theorem linked_offerPending (hon : s.state.online) (res res' : SendResult) :
    ∃ es, Linked s (s.offerPending res res').2 es := by
  have hsent := local_sent (s := s) res
  simp only [offerPending]
  cases res with
  | again => exact hsent.disconnectInternal _
  | failed sError => exact hsent.disconnectInternal _
  | accepted =>
    dsimp only
    split
    · rename_i htimer
      have hstate : s.state ≠ .disconnected := by
        rintro hs
        rw [hs] at hon
        cases hon
      have hlinked := hsent.linked
      exact ⟨_, hlinked.trace, hlinked.signalled, hlinked.link.congr_right ⟨rfl, rfl, rfl, rfl⟩ id,
        hlinked.timer, fun _ => .inr ⟨htimer, hstate⟩⟩
    · rename_i nElapsed htimer
      have hlocal : Local s { s.emit (.sent s.clientFD s.batch .accepted) with
          lastSentTime := nElapsed } [.sent s.clientFD s.batch .accepted] :=
        hsent.update ⟨rfl, rfl, rfl, rfl⟩ rfl rfl rfl rfl
      split_ifs
      · exact ⟨[.stateChanged .connected, .sent s.clientFD s.batch .accepted], rfl, .inl rfl,
          .kept ⟨rfl, rfl, rfl, rfl⟩, id, .inl⟩
      · obtain ⟨es, h⟩ := linked_sendPackets
          (s := { s.emit (.sent s.clientFD s.batch .accepted) with lastSentTime := nElapsed })
          hon res'
        exact ⟨_, h.after hlocal⟩

theorem linked_doPendingSend (hc : s.Coherent) (nSourceId : ℕ) (bError : Bool)
    (res res' : SendResult) : ∃ es, Linked s (s.doPendingSend nSourceId bError res res').2 es := by
  rw [doPendingSend]
  cases hsend : s.refPendingSend with
  | none => exact ⟨[], linked_refl s⟩
  | some nId =>
    dsimp only
    split_ifs
    · exact ⟨[], linked_refl s⟩
    · exact linked_disconnectInternal _
    · exact linked_offerPending (hc.pendingSend (by rw [hsend]; rfl)) res res'

theorem local_putCommand (eType : Hk.KeyInputType) :
    Local s (s.putCommand eType) [.put ⟨eType, hkNull, s.nextSerial⟩ s.bufferedKeys.isFull] :=
  ⟨⟨rfl, rfl, rfl, rfl⟩, rfl, rfl, by simp; rfl, rfl, id⟩

theorem linked_doIntervalTimeout (nElapsed : ℤ) (res : SendResult) :
    ∃ es, Linked s (s.doIntervalTimeout nElapsed res) es := by
  rw [doIntervalTimeout]
  split
  · split_ifs
    · exact linked_disconnectInternal _
    · exact ⟨[], linked_refl s⟩
  · rename_i hs
    split_ifs
    · obtain ⟨es, h⟩ := linked_sendPackets (s := s.putCommand .noop)
        ((congrArg ClientState.online hs).trans rfl) res
      exact ⟨_, h.after (local_putCommand .noop)⟩
    · exact ⟨[], linked_refl s⟩
  · split_ifs
    · exact ⟨[.stateChanged .connected, .error "Sending timed out"], rfl, .inl rfl,
        .kept ⟨rfl, rfl, rfl, rfl⟩, id, .inl⟩
    · exact ⟨[], linked_refl s⟩
  · exact ⟨[], linked_refl s⟩
  · exact ⟨[], linked_refl s⟩

theorem local_makePlace : Local s s.makePlace [] := by
  rw [makePlace]
  split_ifs
  · exact (Local.refl s).update ⟨rfl, rfl, rfl, rfl⟩ rfl rfl rfl rfl
  · exact .refl s

/-- The key of `sendKeyToServer` is put into the ring buffer. -/
theorem local_putKey (oKey : BufferedKey) :
    ∃ es, Local s (({ s.emit (.passed oKey) with
      nextSerial := s.nextSerial + 1 }.makePlace).putBufferedKey oKey) es := by
  have hpassed : Local s { s.emit (.passed oKey) with nextSerial := s.nextSerial + 1 }
      [.passed oKey] := ⟨⟨rfl, rfl, rfl, rfl⟩, rfl, rfl, by simp; rfl, rfl, id⟩
  have hput (u : BtKeyClient) : Local u (u.putBufferedKey oKey)
      [.put oKey u.bufferedKeys.isFull] := ⟨⟨rfl, rfl, rfl, rfl⟩, rfl, rfl, by simp; rfl, rfl, id⟩
  exact ⟨_, (hpassed.trans local_makePlace).trans (hput _)⟩

theorem linked_sendKeyToServer (eType : Hk.KeyInputType) (eKey : HardwareKey) (res : SendResult) :
    ∃ es, Linked s (s.sendKeyToServer eType eKey res) es := by
  obtain ⟨es, hput⟩ := local_putKey (s := s) ⟨eType, eKey, s.nextSerial⟩
  have hignored : Local s { s.emit (.passed ⟨eType, eKey, s.nextSerial⟩) with
      nextSerial := s.nextSerial + 1 } [.passed ⟨eType, eKey, s.nextSerial⟩] :=
    ⟨⟨rfl, rfl, rfl, rfl⟩, rfl, rfl, by simp; rfl, rfl, id⟩
  rw [sendKeyToServer]
  dsimp only
  split
  · exact ⟨_, hput.linked⟩
  · rename_i hs
    obtain ⟨es', h⟩ := linked_sendPackets (by rw [hput.state]; exact congrArg ClientState.online hs)
      res
    exact ⟨_, h.after hput⟩
  · exact ⟨_, hignored.linked⟩
  · exact ⟨_, hignored.linked⟩
  · exact ⟨_, hignored.linked⟩

theorem linked_sendRemoveToServer (res : SendResult) :
    ∃ es, Linked s (s.sendRemoveToServer res) es := by
  have hsend (u : BtKeyClient) (hon : u.state.online) (hlocal : Local s u []) :
      ∃ es, Linked s ((u.putCommand .removeDevice).sendPacketsFromBufferedKeys res) es := by
    obtain ⟨es, h⟩ := linked_sendPackets (s := u.putCommand .removeDevice) hon res
    exact ⟨_, (h.after (local_putCommand .removeDevice)).after hlocal⟩
  rw [sendRemoveToServer]
  split_ifs with hoff hs
  · exact ⟨[], linked_refl s⟩
  · exact hsend _ ((congrArg ClientState.online hs).trans rfl)
      ((Local.refl s).update ⟨rfl, rfl, rfl, rfl⟩ rfl rfl rfl rfl)
  · refine hsend s ?_ (.refl s)
    rw [not_or] at hoff
    cases h : s.state with
    | connecting => exact absurd h hoff.1
    | disconnected => exact absurd h hoff.2
    | connected | sending | removing => rfl

theorem linked_dispatch (hc : s.Coherent) (nSourceId : ℕ) (nIOFlags : WriteCondition)
    (res res' : SendResult) : ∃ es, Linked s (s.dispatch nSourceId nIOFlags res res') es := by
  have hslot (slot : Option PendingSlot) :
      ∃ es, Linked s (s.dispatchSlot nSourceId slot nIOFlags res res').2 es := by
    simp only [dispatchSlot]
    cases slot with
    | none => exact ⟨[], linked_refl s⟩
    | some slot =>
      dsimp only
      split_ifs
      · exact ⟨[], linked_refl s⟩
      · cases slot with
        | doPendingConnect => exact linked_doPendingConnect ..
        | doPendingSend => exact linked_doPendingSend hc ..
  rw [dispatch]
  cases s.sources[nSourceId]? with
  | none => exact ⟨[], linked_refl s⟩
  | some src =>
    dsimp only
    obtain ⟨es, h⟩ := hslot src.slot
    split_ifs
    · exact ⟨[], linked_refl s⟩
    · exact ⟨es, h⟩
    · exact ⟨es, h.detach nSourceId⟩

/-- **What an operation does to the connection.** The destruction of a source is apart. -/
theorem linked_perform (hc : s.Coherent) {op : ClientOp}
    (hop : ∀ nSourceId, op ≠ .destroySource nSourceId) : ∃ es, Linked s (s.perform op) es := by
  cases op with
  | connectToServer oBtAddr nL2capPort calls => exact linked_connectToServer ..
  | disconnectFromServer =>
    simp only [perform, disconnectFromServer]
    split_ifs
    · exact ⟨[], linked_refl s⟩
    · exact linked_disconnectInternal _
  | sendKeyToServer eType eKey res => exact linked_sendKeyToServer ..
  | sendRemoveToServer res => exact linked_sendRemoveToServer res
  | intervalTick res =>
    simp only [perform, intervalCallback]
    split
    · exact ⟨[], linked_refl s⟩
    · rename_i nTotMillisec htimer
      have hlocal : Local s { s with refIntervalTimeout := some (nTotMillisec + s.interval) } [] :=
        (Local.refl s).update ⟨rfl, rfl, rfl, rfl⟩ rfl rfl (by simp [htimer]) rfl
      obtain ⟨es, h⟩ := linked_doIntervalTimeout
        (s := { s with refIntervalTimeout := some (nTotMillisec + s.interval) })
        (nTotMillisec + s.interval) res
      exact ⟨_, h.after hlocal⟩
  | dispatch nSourceId nIOFlags res res' => exact linked_dispatch hc ..
  | destroySource nSourceId => exact absurd rfl (hop nSourceId)

/-- The destruction of a source may close a descriptor, and does nothing else. -/
theorem destroySource_cases (nSourceId : ℕ) :
    s.destroySource nSourceId = s ∨
    ∃ src, s.sources[nSourceId]? = some src ∧ src.attached = false ∧ src.destroyed = false ∧
      s.refPendingConnect ≠ some nSourceId ∧ s.refPendingSend ≠ some nSourceId ∧
      s.destroySource nSourceId = { s with
        sources := s.sources.modify nSourceId fun src => { src with destroyed := true }
        trace := if 0 ≤ src.clientFD then .closed src.clientFD :: s.trace else s.trace } := by
  rw [destroySource]
  cases hsrc : s.sources[nSourceId]? with
  | none => exact .inl rfl
  | some src =>
    dsimp only
    split_ifs with hkept hfd
    · exact .inl rfl
    all_goals
      simp only [Bool.or_eq_true, not_or, Bool.not_eq_true, decide_eq_true_eq] at hkept
      obtain ⟨⟨⟨hatt, hdes⟩, hconnect⟩, hsend⟩ := hkept
      exact .inr ⟨src, rfl, hatt, hdes, hconnect, hsend, by simp [emit, hfd]⟩

end BtKeyClient

end StmmInputBt
