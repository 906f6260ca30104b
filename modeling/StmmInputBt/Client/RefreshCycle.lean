import StmmInputBt.Foundation.Run
import StmmInputBt.Client.KeyServers

/-!
# The life of a refresh

`BtKeyServers` together with what it runs on (`btkeyservers.cc`): the future of the thread that
inquires, and the timeout source, which counts a second before it calls `doIntervalTimeout`. A
thread returns at any time or never. The progress signal is part of the model here.

`m_oRefreshFuture` is assigned the future of a new thread. If the thread of the old one is still
running, the assignment waits for it, and with it the main loop of the window.

## Main definitions

* `RefreshCycle`, `RefreshOp`, `RefreshCycle.step`, `RefreshCycle.emitted`.
* `RefreshView`, `RefreshView.observe`: what one knows who sees refreshes start and listens to the
  signals.
* `RefreshCycle.Phase`: how the view fits the servers.

## Main results

* `RefreshCycle.observe_run`: the starts and the signals tell all that the getters return.
* `RefreshCycle.blocked_of_exec_eq_error`: only the start of a refresh blocks the window, when an
  earlier thread that has been given up is still running.
-/

namespace StmmInputBt

/-- `m_oRefreshFuture`. -/
inductive RefreshThread
  | noFuture
  | running
  | returned (oInquiry : Inquiry)

inductive RefreshEvent
  /-- A thread has been started. This is no signal; `startRefreshServers` returns it. -/
  | started
  | refreshProgress (nSecs : ℤ)
  /-- With what the thread returned, if it did. -/
  | serversChanged (oFuture : BtKeyServers.RefreshFuture)

/-- An assertion fails, or the main loop waits for a thread. -/
inductive RefreshFault
  | assertion
  | blocked
  deriving DecidableEq

structure RefreshCycle where
  btKeyServers : BtKeyServers
  /-- `m_nTotMillisec` of the timeout source, zero before there is one. -/
  totMillisec : ℕ
  refreshThread : RefreshThread

inductive RefreshOp
  | startRefreshServers
  | getServers
  /-- The timeout source calls back, if there is one. -/
  | intervalTick
  /-- The thread returns, if it is running. -/
  | threadReturns (oInquiry : Inquiry)

/-- What one knows who has seen the starts and listened to the signals: the seconds of the refresh
that is running, and what `getError` and `getServers` return. -/
structure RefreshView where
  seconds : Option ℕ
  error : List Char
  servers : List ServerInfo

open BtKeyServers

variable (oText : AddrText)

/-- The error of a refresh that has been given up. -/
def BtKeyServers.tooLongError : List Char :=
  "Refresh takes too long: hci driver error\nPlease restart the application.".toList

namespace RefreshView

/-- How the view changes. Seconds are counted without a gap, and a refresh ends with the first that
lies beyond the limit of `oServers`, or before it with what the thread has returned. -/
def observe (oServers : BtKeyServers) (v : RefreshView) : RefreshEvent → Option RefreshView
  | .started =>
    match v.seconds with
    | none => some { v with seconds := some 0, error := [] }
    | some _ => none
  | .refreshProgress nSecs =>
    match v.seconds with
    | none => none
    | some n =>
      if nSecs = n + 1 ∧ 1000 * n ≤ oServers.refreshLimit then
        some { v with seconds := some (n + 1) }
      else none
  | .serversChanged oFuture =>
    match v.seconds, oFuture with
    | none, _ => none
    | some n, none =>
      if 1000 * n > oServers.refreshLimit then
        some { v with seconds := none, error := tooLongError }
      else none
    | some n, some oInquiry =>
      if 1000 * n ≤ oServers.refreshLimit then
        let oPair := oServers.refreshServers oText oInquiry
        some ⟨none, oPair.1, oPair.2⟩
      else none

end RefreshView

namespace RefreshCycle

/-- New servers. -/
def new (oServers : BtKeyServers) : RefreshCycle := ⟨oServers, 0, .noFuture⟩

/-- The assignment to the future comes last. -/
def startRefreshServers (s : RefreshCycle) :
    Except RefreshFault (List RefreshEvent × RefreshCycle) :=
  let (bStarted, oServers) := s.btKeyServers.startRefreshServers s.totMillisec
  if !bStarted then .ok ([], s)
  else
    match s.refreshThread with
    | .running => .error .blocked
    | _ => .ok ([.started], { s with btKeyServers := oServers, refreshThread := .running })

def getServers (s : RefreshCycle) : Except RefreshFault (List RefreshEvent × RefreshCycle) :=
  if isEmptyAddr s.btKeyServers.extraAddr && !s.btKeyServers.intervalTimeout then
    s.startRefreshServers
  else .ok ([], s)

/-- `IntervalTimeoutSource::callback` counts and calls `doIntervalTimeout`. -/
def intervalTick (s : RefreshCycle) : Except RefreshFault (List RefreshEvent × RefreshCycle) :=
  let s := { s with totMillisec := s.totMillisec + 1000 }
  if s.btKeyServers.refreshStarted < 0 then .ok ([], s)
  else
    match s.refreshThread with
    | .noFuture => .error .assertion
    | .returned oInquiry =>
      -- `get` leaves a future that is not valid
      let (_, oServers) := s.btKeyServers.doIntervalTimeout oText s.totMillisec (some oInquiry)
      .ok ([.serversChanged (some oInquiry)],
        { s with btKeyServers := oServers, refreshThread := .noFuture })
    | .running =>
      let nElapsedMillisec := s.totMillisec - s.btKeyServers.refreshStarted
      let (bChanged, oServers) := s.btKeyServers.doIntervalTimeout oText s.totMillisec none
      .ok (.refreshProgress (nElapsedMillisec / 1000) ::
          if bChanged then [.serversChanged none] else [],
        { s with btKeyServers := oServers })

def threadReturns (oInquiry : Inquiry) (s : RefreshCycle) : RefreshCycle :=
  match s.refreshThread with
  | .running => { s with refreshThread := .returned oInquiry }
  | _ => s

/-- What happens, with the events. -/
def perform (s : RefreshCycle) : RefreshOp → Except RefreshFault (List RefreshEvent × RefreshCycle)
  | .startRefreshServers => s.startRefreshServers
  | .getServers => s.getServers
  | .intervalTick =>
    if s.btKeyServers.intervalTimeout then s.intervalTick oText else .ok ([], s)
  | .threadReturns oInquiry => .ok ([], s.threadReturns oInquiry)

def step (s : RefreshCycle) (op : RefreshOp) : Except RefreshFault RefreshCycle :=
  (s.perform oText op).map Prod.snd

def emitted (s : RefreshCycle) (op : RefreshOp) : List RefreshEvent :=
  match s.perform oText op with
  | .ok (aEvents, _) => aEvents
  | .error _ => []

/-! ### What the view tells -/

/-- The values that only the constructor sets. -/
structure Configured (oServers t : BtKeyServers) : Prop where
  n1s28PeriodsAddr : t.n1s28PeriodsAddr = oServers.n1s28PeriodsAddr
  l2capPort : t.l2capPort = oServers.l2capPort
  extraAddr : t.extraAddr = oServers.extraAddr

/-- The view is that of the servers: nothing is refreshed, and a thread that is still running has
been given up; or the seconds are those since the start, and there is a thread to ask. -/
inductive Phase (s : RefreshCycle) : RefreshView → Prop
  | idle (hstarted : s.btKeyServers.refreshStarted = -1)
      (hthread : s.refreshThread = .running → s.btKeyServers.hungThread) :
      Phase s ⟨none, s.btKeyServers.lastError, s.btKeyServers.servers⟩
  | refreshing (n : ℕ) (hstarted : 0 ≤ s.btKeyServers.refreshStarted)
      (helapsed : s.totMillisec = s.btKeyServers.refreshStarted + 1000 * n)
      (hlimit : 1000 * n ≤ s.btKeyServers.refreshLimit) (hthread : s.refreshThread ≠ .noFuture)
      (hcleared : s.btKeyServers.lastError = []) :
      Phase s ⟨some n, [], s.btKeyServers.servers⟩

variable {oText} {s t : RefreshCycle} {v : RefreshView} {op : RefreshOp} {oServers : BtKeyServers}
  {aEvents : List RefreshEvent}

theorem Configured.refl (oServers : BtKeyServers) : Configured oServers oServers := ⟨rfl, rfl, rfl⟩

theorem Configured.refreshLimit (h : Configured oServers s.btKeyServers) :
    s.btKeyServers.refreshLimit = oServers.refreshLimit := by
  rw [BtKeyServers.refreshLimit, BtKeyServers.refreshLimit, h.n1s28PeriodsAddr]

/-- A thread returns the same whenever it is started. -/
theorem Configured.refreshServers (h : Configured oServers s.btKeyServers) (oInquiry : Inquiry) :
    s.btKeyServers.refreshServers oText oInquiry = oServers.refreshServers oText oInquiry := by
  have hextra : s.btKeyServers.extraServer = oServers.extraServer := by
    rw [extraServer, extraServer, h.extraAddr, h.l2capPort]
  cases oInquiry with
  | noAdapter sError =>
    refine Prod.ext rfl ?_
    rw [(refreshServers_error oText rfl).1, (refreshServers_error oText rfl).1, hextra]
  | inquiryError sError =>
    refine Prod.ext rfl ?_
    rw [(refreshServers_error oText rfl).1, (refreshServers_error oText rfl).1, hextra]
  | found aInquiryInfos nodup =>
    have hfound : s.btKeyServers.foundServer oText = oServers.foundServer oText := by
      funext oIi
      rw [foundServer, foundServer, h.l2capPort]
    refine Prod.ext rfl ?_
    rw [refreshServers_found, refreshServers_found, hfound, h.extraAddr, hextra]

theorem observe_refreshProgress {n : ℕ} {aServers : List ServerInfo}
    (hlimit : 1000 * n ≤ oServers.refreshLimit) :
    RefreshView.observe oText oServers ⟨some n, [], aServers⟩ (.refreshProgress (n + 1 : ℕ)) =
      some ⟨some (n + 1), [], aServers⟩ :=
  if_pos ⟨rfl, hlimit⟩

theorem observe_tooLong {n : ℕ} {aServers : List ServerInfo}
    (hover : 1000 * n > oServers.refreshLimit) :
    RefreshView.observe oText oServers ⟨some n, [], aServers⟩ (.serversChanged none) =
      some ⟨none, tooLongError, aServers⟩ :=
  if_pos hover

theorem observe_returned {n : ℕ} {aServers : List ServerInfo}
    (hlimit : 1000 * n ≤ oServers.refreshLimit) (oInquiry : Inquiry) :
    RefreshView.observe oText oServers ⟨some n, [], aServers⟩ (.serversChanged (some oInquiry)) =
      some ⟨none, (oServers.refreshServers oText oInquiry).1,
        (oServers.refreshServers oText oInquiry).2⟩ :=
  if_pos hlimit

/-! ### What the timeout source does -/

section DoIntervalTimeout

variable {s : BtKeyServers} {nElapsed : ℕ} (hstarted : 0 ≤ s.refreshStarted)
include hstarted

theorem doIntervalTimeout_returned (hcleared : s.lastError = []) (oInquiry : Inquiry) :
    s.doIntervalTimeout oText nElapsed (some oInquiry) =
      (true, { s with
        servers := (s.refreshServers oText oInquiry).2
        refreshStarted := -1
        lastError := (s.refreshServers oText oInquiry).1 }) := by
  rw [BtKeyServers.doIntervalTimeout, if_neg (by omega)]
  dsimp only
  rw [hcleared, ite_not]
  split_ifs with hempty
  · rw [hempty]
  · rfl

theorem doIntervalTimeout_tooLong (hover : nElapsed - s.refreshStarted > s.refreshLimit) :
    s.doIntervalTimeout oText nElapsed none =
      (true, { s with hungThread := true, refreshStarted := -1, lastError := tooLongError }) := by
  rw [BtKeyServers.doIntervalTimeout, if_neg (by omega)]
  exact if_pos hover

theorem doIntervalTimeout_waits (hlimit : nElapsed - s.refreshStarted ≤ s.refreshLimit) :
    s.doIntervalTimeout oText nElapsed none = (false, s) := by
  rw [BtKeyServers.doIntervalTimeout, if_neg (by omega)]
  exact if_neg (not_lt.mpr hlimit)

end DoIntervalTimeout

theorem Phase.startRefreshServers (h : s.Phase v) (hconf : Configured oServers s.btKeyServers)
    (ht : s.startRefreshServers = .ok (aEvents, t)) :
    ∃ v', aEvents.foldlM (RefreshView.observe oText oServers) v = some v' ∧ t.Phase v' ∧
      Configured oServers t.btKeyServers := by
  cases h with
  | idle hstarted hthread =>
    have hidle : ¬ s.btKeyServers.refreshStarted ≥ 0 := by omega
    simp only [RefreshCycle.startRefreshServers, BtKeyServers.startRefreshServers, if_neg hidle,
      Bool.not_true, Bool.false_eq_true, if_false] at ht
    have hstart : aEvents = [.started] ∧ t = { s with
        btKeyServers := { s.btKeyServers with
          lastError := []
          intervalTimeout := true
          refreshStarted := s.totMillisec }
        refreshThread := .running } := by
      split at ht
      · cases ht
      · cases ht
        exact ⟨rfl, rfl⟩
    obtain ⟨rfl, rfl⟩ := hstart
    refine ⟨_, rfl, .refreshing 0 (Int.natCast_nonneg _) (by simp) ?_ (by simp) rfl,
      ⟨hconf.1, hconf.2, hconf.3⟩⟩
    exact le_max_of_le_left (by decide)
  | refreshing n hstarted helapsed hlimit hthread hcleared =>
    simp only [RefreshCycle.startRefreshServers, BtKeyServers.startRefreshServers,
      if_pos hstarted, Bool.not_false, if_true] at ht
    cases ht
    exact ⟨_, rfl, .refreshing n hstarted helapsed hlimit hthread hcleared, hconf⟩

theorem Phase.intervalTick (h : s.Phase v) (hconf : Configured oServers s.btKeyServers)
    (ht : s.intervalTick oText = .ok (aEvents, t)) :
    ∃ v', aEvents.foldlM (RefreshView.observe oText oServers) v = some v' ∧ t.Phase v' ∧
      Configured oServers t.btKeyServers := by
  rw [RefreshCycle.intervalTick] at ht
  dsimp only at ht
  cases h with
  | idle hstarted hthread =>
    rw [if_pos (by omega)] at ht
    cases ht
    exact ⟨_, rfl, .idle hstarted hthread, hconf⟩
  | refreshing n hstarted helapsed hlimit hthread hcleared =>
    rw [if_neg (by omega)] at ht
    have hobserved := hlimit
    rw [hconf.refreshLimit] at hobserved
    cases hs : s.refreshThread with
    | noFuture => exact absurd hs hthread
    | returned oInquiry =>
      rw [hs] at ht
      dsimp only at ht
      rw [doIntervalTimeout_returned hstarted hcleared] at ht
      cases ht
      refine ⟨_, ?_, .idle rfl (by simp), ⟨hconf.1, hconf.2, hconf.3⟩⟩
      rw [List.foldlM_cons, observe_returned hobserved, hconf.refreshServers]
      rfl
    | running =>
      rw [hs] at ht
      dsimp only at ht
      have hsecs : ((s.totMillisec + 1000 : ℕ) : ℤ) - s.btKeyServers.refreshStarted =
          1000 * (n + 1 : ℕ) := by
        push_cast
        omega
      have hdiv : 1000 * ((n + 1 : ℕ) : ℤ) / 1000 = (n + 1 : ℕ) :=
        Int.mul_ediv_cancel_left _ (by decide)
      by_cases hover : 1000 * ((n + 1 : ℕ) : ℤ) > s.btKeyServers.refreshLimit
      · rw [doIntervalTimeout_tooLong hstarted (hsecs ▸ hover), hsecs] at ht
        cases ht
        rw [hconf.refreshLimit] at hover
        refine ⟨_, ?_, .idle rfl fun _ => rfl, ⟨hconf.1, hconf.2, hconf.3⟩⟩
        simp only [if_true, List.foldlM_cons, List.foldlM_nil, hdiv,
          observe_refreshProgress hobserved, observe_tooLong hover, Option.bind_eq_bind,
          Option.bind_some]
        rfl
      · rw [doIntervalTimeout_waits hstarted (hsecs ▸ not_lt.mp hover), hsecs] at ht
        cases ht
        refine ⟨_, ?_, .refreshing (n + 1) hstarted ?_ (not_lt.mp hover) (by simp) hcleared,
          hconf⟩
        · rw [List.foldlM_cons, hdiv, observe_refreshProgress hobserved]
          rfl
        · exact eq_add_of_sub_eq' hsecs

theorem Phase.threadReturns (h : s.Phase v) (oInquiry : Inquiry) :
    (s.threadReturns oInquiry).Phase v := by
  rw [RefreshCycle.threadReturns]
  split
  · cases h with
    | idle hstarted hthread => exact .idle hstarted (by simp)
    | refreshing n hstarted helapsed hlimit hthread hcleared =>
      exact .refreshing n hstarted helapsed hlimit (by simp) hcleared
  · exact h

/-- **One step.** What is heard of it takes the view to that of the servers after it. -/
theorem Phase.step (h : s.Phase v) (hconf : Configured oServers s.btKeyServers)
    (ht : s.step oText op = .ok t) :
    ∃ v', (s.emitted oText op).foldlM (RefreshView.observe oText oServers) v = some v' ∧
      t.Phase v' ∧ Configured oServers t.btKeyServers := by
  obtain ⟨⟨aEvents, t'⟩, hperform, rfl⟩ := Run.map_eq_ok.mp ht
  rw [emitted, hperform]
  cases op with
  | startRefreshServers => exact h.startRefreshServers hconf hperform
  | getServers =>
    rw [perform, getServers] at hperform
    split_ifs at hperform
    · exact h.startRefreshServers hconf hperform
    · cases hperform
      exact ⟨v, rfl, h, hconf⟩
  | intervalTick =>
    rw [perform] at hperform
    split_ifs at hperform
    · exact h.intervalTick hconf hperform
    · cases hperform
      exact ⟨v, rfl, h, hconf⟩
  | threadReturns oInquiry =>
    cases hperform
    refine ⟨v, rfl, ?_, ?_⟩
    · exact h.threadReturns oInquiry
    · rw [RefreshCycle.threadReturns]
      split <;> exact hconf

/-- New servers are idle, and there is no error. -/
theorem phase_new (n1s28PeriodsAddr nL2capPort : ℤ) (bExtraServer bFlush : Bool)
    (oExtraAddr : BdAddr) :
    let oServers := BtKeyServers.new n1s28PeriodsAddr nL2capPort bExtraServer oExtraAddr bFlush
    (new oServers).Phase ⟨none, [], oServers.servers⟩ := by
  intro oServers
  have hnew : oServers.refreshStarted = -1 ∧ oServers.lastError = [] := by
    unfold oServers BtKeyServers.new
    dsimp only
    split_ifs <;> exact ⟨rfl, rfl⟩
  rw [← hnew.2]
  exact .idle hnew.1 nofun

/-- Only a thread that has been given up makes the main loop wait, when another one is started. -/
theorem Phase.fault (h : s.Phase v) {f : RefreshFault} (ht : s.step oText op = .error f) :
    (op = .startRefreshServers ∨ op = .getServers) ∧
      f = .blocked ∧ s.btKeyServers.hungThread ∧ s.refreshThread = .running := by
  have hstart {f : RefreshFault} (hf : s.startRefreshServers = .error f) :
      f = .blocked ∧ s.btKeyServers.hungThread ∧ s.refreshThread = .running := by
    simp only [RefreshCycle.startRefreshServers] at hf
    cases h with
    | idle hstarted hthread =>
      split at hf
      · cases hf
      · split at hf
        · next hrunning =>
          cases hf
          exact ⟨rfl, hthread hrunning, hrunning⟩
        · cases hf
    | refreshing n hstarted helapsed hlimit hthread hcleared =>
      rw [BtKeyServers.startRefreshServers, if_pos hstarted] at hf
      cases hf
  have htick {f : RefreshFault} (hf : s.intervalTick oText = .error f) : False := by
    rw [RefreshCycle.intervalTick] at hf
    dsimp only at hf
    cases h with
    | idle hstarted hthread =>
      rw [if_pos (by omega)] at hf
      cases hf
    | refreshing n hstarted helapsed hlimit hthread hcleared =>
      rw [if_neg (by omega)] at hf
      split at hf
      · exact hthread ‹_›
      · cases hf
      · cases hf
  rw [RefreshCycle.step] at ht
  cases hperform : s.perform oText op with
  | ok r =>
    rw [hperform] at ht
    cases ht
  | error e =>
    rw [hperform] at ht
    cases ht
    cases op with
    | startRefreshServers => exact ⟨.inl rfl, hstart hperform⟩
    | getServers =>
      rw [perform, getServers] at hperform
      split_ifs at hperform
      exact ⟨.inr rfl, hstart hperform⟩
    | intervalTick =>
      rw [perform] at hperform
      split_ifs at hperform
      exact (htick hperform).elim
    | threadReturns oInquiry => cases hperform

/-- **No deadlock.** Whatever is called and whenever threads return, the assertion on the future
holds; and the main loop only waits for a thread in a call that starts another one, after one has
been given up that is still running. -/
theorem blocked_of_exec_eq_error (oText : AddrText) (n1s28PeriodsAddr nL2capPort : ℤ)
    (bExtraServer bFlush : Bool) (oExtraAddr : BdAddr) (ops : List RefreshOp) {f : RefreshFault}
    (hf : Run.exec (step oText)
      (new (.new n1s28PeriodsAddr nL2capPort bExtraServer oExtraAddr bFlush)) ops = .error f) :
    f = .blocked ∧ ∃ pre op post t, ops = pre ++ op :: post ∧
      Run.exec (step oText)
        (new (.new n1s28PeriodsAddr nL2capPort bExtraServer oExtraAddr bFlush)) pre = .ok t ∧
      step oText t op = .error .blocked ∧ (op = .startRefreshServers ∨ op = .getServers) ∧
      t.btKeyServers.hungThread ∧ t.refreshThread = .running := by
  obtain ⟨pre, op, post, t, hops, ht, hfault⟩ := Run.exec_eq_error hf
  have hphase : ∃ v, t.Phase v ∧
      Configured (.new n1s28PeriodsAddr nL2capPort bExtraServer oExtraAddr bFlush)
        t.btKeyServers :=
    Run.invariant (P := fun t => ∃ v, t.Phase v ∧
        Configured (.new n1s28PeriodsAddr nL2capPort bExtraServer oExtraAddr bFlush)
          t.btKeyServers)
      (fun s op t ⟨v, hphase, hconf⟩ hstep => by
        obtain ⟨v', -, h⟩ := hphase.step hconf hstep
        exact ⟨v', h⟩)
      ⟨_, phase_new .., .refl _⟩ ht
  obtain ⟨v, hphase, -⟩ := hphase
  obtain ⟨hop, rfl, hhung, hrunning⟩ := hphase.fault hfault
  exact ⟨rfl, pre, op, post, t, hops, ht, hfault, hop, hhung, hrunning⟩

/-- The thread never returns, and the user starts another one. -/
def refreshTwice : List RefreshOp :=
  .getServers :: (List.replicate 21 .intervalTick ++ [.startRefreshServers])

theorem blocked_refreshTwice : ∃ pre op post t, refreshTwice = pre ++ op :: post ∧
    Run.exec (step .bluez) (new (.new 8 8353 false 0 false)) pre = .ok t ∧
      step .bluez t op = .error .blocked ∧ (op = .startRefreshServers ∨ op = .getServers) ∧
      t.btKeyServers.hungThread ∧ t.refreshThread = .running :=
  (blocked_of_exec_eq_error .bluez 8 8353 false false 0 refreshTwice (f := .blocked) rfl).2

end RefreshCycle

end StmmInputBt
