import Mathlib.Tactic

/-!
# Runs of a machine that may fault

A machine is a step function `σ → ι → Except ε σ`: it takes an input in a state and either
reaches the next state or stops with a fault. `Run.exec` takes a list of inputs in order and
stops at the first fault.

* `Run.Guarded step guard s is` says that every step of the run from `s` over `is` is taken in
  a state and with an input that satisfy `guard`.
* `Run.Always step P s is` says that `P` holds in every state reached, the first one included.
* `Run.trace step obs s is` lists what an observer sees, step by step.

## Main results

* `Run.foldlM_invariant`: what every round of a loop keeps, the loop keeps.
* `Run.invariant`, `Run.invariant_trace`, `Run.invariant_trace_of_guarded`: what every step
  keeps, every run keeps.
* `Run.always_of_invariant`, `Run.always_of_guarded`, `Run.guarded_of_invariant`,
  `Run.guarded_congr_of_invariant`: what an invariant implies holds along every run.
* `Run.always_iff_guarded`, `Run.always_iff_guarded_under`, `Run.always_iff_guarded_of_invariant`: a
  property that a step keeps exactly when it is guarded holds along a run exactly when the run is
  guarded.
* `Run.trace_of_guarded`, `Run.trace_iff_guarded_of_invariant`: the same for a property of what
  is observed.
* `Run.exec_ok_iff_guarded`: a machine that faults exactly at the unguarded inputs completes
  exactly the guarded runs.
-/

namespace Run

/-- A computation that succeeds, succeeds in its first part and then in the rest. -/
theorem bind_eq_ok {ε α β : Type} {x : Except ε α} {f : α → Except ε β} {b : β} :
    (x >>= f) = .ok b ↔ ∃ a, x = .ok a ∧ f a = .ok b := by
  cases x with
  | error e => simp [bind, Except.bind]
  | ok a => simp [bind, Except.bind]

theorem map_eq_ok {ε α β : Type} {x : Except ε α} {f : α → β} {b : β} :
    x.map f = .ok b ↔ ∃ a, x = .ok a ∧ f a = b := by
  cases x with
  | error e => simp [Except.map]
  | ok a => simp [Except.map]

/-- What every round of a loop keeps, the loop keeps. -/
theorem foldlM_invariant {σ α ε : Type} {f : σ → α → Except ε σ} {P : σ → Prop} {xs : List α}
    {s t : σ} (hf : ∀ s x t, x ∈ xs → P s → f s x = .ok t → P t) (hs : P s)
    (h : xs.foldlM f s = .ok t) : P t := by
  induction xs generalizing s with
  | nil => exact Except.ok.inj h ▸ hs
  | cons x xs ih =>
    rw [List.foldlM_cons] at h
    obtain ⟨u, hu, hrest⟩ := bind_eq_ok.mp h
    exact ih (fun s y t hy => hf s y t (List.mem_cons_of_mem x hy))
      (hf s x u (List.mem_cons_self ..) hs hu) hrest

variable {σ ι ε o : Type*} (step : σ → ι → Except ε σ)

/-- Take the inputs in order. The first fault ends the run. -/
def exec : σ → List ι → Except ε σ
  | s, [] => .ok s
  | s, i :: is => (step s i).bind fun t => exec t is

/-- Every step of the run is taken in a state and with an input that satisfy `guard`. -/
def Guarded (guard : σ → ι → Prop) : σ → List ι → Prop
  | _, [] => True
  | s, i :: is => guard s i ∧ ∀ t, step s i = .ok t → Guarded guard t is

/-- `P` holds in every state that the run reaches, the first one included. -/
def Always (P : σ → Prop) : σ → List ι → Prop
  | s, [] => P s
  | s, i :: is => P s ∧ ∀ t, step s i = .ok t → Always P t is

/-- What an observer of single steps sees along the run, the earliest observation first. -/
def trace (obs : σ → ι → List o) : σ → List ι → List o
  | _, [] => []
  | s, i :: is => obs s i ++
      match step s i with
      | .ok t => trace obs t is
      | .error _ => []

variable {step} {s t : σ} {i : ι} {is : List ι}

theorem exec_cons : exec step s (i :: is) = (step s i).bind fun t => exec step t is := rfl

theorem exec_cons_of_ok (h : step s i = .ok t) : exec step s (i :: is) = exec step t is := by
  rw [exec_cons, h]
  rfl

theorem exec_cons_of_error {e : ε} (h : step s i = .error e) :
    exec step s (i :: is) = .error e := by
  rw [exec_cons, h]
  rfl

theorem exec_cons_eq_ok : exec step s (i :: is) = .ok t ↔
    ∃ u, step s i = .ok u ∧ exec step u is = .ok t := by
  cases h : step s i with
  | error e => simp [exec_cons_of_error h]
  | ok u => simp [exec_cons_of_ok h]

/-- A run goes on from where it came to. -/
theorem exec_append_of_ok {is' : List ι} (h : exec step s is = .ok t) :
    exec step s (is ++ is') = exec step t is' := by
  induction is generalizing s with
  | nil => exact Except.ok.inj h ▸ rfl
  | cons i is ih =>
    obtain ⟨u, hu, hrest⟩ := exec_cons_eq_ok.mp h
    exact (exec_cons_of_ok hu).trans (ih hrest)

/-- A run that faults faults at one of its steps. -/
theorem exec_eq_error {e : ε} (h : exec step s is = .error e) :
    ∃ pre i post u, is = pre ++ i :: post ∧ exec step s pre = .ok u ∧ step u i = .error e := by
  induction is generalizing s with
  | nil => cases h
  | cons i is ih =>
    cases hi : step s i with
    | error e' =>
      rw [exec_cons_of_error hi] at h
      exact ⟨[], i, is, s, rfl, rfl, hi.trans (by rw [Except.error.inj h])⟩
    | ok u =>
      rw [exec_cons_of_ok hi] at h
      obtain ⟨pre, j, post, v, rfl, hpre, hv⟩ := ih h
      exact ⟨i :: pre, j, post, v, rfl, (exec_cons_of_ok hi).trans hpre, hv⟩

/-- A view of the state after the run shows that the run completes. -/
theorem exists_exec_of_view {α : Type*} {f : σ → α} {x : α}
    (h : (exec step s is).toOption.map f = some x) : ∃ t, exec step s is = .ok t ∧ f t = x := by
  cases hrun : exec step s is with
  | error e =>
    rw [hrun] at h
    cases h
  | ok t =>
    rw [hrun] at h
    exact ⟨t, rfl, Option.some.inj h⟩

/-! ### Guards and invariants -/

variable {guard : σ → ι → Prop} {P : σ → Prop}

theorem guarded_cons_of_ok (h : step s i = .ok t) :
    Guarded step guard s (i :: is) ↔ guard s i ∧ Guarded step guard t is := by
  simp [Guarded, h]

/-- The step taken after the first inputs is guarded too. -/
theorem Guarded.of_exec {is' : List ι} (h : Guarded step guard s (is ++ i :: is'))
    (ht : exec step s is = .ok t) : guard t i := by
  induction is generalizing s with
  | nil => exact Except.ok.inj ht ▸ h.1
  | cons j is ih =>
    obtain ⟨u, hu, hrest⟩ := exec_cons_eq_ok.mp ht
    exact ih (h.2 u hu) hrest

/-- What every step keeps, every run keeps. -/
theorem invariant (hstep : ∀ s i t, P s → step s i = .ok t → P t) (hs : P s)
    (h : exec step s is = .ok t) : P t := by
  induction is generalizing s with
  | nil => exact Except.ok.inj h ▸ hs
  | cons i is ih =>
    obtain ⟨u, hu, hrest⟩ := exec_cons_eq_ok.mp h
    exact ih (hstep s i u hs hu) hrest

/-- A machine that goes on from every state of an invariant never faults. -/
theorem exists_exec (hstep : ∀ s i, P s → ∃ t, step s i = .ok t ∧ P t) (hs : P s) :
    ∃ t, exec step s is = .ok t ∧ P t := by
  induction is generalizing s with
  | nil => exact ⟨s, rfl, hs⟩
  | cons i is ih =>
    obtain ⟨u, hu, hPu⟩ := hstep s i hs
    obtain ⟨t, ht, hPt⟩ := ih hPu
    exact ⟨t, (exec_cons_of_ok hu).trans ht, hPt⟩

theorem Always.head (h : Always step P s is) : P s := by
  cases is with
  | nil => exact h
  | cons i is => exact h.1

theorem Always.last (h : Always step P s is) (ht : exec step s is = .ok t) : P t := by
  induction is generalizing s with
  | nil => exact Except.ok.inj ht ▸ h
  | cons i is ih =>
    obtain ⟨u, hu, hrest⟩ := exec_cons_eq_ok.mp ht
    exact ih (h.2 u hu) hrest

/-- An invariant that implies `P`: `P` holds along every run. -/
theorem always_of_invariant {I : σ → Prop} (hIP : ∀ s, I s → P s)
    (hI : ∀ s i t, I s → step s i = .ok t → I t) (hs : I s) : Always step P s is := by
  induction is generalizing s with
  | nil => exact hIP s hs
  | cons i is ih => exact ⟨hIP s hs, fun t ht => ih (hI s i t hs ht)⟩

/-- The same for an invariant that guarded steps keep. -/
theorem always_of_guarded {I : σ → Prop} (hIP : ∀ s, I s → P s)
    (hI : ∀ s i t, I s → guard s i → step s i = .ok t → I t) (hs : I s)
    (hg : Guarded step guard s is) : Always step P s is := by
  induction is generalizing s with
  | nil => exact hIP s hs
  | cons i is ih => exact ⟨hIP s hs, fun t ht => ih (hI s i t hs hg.1 ht) (hg.2 t ht)⟩

/-- A condition on the inputs alone guards the run. -/
theorem guarded_of_forall_mem (h : ∀ i ∈ is, ∀ s, guard s i) : Guarded step guard s is := by
  induction is generalizing s with
  | nil => trivial
  | cons i is ih =>
    exact ⟨h i (List.mem_cons_self ..) s, fun t _ => ih fun j hj => h j (List.mem_cons_of_mem i hj)⟩

/-- What holds of every step taken under an invariant holds of every step of a run. -/
theorem guarded_of_invariant {I : σ → Prop} (hg : ∀ s i, I s → guard s i)
    (hI : ∀ s i t, I s → step s i = .ok t → I t) (hs : I s) : Guarded step guard s is := by
  induction is generalizing s with
  | nil => trivial
  | cons i is ih => exact ⟨hg s i hs, fun t ht => ih (hI s i t hs ht)⟩

theorem Guarded.and {guard' : σ → ι → Prop} (h : Guarded step guard s is)
    (h' : Guarded step guard' s is) : Guarded step (fun s i => guard s i ∧ guard' s i) s is := by
  induction is generalizing s with
  | nil => trivial
  | cons i is ih => exact ⟨⟨h.1, h'.1⟩, fun t ht => ih (h.2 t ht) (h'.2 t ht)⟩

/-- Two guards that an invariant makes equivalent guard the same runs. -/
theorem guarded_congr_of_invariant {I : σ → Prop} {guard' : σ → ι → Prop}
    (hg : ∀ s i, I s → (guard s i ↔ guard' s i)) (hI : ∀ s i t, I s → step s i = .ok t → I t)
    (hs : I s) : Guarded step guard s is ↔ Guarded step guard' s is := by
  induction is generalizing s with
  | nil => exact Iff.rfl
  | cons i is ih =>
    exact and_congr (hg s i hs) (forall₂_congr fun t ht => ih (hI s i t hs ht))

theorem guarded_true : Guarded step (fun _ _ => True) s is := by
  induction is generalizing s with
  | nil => trivial
  | cons i is ih => exact ⟨trivial, fun _ _ => ih⟩

/-- An invariant `I` and an assumption `R` on steps that keeps it, under which a step keeps `P`
exactly when it is guarded: then `P` holds along a run exactly when every step of the run is
guarded. -/
theorem always_iff_guarded_under {I : σ → Prop} {R : σ → ι → Prop}
    (hI : ∀ s i t, I s → R s i → step s i = .ok t → I t)
    (hstep : ∀ s i t, I s → R s i → P s → step s i = .ok t → (P t ↔ guard s i))
    (hfault : ∀ s i e, I s → R s i → P s → step s i = .error e → guard s i)
    (hs : I s) (hP : P s) (hR : Guarded step R s is) :
    Always step P s is ↔ Guarded step guard s is := by
  induction is generalizing s with
  | nil => exact ⟨fun _ => trivial, fun _ => hP⟩
  | cons i is ih =>
    cases h : step s i with
    | error e => simp [Always, Guarded, h, hP, hfault s i e hs hR.1 hP h]
    | ok u =>
      have hu := hI s i u hs hR.1 h
      have hRu := hR.2 u h
      simp only [Always, Guarded, h, Except.ok.injEq, forall_eq', hP, true_and]
      constructor
      · intro ha
        have hPu := ha.head
        exact ⟨(hstep s i u hs hR.1 hP h).mp hPu, (ih hu hPu hRu).mp ha⟩
      · rintro ⟨hg, hrest⟩
        have hPu := (hstep s i u hs hR.1 hP h).mpr hg
        exact (ih hu hPu hRu).mpr hrest

/-- The same for an invariant that every step keeps. -/
theorem always_iff_guarded {I : σ → Prop} {R : σ → ι → Prop}
    (hI : ∀ s i t, I s → step s i = .ok t → I t)
    (hstep : ∀ s i t, I s → R s i → P s → step s i = .ok t → (P t ↔ guard s i))
    (hfault : ∀ s i e, I s → R s i → P s → step s i = .error e → guard s i)
    (hs : I s) (hP : P s) (hR : Guarded step R s is) :
    Always step P s is ↔ Guarded step guard s is :=
  always_iff_guarded_under (fun s i t hs _ ht => hI s i t hs ht) hstep hfault hs hP hR

/-- An invariant that implies `P`, that guarded steps keep and that unguarded steps leave for a
state without `P`: then `P` holds along a run exactly when every step of the run is guarded. -/
theorem always_iff_guarded_of_invariant {J : σ → Prop} (hJP : ∀ s, J s → P s)
    (hgood : ∀ s i t, J s → guard s i → step s i = .ok t → J t)
    (hbad : ∀ s i, J s → ¬ guard s i → ∃ t, step s i = .ok t ∧ ¬ P t) (hs : J s) :
    Always step P s is ↔ Guarded step guard s is := by
  induction is generalizing s with
  | nil => exact ⟨fun _ => trivial, fun _ => hJP s hs⟩
  | cons i is ih =>
    by_cases hg : guard s i
    · constructor
      · rintro ⟨-, hrest⟩
        exact ⟨hg, fun t ht => (ih (hgood s i t hs hg ht)).mp (hrest t ht)⟩
      · rintro ⟨-, hrest⟩
        exact ⟨hJP s hs, fun t ht => (ih (hgood s i t hs hg ht)).mpr (hrest t ht)⟩
    · obtain ⟨t, ht, hP⟩ := hbad s i hs hg
      exact ⟨fun h => absurd (h.2 t ht).head hP, fun h => absurd h.1 hg⟩

/-- What holds of every guarded step taken under `P` holds along the guarded runs under `P`. -/
theorem Always.guarded {I : σ → Prop} {R guard' : σ → ι → Prop}
    (hI : ∀ s i t, I s → step s i = .ok t → I t)
    (hstep : ∀ s i, I s → R s i → P s → guard s i → guard' s i) (hs : I s)
    (hR : Guarded step R s is) (hP : Always step P s is) (hg : Guarded step guard s is) :
    Guarded step guard' s is := by
  induction is generalizing s with
  | nil => trivial
  | cons i is ih =>
    exact ⟨hstep s i hs hR.1 hP.1 hg.1, fun t ht =>
      ih (hI s i t hs ht) (hR.2 t ht) (hP.2 t ht) (hg.2 t ht)⟩

/-- A machine that keeps `I` and faults, in states of `I`, exactly at the unguarded inputs
completes exactly the guarded runs. -/
theorem exec_ok_iff_guarded {I : σ → Prop} (hI : ∀ s i t, I s → step s i = .ok t → I t)
    (hstep : ∀ s i, I s → ((∃ t, step s i = .ok t) ↔ guard s i)) (hs : I s) :
    (∃ t, exec step s is = .ok t) ↔ Guarded step guard s is := by
  induction is generalizing s with
  | nil => exact ⟨fun _ => trivial, fun _ => ⟨s, rfl⟩⟩
  | cons i is ih =>
    cases h : step s i with
    | error e =>
      have hg : ¬ guard s i := fun hg => by
        obtain ⟨t, ht⟩ := (hstep s i hs).mpr hg
        rw [h] at ht
        cases ht
      simp [exec_cons_of_error h, Guarded, hg]
    | ok u =>
      have hg : guard s i := (hstep s i hs).mp ⟨u, h⟩
      simp only [exec_cons_of_ok h, guarded_cons_of_ok h, hg, true_and]
      exact ih (hI s i u hs h)

/-! ### Deciding guards -/

instance decidableForallEqOk {r : Except ε σ} [DecidablePred P] :
    Decidable (∀ t, r = .ok t → P t) :=
  match r with
  | .ok u => decidable_of_iff (P u) (by simp)
  | .error e => isTrue (by simp)

instance Guarded.decidable [∀ s i, Decidable (guard s i)] :
    (s : σ) → (is : List ι) → Decidable (Guarded step guard s is)
  | _, [] => isTrue trivial
  | s, i :: is =>
    have : DecidablePred fun t => Guarded step guard t is := fun t => Guarded.decidable t is
    inferInstanceAs (Decidable (guard s i ∧ ∀ t, step s i = .ok t → Guarded step guard t is))

/-! ### Observations -/

variable {obs : σ → ι → List o}

@[simp] theorem trace_nil : trace step obs s [] = [] := rfl

theorem trace_cons_of_ok (h : step s i = .ok t) :
    trace step obs s (i :: is) = obs s i ++ trace step obs t is := by
  simp only [trace, h]

variable (obs) in
/-- A relation between the state and what has been observed so far, kept by every guarded step,
is kept by every guarded run. -/
theorem invariant_trace_of_guarded {P : σ → List o → Prop}
    (hstep : ∀ s l i t, P s l → guard s i → step s i = .ok t → P t (l ++ obs s i)) {l : List o}
    (hs : P s l) (hg : Guarded step guard s is) (h : exec step s is = .ok t) :
    P t (l ++ trace step obs s is) := by
  induction is generalizing s l with
  | nil =>
    rw [trace_nil, List.append_nil]
    exact Except.ok.inj h ▸ hs
  | cons i is ih =>
    obtain ⟨u, hu, hrest⟩ := exec_cons_eq_ok.mp h
    rw [trace_cons_of_ok hu, ← List.append_assoc]
    exact ih (hstep s l i u hs hg.1 hu) (hg.2 u hu) hrest

variable (obs) in
/-- The same without a guard. -/
theorem invariant_trace {P : σ → List o → Prop}
    (hstep : ∀ s l i t, P s l → step s i = .ok t → P t (l ++ obs s i)) {l : List o} (hs : P s l)
    (h : exec step s is = .ok t) : P t (l ++ trace step obs s is) :=
  invariant_trace_of_guarded obs (fun s l i t hP _ => hstep s l i t hP) hs guarded_true h

variable (obs) in
/-- An invariant of the state and the observations that implies `P` of the observations: when
nothing is seen of a step that faults, `P` holds of what is observed along a guarded run. -/
theorem trace_of_guarded {P : List o → Prop} {J : σ → List o → Prop} (hJP : ∀ s l, J s l → P l)
    (hstep : ∀ s l i t, J s l → guard s i → step s i = .ok t → J t (l ++ obs s i))
    (hfault : ∀ s i e, step s i = .error e → obs s i = []) {l : List o} (hs : J s l)
    (hg : Guarded step guard s is) : P (l ++ trace step obs s is) := by
  induction is generalizing s l with
  | nil =>
    rw [trace_nil, List.append_nil]
    exact hJP s l hs
  | cons i is ih =>
    cases hi : step s i with
    | error e => simpa [trace, hi, hfault s i e hi] using hJP s l hs
    | ok t =>
      rw [trace_cons_of_ok hi, ← List.append_assoc]
      exact ih (hstep s l i t hs hg.1 hi) (hg.2 t hi)

/-- An invariant of the state and the observations that implies `P` of the observations, that
guarded steps keep and that an unguarded step leaves for observations without `P`: then `P` holds
of what is observed along a run exactly when every step of the run is guarded. -/
theorem trace_iff_guarded_of_invariant {P : List o → Prop} {J : σ → List o → Prop}
    (hJP : ∀ s l, J s l → P l) (hpre : ∀ l l', P (l ++ l') → P l)
    (hgood : ∀ s l i t, J s l → guard s i → step s i = .ok t → J t (l ++ obs s i))
    (hfault : ∀ s i e, step s i = .error e → guard s i ∧ obs s i = [])
    (hbad : ∀ s l i, J s l → ¬ guard s i → ¬ P (l ++ obs s i)) {l : List o} (hs : J s l) :
    P (l ++ trace step obs s is) ↔ Guarded step guard s is := by
  induction is generalizing s l with
  | nil => exact ⟨fun _ => trivial, fun _ => by simpa using hJP s l hs⟩
  | cons i is ih =>
    by_cases hg : guard s i
    · cases hi : step s i with
      | error e => simp [trace, Guarded, hi, hg, (hfault s i e hi).2, hJP s l hs]
      | ok t =>
        rw [trace_cons_of_ok hi, ← List.append_assoc, guarded_cons_of_ok hi,
          ih (hgood s l i t hs hg hi)]
        exact ⟨fun h => ⟨hg, h⟩, fun h => h.2⟩
    · refine ⟨fun h => absurd ?_ (hbad s l i hs hg), fun h => absurd h.1 hg⟩
      rw [trace, ← List.append_assoc] at h
      exact hpre _ _ h

end Run
