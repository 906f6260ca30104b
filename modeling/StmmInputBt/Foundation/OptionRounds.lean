import Mathlib.Data.List.Basic

/-!
# Options taken in rounds

Words are read from the front of a list. A word stands for an option of some kind or for none, and
an option takes some of the words behind it. `OptionTable.parse` takes one option after the other.
A *round* goes once through a list of kinds and takes the option in front whenever it is of the kind
at hand, so that a round may take several options or skip some; `whileTaken` goes round until no
words are left or none is taken.

## Main results

* `OptionTable.whileTaken_round`: rounds through all kinds, in whatever order, read what `parse`
  reads.
* `OptionTable.parse_invariant`.
-/

/-- What the words stand for. A fault ends the reading, so that it may also be a result. -/
structure OptionTable (κ α σ ε : Type*) where
  kind : α → Option κ
  /-- What is read, and the words that are left. -/
  take : κ → σ → α → List α → Except ε (σ × List α)
  length_take : ∀ {k s x xs s' xs'}, take k s x xs = .ok (s', xs') → xs'.length ≤ xs.length
  unknown : α → ε

namespace OptionTable

variable {κ α σ ε : Type*}

/-- Go round while there are words, and end with a fault if a round has taken none. -/
def whileTaken (round : σ → List α → Except ε (σ × List α)) (unknown : α → ε) (s : σ) :
    List α → Except ε σ
  | [] => .ok s
  | x :: xs =>
    match round s (x :: xs) with
    | .error e => .error e
    | .ok (s', xs') =>
      if xs'.length < (x :: xs).length then whileTaken round unknown s' xs' else .error (unknown x)
termination_by xs => xs.length
decreasing_by assumption

variable (T : OptionTable κ α σ ε)

/-- Take one option after the other. -/
def parse (s : σ) : List α → Except ε σ
  | [] => .ok s
  | x :: xs =>
    match T.kind x with
    | none => .error (T.unknown x)
    | some k =>
      match _h : T.take k s x xs with
      | .error e => .error e
      | .ok (s', xs') => parse s' xs'
termination_by xs => xs.length
decreasing_by exact Nat.lt_succ_of_le (T.length_take ‹_›)

variable [DecidableEq κ]

/-- Take the option in front if it is of this kind. -/
def tryKind (p : σ × List α) (k : κ) : Except ε (σ × List α) :=
  match p.2 with
  | [] => .ok p
  | x :: xs => if T.kind x = some k then T.take k p.1 x xs else .ok p

/-- Go once through the kinds. -/
def round (ks : List κ) (s : σ) (xs : List α) : Except ε (σ × List α) :=
  ks.foldlM T.tryKind (s, xs)

variable {T} {k : κ} {ks : List κ} {s s' : σ} {x : α} {xs xs' : List α} {e : ε}

omit [DecidableEq κ] in
theorem parse_cons_of_kind (hkind : T.kind x = some k) :
    T.parse s (x :: xs) = (T.take k s x xs).bind fun p => T.parse p.1 p.2 := by
  rw [parse, hkind]
  dsimp only
  split
  · next h => rw [h]; rfl
  · next h => rw [h]; rfl

omit [DecidableEq κ] in
/-- What every option keeps holds of what is read, when no words are left. -/
theorem parse_invariant {P : σ → List α → Prop} {t : σ}
    (hstep : ∀ k s x xs s' xs', P s (x :: xs) → T.take k s x xs = .ok (s', xs') → P s' xs')
    (hs : P s xs) (h : T.parse s xs = .ok t) : P t [] := by
  fun_induction T.parse s xs with
  | case1 s => exact Except.ok.inj h ▸ hs
  | case2 s x xs hkind => cases h
  | case3 s x xs k hkind e htake => cases h
  | case4 s x xs k hkind s' xs' htake ih => exact ih (hstep k s x xs s' xs' hs htake) h

/-- A kind is tried: nothing is taken, or the first step of `parse`. -/
theorem parse_tryKind (p : σ × List α) (k : κ) :
    T.parse p.1 p.2 = (T.tryKind p k).bind fun p => T.parse p.1 p.2 := by
  obtain ⟨s, xs⟩ := p
  cases xs with
  | nil => rfl
  | cons x xs =>
    rw [tryKind]
    dsimp only
    split_ifs with hkind
    · exact parse_cons_of_kind hkind
    · rfl

/-- A round takes the first steps of `parse`. -/
theorem parse_round (ks : List κ) (s : σ) (xs : List α) :
    T.parse s xs = (T.round ks s xs).bind fun p => T.parse p.1 p.2 := by
  have hfold (p : σ × List α) :
      T.parse p.1 p.2 = (ks.foldlM T.tryKind p).bind fun p => T.parse p.1 p.2 := by
    induction ks generalizing p with
    | nil => rfl
    | cons k ks ih =>
      rw [List.foldlM_cons, parse_tryKind p k]
      cases T.tryKind p k with
      | error e => rfl
      | ok p' => exact ih p'
  exact hfold (s, xs)

theorem tryKind_length {p p' : σ × List α} (h : T.tryKind p k = .ok p') :
    p' = p ∨ p'.2.length < p.2.length := by
  obtain ⟨s, xs⟩ := p
  cases xs with
  | nil => exact .inl (Except.ok.inj h).symm
  | cons x xs =>
    rw [tryKind] at h
    dsimp only at h
    split_ifs at h
    · exact .inr (Nat.lt_succ_of_le (T.length_take h))
    · exact .inl (Except.ok.inj h).symm

theorem foldlM_tryKind_length {p p' : σ × List α} (h : ks.foldlM T.tryKind p = .ok p') :
    p'.2.length ≤ p.2.length := by
  induction ks generalizing p with
  | nil => exact Nat.le_of_eq (congrArg (·.2.length) (Except.ok.inj h).symm)
  | cons k ks ih =>
    rw [List.foldlM_cons] at h
    cases hp : T.tryKind p k with
    | error e =>
      rw [hp] at h
      cases h
    | ok q =>
      rw [hp] at h
      obtain rfl | hlt := tryKind_length hp
      · exact ih h
      · exact Nat.le_trans (ih h) (Nat.le_of_lt hlt)

/-- A round through the kind of the word in front takes it. -/
theorem round_length (hmem : k ∈ ks) (hkind : T.kind x = some k)
    (h : T.round ks s (x :: xs) = .ok (s', xs')) : xs'.length < (x :: xs).length := by
  rw [round] at h
  induction ks with
  | nil => cases hmem
  | cons k' ks ih =>
    rw [List.foldlM_cons] at h
    cases hp : T.tryKind (s, x :: xs) k' with
    | error e =>
      rw [hp] at h
      cases h
    | ok p =>
      rw [hp] at h
      obtain rfl | hlt := tryKind_length hp
      · -- nothing is taken, so that the kind comes later
        refine ih ((List.mem_cons.mp hmem).resolve_left ?_) h
        rintro rfl
        rw [tryKind] at hp
        dsimp only at hp
        rw [if_pos hkind] at hp
        exact absurd (T.length_take hp) (by simp)
      · exact Nat.lt_of_le_of_lt (foldlM_tryKind_length h) hlt

/-- **Rounds.** Rounds through all kinds read what is read by taking one option after the other. -/
theorem whileTaken_round (hks : ∀ x, ∀ k ∈ T.kind x, k ∈ ks) (s : σ) (xs : List α) :
    whileTaken (T.round ks) T.unknown s xs = T.parse s xs := by
  fun_induction whileTaken (T.round ks) T.unknown s xs with
  | case1 s => rw [parse]
  | case2 s x xs e hround =>
    rw [parse_round ks, hround]
    rfl
  | case3 s x xs s' xs' hround hlt ih =>
    rw [ih, parse_round ks s (x :: xs), hround]
    rfl
  | case4 s x xs s' xs' hround hlt =>
    have hkind : T.kind x = none :=
      Option.eq_none_iff_forall_ne_some.mpr fun k hkind =>
        hlt (round_length (hks x k hkind) hkind hround)
    rw [parse, hkind]

end OptionTable
