import Mathlib.Data.List.TakeWhile
import Mathlib.Data.Int.Notation
import Mathlib.Tactic.Common

/-!
# Integers in decimal

Writing an integer in decimal, and reading one from the beginning of a text: an optional sign and
then as many digits as there are.

## Main results

* `Decimal.readInt_eq_some`: the integer at the beginning of a text is the one that the longest
  possible numeral denotes.
* `Decimal.isNumeral_numeral`: what is written denotes the integer.
-/

namespace Decimal

/-- `s` denotes the integer: digits, one at least, after an optional sign. -/
inductive IsNumeral : List Char → ℤ → Prop
  | unsigned {ds : List Char} (hne : ds ≠ []) (hds : ∀ d ∈ ds, d.isDigit) :
      IsNumeral ds (Nat.ofDigitChars 10 ds 0)
  | positive {ds : List Char} (hne : ds ≠ []) (hds : ∀ d ∈ ds, d.isDigit) :
      IsNumeral ('+' :: ds) (Nat.ofDigitChars 10 ds 0)
  | negative {ds : List Char} (hne : ds ≠ []) (hds : ∀ d ∈ ds, d.isDigit) :
      IsNumeral ('-' :: ds) (-(Nat.ofDigitChars 10 ds 0 : ℤ))

/-- The integer in decimal, with a sign if it is negative. -/
def numeral (n : ℤ) : List Char :=
  if n < 0 then '-' :: Nat.toDigits 10 n.natAbs else Nat.toDigits 10 n.natAbs

/-- The number that the digits at the beginning of a text denote and what is after them. -/
def readNat (s : List Char) : Option (ℕ × List Char) :=
  if s.takeWhile Char.isDigit = [] then none
  else some (Nat.ofDigitChars 10 (s.takeWhile Char.isDigit) 0, s.dropWhile Char.isDigit)

/-- The integer at the beginning of a text and what is after it. -/
def readInt : List Char → Option (ℤ × List Char)
  | '-' :: s => (readNat s).map fun p => (-(p.1 : ℤ), p.2)
  | '+' :: s => (readNat s).map fun p => ((p.1 : ℤ), p.2)
  | s => (readNat s).map fun p => ((p.1 : ℤ), p.2)

variable {s t ds rest : List Char} {n m : ℤ} {k : ℕ} {c : Char}

theorem digits_append (hds : ∀ d ∈ ds, d.isDigit) (hrest : ∀ c ∈ rest.head?, ¬ c.isDigit) :
    (ds ++ rest).takeWhile Char.isDigit = ds ∧ (ds ++ rest).dropWhile Char.isDigit = rest := by
  rw [List.takeWhile_append_of_pos hds, List.dropWhile_append_of_pos hds]
  cases rest with
  | nil => simp
  | cons c rest =>
    have hc : ¬ c.isDigit := hrest c rfl
    simp [hc]

/-- The number read is the one that the longest run of digits denotes. -/
theorem readNat_eq_some : readNat s = some (k, rest) ↔
    ∃ ds, ds ≠ [] ∧ (∀ d ∈ ds, d.isDigit) ∧ (∀ c ∈ rest.head?, ¬ c.isDigit) ∧ s = ds ++ rest ∧
      k = Nat.ofDigitChars 10 ds 0 := by
  constructor
  · intro h
    rw [readNat] at h
    split_ifs at h with hne
    obtain ⟨rfl, rfl⟩ := Prod.mk.inj (Option.some.inj h)
    refine ⟨_, hne, fun d hd => List.mem_takeWhile_imp hd, fun c hc => ?_,
      List.takeWhile_append_dropWhile.symm, rfl⟩
    have hnot := List.head?_dropWhile_not Char.isDigit s
    rw [Option.mem_def.mp hc] at hnot
    simpa using hnot
  · rintro ⟨ds, hne, hds, hrest, rfl, rfl⟩
    obtain ⟨htake, hdrop⟩ := digits_append hds hrest
    rw [readNat, htake, hdrop, if_neg hne]

theorem readInt_eq_readNat (hneg : s.head? ≠ some '-') (hpos : s.head? ≠ some '+') :
    readInt s = (readNat s).map fun p => ((p.1 : ℤ), p.2) := by
  rw [readInt]
  · rintro s' rfl
    exact hneg rfl
  · rintro s' rfl
    exact hpos rfl

/-- A run of digits does not begin with a sign. -/
theorem head?_ne_sign (hne : ds ≠ []) (hds : ∀ d ∈ ds, d.isDigit) (hc : ¬ c.isDigit) :
    (ds ++ rest).head? ≠ some c := by
  obtain ⟨d, ds, rfl⟩ := List.exists_cons_of_ne_nil hne
  intro h
  rw [List.cons_append, List.head?_cons, Option.some.injEq] at h
  exact hc (h ▸ hds d List.mem_cons_self)

/-- The integer at the beginning of a text is the one that the longest possible numeral denotes. -/
theorem readInt_eq_some : readInt s = some (n, rest) ↔
    ∃ body, IsNumeral body n ∧ (∀ c ∈ rest.head?, ¬ c.isDigit) ∧ s = body ++ rest := by
  constructor
  · intro h
    have hread : ∀ {s' : List Char} {f : ℕ → ℤ},
        (readNat s').map (fun p => (f p.1, p.2)) = some (n, rest) →
        ∃ ds, ds ≠ [] ∧ (∀ d ∈ ds, d.isDigit) ∧ (∀ c ∈ rest.head?, ¬ c.isDigit) ∧
          s' = ds ++ rest ∧ n = f (Nat.ofDigitChars 10 ds 0) := by
      intro s' f h'
      obtain ⟨⟨k, rest'⟩, hnat, hp⟩ := Option.map_eq_some_iff.mp h'
      obtain ⟨rfl, rfl⟩ := Prod.mk.inj hp
      obtain ⟨ds, hne, hds, hrest, hs, rfl⟩ := readNat_eq_some.mp hnat
      exact ⟨ds, hne, hds, hrest, hs, rfl⟩
    unfold readInt at h
    split at h
    · obtain ⟨ds, hne, hds, hrest, rfl, rfl⟩ := hread (f := fun k => -(k : ℤ)) h
      exact ⟨_, .negative hne hds, hrest, rfl⟩
    · obtain ⟨ds, hne, hds, hrest, rfl, rfl⟩ := hread (f := fun k => (k : ℤ)) h
      exact ⟨_, .positive hne hds, hrest, rfl⟩
    · obtain ⟨ds, hne, hds, hrest, rfl, rfl⟩ := hread (f := fun k => (k : ℤ)) h
      exact ⟨_, .unsigned hne hds, hrest, rfl⟩
  · rintro ⟨body, hbody, hrest, rfl⟩
    have hnat : ∀ {ds : List Char}, ds ≠ [] → (∀ d ∈ ds, d.isDigit) →
        readNat (ds ++ rest) = some (Nat.ofDigitChars 10 ds 0, rest) :=
      fun hne hds => readNat_eq_some.mpr ⟨_, hne, hds, hrest, rfl, rfl⟩
    cases hbody with
    | unsigned hne hds =>
      rw [readInt_eq_readNat (head?_ne_sign hne hds (by decide))
        (head?_ne_sign hne hds (by decide)), hnat hne hds, Option.map_some]
    | positive hne hds => rw [List.cons_append, readInt, hnat hne hds, Option.map_some]
    | negative hne hds => rw [List.cons_append, readInt, hnat hne hds, Option.map_some]

namespace IsNumeral

theorem readInt_append (h : IsNumeral s n) (hrest : ∀ c ∈ rest.head?, ¬ c.isDigit) :
    readInt (s ++ rest) = some (n, rest) :=
  readInt_eq_some.mpr ⟨s, h, hrest, rfl⟩

/-- A numeral denotes one integer. -/
theorem eq (h : IsNumeral s n) (h' : IsNumeral s m) : n = m := by
  have hn : readInt (s ++ []) = some (n, []) := h.readInt_append (by simp)
  have hm : readInt (s ++ []) = some (m, []) := h'.readInt_append (by simp)
  rw [hn] at hm
  exact (Prod.mk.inj (Option.some.inj hm)).1

/-- A numeral consists of digits and of signs. -/
theorem digit_or_sign (h : IsNumeral s n) (hc : c ∈ s) : c.isDigit ∨ c = '+' ∨ c = '-' := by
  cases h with
  | unsigned hne hds => exact .inl (hds c hc)
  | positive hne hds => exact (List.mem_cons.mp hc).elim (fun h => .inr (.inl h)) (.inl <| hds c ·)
  | negative hne hds => exact (List.mem_cons.mp hc).elim (fun h => .inr (.inr h)) (.inl <| hds c ·)

theorem ne_nil (h : IsNumeral s n) : s ≠ [] := by
  cases h with
  | unsigned hne hds => exact hne
  | positive hne hds => exact List.cons_ne_nil _ _
  | negative hne hds => exact List.cons_ne_nil _ _

end IsNumeral

/-- What is written denotes the integer. -/
theorem isNumeral_numeral (n : ℤ) : IsNumeral (numeral n) n := by
  have hds : ∀ d ∈ Nat.toDigits 10 n.natAbs, d.isDigit :=
    fun d hd => Nat.isDigit_of_mem_toDigits (by decide) (by decide) hd
  have hvalue : Nat.ofDigitChars 10 (Nat.toDigits 10 n.natAbs) 0 = n.natAbs :=
    Nat.ofDigitChars_ten_toDigits
  rw [numeral]
  split_ifs with hneg
  · have h := IsNumeral.negative Nat.toDigits_ne_nil hds
    have habs : -((n.natAbs : ℕ) : ℤ) = n := by omega
    rwa [hvalue, habs] at h
  · have h := IsNumeral.unsigned Nat.toDigits_ne_nil hds
    have habs : ((n.natAbs : ℕ) : ℤ) = n := by omega
    rwa [hvalue, habs] at h

end Decimal
