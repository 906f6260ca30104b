import Mathlib.Tactic.Common

/-!
# Computations that avoid a fault

## Main definitions

* `Avoids`: a computation does not end in a fault, and what it returns has a property.

## Main results

* `Avoids.bind`, `Avoids.foldlM`: sequences and loops.
-/

/-- The computation does not end in the fault `e`, and `Q` holds of what it returns. -/
def Avoids {ε α : Type} (e : ε) (Q : α → Prop) : Except ε α → Prop
  | .error e' => e' ≠ e
  | .ok a => Q a

namespace Avoids

variable {ε α β : Type} {e : ε} {Q Q' : α → Prop} {R : β → Prop} {x : Except ε α}

theorem ne_error (h : Avoids e Q x) : x ≠ .error e := by
  rintro rfl
  exact h rfl

theorem mono (h : Avoids e Q x) (hQ : ∀ a, Q a → Q' a) : Avoids e Q' x := by
  cases x with
  | error e' => exact h
  | ok a => exact hQ a h

theorem bind {f : α → Except ε β} (h : Avoids e Q x) (hf : ∀ a, Q a → Avoids e R (f a)) :
    Avoids e R (x >>= f) := by
  cases x with
  | error e' => exact h
  | ok a => exact hf a h

theorem map {f : α → β} (h : Avoids e Q x) (hf : ∀ a, Q a → R (f a)) : Avoids e R (x.map f) := by
  cases x with
  | error e' => exact h
  | ok a => exact hf a h

/-- What every round of a loop keeps. -/
theorem foldlM {f : α → β → Except ε α} {xs : List β}
    (hf : ∀ a b, b ∈ xs → Q a → Avoids e Q (f a b)) {a : α} (ha : Q a) :
    Avoids e Q (xs.foldlM f a) := by
  induction xs generalizing a with
  | nil => exact ha
  | cons b xs ih =>
    rw [List.foldlM_cons]
    exact (hf a b (List.mem_cons_self ..) ha).bind fun a' ha' =>
      ih (fun a b hb => hf a b (List.mem_cons_of_mem _ hb)) ha'

end Avoids
