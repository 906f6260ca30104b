import Mathlib.Tactic.Common

/-!
# Computations in lockstep

Two computations that may fault are in lockstep when they fault in the same way, or both return and
what they return is related.

## Main results

* `Lockstep.bind`: sequences of computations in lockstep.
* `Lockstep.map_eq`: with the graph of a function, one computation is the image of the other.
* `Lockstep.of_forall_ok`: a computation is in lockstep with itself over what it keeps.
-/

/-- The same fault, or two related values. -/
inductive Lockstep {ε α β : Type} (R : α → β → Prop) : Except ε α → Except ε β → Prop
  | error (e : ε) : Lockstep R (.error e) (.error e)
  | ok {a : α} {b : β} (h : R a b) : Lockstep R (.ok a) (.ok b)

namespace Lockstep

variable {ε α β α' β' : Type} {R : α → β → Prop} {S : α' → β' → Prop} {x : Except ε α}
  {y : Except ε β}

theorem refl (x : Except ε α) : Lockstep Eq x x := by
  cases x with
  | error e => exact .error e
  | ok a => exact .ok rfl

theorem bind {f : α → Except ε α'} {g : β → Except ε β'} (h : Lockstep R x y)
    (hf : ∀ a b, R a b → Lockstep S (f a) (g b)) : Lockstep S (x >>= f) (y >>= g) := by
  cases h with
  | error e => exact .error e
  | ok h => exact hf _ _ h

theorem mono {R' : α → β → Prop} (h : Lockstep R x y) (hR : ∀ a b, R a b → R' a b) :
    Lockstep R' x y := by
  cases h with
  | error e => exact .error e
  | ok h => exact .ok (hR _ _ h)

theorem map {f : α → α'} {g : β → β'} (h : Lockstep R x y) (hf : ∀ a b, R a b → S (f a) (g b)) :
    Lockstep S (x.map f) (y.map g) := by
  cases h with
  | error e => exact .error e
  | ok h => exact .ok (hf _ _ h)

/-- What one returns is related to what the other returns. -/
theorem exists_ok {a : α} (h : Lockstep R x y) (hx : x = .ok a) : ∃ b, y = .ok b ∧ R a b := by
  cases h with
  | error e => cases hx
  | ok h =>
    cases hx
    exact ⟨_, rfl, h⟩

theorem map_eq {f : α → β} (h : Lockstep (fun a b => f a = b) x y) : x.map f = y := by
  cases h with
  | error e => rfl
  | ok h => exact congrArg Except.ok h

theorem of_map {f : β → α} (h : ∀ b, R (f b) b) : Lockstep R (y.map f) y := by
  cases y with
  | error e => exact .error e
  | ok b => exact .ok (h b)

theorem of_forall_ok {P : α → Prop} (h : ∀ a, x = .ok a → P a) :
    Lockstep (fun a b => a = b ∧ P a) x x := by
  cases x with
  | error e => exact .error e
  | ok a => exact .ok ⟨rfl, h a rfl⟩

end Lockstep
