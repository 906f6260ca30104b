import Mathlib.Data.List.Induction
import Mathlib.Logic.Function.Basic

/-!
# Switches

A row of switches, all of them off at first. A switch is set to on or off, or all of them are
cleared. The position of a switch is the one that it was set to last, unless all have been cleared
since.

## Main results

* `Switches.after_eq_true_iff`: which switches are on.
* `Switches.after_map`: the switches may be renamed.
-/

namespace Switches

variable {α β : Type*}

/-- What is done to the switches. -/
inductive Event (α : Type*)
  | set (x : α) (on : Bool)
  | clear
  deriving DecidableEq

def Event.map (f : α → β) : Event α → Event β
  | .set x on => .set (f x) on
  | .clear => .clear

/-- The switch may move. -/
def Event.Concerns (x : α) : Event α → Prop
  | .set y _ => y = x
  | .clear => True

variable [DecidableEq α] [DecidableEq β]

instance (x : α) (e : Event α) : Decidable (e.Concerns x) :=
  match e with
  | .set y _ => inferInstanceAs (Decidable (y = x))
  | .clear => isTrue trivial

def step (on : α → Bool) : Event α → α → Bool
  | .set x b => Function.update on x b
  | .clear => fun _ => false

/-- The positions after these events. -/
def after (es : List (Event α)) : α → Bool := es.foldl step fun _ => false

theorem step_of_not_concerns {x : α} {e : Event α} (h : ¬ e.Concerns x) (on : α → Bool) :
    step on e x = on x := by
  cases e with
  | set y b => exact Function.update_of_ne (Ne.symm h) ..
  | clear => exact absurd trivial h

/-- What does not concern a switch leaves it where it is. -/
theorem foldl_step_of_not_concerns {x : α} {es : List (Event α)} (h : ∀ e ∈ es, ¬ e.Concerns x)
    (on : α → Bool) : es.foldl step on x = on x := by
  induction es generalizing on with
  | nil => rfl
  | cons e es ih =>
    rw [List.foldl_cons, ih fun e' he' => h e' (List.mem_cons_of_mem _ he')]
    exact step_of_not_concerns (h e List.mem_cons_self) on

theorem after_append (es es' : List (Event α)) : after (es ++ es') = es'.foldl step (after es) :=
  List.foldl_append

/-- After some of the switches have been switched off. -/
theorem foldl_step_off {es : List (Event α)} (h : ∀ e ∈ es, ∃ x, e = .set x false) (on : α → Bool)
    (x : α) : es.foldl step on x = true ↔ on x = true ∧ .set x false ∉ es := by
  induction es generalizing on with
  | nil => simp
  | cons e es ih =>
    obtain ⟨y, rfl⟩ := h e List.mem_cons_self
    rw [List.foldl_cons, ih fun e' he' => h e' (List.mem_cons_of_mem _ he')]
    by_cases hx : x = y
    · simp [step, hx]
    · simp [step, hx]

/-- A switch is on if it was switched on and nothing has happened to it since. -/
theorem after_eq_true_iff {es : List (Event α)} {x : α} : after es x = true ↔
    ∃ es₁ es₂, es = es₁ ++ .set x true :: es₂ ∧ ∀ e ∈ es₂, ¬ e.Concerns x := by
  constructor
  · intro h
    -- the last event is the one, or an earlier one is and the last one does not concern the switch
    induction es using List.reverseRecOn with
    | nil => cases h
    | append_singleton es e ih =>
      rw [after_append, List.foldl_cons, List.foldl_nil] at h
      by_cases hx : e.Concerns x
      · cases e with
        | clear => cases h
        | set y b =>
          obtain rfl : y = x := hx
          rw [step, Function.update_self] at h
          exact ⟨es, [], by rw [h], by simp⟩
      · rw [step_of_not_concerns hx] at h
        obtain ⟨es₁, es₂, rfl, hes₂⟩ := ih h
        refine ⟨es₁, es₂ ++ [e], by simp, fun e' he' => ?_⟩
        rcases List.mem_append.mp he' with he' | he'
        · exact hes₂ e' he'
        · exact List.mem_singleton.mp he' ▸ hx
  · rintro ⟨es₁, es₂, rfl, hes₂⟩
    rw [after_append, List.foldl_cons, foldl_step_of_not_concerns hes₂]
    exact Function.update_self ..

/-- When none of the switches that are touched is on, none is. -/
theorem after_eq_off {es : List (Event α)} (h : ∀ x on, .set x on ∈ es → after es x = false) :
    after es = fun _ => false := by
  funext x
  by_contra hon
  rw [Bool.not_eq_false] at hon
  obtain ⟨es₁, es₂, heq, -⟩ := after_eq_true_iff.mp hon
  have hoff := h x true (by simp [heq])
  rw [hoff] at hon
  cases hon

theorem after_map {f : α → β} (hf : Function.Injective f) (es : List (Event α)) (x : α) :
    after (es.map (Event.map f)) (f x) = after es x := by
  induction es using List.reverseRecOn with
  | nil => rfl
  | append_singleton es e ih =>
    rw [List.map_append, after_append, after_append]
    cases e with
    | clear => rfl
    | set y on =>
      simp only [List.map_cons, List.map_nil, List.foldl_cons, List.foldl_nil, Event.map, step,
        Function.update_apply, hf.eq_iff, ih]

end Switches
