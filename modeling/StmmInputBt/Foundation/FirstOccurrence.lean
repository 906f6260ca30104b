import Mathlib.Data.List.Perm.Basic
import Mathlib.Tactic.Common

/-!
# First occurrences of keys

A memory of the keys met so far lets the first element of every key pass and drops the others.

## Main results

* `FirstOccurrence.keep_sublist`: what passes is a sublist of what is offered.
* `FirstOccurrence.filter_keep_perm_iff`: among the elements that matter nothing is lost exactly
  when no such element comes after another one of its key.
* `FirstOccurrence.keep_eq_self`: elements with different keys all pass.
-/

namespace FirstOccurrence

variable {α κ : Type*} [DecidableEq κ] (key : α → κ)

/-- The elements whose key is neither in `seen` nor met before. -/
def keep : List κ → List α → List α
  | _, [] => []
  | seen, x :: xs => if key x ∈ seen then keep seen xs else x :: keep (seen ++ [key x]) xs

variable {key} {seen : List κ} {x : α} {xs ys : List α}

@[simp] theorem keep_nil : keep key seen [] = [] := rfl

theorem keep_cons_of_mem (h : key x ∈ seen) : keep key seen (x :: xs) = keep key seen xs :=
  if_pos h

theorem keep_cons_of_not_mem (h : key x ∉ seen) :
    keep key seen (x :: xs) = x :: keep key (seen ++ [key x]) xs :=
  if_neg h

/-- What passes is a sublist of what is offered. -/
theorem keep_sublist : (keep key seen xs).Sublist xs := by
  induction xs generalizing seen with
  | nil => exact List.Sublist.slnil
  | cons x xs ih =>
    by_cases h : key x ∈ seen
    · rw [keep_cons_of_mem h]
      exact ih.cons x
    · rw [keep_cons_of_not_mem h]
      exact ih.cons_cons x

variable (key seen xs) in
/-- Among the elements that satisfy `p` nothing is lost exactly when no such element has a key
that was met before. -/
theorem filter_keep_perm_iff (p : α → Bool) :
    ((keep key seen xs).filter p).Perm (xs.filter p) ↔
      (∀ x ∈ xs, key x ∈ seen → p x = false) ∧
        xs.Pairwise fun x y => key x = key y → p y = false := by
  induction xs generalizing seen with
  | nil => simp
  | cons x xs ih =>
    by_cases h : key x ∈ seen
    · rw [keep_cons_of_mem h]
      cases hp : p x with
      | true =>
        -- `x` is dropped, and what is left is too short
        have hlen : ((keep key seen xs).filter p).length ≤ (xs.filter p).length :=
          (keep_sublist.filter p).length_le
        constructor
        · intro hperm
          have := hperm.length_eq
          rw [List.filter_cons_of_pos hp, List.length_cons] at this
          omega
        · intro hno
          exact absurd (hno.1 x (List.mem_cons_self ..) h) (by simp [hp])
      | false =>
        rw [List.filter_cons_of_neg (by simp [hp]), ih, List.pairwise_cons]
        constructor
        · rintro ⟨hseen, hpair⟩
          refine ⟨?_, fun y hy hxy => hseen y hy (hxy ▸ h), hpair⟩
          rintro y (_ | ⟨_, hy⟩) hky
          · exact hp
          · exact hseen y hy hky
        · rintro ⟨hseen, -, hpair⟩
          exact ⟨fun y hy => hseen y (List.mem_cons_of_mem _ hy), hpair⟩
    · have hrest : ((keep key seen (x :: xs)).filter p).Perm ((x :: xs).filter p) ↔
          ((keep key (seen ++ [key x]) xs).filter p).Perm (xs.filter p) := by
        rw [keep_cons_of_not_mem h]
        cases hp : p x with
        | true =>
          rw [List.filter_cons_of_pos hp, List.filter_cons_of_pos hp, List.perm_cons]
        | false =>
          rw [List.filter_cons_of_neg (by simp [hp]), List.filter_cons_of_neg (by simp [hp])]
      rw [hrest, ih, List.pairwise_cons]
      constructor
      · rintro ⟨hseen, hpair⟩
        refine ⟨?_, fun y hy hxy => hseen y hy (by simp [hxy]), hpair⟩
        rintro y (_ | ⟨_, hy⟩) hky
        · exact absurd hky h
        · exact hseen y hy (List.mem_append_left _ hky)
      · rintro ⟨hseen, hx, hpair⟩
        refine ⟨fun y hy hky => ?_, hpair⟩
        rcases List.mem_append.mp hky with hky | hky
        · exact hseen y (List.mem_cons_of_mem _ hy) hky
        · exact hx y hy (List.mem_singleton.mp hky).symm

/-- Elements with different keys all pass. -/
theorem keep_eq_self (h : xs.Pairwise fun x y => key x ≠ key y) : keep key [] xs = xs := by
  have hperm := (filter_keep_perm_iff key [] xs fun _ => true).mpr
    ⟨fun _ _ hmem => absurd hmem List.not_mem_nil, h.imp fun hne heq => absurd heq hne⟩
  rw [List.filter_true, List.filter_true] at hperm
  exact keep_sublist.eq_of_length hperm.length_eq

end FirstOccurrence
