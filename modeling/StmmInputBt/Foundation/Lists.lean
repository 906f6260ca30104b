import Mathlib.Data.List.Nodup
import Mathlib.Data.List.Perm.Basic
import Mathlib.Tactic.Common

/-!
# Lists

Facts on lists that are used in several places.

## Main results

* `getElem?_append_singleton`, `getElem?_set_of_lt`: the elements of a list that has grown or has
  been changed.
* `mem_eraseP_of_nodup_map`, `map_perm_map_iff_of_sublist`.
-/

namespace StmmInputBt

variable {α β : Type*}

theorem getElem?_append_singleton (xs : List α) (x : α) (j : ℕ) :
    (xs ++ [x])[j]? = if j = xs.length then some x else xs[j]? := by
  rcases Nat.lt_trichotomy j xs.length with hlt | rfl | hgt
  · rw [List.getElem?_append_left hlt, if_neg (Nat.ne_of_lt hlt)]
  · simp
  · rw [if_neg (Nat.ne_of_gt hgt), List.getElem?_eq_none (by simp; omega),
      List.getElem?_eq_none (Nat.le_of_lt hgt)]

theorem getElem?_set_of_lt {xs : List α} {i : ℕ} (hi : i < xs.length) (x : α) (j : ℕ) :
    (xs.set i x)[j]? = if j = i then some x else xs[j]? := by
  rw [List.getElem?_set, if_pos hi]
  exact if_congr eq_comm rfl rfl

theorem set_of_getElem? {xs : List α} {x : α} {i : ℕ} (h : xs[i]? = some x) :
    xs.set i x = xs := by
  obtain ⟨hlt, rfl⟩ := List.getElem?_eq_some_iff.mp h
  exact List.set_getElem_self hlt

/-- A change of one element, seen through a map. -/
theorem map_modify {g : α → β} {f : α → α} {f' : β → β}
    (h : ∀ a, g (f a) = f' (g a)) (xs : List α) (i : ℕ) :
    (xs.modify i f).map g = (xs.map g).modify i f' := by
  refine List.ext_getElem? fun j => ?_
  rw [List.getElem?_map, List.getElem?_modify, List.getElem?_modify, List.getElem?_map]
  cases xs[j]? with
  | none => rfl
  | some a => by_cases hij : i = j <;> simp [hij, h]

theorem mem_eraseP_of_nodup_map [DecidableEq β] {f : α → β} {xs : List α}
    (h : (xs.map f).Nodup) {b : β} {x : α} : x ∈ xs.eraseP (f · = b) ↔ x ∈ xs ∧ f x ≠ b := by
  induction xs with
  | nil => simp
  | cons y ys ih =>
    rw [List.map_cons, List.nodup_cons] at h
    by_cases hy : f y = b
    · rw [List.eraseP_cons_of_pos (by simpa using hy)]
      constructor
      · intro hx
        refine ⟨List.mem_cons_of_mem _ hx, fun hxb => h.1 ?_⟩
        exact List.mem_map.mpr ⟨x, hx, hxb.trans hy.symm⟩
      · rintro ⟨hx, hxb⟩
        rcases List.mem_cons.mp hx with rfl | hx
        · exact absurd hy hxb
        · exact hx
    · rw [List.eraseP_cons_of_neg (by simpa using hy), List.mem_cons, List.mem_cons, ih h.2]
      constructor
      · rintro (rfl | ⟨hx, hxb⟩)
        · exact ⟨.inl rfl, hy⟩
        · exact ⟨.inr hx, hxb⟩
      · rintro ⟨rfl | hx, hxb⟩
        · exact .inl rfl
        · exact .inr ⟨hx, hxb⟩

theorem map_perm_map_iff_of_sublist {f : α → β} {xs ys : List α}
    (h : xs.Sublist ys) : (xs.map f).Perm (ys.map f) ↔ xs.Perm ys := by
  refine ⟨fun hperm => ?_, fun hperm => hperm.map f⟩
  have hlen : xs.length = ys.length := by simpa using hperm.length_eq
  rw [h.eq_of_length hlen]

end StmmInputBt
