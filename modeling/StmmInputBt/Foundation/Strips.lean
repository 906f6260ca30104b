import Mathlib.Data.List.GetD
import Mathlib.Tactic

/-!
# Strips with a gap between them

A row of strips lies between increasing positions: each strip goes from one position up to a gap
before the next one. Where there is less room than the gap the strip is empty, but a strip that is
given by its left end and its negative width covers the points from the right end to the left one.
Such an inverted strip lies in the gap, so it meets no other strip.

## Main definitions

* `Strips.strip`, `Strips.span`: the strip, and what its two ends enclose.

## Main results

* `Strips.eq_of_mem_strip_of_mem_span`: a point of a strip is between the ends of no other one.
* `Strips.monotoneOn_scanl`: running sums of numbers that are not negative increase.
-/

namespace StmmInputBt.Strips

section Ordered

variable {α : Type*} [AddCommGroup α] [LinearOrder α] (pos : ℕ → α) (gap : α) {i j n : ℕ} {x : α}

/-- The points from a position up to the gap before the next one. -/
def strip (i : ℕ) : Set α := Set.Ico (pos i) (pos (i + 1) - gap)

/-- The points between the two ends of a strip, in whatever order these are. -/
def span (i : ℕ) : Set α :=
  Set.Ico (min (pos i) (pos (i + 1) - gap)) (max (pos i) (pos (i + 1) - gap))

variable {pos gap}

theorem strip_subset_span : strip pos gap i ⊆ span pos gap i :=
  Set.Ico_subset_Ico (min_le_left _ _) (le_max_right _ _)

theorem span_eq_strip (h : pos i ≤ pos (i + 1) - gap) : span pos gap i = strip pos gap i := by
  rw [span, min_eq_left h, max_eq_right h, strip]

variable [IsOrderedAddMonoid α]

/-- No point of a strip is between the ends of another one, where the positions increase. -/
theorem eq_of_mem_strip_of_mem_span (hpos : MonotoneOn pos (Set.Iic n)) (hgap : 0 ≤ gap)
    (hi : i < n) (hj : j < n) (hstrip : x ∈ strip pos gap i) (hspan : x ∈ span pos gap j) :
    i = j := by
  have hstep : pos j ≤ pos (j + 1) :=
    hpos (Set.mem_Iic.mpr hj.le) (Set.mem_Iic.mpr hj) (Nat.le_succ j)
  rcases lt_trichotomy i j with hlt | heq | hgt
  · -- the strip ends a gap before the left end of the other one
    have hnext : pos (i + 1) - gap ≤ min (pos j) (pos (j + 1) - gap) := by
      have hle : pos (i + 1) ≤ pos j :=
        hpos (Set.mem_Iic.mpr hi) (Set.mem_Iic.mpr hj.le) hlt
      exact le_min ((sub_le_self _ hgap).trans hle) (sub_le_sub_right (hle.trans hstep) gap)
    exact absurd (hspan.1.trans_lt hstrip.2) (not_lt.mpr hnext)
  · exact heq
  · -- the other one ends where the strip begins at the latest
    have hbefore : max (pos j) (pos (j + 1) - gap) ≤ pos i := by
      have hle : pos (j + 1) ≤ pos i :=
        hpos (Set.mem_Iic.mpr hj) (Set.mem_Iic.mpr hi.le) hgt
      exact max_le (hstep.trans hle) ((sub_le_self _ hgap).trans hle)
    exact absurd (hstrip.1.trans_lt hspan.2) (not_lt.mpr hbefore)

end Ordered

/-- The positions that a loop sums up increase if the sizes are not negative. -/
theorem monotoneOn_scanl {l : List ℤ} (h : ∀ n ∈ l, 0 ≤ n) (nStart : ℤ) :
    MonotoneOn (fun i => (l.scanl (· + ·) nStart).getD i 0) (Set.Iic l.length) := by
  refine monotoneOn_of_le_add_one Set.ordConnected_Iic fun i _ _ hi => ?_
  have hlt : i < l.length := Set.mem_Iic.mp hi
  have hnonneg : 0 ≤ l[i] := h _ (List.getElem_mem hlt)
  have hlength : (l.scanl (· + ·) nStart).length = l.length + 1 := List.length_scanl
  show (l.scanl (· + ·) nStart).getD i 0 ≤ (l.scanl (· + ·) nStart).getD (i + 1) 0
  rw [List.getD_eq_getElem _ _ (by omega), List.getD_eq_getElem _ _ (by omega),
    List.getElem_succ_scanl]
  omega

end StmmInputBt.Strips
