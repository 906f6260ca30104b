import StmmInputBt.Window.GridInvariant

/-!
# Positions in the lists of the settings

The position of a weight or of a key in its setting is meant to be the column, the row or the cell
that it belongs to: `loadStateFromConfig` passes the wanted length to `stringToVector` both as the
minimal and as the maximal size. The handler of `stringToVector` clamps numbers beyond the limits,
but `strToNumber` has rejected them before, and a rejected token leaves no gap in the vector.

## Main definitions

* `FixedSizeLimits`: limits with a single size.
* `VectorLimits.entry`: what a token stands for.
* `FixedSizeLimits.Positional`: every element comes from the token at its own position.

## Main results

* `FixedSizeLimits.positional_iff`: when this is so.
-/

namespace StmmInputBt

/-! ### Positions under `filterMap` -/

section FilterMap

variable {α β : Type} {f : α → Option β} {l : List α} {a : α} {b : β} {j k : ℕ}

/-- What is kept moves to the position that counts what is kept before it. -/
theorem getElem?_filterMap_countP (ha : l[j]? = some a) (hb : f a = some b) :
    (l.filterMap f)[(l.take j).countP (fun a => (f a).isSome)]? = some b := by
  obtain ⟨hj, rfl⟩ := List.getElem?_eq_some_iff.mp ha
  have hsplit : l = l.take j ++ l[j] :: l.drop (j + 1) := by
    rw [List.getElem_cons_drop, List.take_append_drop]
  have hfilter : l.filterMap f =
      (l.take j).filterMap f ++ b :: (l.drop (j + 1)).filterMap f := by
    conv_lhs => rw [hsplit]
    rw [List.filterMap_append, List.filterMap_cons_some hb]
  rw [hfilter, ← List.length_filterMap_eq_countP, List.getElem?_append_right le_rfl, Nat.sub_self,
    List.getElem?_cons_zero]

theorem exists_of_getElem?_filterMap (hb : (l.filterMap f)[k]? = some b) :
    ∃ j a, l[j]? = some a ∧ f a = some b ∧ (l.take j).countP (fun a => (f a).isSome) = k := by
  induction l generalizing k with
  | nil => simp at hb
  | cons a l ih =>
    cases hfa : f a with
    | none =>
      rw [List.filterMap_cons_none hfa] at hb
      obtain ⟨j, a', hj, ha', hcount⟩ := ih hb
      refine ⟨j + 1, a', by rwa [List.getElem?_cons_succ], ha', ?_⟩
      rw [List.take_succ_cons, List.countP_cons_of_neg (by simp [hfa]), hcount]
    | some c =>
      rw [List.filterMap_cons_some hfa] at hb
      rcases k with _ | k
      · rw [List.getElem?_cons_zero] at hb
        exact ⟨0, a, rfl, hfa.trans hb, rfl⟩
      · rw [List.getElem?_cons_succ] at hb
        obtain ⟨j, a', hj, ha', hcount⟩ := ih hb
        refine ⟨j + 1, a', by rwa [List.getElem?_cons_succ], ha', ?_⟩
        rw [List.take_succ_cons, List.countP_cons_of_pos (by simp [hfa]), hcount]

end FilterMap

/-! ### What a token stands for -/

/-- The `int32_t` that a token is, if it is one. -/
def int32Number (sToken : List Char) : Option ℤ :=
  let oPair := strToNumber sToken true int32Min true int32Max
  if oPair.2 then some oPair.1 else none

namespace VectorLimits

variable (l : VectorLimits)

/-- What a token stands for: its number, or the nearest limit, or the default value if it is no
`int32_t`. -/
def entry (sToken : List Char) : ℤ :=
  match int32Number sToken with
  | none => l.nDefaultValue
  | some nNr => max l.nMinValue (min nNr l.nMaxValue)

/-- The token is a number within the limits. -/
def withinLimits (sToken : List Char) : Bool :=
  match int32Number sToken with
  | none => false
  | some nNr => l.nMinValue ≤ nNr ∧ nNr ≤ l.nMaxValue

/-- How many of the first `j` tokens are no numbers within the limits. -/
def rejectedBefore (aTokens : List (List Char)) (j : ℕ) : ℕ :=
  (aTokens.take j).countP fun sToken => !l.withinLimits sToken

variable {l} {t u : List Char} {ts : List (List Char)} {ns : List ℤ} {n : ℤ} {i j : ℕ}

theorem int32Number_eq_some : int32Number t = some n ↔
    Denotes t n ∧ int32Min ≤ n ∧ n ≤ int32Max := by
  have hpair : int32Number t = some n ↔
      strToNumber t true int32Min true int32Max = (n, true) := by
    rcases hnr : strToNumber t true int32Min true int32Max with ⟨m, _ | _⟩ <;>
      simp [int32Number, hnr]
  rw [hpair, strToNumber_eq_true]
  exact ⟨fun h => ⟨h.1, h.2.1⟩, fun h => ⟨h.1, h.2, h.2⟩⟩

/-- A number within the limits stands for itself. -/
theorem value_eq (t : List Char) :
    l.value t = if l.withinLimits t then some (l.entry t) else none := by
  have hlow := l.int32Min_le
  have hhigh := l.nMaxValue_le
  cases hnr : int32Number t with
  | none =>
    have hnone : l.value t = none := by
      refine value_eq_none ?_
      rintro ⟨n, hn⟩
      rw [int32Number_eq_some.mpr hn] at hnr
      exact Option.some_ne_none n hnr
    simp [withinLimits, hnr, hnone]
  | some n =>
    have hdenotes := (int32Number_eq_some.mp hnr).1
    simp only [withinLimits, entry, hnr, decide_eq_true_eq]
    split_ifs with hrange
    · rw [min_eq_left hrange.2, max_eq_right hrange.1]
      exact value_eq_some.mpr ⟨hdenotes, hrange⟩
    · rw [Option.eq_none_iff_forall_ne_some]
      intro m hm
      obtain ⟨hdenotes', hrange'⟩ := value_eq_some.mp hm
      have hm' : int32Number t = some m := int32Number_eq_some.mpr
        ⟨hdenotes', hlow.trans hrange'.1, hrange'.2.trans hhigh⟩
      rw [hnr] at hm'
      exact hrange (Option.some.inj hm' ▸ hrange')

theorem isSome_value (t : List Char) : (l.value t).isSome = l.withinLimits t := by
  rw [value_eq]
  split_ifs with h <;> simp [h]

theorem countP_add_rejectedBefore (hj : j ≤ ts.length) :
    (ts.take j).countP l.withinLimits + l.rejectedBefore ts j = j := by
  have hlength := List.length_eq_countP_add_countP l.withinLimits (l := ts.take j)
  rw [List.length_take_of_le hj] at hlength
  simp only [rejectedBefore]
  simpa using hlength.symm

/-- A number goes to the position that is as many before its own as there are rejected tokens. -/
theorem getElem?_values (hu : ts[j]? = some u) (hwithin : l.withinLimits u)
    (hij : i + l.rejectedBefore ts j = j) : (ts.filterMap l.value)[i]? = some (l.entry u) := by
  have hvalue : l.value u = some (l.entry u) := by
    rw [value_eq, if_pos hwithin]
  have hj : j < ts.length := (List.getElem?_eq_some_iff.mp hu).1
  have hcount := l.countP_add_rejectedBefore hj.le
  have hget := getElem?_filterMap_countP hu hvalue
  rwa [funext l.isSome_value, show (ts.take j).countP l.withinLimits = i by omega] at hget

theorem exists_of_getElem?_values (hn : (ts.filterMap l.value)[i]? = some n) :
    ∃ j u, ts[j]? = some u ∧ l.withinLimits u ∧ i + l.rejectedBefore ts j = j ∧
      l.entry u = n := by
  obtain ⟨j, u, hu, hvalue, hposition⟩ := exists_of_getElem?_filterMap hn
  have hj : j < ts.length := (List.getElem?_eq_some_iff.mp hu).1
  have hcount := l.countP_add_rejectedBefore hj.le
  rw [funext l.isSome_value] at hposition
  rw [value_eq] at hvalue
  split_ifs at hvalue with hwithin
  exact ⟨j, u, hu, hwithin, by omega, Option.some.inj hvalue⟩

theorem getElem?_values_eq_none :
    (ts.filterMap l.value)[i]? = none ↔ ts.countP l.withinLimits ≤ i := by
  rw [List.getElem?_eq_none_iff, List.length_filterMap_eq_countP, funext l.isSome_value]

theorem getElem?_fit (hi : i < l.nMinSize) :
    (l.fit ns)[i]? = some (ns[i]?.getD l.nDefaultValue) := by
  have hsize := l.nMinSize_le
  simp only [fit]
  by_cases hlt : i < ns.length
  · rw [List.getElem?_append_left (by rw [List.length_take]; omega),
      List.getElem?_take_of_lt (by omega), List.getElem?_eq_getElem hlt, Option.getD_some]
  · rw [List.getElem?_append_right (by rw [List.length_take]; omega),
      List.getElem?_eq_none (by omega : ns.length ≤ i), Option.getD_none,
      List.getElem?_replicate_of_lt (by rw [List.length_take]; omega)]

end VectorLimits

/-! ### Elements in place -/

/-- The limits in `loadStateFromConfig`, where the number of elements is known. -/
structure FixedSizeLimits extends VectorLimits where
  nMaxSize_eq : nMaxSize = nMinSize

namespace FixedSizeLimits

variable (l : FixedSizeLimits)

/-- Each element that has a token at its position is what this token stands for. -/
def Positional (sStr : List Char) : Prop :=
  ∀ (i : ℕ) t, (sStr.splitOn ',')[i]? = some t → i < l.nMinSize →
    (l.parse sStr)[i]? = some (l.entry t)

/-- The condition for the elements to be in place. It is about the tokens only: a number that has
rejected tokens before it stands for the same value as the token that is this many positions before
it, and the tokens for which no numbers are left stand for the default value. -/
structure InPlace (aTokens : List (List Char)) : Prop where
  moved : ∀ (i j : ℕ) t u, aTokens[i]? = some t → aTokens[j]? = some u → i < l.nMinSize →
    l.withinLimits u → i + l.rejectedBefore aTokens j = j → l.entry t = l.entry u
  padded : ∀ (i : ℕ) t, aTokens[i]? = some t → i < l.nMinSize →
    aTokens.countP l.withinLimits ≤ i → l.entry t = l.nDefaultValue

theorem getElem?_parse {i : ℕ} (hi : i < l.nMinSize) (s : List Char) : (l.parse s)[i]? =
    some (((s.splitOn ',').filterMap l.value)[i]?.getD l.nDefaultValue) := by
  rw [VectorLimits.parse_eq, VectorLimits.getElem?_fit hi]

theorem inPlace_of_withinLimits {ts : List (List Char)} (h : ∀ t ∈ ts, l.withinLimits t) :
    l.InPlace ts := by
  refine ⟨fun i j t u ht hu hi _ hij => ?_, fun i t ht hi hcount => ?_⟩
  · have hrejected : l.rejectedBefore ts j = 0 := by
      rw [VectorLimits.rejectedBefore, List.countP_eq_zero]
      intro t' ht'
      simp [h t' (List.mem_of_mem_take ht')]
    rw [hrejected, Nat.add_zero] at hij
    rw [hij, hu] at ht
    rw [Option.some.inj ht]
  · have hlt : i < ts.length := (List.getElem?_eq_some_iff.mp ht).1
    rw [List.countP_eq_length.mpr h] at hcount
    omega

/-- Each element comes from the token at its own position exactly if the numbers after a rejected
token cannot be told from the tokens whose places they take. -/
theorem positional_iff (l : FixedSizeLimits) (s : List Char) :
    l.Positional s ↔ l.InPlace (s.splitOn ',') := by
  constructor
  · intro h
    refine ⟨fun i j t u ht hu hi hwithin hij => ?_, fun i t ht hi hcount => ?_⟩
    · have helement := h i t ht hi
      rw [l.getElem?_parse hi, VectorLimits.getElem?_values hu hwithin hij, Option.getD_some]
        at helement
      exact (Option.some.inj helement).symm
    · have helement := h i t ht hi
      rw [l.getElem?_parse hi, VectorLimits.getElem?_values_eq_none.mpr hcount, Option.getD_none]
        at helement
      exact (Option.some.inj helement).symm
  · intro h i t ht hi
    rw [l.getElem?_parse hi]
    cases hget : ((s.splitOn ',').filterMap l.value)[i]? with
    | none =>
      have hcount := VectorLimits.getElem?_values_eq_none.mp hget
      rw [Option.getD_none, h.padded i t ht hi hcount]
    | some n =>
      obtain ⟨j, u, hu, hwithin, hij, rfl⟩ := VectorLimits.exists_of_getElem?_values hget
      rw [Option.getD_some, h.moved i j t u ht hu hi hwithin hij]

/-- The limits of the weights. -/
def weights (n : ℕ) (hn : 1 ≤ n) : FixedSizeLimits where
  toVectorLimits := weightLimits n hn
  nMaxSize_eq := rfl

/-- With a weight below the limits for the first of two columns, this one gets the weight of the
second. -/
theorem not_positional_weights :
    ¬ (weights 2 (Nat.le_succ 1)).Positional "0,5".toList := by
  intro h
  have hfirst := h 0 "0".toList (by decide) (by decide)
  revert hfirst
  decide

end FixedSizeLimits

end StmmInputBt
