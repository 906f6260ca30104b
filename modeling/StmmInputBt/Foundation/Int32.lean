import Mathlib.Data.Rat.Floor

/-!
# Numbers of 32 bits

What a calculation or a conversion leaves in an `int32_t`. A result that is out of range wraps
around, and a `double` that is out of range becomes the least number, as it does on x86; the
language leaves both open.

## Main definitions

* `int32OfInt`: the result of a calculation.
* `Double`, `Double.toInt32`: the conversion of a `double`.
* `Double.FitsInt32`: the number is not too great.
-/

namespace StmmInputBt

/-- The least `int32_t`. -/
def int32Min : ℤ := -2147483648

/-- `std::numeric_limits<int32_t>::max()`. -/
def int32Max : ℤ := 2147483647

def int32OfInt (n : ℤ) : ℤ := n.bmod (2 ^ 32)

/-- A `double`. There is one zero, and the precision is not limited. -/
inductive Double
  | finite (f : ℚ)
  | infinite (bNegative : Bool)
  | nan

namespace Double

/-- The comparison `<` with a number of type `int32_t`. -/
def ltInt : Double → ℤ → Bool
  | finite f, n => f < n
  | infinite bNegative, _ => bNegative
  | nan, _ => false

/-- `std::ceil`. -/
def ceil : Double → Double
  | finite f => finite ⌈f⌉
  | infinite bNegative => infinite bNegative
  | nan => nan

/-- The number without its fraction, if that is an `int32_t`. -/
def toInt32 : Double → ℤ
  | finite f =>
    let n := if 0 ≤ f then ⌊f⌋ else ⌈f⌉
    if int32Min ≤ n ∧ n ≤ int32Max then n else int32Min
  | infinite _ | nan => int32Min

/-- A number that is no greater than the greatest `int32_t` when it is rounded up. -/
def FitsInt32 : Double → Prop
  | finite f => ⌈f⌉ ≤ int32Max
  | infinite bNegative => bNegative
  | nan => False

instance : (fDouble : Double) → Decidable fDouble.FitsInt32
  | finite f => inferInstanceAs (Decidable (⌈f⌉ ≤ int32Max))
  | infinite bNegative => inferInstanceAs (Decidable (bNegative = true))
  | nan => inferInstanceAs (Decidable False)

/-- A number that fits and is not below a limit stays above the limit when it is rounded up and
converted. -/
theorem le_toInt32_ceil {fDouble : Double} (h : fDouble.FitsInt32) {n : ℤ} (hn : int32Min ≤ n)
    (hle : fDouble.ltInt n = false) : n ≤ fDouble.ceil.toInt32 := by
  cases fDouble with
  | finite f =>
    rw [ltInt, decide_eq_false_iff_not, not_lt] at hle
    have hceil : n ≤ ⌈f⌉ := Int.cast_le.mp (hle.trans (Int.le_ceil f))
    have hrange : int32Min ≤ ⌈f⌉ ∧ ⌈f⌉ ≤ int32Max := ⟨hn.trans hceil, h⟩
    simp only [ceil, toInt32, Int.floor_intCast, Int.ceil_intCast, ite_self, if_pos hrange]
    exact hceil
  | infinite bNegative =>
    rw [FitsInt32] at h
    rw [ltInt, h] at hle
    cases hle
  | nan => exact h.elim

end Double

end StmmInputBt
