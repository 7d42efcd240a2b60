import Mathlib.Data.Rat.Floor
import WorkflowDispatch.Binary64.Basic
/-!
The exact values of finite numbers, and what the integer arithmetic on mantissa and exponent says
about them.
-/

namespace WorkflowDispatch
namespace Binary64

/-- The value of a finite number. -/
def toRat? : Binary64 → Option ℚ
  | .finite negative mantissa exponent _ =>
    some (if negative then -((mantissa : ℚ) * 2 ^ exponent) else (mantissa : ℚ) * 2 ^ exponent)
  | _ => none

theorem toRat?_finite (negative : Bool) {mantissa : ℕ} {exponent : ℤ}
    (h : Canonical mantissa exponent) :
    toRat? (.finite negative mantissa exponent h) =
      some (if negative then -((mantissa : ℚ) * 2 ^ exponent)
        else (mantissa : ℚ) * 2 ^ exponent) := rfl

/-! ## Fractions -/

theorem cast_twoPow (n : ℕ) : ((twoPow n : ℕ) : ℚ) = 2 ^ n := by
  rw [twoPow, Nat.pow_eq, Nat.cast_pow, Nat.cast_ofNat]

/-- Numerator and denominator of a magnitude are those of its value. -/
theorem magnitude_div (mantissa : ℕ) (exponent : ℤ) :
    ((magnitude mantissa exponent).1 / (magnitude mantissa exponent).2 : ℚ) =
      mantissa * 2 ^ exponent := by
  unfold magnitude
  split
  · next h =>
    rw [Nat.cast_mul, cast_twoPow, Nat.cast_one, div_one, ← zpow_natCast, Int.toNat_of_nonneg h]
  · next h =>
    rw [cast_twoPow, ← zpow_natCast, Int.toNat_of_nonneg (by omega), zpow_neg, div_inv_eq_mul]

/-- Adding one less than the divisor rounds a quotient up. -/
theorem ceil_div {n d : ℕ} (hd : 0 < d) : ⌈(n / d : ℚ)⌉ = (((n + d - 1) / d : ℕ) : ℤ) := by
  have hdq : (0 : ℚ) < d := by exact_mod_cast hd
  have hlow : n ≤ (n + d - 1) / d * d := by
    have := Nat.lt_div_mul_add hd (a := n + d - 1)
    omega
  have hhigh : (n + d - 1) / d * d < n + d := by
    have := Nat.div_mul_le_self (n + d - 1) d
    omega
  rw [Int.ceil_eq_iff, Int.cast_natCast, sub_lt_iff_lt_add, div_le_iff₀ hdq]
  refine ⟨?_, by exact_mod_cast hlow⟩
  rw [← mul_lt_mul_iff_left₀ hdq, add_mul, div_mul_cancel₀ _ hdq.ne', one_mul]
  exact_mod_cast hhigh

/-! ## Ceiling and sign -/

/-- The ceiling of a number is that of its value, if it has one. -/
theorem ceil?_eq_map (x : Binary64) : x.ceil? = x.toRat?.map fun q => ⌈q⌉ := by
  cases x with
  | infinite negative => rfl
  | nan => rfl
  | finite negative mantissa exponent h =>
    have hd := magnitude_pos mantissa exponent
    rw [toRat?_finite, ← magnitude_div, Option.map_some]
    unfold ceil?
    cases negative with
    | false => exact congrArg some (ceil_div hd).symm
    | true =>
      rw [if_pos rfl, Int.ceil_neg, Rat.floor_natCast_div_natCast]
      rfl

theorem isPositive_iff {x : Binary64} :
    x.isPositive = true ↔ x = .infinite false ∨ ∃ q, x.toRat? = some q ∧ 0 < q := by
  cases x with
  | nan => simp [isPositive, toRat?]
  | infinite negative => simp [isPositive, toRat?]
  | finite negative mantissa exponent h =>
    have hpow : (0 : ℚ) < 2 ^ exponent := zpow_pos two_pos exponent
    cases negative with
    | false =>
      simp [isPositive, toRat?, hpow, Nat.pos_iff_ne_zero]
    | true =>
      have hle : (0 : ℚ) ≤ mantissa * 2 ^ exponent := mul_nonneg mantissa.cast_nonneg hpow.le
      simp [isPositive, toRat?, hle]

theorem ne_nan_of_isPositive {x : Binary64} (h : x.isPositive = true) : x ≠ .nan := by
  rintro rfl
  cases h

end Binary64
end WorkflowDispatch
