import Mathlib.Tactic.FieldSimp
import Mathlib.Tactic.Linarith
import Mathlib.Tactic.NormNum
import Mathlib.Tactic.Ring
import WorkflowDispatch.Proofs.Binary64.Value
/-!
Rounding to the nearest number.  Around each number lies the interval of the rationals that are
rounded to it: half a unit of the mantissa on both sides, but a quarter below a power of two, where
the neighbour is nearer.
-/

namespace WorkflowDispatch
namespace Binary64

/-! ## The nearest integer -/

theorem roundDiv_eq_of_le {n d k : ℕ} (hd : 0 < d) (hlow : 2 * (k * d) ≤ 2 * n + d)
    (hhigh : 2 * n ≤ 2 * (k * d) + d)
    (htie : k % 2 = 0 ∨ 2 * (k * d) < 2 * n + d ∧ 2 * n < 2 * (k * d) + d) :
    roundDiv n d = k := by
  have hdiv : n / d * d + n % d = n := Nat.div_add_mod' n d
  have hmod : n % d < d := Nat.mod_lt n hd
  -- Half a unit around `k` meets at most the whole parts `k` and `k - 1`.
  have hwhole : k = n / d ∨ k = n / d + 1 := by
    by_contra hne
    rcases Nat.lt_or_gt_of_ne (fun h => hne (.inl h)) with hk | hk
    · have hmul : (k + 1) * d ≤ n / d * d := Nat.mul_le_mul_right d hk
      rw [Nat.add_mul, Nat.one_mul] at hmul
      omega
    · have hmul : (n / d + 2) * d ≤ k * d := Nat.mul_le_mul_right d (by omega)
      rw [Nat.add_mul] at hmul
      omega
  unfold roundDiv
  dsimp only
  rcases hwhole with hk | hk
  · rw [← hk] at hdiv ⊢
    rw [if_neg]
    simp only [Bool.or_eq_true, decide_eq_true_eq, Bool.and_eq_true, beq_iff_eq]
    omega
  · have hmul : k * d = n / d * d + d := by rw [hk, Nat.add_mul, Nat.one_mul]
    rw [if_pos]
    · exact hk.symm
    · simp only [Bool.or_eq_true, decide_eq_true_eq, Bool.and_eq_true, beq_iff_eq]
      omega

/-- Half a unit around an integer lies what is rounded to it, with the ends if it is even. -/
theorem roundDiv_eq {n d k : ℕ} (hd : 0 < d) (hlow : (k - 1 / 2 : ℚ) ≤ n / d)
    (hhigh : (n / d : ℚ) ≤ k + 1 / 2)
    (htie : k % 2 = 0 ∨ (k - 1 / 2 : ℚ) < n / d ∧ (n / d : ℚ) < k + 1 / 2) :
    roundDiv n d = k := by
  have hdq : (0 : ℚ) < d := by exact_mod_cast hd
  rw [le_div_iff₀ hdq, sub_mul] at hlow
  rw [div_le_iff₀ hdq, add_mul] at hhigh
  rw [lt_div_iff₀ hdq, sub_mul, div_lt_iff₀ hdq, add_mul] at htie
  refine roundDiv_eq_of_le hd ?_ ?_ (htie.imp_right fun h => ⟨?_, ?_⟩)
  · have : (2 * (k * d) : ℚ) ≤ 2 * n + d := by linarith
    exact_mod_cast this
  · have : (2 * n : ℚ) ≤ 2 * (k * d) + d := by linarith
    exact_mod_cast this
  · have : (2 * (k * d) : ℚ) < 2 * n + d := by linarith
    exact_mod_cast this
  · have : (2 * n : ℚ) < 2 * (k * d) + d := by linarith
    exact_mod_cast this

/-! ## The exponent -/

theorem two_zpow_pos (e : ℤ) : (0 : ℚ) < 2 ^ e := zpow_pos two_pos e

theorem two_zpow_add (e k : ℤ) : (2 : ℚ) ^ (e + k) = 2 ^ e * 2 ^ k := zpow_add₀ two_ne_zero e k

/-- Numerator and denominator of a scaled fraction are those of its value. -/
theorem scaled_div (num den : ℕ) (e : ℤ) :
    ((scaled num den e).1 / (scaled num den e).2 : ℚ) = num / den / 2 ^ e := by
  unfold scaled
  split
  · next h =>
    rw [Nat.cast_mul, cast_twoPow, ← zpow_natCast, Int.toNat_of_nonneg h, div_div]
  · next h =>
    rw [Nat.cast_mul, cast_twoPow, ← zpow_natCast, Int.toNat_of_nonneg (by omega), zpow_neg,
      ← div_eq_mul_inv, div_right_comm]

/-- The bits of the scaled fraction, as a bound of its value. -/
theorem fitsBits_iff {num den bits : ℕ} (hden : 0 < den) {e : ℤ} :
    FitsBits num den bits e ↔ (num / den / 2 ^ e : ℚ) < 2 ^ bits := by
  have hd : (0 : ℚ) < (scaled num den e).2 := by exact_mod_cast scaled_pos hden num e
  rw [← scaled_div, div_lt_iff₀ hd, FitsBits, ← cast_twoPow]
  exact_mod_cast Iff.rfl

/-- No exponent that leaves 53 bits is greater than one that leaves at most 53. -/
theorem le_of_bits {q : ℚ} {e e' : ℤ} (hlow : (2 : ℚ) ^ 52 ≤ q / 2 ^ e)
    (hhigh : q / 2 ^ e' < 2 ^ 53) : e ≤ e' := by
  rw [le_div_iff₀ (two_zpow_pos e), ← zpow_natCast, ← two_zpow_add] at hlow
  rw [div_lt_iff₀ (two_zpow_pos e'), ← zpow_natCast, ← two_zpow_add] at hhigh
  have hlt := (zpow_lt_zpow_iff_right₀ (by norm_num : (1 : ℚ) < 2)).1 (hlow.trans_lt hhigh)
  omega

/-- The exponent puts the leading digit of a number at the front of the mantissa, and no other
exponent does. -/
theorem exponentOf_eq {num den : ℕ} (hnum : num ≠ 0) (hden : 0 < den) {e : ℤ}
    (hleast : leastExponent ≤ e) (hlow : (2 : ℚ) ^ 52 ≤ num / den / 2 ^ e ∨ e = leastExponent)
    (hhigh : (num / den / 2 ^ e : ℚ) < 2 ^ 53) : exponentOf num den = e := by
  obtain ⟨hleast', hhigh', hlow'⟩ := exponentOf_spec hnum hden
  rw [fitsBits_iff hden] at hhigh' hlow'
  refine le_antisymm ?_ ?_
  · exact hlow'.elim (fun h => le_of_bits (not_lt.1 h) hhigh) fun h => h.trans_le hleast
  · exact hlow.elim (fun h => le_of_bits h hhigh') fun h => h.trans_le hleast'

/-! ## The number -/

theorem Canonical.add_one_le {m : ℕ} {e : ℤ} (hc : Canonical m e) : (m : ℚ) + 1 ≤ 2 ^ 53 := by
  have hfits : m + 1 ≤ twoPow 53 := hc.fits
  rw [← cast_twoPow]
  exact_mod_cast hfits

theorem ofRatio_of_mantissaOf {num den m : ℕ} {e : ℤ} (hnum : num ≠ 0) (hden : 0 < den)
    (hm : mantissaOf num den = m) (he : exponentOf num den = e) (hc : Canonical m e)
    (negative : Bool) : ofRatio negative num den hden = .finite negative m e hc := by
  subst hm he
  rw [ofRatio, dif_neg hnum, dif_neg hc.fits.ne, dif_neg hc.greatest.not_gt]

theorem ofRatio_of_carry {num den : ℕ} {e : ℤ} (hnum : num ≠ 0) (hden : 0 < den)
    (hm : mantissaOf num den = twoPow 53) (he : exponentOf num den = e - 1)
    (hc : Canonical (twoPow 52) e) (negative : Bool) :
    ofRatio negative num den hden = .finite negative (twoPow 52) e hc := by
  obtain rfl : e = exponentOf num den + 1 := by omega
  rw [ofRatio, dif_neg hnum, dif_pos hm, dif_neg hc.greatest.not_gt]

/-- How far the interval of a number reaches down, in units of its mantissa. -/
def below (mantissa : ℕ) (exponent : ℤ) : ℚ :=
  if mantissa = twoPow 52 ∧ leastExponent < exponent then 1 / 4 else 1 / 2

/-- The rational lies in the interval of the number.  The ends belong to it if the mantissa is
even. -/
structure Rounds (mantissa : ℕ) (exponent : ℤ) (q : ℚ) : Prop where
  low : mantissa - below mantissa exponent ≤ q / 2 ^ exponent
  high : q / 2 ^ exponent ≤ mantissa + 1 / 2
  tie : mantissa % 2 = 0 ∨
    mantissa - below mantissa exponent < q / 2 ^ exponent ∧ q / 2 ^ exponent < mantissa + 1 / 2

theorem below_le (mantissa : ℕ) (exponent : ℤ) : below mantissa exponent ≤ 1 / 2 := by
  unfold below
  split
  · norm_num
  · exact le_rfl

theorem Rounds.pos {m : ℕ} {e : ℤ} {q : ℚ} (h : Rounds m e q) (hm : 0 < m) : 0 < q := by
  have hmq : (1 : ℚ) ≤ m := by exact_mod_cast hm
  have hlow := h.low
  have hbelow := below_le m e
  have hpos : 0 < q / 2 ^ e := by linarith
  exact (div_pos_iff_of_pos_right (two_zpow_pos e)).1 hpos

theorem mantissaOf_eq {num den m : ℕ} {e : ℤ} (hden : 0 < den) (he : exponentOf num den = e)
    (hlow : (m - 1 / 2 : ℚ) ≤ num / den / 2 ^ e) (hhigh : (num / den / 2 ^ e : ℚ) ≤ m + 1 / 2)
    (htie : m % 2 = 0 ∨
      (m - 1 / 2 : ℚ) < num / den / 2 ^ e ∧ (num / den / 2 ^ e : ℚ) < m + 1 / 2) :
    mantissaOf num den = m := by
  rw [← scaled_div] at hlow hhigh htie
  unfold mantissaOf
  rw [he]
  exact roundDiv_eq (scaled_pos hden num e) hlow hhigh htie

variable {num den m : ℕ} {e : ℤ}

theorem Rounds.num_ne_zero (h : Rounds m e (num / den)) (hm : 0 < m) (hden : 0 < den) :
    num ≠ 0 := by
  have hpos := h.pos hm
  rw [div_pos_iff_of_pos_right (by exact_mod_cast hden)] at hpos
  exact (Nat.cast_pos.1 hpos).ne'

/-- With fewer bits than 53 only a power of two has a fraction in its interval, because there the
number before it is nearer. -/
theorem eq_twoPow_of_small (hc : Canonical m e) {q : ℚ} (h : Rounds m e q)
    (hleast : leastExponent < e) (hsmall : q / 2 ^ e < 2 ^ 52) : m = twoPow 52 := by
  have hnormal := hc.normal.resolve_right hleast.ne'
  have hlow := h.low
  have hbelow := below_le m e
  by_contra hne
  have hnext : twoPow 52 + 1 ≤ m := Nat.lt_of_le_of_ne hnormal (Ne.symm hne)
  have hnext : (2 : ℚ) ^ 52 + 1 ≤ m := by
    rw [← cast_twoPow]
    exact_mod_cast hnext
  linarith

/-- Just below a power of two the rounding reaches it from the exponent before. -/
theorem ofRatio_of_small (hc : Canonical m e) (hm : 0 < m) (hden : 0 < den)
    (h : Rounds m e (num / den)) (hleast : leastExponent < e)
    (hsmall : (num / den / 2 ^ e : ℚ) < 2 ^ 52) (negative : Bool) :
    ofRatio negative num den hden = .finite negative m e hc := by
  have hnum := h.num_ne_zero hm hden
  have hpower := eq_twoPow_of_small hc h hleast hsmall
  have hlow := h.low
  rw [below, if_pos ⟨hpower, hleast⟩, hpower, cast_twoPow] at hlow
  have hhalf : (num / den / 2 ^ (e - 1) : ℚ) = 2 * (num / den / 2 ^ e) := by
    rw [zpow_sub_one₀ two_ne_zero]
    field_simp
  have hexponent : exponentOf num den = e - 1 := by
    refine exponentOf_eq hnum hden (by omega) (.inl ?_) ?_ <;> rw [hhalf] <;> linarith
  have hmantissa : mantissaOf num den = twoPow 53 := by
    refine mantissaOf_eq hden hexponent ?_ ?_ (.inl (by decide)) <;>
      rw [hhalf, cast_twoPow] <;> linarith
  subst hpower
  exact ofRatio_of_carry hnum hden hmantissa hexponent hc negative

/-- Elsewhere the rounding finds the exponent of the number at once. -/
theorem ofRatio_of_large (hc : Canonical m e) (hm : 0 < m) (hden : 0 < den)
    (h : Rounds m e (num / den)) (hlarge : (2 : ℚ) ^ 52 ≤ num / den / 2 ^ e ∨ e = leastExponent)
    (negative : Bool) : ofRatio negative num den hden = .finite negative m e hc := by
  have hfits := hc.add_one_le
  have hhigh := h.high
  have hlow := h.low
  have hbelow := below_le m e
  have hnum := h.num_ne_zero hm hden
  have hexponent : exponentOf num den = e :=
    exponentOf_eq hnum hden hc.least hlarge (by linarith)
  have hmantissa : mantissaOf num den = m :=
    mantissaOf_eq hden hexponent (by linarith) hhigh
      (h.tie.imp_right fun htie => ⟨by linarith [htie.1], htie.2⟩)
  exact ofRatio_of_mantissaOf hnum hden hmantissa hexponent hc negative

/-- Every fraction in the interval of a number is rounded to it. -/
theorem ofRatio_of_rounds (hc : Canonical m e) (hm : 0 < m) (hden : 0 < den)
    (h : Rounds m e (num / den)) (negative : Bool) :
    ofRatio negative num den hden = .finite negative m e hc := by
  by_cases hsmall : (num / den / 2 ^ e : ℚ) < 2 ^ 52
  · rcases hc.least.eq_or_lt with hleast | hleast
    · exact ofRatio_of_large hc hm hden h (.inr hleast.symm) negative
    · exact ofRatio_of_small hc hm hden h hleast hsmall negative
  · exact ofRatio_of_large hc hm hden h (.inl (not_lt.1 hsmall)) negative

end Binary64
end WorkflowDispatch
