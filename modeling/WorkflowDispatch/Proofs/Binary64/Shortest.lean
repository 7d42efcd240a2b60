import Mathlib.Data.List.TakeWhile
import WorkflowDispatch.Binary64.Shortest
import WorkflowDispatch.Proofs.Binary64.Rounding
import WorkflowDispatch.Proofs.Text.Numeral
/-!
The shortest digits of a number lie in its interval.  The last of the seventeen grids is finer than
every interval, so the search ends with a hit.
-/

namespace WorkflowDispatch
namespace Binary64

/-! ## Powers of ten -/

theorem ten_zpow_pos (e : ℤ) : (0 : ℚ) < 10 ^ e := zpow_pos (by norm_num) e

theorem ten_zpow_add (e k : ℤ) : (10 : ℚ) ^ (e + k) = 10 ^ e * 10 ^ k :=
  zpow_add₀ (by norm_num) e k

theorem cast_tenPow (n : ℕ) : ((tenPow n : ℕ) : ℚ) = 10 ^ n := by
  rw [tenPow, Nat.pow_eq, Nat.cast_pow, Nat.cast_ofNat]

/-- A power with an exponent of either sign, as numerator and denominator. -/
theorem zpow_toNat_div {b : ℚ} (e : ℤ) : b ^ e.toNat / b ^ (-e).toNat = b ^ e := by
  rcases le_total 0 e with h | h
  · rw [Int.toNat_of_nonpos (by omega : -e ≤ 0), pow_zero, div_one, ← zpow_natCast,
      Int.toNat_of_nonneg h]
  · rw [Int.toNat_of_nonpos h, pow_zero, one_div, ← zpow_natCast, Int.toNat_of_nonneg (by omega),
      zpow_neg, inv_inv]

theorem tenPow_div (e : ℤ) : (tenPow e.toNat / tenPow (-e).toNat : ℚ) = 10 ^ e := by
  rw [cast_tenPow, cast_tenPow, zpow_toNat_div]

/-! ## The range of the numbers -/

theorem le_two_zpow_least : (10 : ℚ) ^ (-400 : ℤ) ≤ 2 ^ leastExponent := by
  have hnat : twoPow 1074 ≤ tenPow 400 := by decide +kernel
  have hcast : ((twoPow 1074 : ℕ) : ℚ) ≤ (tenPow 400 : ℕ) := Nat.cast_le.2 hnat
  rw [cast_twoPow, cast_tenPow, ← zpow_natCast, ← zpow_natCast] at hcast
  rw [leastExponent, zpow_neg, zpow_neg]
  exact inv_anti₀ (two_zpow_pos _) hcast

theorem two_zpow_greatest_le : (2 : ℚ) ^ 53 * 2 ^ greatestExponent ≤ 10 ^ (400 : ℤ) := by
  have hnat : 2 ^ 53 * twoPow 971 ≤ tenPow 400 := by decide +kernel
  have hcast : ((2 ^ 53 * twoPow 971 : ℕ) : ℚ) ≤ (tenPow 400 : ℕ) := Nat.cast_le.2 hnat
  rw [Nat.cast_mul, cast_twoPow, cast_tenPow, Nat.cast_pow, Nat.cast_ofNat, ← zpow_natCast 2 971,
    ← zpow_natCast 10 400] at hcast
  exact hcast

/-- No number other than zero is out of the reach of these powers of ten. -/
theorem Rounds.mem {m : ℕ} {e : ℤ} (hc : Canonical m e) (hm : 0 < m) {q : ℚ}
    (h : Rounds m e q) : (10 : ℚ) ^ (-401 : ℤ) < q ∧ q < 10 ^ (400 : ℤ) := by
  have hmq : (1 : ℚ) ≤ m := by exact_mod_cast hm
  have hfits := hc.add_one_le
  have hw := two_zpow_pos e
  have hbelow := below_le m e
  have hlow := (le_div_iff₀ hw).1 h.low
  have hhigh := (div_le_iff₀ hw).1 h.high
  constructor
  · have hleast : (2 : ℚ) ^ leastExponent ≤ 2 ^ e := zpow_le_zpow_right₀ one_le_two hc.least
    calc (10 : ℚ) ^ (-401 : ℤ) = 1 / 10 * 10 ^ (-400 : ℤ) := by
          rw [show (-401 : ℤ) = -1 + -400 by norm_num, ten_zpow_add]
          norm_num
      _ < 1 / 2 * 10 ^ (-400 : ℤ) := mul_lt_mul_of_pos_right (by norm_num) (ten_zpow_pos _)
      _ ≤ 1 / 2 * 2 ^ e := mul_le_mul_of_nonneg_left (le_two_zpow_least.trans hleast) (by norm_num)
      _ ≤ (m - below m e) * 2 ^ e := mul_le_mul_of_nonneg_right (by linarith) hw.le
      _ ≤ q := hlow
  · have hgreatest : (2 : ℚ) ^ e ≤ 2 ^ greatestExponent :=
      zpow_le_zpow_right₀ one_le_two hc.greatest
    calc q ≤ (m + 1 / 2) * 2 ^ e := hhigh
      _ < 2 ^ 53 * 2 ^ e := mul_lt_mul_of_pos_right (by linarith) hw
      _ ≤ 2 ^ 53 * 2 ^ greatestExponent := mul_le_mul_of_nonneg_left hgreatest (by norm_num)
      _ ≤ 10 ^ (400 : ℤ) := two_zpow_greatest_le

/-! ## Decimal numbers -/

/-- The number that digits stand for, with a power of ten. -/
def decimalValue (digits : List Char) (exponent : ℤ) : ℚ := Text.valueOf digits * 10 ^ exponent

/-- Zeros at the end do not change the value. -/
theorem decimalValue_zeros (digits : List Char) (k : ℕ) (exponent : ℤ) :
    decimalValue (digits ++ List.replicate k '0') exponent =
      decimalValue digits (exponent + k) := by
  unfold decimalValue
  rw [Text.valueOf_append, Text.valueOf_zeros, List.length_replicate, Nat.add_zero, Nat.cast_mul,
    Nat.cast_pow, Nat.cast_ofNat, add_comm exponent, ten_zpow_add, zpow_natCast, mul_assoc]

namespace Shortest

/-! ## The interval -/

variable {m : ℕ} {e : ℤ}

theorem den_interval_pos (m : ℕ) (e : ℤ) : 0 < (interval m e).den :=
  Nat.mul_pos (by decide) (Nat.two_pow_pos _)

/-- A quarter of a unit of the mantissa, over the denominator of the interval. -/
theorem quarter_div (k m : ℕ) (e : ℤ) :
    (((k * twoPow e.toNat : ℕ) : ℚ) / (interval m e).den) = k / 4 * 2 ^ e := by
  have hden : (interval m e).den = 4 * twoPow (-e).toNat := rfl
  rw [hden, Nat.cast_mul, Nat.cast_mul, cast_twoPow, cast_twoPow, ← zpow_toNat_div e,
    mul_div_mul_comm]
  norm_num

theorem value_div (m : ℕ) (e : ℤ) :
    ((interval m e).value / (interval m e).den : ℚ) = m * 2 ^ e := by
  have hvalue : (interval m e).value = 4 * m * twoPow e.toNat := rfl
  rw [hvalue, quarter_div]
  push_cast
  ring

theorem high_div (m : ℕ) (e : ℤ) :
    ((interval m e).high / (interval m e).den : ℚ) = (m + 1 / 2) * 2 ^ e := by
  have hhigh : (interval m e).high = (4 * m + 2) * twoPow e.toNat := rfl
  rw [hhigh, quarter_div]
  push_cast
  ring

theorem low_interval (m : ℕ) (e : ℤ) :
    (interval m e).low =
      (4 * m - if m = twoPow 52 ∧ leastExponent < e then 1 else 2) * twoPow e.toNat := by
  have hcondition : (decide (m = twoPow 52) && decide (leastExponent < e)) = true ↔
      m = twoPow 52 ∧ leastExponent < e := by
    rw [Bool.and_eq_true, decide_eq_true_iff, decide_eq_true_iff]
  unfold interval
  simp only [hcondition]

theorem low_div (hm : 0 < m) (e : ℤ) :
    ((interval m e).low / (interval m e).den : ℚ) = (m - below m e) * 2 ^ e := by
  rw [low_interval, quarter_div, below]
  split
  · rw [Nat.cast_sub (by omega)]
    push_cast
    ring
  · rw [Nat.cast_sub (by omega)]
    push_cast
    ring

/-- The integers of the interval say what its rationals say. -/
theorem contains_iff (hm : 0 < m) (e : ℤ) {n d : ℕ} (hd : 0 < d) :
    (interval m e).contains n d = true ↔ Rounds m e (n / d) := by
  have hdq : (0 : ℚ) < d := by exact_mod_cast hd
  have hdenq : (0 : ℚ) < (interval m e).den := by exact_mod_cast den_interval_pos m e
  have hlow : (interval m e).low * d ≤ n * (interval m e).den ↔
      (m - below m e : ℚ) ≤ n / d / 2 ^ e := by
    rw [le_div_iff₀ (two_zpow_pos e), ← low_div hm, div_le_div_iff₀ hdenq hdq]
    exact_mod_cast Iff.rfl
  have hlow' : (interval m e).low * d < n * (interval m e).den ↔
      (m - below m e : ℚ) < n / d / 2 ^ e := by
    rw [lt_div_iff₀ (two_zpow_pos e), ← low_div hm, div_lt_div_iff₀ hdenq hdq]
    exact_mod_cast Iff.rfl
  have hhigh : n * (interval m e).den ≤ (interval m e).high * d ↔
      (n / d / 2 ^ e : ℚ) ≤ m + 1 / 2 := by
    rw [div_le_iff₀ (two_zpow_pos e), ← high_div, div_le_div_iff₀ hdq hdenq]
    exact_mod_cast Iff.rfl
  have hhigh' : n * (interval m e).den < (interval m e).high * d ↔
      (n / d / 2 ^ e : ℚ) < m + 1 / 2 := by
    rw [div_lt_iff₀ (two_zpow_pos e), ← high_div, div_lt_div_iff₀ hdq hdenq]
    exact_mod_cast Iff.rfl
  unfold Interval.contains
  dsimp only
  by_cases heven : m % 2 = 0
  · have hclosed : (interval m e).closed = true := beq_iff_eq.2 heven
    rw [if_pos hclosed, Bool.and_eq_true, decide_eq_true_iff, decide_eq_true_iff, hlow, hhigh]
    exact ⟨fun h => ⟨h.1, h.2, .inl heven⟩, fun h => ⟨h.low, h.high⟩⟩
  · have hclosed : ¬ (interval m e).closed = true := fun h => heven (beq_iff_eq.1 h)
    rw [if_neg hclosed, Bool.and_eq_true, decide_eq_true_iff, decide_eq_true_iff, hlow', hhigh']
    exact ⟨fun h => ⟨h.1.le, h.2.le, .inr h⟩, fun h => h.tie.resolve_left heven⟩

/-! ## The grids -/

theorem contains_of_onGrid? {i : Interval} {unitNum unitDen d : ℕ}
    (h : onGrid? i unitNum unitDen = some d) : i.contains (d * unitNum) unitDen = true := by
  unfold onGrid? at h
  dsimp only at h
  split at h
  · next hlower _ =>
    cases h
    exact hlower
  · next _ hupper =>
    cases h
    exact hupper
  · cases h
  · next hlower hupper =>
    split at h
    · cases h
      exact hlower
    · split at h
      · cases h
        exact hupper
      · cases h
        split
        · exact hlower
        · exact hupper

theorem not_contains_of_onGrid? {i : Interval} {unitNum unitDen : ℕ}
    (h : onGrid? i unitNum unitDen = none) :
    ¬ i.contains (i.value * unitDen / (i.den * unitNum) * unitNum) unitDen = true ∧
      ¬ i.contains ((i.value * unitDen / (i.den * unitNum) + 1) * unitNum) unitDen = true := by
  unfold onGrid? at h
  dsimp only at h
  split at h
  · cases h
  · cases h
  · next hlower hupper => exact ⟨Bool.eq_false_iff.1 hlower, Bool.eq_false_iff.1 hupper⟩
  · split at h
    · cases h
    · split at h <;> cases h

/-- A hit of the search, on the grid of seventeen digits. -/
theorem exists_of_search {i : Interval} {place : ℤ} {counts : List ℕ} {d : ℕ}
    (h : search i place counts = some d) :
    ∃ k ∈ counts, ∃ c, d = c * tenPow (17 - k) ∧
      i.contains (c * tenPow (place - k).toNat) (tenPow (-(place - k)).toNat) = true := by
  induction counts with
  | nil => cases h
  | cons k rest ih =>
    rw [search] at h
    split at h
    · next c hc =>
      cases h
      exact ⟨k, List.mem_cons_self, c, rfl, contains_of_onGrid? hc⟩
    · obtain ⟨k', hk', hd⟩ := ih h
      exact ⟨k', List.mem_cons_of_mem k hk', hd⟩

theorem search_isSome {i : Interval} {place : ℤ} {counts : List ℕ} {k : ℕ} (hk : k ∈ counts)
    (h : (onGrid? i (tenPow (place - k).toNat) (tenPow (-(place - k)).toNat)).isSome = true) :
    (search i place counts).isSome = true := by
  induction counts with
  | nil => cases hk
  | cons first rest ih =>
    rw [search]
    split
    · rfl
    · next hnone =>
      rcases List.mem_cons.1 hk with rfl | hk
      · rw [hnone] at h
        cases h
      · exact ih hk

/-! ## The finest grid -/

/-- A grid with a unit of at most `10 ^ -16` of a number has a point in its interval, next to the
number. -/
theorem rounds_or_of_grid (hc : Canonical m e) {g : ℚ} (hfine : g * 10 ^ 16 ≤ m * 2 ^ e) {k : ℕ}
    (hlow : k * g ≤ m * 2 ^ e) (hhigh : m * 2 ^ e < (k + 1) * g) :
    Rounds m e (k * g) ∨ Rounds m e ((k + 1) * g) := by
  have hw := two_zpow_pos e
  have hfits := hc.add_one_le
  -- Everything is measured in units of the mantissa.
  obtain ⟨u, rfl⟩ : ∃ u, g = u * 2 ^ e := ⟨g / 2 ^ e, (div_mul_cancel₀ g hw.ne').symm⟩
  have hcancel (c : ℚ) : c * (u * 2 ^ e) / 2 ^ e = c * u := by
    rw [← mul_assoc, mul_div_cancel_right₀ _ hw.ne']
  have hfine : u * 10 ^ 16 ≤ m := by
    rw [mul_right_comm] at hfine
    exact le_of_mul_le_mul_right hfine hw
  have hlow : k * u ≤ m := by
    rw [← mul_assoc] at hlow
    exact le_of_mul_le_mul_right hlow hw
  have hhigh : m < (k + 1) * u := by
    rw [← mul_assoc] at hhigh
    exact lt_of_mul_lt_mul_right hhigh hw.le
  have hnext : (k + 1) * u = k * u + u := by ring
  by_cases hpower : m = twoPow 52 ∧ leastExponent < e
  · have hquarter : below m e = 1 / 4 := if_pos hpower
    have hmq : (m : ℚ) = 2 ^ 52 := by rw [hpower.1, cast_twoPow]
    have hless : (k + 1) * u < m + 1 / 2 := by linarith
    have hmore : m - below m e < (k + 1) * u := by linarith
    exact .inr ⟨by rw [hcancel]; exact hmore.le, by rw [hcancel]; exact hless.le,
      .inr (by rw [hcancel]; exact ⟨hmore, hless⟩)⟩
  · have hhalf : below m e = 1 / 2 := if_neg hpower
    by_cases hnear : m - 1 / 2 < k * u
    · have hless : k * u < m + 1 / 2 := by linarith
      exact .inl ⟨by rw [hcancel, hhalf]; exact hnear.le, by rw [hcancel]; exact hless.le,
        .inr (by rw [hcancel, hhalf]; exact ⟨hnear, hless⟩)⟩
    · have hless : (k + 1) * u < m + 1 / 2 := by linarith
      have hmore : m - 1 / 2 < (k + 1) * u := by linarith
      exact .inr ⟨by rw [hcancel, hhalf]; exact hmore.le, by rw [hcancel]; exact hless.le,
        .inr (by rw [hcancel, hhalf]; exact ⟨hmore, hless⟩)⟩

/-- The multiples of a unit around a fraction. -/
theorem grid_bounds {n d a b : ℕ} (hd : 0 < d) (ha : 0 < a) (hb : 0 < b) :
    ((n * b / (d * a) : ℕ) * (a / b) : ℚ) ≤ n / d ∧
      (n / d : ℚ) < ((n * b / (d * a) : ℕ) + 1) * (a / b) := by
  have hdq : (0 : ℚ) < d := by exact_mod_cast hd
  have hbq : (0 : ℚ) < b := by exact_mod_cast hb
  have hlow : n * b / (d * a) * (d * a) ≤ n * b := Nat.div_mul_le_self _ _
  have hhigh : n * b < (n * b / (d * a) + 1) * (d * a) := by
    rw [Nat.add_mul, Nat.one_mul]
    exact Nat.lt_div_mul_add (Nat.mul_pos hd ha)
  generalize n * b / (d * a) = k at hlow hhigh
  rw [mul_div_assoc', mul_div_assoc', div_le_div_iff₀ hbq hdq, div_lt_div_iff₀ hdq hbq]
  have hlowq : (k * (d * a) : ℚ) ≤ n * b := by exact_mod_cast hlow
  have hhighq : (n * b : ℚ) < (k + 1) * (d * a) := by exact_mod_cast hhigh
  exact ⟨by linarith, by linarith⟩

/-- The first digit of a number stands where the position of the point says. -/
theorem le_of_pointPosition {n d : ℕ} (hd : 0 < d) (h : d ≤ n * tenPow reach) :
    (10 : ℚ) ^ (pointPosition n d - 1) ≤ n / d := by
  have hdq : (0 : ℚ) < d := by exact_mod_cast hd
  unfold pointPosition
  generalize reach = r at h ⊢
  have hle := Text.pow_le_of_length_decimalNat (Nat.div_pos h hd)
  have hlength : 0 < (Text.decimalNat (n * tenPow r / d)).length := Nat.length_toDigits_pos
  generalize (Text.decimalNat (n * tenPow r / d)).length = len at hlength hle
  have hmul : (10 : ℚ) ^ (len - 1) * d ≤ n * 10 ^ r := by
    rw [← cast_tenPow]
    exact_mod_cast (Nat.le_div_iff_mul_le hd).1 hle
  have hexponent : (len : ℤ) - r - 1 = ((len - 1 : ℕ) : ℤ) - r := by omega
  rw [hexponent, zpow_sub₀ (by norm_num), zpow_natCast, zpow_natCast,
    div_le_div_iff₀ (pow_pos (by norm_num) _) hdq]
  exact hmul

/-- No number other than zero is smaller than the reciprocal of the reach. -/
theorem den_le_value (hc : Canonical m e) (hm : 0 < m) :
    (interval m e).den ≤ (interval m e).value * tenPow reach := by
  have hdenq : (0 : ℚ) < (interval m e).den := by exact_mod_cast den_interval_pos m e
  have hmq : (1 : ℚ) ≤ m := by exact_mod_cast hm
  have hvalue : (1 : ℚ) ≤ (interval m e).value / (interval m e).den * (tenPow reach : ℕ) := by
    rw [value_div]
    calc (1 : ℚ) = 10 ^ (-400 : ℤ) * (tenPow reach : ℕ) := by
          rw [cast_tenPow, ← zpow_natCast, ← ten_zpow_add]
          exact (zpow_zero 10).symm
      _ ≤ 2 ^ leastExponent * (tenPow reach : ℕ) :=
          mul_le_mul_of_nonneg_right le_two_zpow_least (Nat.cast_nonneg _)
      _ ≤ 2 ^ e * (tenPow reach : ℕ) :=
          mul_le_mul_of_nonneg_right (zpow_le_zpow_right₀ one_le_two hc.least) (Nat.cast_nonneg _)
      _ ≤ m * 2 ^ e * (tenPow reach : ℕ) :=
          mul_le_mul_of_nonneg_right (le_mul_of_one_le_left (two_zpow_pos e).le hmq)
            (Nat.cast_nonneg _)
  rw [div_mul_eq_mul_div, one_le_div hdenq] at hvalue
  exact_mod_cast hvalue

/-- The search always finds digits, and they lie in the interval. -/
theorem exists_search (hc : Canonical m e) (hm : 0 < m) {place : ℤ}
    (hplace : place = pointPosition (interval m e).value (interval m e).den) :
    ∃ d, search (interval m e) place (List.range' 1 17) = some d ∧
      Rounds m e (d * 10 ^ (place - 17)) := by
  have hden := den_interval_pos m e
  have hdenq : (0 : ℚ) < (interval m e).den := by exact_mod_cast hden
  have hpoint := le_of_pointPosition hden (den_le_value hc hm)
  rw [← hplace, value_div] at hpoint
  have hfound : (search (interval m e) place (List.range' 1 17)).isSome = true := by
    refine search_isSome (k := 17) (by decide) (Option.isSome_iff_ne_none.2 fun hnone => ?_)
    obtain ⟨hlower, hupper⟩ := not_contains_of_onGrid? hnone
    have hgrid := grid_bounds (n := (interval m e).value) hden (tenPow_pos (place - 17).toNat)
      (tenPow_pos (-(place - 17)).toNat)
    rw [contains_iff hm e (tenPow_pos _), Nat.cast_mul, mul_div_assoc, tenPow_div] at hlower hupper
    rw [tenPow_div, value_div] at hgrid
    rw [Nat.cast_succ] at hupper
    have hfine : (10 : ℚ) ^ (place - 17) * 10 ^ 16 ≤ m * 2 ^ e := by
      refine le_of_eq_of_le ?_ hpoint
      rw [← zpow_natCast, ← ten_zpow_add]
      congr 1
      omega
    exact (rounds_or_of_grid hc hfine hgrid.1 hgrid.2).elim hlower hupper
  obtain ⟨d, hd⟩ := Option.isSome_iff_exists.1 hfound
  refine ⟨d, hd, ?_⟩
  obtain ⟨k, hk, c, rfl, hcontains⟩ := exists_of_search hd
  rw [contains_iff hm e (tenPow_pos _), Nat.cast_mul, mul_div_assoc, tenPow_div] at hcontains
  have hk : k ≤ 17 := by
    have := List.mem_range'_1.1 hk
    omega
  have hexponent : place - (k : ℤ) = ((17 - k : ℕ) : ℤ) + (place - 17) := by omega
  rw [hexponent, ten_zpow_add, zpow_natCast, ← mul_assoc] at hcontains
  rw [Nat.cast_mul, cast_tenPow]
  exact hcontains

/-! ## The digits -/

/-- The digits, with the position of the point, are a numeral of the number. -/
structure IsNumeral (m : ℕ) (e : ℤ) (digits : List Char) (place : ℤ) : Prop where
  isDigit : ∀ c ∈ digits, c.isDigit = true
  head : ∃ d rest, digits = d :: rest ∧ d ≠ '0'
  rounds : Rounds m e (decimalValue digits (place - digits.length))

theorem exists_zeros (ds : List Char) :
    ∃ k, ds = (ds.reverse.dropWhile (· == '0')).reverse ++ List.replicate k '0' := by
  have hall : ∀ c ∈ ds.reverse.takeWhile (· == '0'), c = '0' :=
    fun c hc => eq_of_beq (List.mem_takeWhile_imp (p := (· == '0')) hc)
  refine ⟨(ds.reverse.takeWhile (· == '0')).length, ?_⟩
  rw [← List.reverse_replicate, ← List.eq_replicate_iff.2 ⟨rfl, hall⟩, ← List.reverse_append,
    List.takeWhile_append_dropWhile, List.reverse_reverse]

theorem isNumeral_digits (hc : Canonical m e) (hm : 0 < m) :
    IsNumeral m e (digits m e).1 (digits m e).2 := by
  obtain ⟨d, hsearch, hrounds⟩ := exists_search hc hm rfl
  obtain ⟨k, hzeros⟩ := exists_zeros (Text.decimalNat d)
  have hdigits : digits m e = (((Text.decimalNat d).reverse.dropWhile (· == '0')).reverse,
      pointPosition (interval m e).value (interval m e).den +
        ((Text.decimalNat d).length - 17 : ℤ)) := by
    unfold digits
    dsimp only
    rw [hsearch]
    rfl
  rw [hdigits]
  dsimp only
  generalize pointPosition (interval m e).value (interval m e).den = place at hrounds ⊢
  generalize ((Text.decimalNat d).reverse.dropWhile (· == '0')).reverse = ds at hzeros ⊢
  have hpos := hrounds.pos hm
  have hd : d ≠ 0 := by
    rintro rfl
    rw [Nat.cast_zero, zero_mul] at hpos
    exact hpos.false
  have hvalue : decimalValue ds (place + ((Text.decimalNat d).length - 17 : ℤ) - ds.length) =
      d * 10 ^ (place - 17) := by
    have hexponent : place + ((Text.decimalNat d).length - 17 : ℤ) - ds.length =
        place - 17 + k := by
      rw [hzeros, List.length_append, List.length_replicate, Nat.cast_add]
      omega
    rw [hexponent, ← decimalValue_zeros, ← hzeros, decimalValue, Text.valueOf_decimalNat]
  refine ⟨fun c hc => ?_, ?_, hvalue ▸ hrounds⟩
  · have hmem : c ∈ Text.decimalNat d := by
      rw [hzeros]
      exact List.mem_append_left _ hc
    exact Text.isDigit_of_mem_decimalNat hmem
  · obtain ⟨first, rest, hfirst, hne⟩ := Text.head_of_decimalNat hd
    cases ds with
    | nil =>
      rw [hzeros, List.nil_append] at hfirst
      exact absurd (List.eq_of_mem_replicate (hfirst ▸ List.mem_cons_self)) hne
    | cons c cs =>
      rw [hzeros, List.cons_append] at hfirst
      exact ⟨c, cs, rfl, (List.cons.inj hfirst).1 ▸ hne⟩

end Shortest
end Binary64
end WorkflowDispatch
