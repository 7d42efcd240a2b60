/-!
Binary floating-point numbers of 64 bits, held as exact numbers.  A finite number is a signed
multiple of a power of two, so every question about it is a question about natural numbers.
-/

namespace WorkflowDispatch
namespace Binary64

/-- A power of two.  It has a name because the notation for powers means another term where an
algebra of the numbers is in scope. -/
def twoPow (n : Nat) : Nat := Nat.pow 2 n

def tenPow (n : Nat) : Nat := Nat.pow 10 n

theorem twoPow_pos (n : Nat) : 0 < twoPow n := Nat.two_pow_pos n

theorem twoPow_add (m n : Nat) : twoPow (m + n) = twoPow m * twoPow n := Nat.pow_add 2 m n

theorem twoPow_le {m n : Nat} (h : m ≤ n) : twoPow m ≤ twoPow n :=
  Nat.pow_le_pow_right (by decide) h

theorem tenPow_pos (n : Nat) : 0 < tenPow n := Nat.pow_pos (by decide)

/-! ## Canonical numbers -/

def leastExponent : Int := -1074

def greatestExponent : Int := 971

/-- What rounding leaves of a finite number: the mantissa has 53 bits, or fewer where the exponent
is the least one. -/
structure Canonical (mantissa : Nat) (exponent : Int) : Prop where
  fits : mantissa < twoPow 53
  least : leastExponent ≤ exponent
  greatest : exponent ≤ greatestExponent
  normal : twoPow 52 ≤ mantissa ∨ exponent = leastExponent

theorem canonical_iff {mantissa : Nat} {exponent : Int} :
    mantissa < twoPow 53 ∧ leastExponent ≤ exponent ∧ exponent ≤ greatestExponent ∧
      (twoPow 52 ≤ mantissa ∨ exponent = leastExponent) ↔ Canonical mantissa exponent :=
  ⟨fun h => ⟨h.1, h.2.1, h.2.2.1, h.2.2.2⟩, fun h => ⟨h.fits, h.least, h.greatest, h.normal⟩⟩

instance (mantissa : Nat) (exponent : Int) : Decidable (Canonical mantissa exponent) :=
  decidable_of_iff _ canonical_iff

end Binary64

/-- A finite number is `mantissa * 2 ^ exponent`, in the one form that is canonical. -/
inductive Binary64 where
  | finite (negative : Bool) (mantissa : Nat) (exponent : Int)
      (canonical : Binary64.Canonical mantissa exponent)
  | infinite (negative : Bool)
  | nan
  deriving DecidableEq, Repr

namespace Binary64

def zero (negative : Bool) : Binary64 :=
  .finite negative 0 leastExponent ⟨by decide, by decide, by decide, .inr rfl⟩

/-! ## Rounding -/

/-- The integer nearest to `num / den`.  Of two that are equally near it is the even one. -/
def roundDiv (num den : Nat) : Nat :=
  let quotient := num / den
  let rest := num % den
  if den < 2 * rest || (2 * rest == den && quotient % 2 == 1) then quotient + 1 else quotient

theorem roundDiv_mem (num den : Nat) :
    num / den ≤ roundDiv num den ∧ roundDiv num den ≤ num / den + 1 := by
  unfold roundDiv
  dsimp only
  split
  · exact ⟨Nat.le_succ _, Nat.le_refl _⟩
  · exact ⟨Nat.le_refl _, Nat.le_succ _⟩

/-- The fraction `num / den * 2 ^ (-exponent)` as numerator and denominator. -/
def scaled (num den : Nat) (exponent : Int) : Nat × Nat :=
  if 0 ≤ exponent then (num, den * twoPow exponent.toNat) else (num * twoPow (-exponent).toNat, den)

/-- The exponent for which `num / den` has a whole part of 53 bits. -/
def fullExponent (num den : Nat) : Int :=
  let guess : Int := (num.log2 : Int) - den.log2 - 52
  let (n, d) := scaled num den guess
  if n / d < twoPow 52 then guess - 1 else guess

/-- The exponent of the number nearest to `num / den`, before a carry to the next one. -/
def exponentOf (num den : Nat) : Int := max (fullExponent num den) leastExponent

/-- The mantissa before a carry to the next exponent. -/
def mantissaOf (num den : Nat) : Nat :=
  let (n, d) := scaled num den (exponentOf num den)
  roundDiv n d

/-! ### The bits of the mantissa -/

theorem scaled_pos {den : Nat} (hden : 0 < den) (num : Nat) (e : Int) :
    0 < (scaled num den e).2 := by
  unfold scaled
  split
  · exact Nat.mul_pos hden (twoPow_pos _)
  · exact hden

/-- The whole part of the scaled fraction has at most so many bits. -/
def FitsBits (num den bits : Nat) (exponent : Int) : Prop :=
  (scaled num den exponent).1 < twoPow bits * (scaled num den exponent).2

/-- With the exponent as a difference all factors are whole, on whichever side it puts its power
of two. -/
theorem fitsBits_sub {num den bits a b : Nat} :
    FitsBits num den bits ((a : Int) - b) ↔ num * twoPow b < den * twoPow (a + bits) := by
  unfold FitsBits scaled
  split
  · have hexponent : ((a : Int) - b).toNat = a - b := by omega
    have hfactor : den * twoPow (a + bits) = twoPow bits * (den * twoPow (a - b)) * twoPow b := by
      rw [show a + bits = bits + (a - b) + b by omega, twoPow_add, twoPow_add]
      ac_rfl
    rw [hexponent, hfactor, Nat.mul_lt_mul_right (twoPow_pos b)]
  · have hexponent : (-((a : Int) - b)).toNat = b - a := by omega
    have hnum : num * twoPow b = num * twoPow (b - a) * twoPow a := by
      rw [Nat.mul_assoc, ← twoPow_add, Nat.sub_add_cancel (by omega)]
    have hden : den * twoPow (a + bits) = twoPow bits * den * twoPow a := by
      rw [twoPow_add]
      ac_rfl
    rw [hexponent, hnum, hden, Nat.mul_lt_mul_right (twoPow_pos a)]

theorem FitsBits.of_le {num den bits : Nat} {e e' : Int} (h : FitsBits num den bits e)
    (hle : e ≤ e') : FitsBits num den bits e' := by
  obtain ⟨b, hb⟩ : ∃ b : Nat, 0 ≤ e + b := ⟨(-e).toNat, by omega⟩
  have he : e = ((e + b).toNat : Int) - b := by omega
  have he' : e' = ((e' + b).toNat : Int) - b := by omega
  rw [he, fitsBits_sub] at h
  rw [he', fitsBits_sub]
  exact Nat.lt_of_lt_of_le h (Nat.mul_le_mul_left den (twoPow_le (by omega)))

/-- One exponent less is one bit more. -/
theorem fitsBits_sub_one {num den bits : Nat} {e : Int} :
    FitsBits num den (bits + 1) (e - 1) ↔ FitsBits num den bits e := by
  obtain ⟨a, b, rfl⟩ : ∃ a b : Nat, e = (a : Int) - b := ⟨e.toNat, (-e).toNat, by omega⟩
  have hexponent : (a : Int) - b - 1 = (a : Int) - (b + 1 : Nat) := by omega
  rw [hexponent, fitsBits_sub, fitsBits_sub, ← Nat.add_assoc, twoPow_add b, twoPow_add (a + bits),
    ← Nat.mul_assoc, ← Nat.mul_assoc, Nat.mul_lt_mul_right (twoPow_pos 1)]

/-- The lengths of the two parts tell the length of the quotient up to one bit. -/
theorem fitsBits_guess {num den : Nat} (hnum : num ≠ 0) (hden : 0 < den) :
    FitsBits num den 53 ((num.log2 : Int) - den.log2 - 52) ∧
      ¬ FitsBits num den 51 ((num.log2 : Int) - den.log2 - 52) := by
  have hexponent : (num.log2 : Int) - den.log2 - 52 = (num.log2 : Int) - (den.log2 + 52 : Nat) := by
    omega
  have hnumLow : twoPow num.log2 ≤ num := Nat.log2_self_le hnum
  have hnumHigh : num < twoPow (num.log2 + 1) := Nat.lt_log2_self
  have hdenLow : twoPow den.log2 ≤ den := Nat.log2_self_le (Nat.ne_of_gt hden)
  have hdenHigh : den < twoPow (den.log2 + 1) := Nat.lt_log2_self
  rw [hexponent, fitsBits_sub, fitsBits_sub, Nat.not_lt]
  constructor
  · calc num * twoPow (den.log2 + 52)
        < twoPow (num.log2 + 1) * twoPow (den.log2 + 52) :=
          Nat.mul_lt_mul_of_pos_right hnumHigh (twoPow_pos _)
      _ = twoPow den.log2 * twoPow (num.log2 + 53) := by
          rw [← twoPow_add, ← twoPow_add]
          congr 1
          omega
      _ ≤ den * twoPow (num.log2 + 53) := Nat.mul_le_mul_right _ hdenLow
  · calc den * twoPow (num.log2 + 51)
        ≤ twoPow (den.log2 + 1) * twoPow (num.log2 + 51) :=
          Nat.mul_le_mul_right _ (Nat.le_of_lt hdenHigh)
      _ = twoPow num.log2 * twoPow (den.log2 + 52) := by
          rw [← twoPow_add, ← twoPow_add]
          congr 1
          omega
      _ ≤ num * twoPow (den.log2 + 52) := Nat.mul_le_mul_right _ hnumLow

theorem div_lt_iff_fitsBits {den : Nat} (hden : 0 < den) (num bits : Nat) (e : Int) :
    (scaled num den e).1 / (scaled num den e).2 < twoPow bits ↔ FitsBits num den bits e :=
  Nat.div_lt_iff_lt_mul (scaled_pos hden num e)

theorem fullExponent_spec {num den : Nat} (hnum : num ≠ 0) (hden : 0 < den) :
    FitsBits num den 53 (fullExponent num den) ∧ ¬ FitsBits num den 52 (fullExponent num den) := by
  obtain ⟨hfits, hlong⟩ := fitsBits_guess hnum hden
  unfold fullExponent
  dsimp only
  generalize (num.log2 : Int) - den.log2 - 52 = guess at hfits hlong ⊢
  have hwhole := div_lt_iff_fitsBits hden num 52 guess
  split
  · next h => exact ⟨fitsBits_sub_one.2 (hwhole.1 h), mt fitsBits_sub_one.1 hlong⟩
  · next h => exact ⟨hfits, mt hwhole.2 h⟩

/-- The scaled fraction has 53 bits before the point, or fewer with the least exponent. -/
theorem exponentOf_spec {num den : Nat} (hnum : num ≠ 0) (hden : 0 < den) :
    leastExponent ≤ exponentOf num den ∧ FitsBits num den 53 (exponentOf num den) ∧
      (¬ FitsBits num den 52 (exponentOf num den) ∨ exponentOf num den = leastExponent) := by
  obtain ⟨hfits, hnormal⟩ := fullExponent_spec hnum hden
  refine ⟨Int.le_max_right _ _, hfits.of_le (Int.le_max_left _ _), ?_⟩
  rcases Int.le_total leastExponent (fullExponent num den) with h | h
  · rw [exponentOf, Int.max_eq_left h]
    exact .inl hnormal
  · exact .inr (Int.max_eq_right h)

theorem mantissaOf_mem {num den : Nat} (hnum : num ≠ 0) (hden : 0 < den) :
    mantissaOf num den ≤ twoPow 53 ∧
      (twoPow 52 ≤ mantissaOf num den ∨ exponentOf num den = leastExponent) := by
  obtain ⟨-, hfits, hnormal⟩ := exponentOf_spec hnum hden
  rw [← div_lt_iff_fitsBits hden] at hfits hnormal
  obtain ⟨hlow, hhigh⟩ :=
    roundDiv_mem (scaled num den (exponentOf num den)).1 (scaled num den (exponentOf num den)).2
  exact ⟨Nat.le_trans hhigh hfits, hnormal.imp_left fun h => Nat.le_trans (Nat.not_lt.1 h) hlow⟩

theorem canonical_mantissaOf {num den : Nat} (hnum : num ≠ 0) (hden : 0 < den)
    (hcarry : mantissaOf num den ≠ twoPow 53) (h : ¬ greatestExponent < exponentOf num den) :
    Canonical (mantissaOf num den) (exponentOf num den) where
  fits := Nat.lt_of_le_of_ne (mantissaOf_mem hnum hden).1 hcarry
  least := (exponentOf_spec hnum hden).1
  greatest := Int.not_lt.1 h
  normal := (mantissaOf_mem hnum hden).2

theorem canonical_carry {num den : Nat} (hnum : num ≠ 0) (hden : 0 < den)
    (h : ¬ greatestExponent < exponentOf num den + 1) :
    Canonical (twoPow 52) (exponentOf num den + 1) where
  fits := by decide
  least := Int.le_add_one (exponentOf_spec hnum hden).1
  greatest := Int.not_lt.1 h
  normal := .inl (Nat.le_refl _)

/-! ### The number -/

/-- The number nearest to `num / den`, ties going to the even mantissa. -/
def ofRatio (negative : Bool) (num den : Nat) (hden : 0 < den) : Binary64 :=
  if hnum : num = 0 then zero negative
  else if hcarry : mantissaOf num den = twoPow 53 then
    if h : greatestExponent < exponentOf num den + 1 then .infinite negative
    else .finite negative (twoPow 52) (exponentOf num den + 1) (canonical_carry hnum hden h)
  else if h : greatestExponent < exponentOf num den then .infinite negative
  else .finite negative (mantissaOf num den) (exponentOf num den)
    (canonical_mantissaOf hnum hden hcarry h)

/-- The number nearest to an integer, which must not lie beyond the greatest finite number. -/
def ofInt? (i : Int) : Option Binary64 :=
  match ofRatio (decide (i < 0)) i.natAbs 1 Nat.one_pos with
  | x@(.finite ..) => some x
  | _ => none

def ofBool (b : Bool) : Binary64 :=
  if b then .finite false (twoPow 52) (-52) (by decide) else zero false

/-! ## Exact values -/

/-- The magnitude of a finite number as numerator and denominator. -/
def magnitude (mantissa : Nat) (exponent : Int) : Nat × Nat :=
  if 0 ≤ exponent then (mantissa * twoPow exponent.toNat, 1)
  else (mantissa, twoPow (-exponent).toNat)

theorem magnitude_pos (mantissa : Nat) (exponent : Int) : 0 < (magnitude mantissa exponent).2 := by
  unfold magnitude
  split
  · exact Nat.one_pos
  · exact twoPow_pos _

def isNegative : Binary64 → Bool
  | .finite s _ _ _ => s
  | .infinite s => s
  | .nan => false

def isPositive : Binary64 → Bool
  | .finite s m _ _ => !s && m != 0
  | .infinite s => !s
  | .nan => false

def isZero : Binary64 → Bool
  | .finite _ m _ _ => m == 0
  | _ => false

/-- The least integer that is not below a finite number. -/
def ceil? : Binary64 → Option Int
  | .finite s m e _ =>
    let (n, d) := magnitude m e
    some (if s then -((n / d : Nat) : Int) else (((n + d - 1) / d : Nat) : Int))
  | _ => none

/-- A finite number without its fraction. -/
def truncate? : Binary64 → Option Int
  | .finite s m e _ =>
    let (n, d) := magnitude m e
    some (if s then -((n / d : Nat) : Int) else ((n / d : Nat) : Int))
  | _ => none

/-- Numerical equality: the two zeros are equal, and nothing is equal to `nan`. -/
def equals : Binary64 → Binary64 → Bool
  | .finite s m e _, .finite s' m' e' _ => m == m' && ((m == 0) || (s == s' && e == e'))
  | .infinite s, .infinite s' => s == s'
  | _, _ => false

/-- Numerical equality with an integer, without rounding the integer. -/
def equalsInt (x : Binary64) (i : Int) : Bool :=
  match x with
  | .finite s m e _ =>
    let (n, d) := magnitude m e
    n == i.natAbs * d && (i == 0 || s == decide (i < 0))
  | _ => false

end Binary64
end WorkflowDispatch
