import WorkflowDispatch.Binary64.Reader
import WorkflowDispatch.Proofs.Binary64.Shortest
/-!
Reading the text of a number gives the number back.  All texts are laid out in one way: digits, then
a point with digits behind it or not, then an exponent or not.
-/

namespace WorkflowDispatch
namespace Binary64

open Reader

/-- Digits with a fraction and an exponent, where there may be none. -/
def laidOut (whole fraction : List Char) (exponent : Option ℤ) : List Char :=
  whole ++ (if fraction.isEmpty then [] else '.' :: fraction) ++ (exponent.map exponentText).getD []

/-! ## Reading a layout -/

theorem stops_exponentText (exponent : Option ℤ) :
    Text.Stops Char.isDigit ((exponent.map exponentText).getD []) := by
  intro c hc
  cases exponent with
  | none => cases hc
  | some e =>
    cases hc
    rfl

theorem exponentPart?_of_sign {cs digits : List Char} {negative : Bool}
    (h : sign cs = (negative, digits)) (hne : digits ≠ [])
    (hdigits : ∀ c ∈ digits, c.isDigit = true) :
    exponentPart? ('e' :: cs) =
      some (if negative then -(Text.valueOf digits : ℤ) else Text.valueOf digits) := by
  have hempty : digits.isEmpty = false := List.isEmpty_eq_false_iff.2 hne
  have hall : digits.all Char.isDigit = true := List.all_eq_true.2 hdigits
  have hletter : (decide ('e' = 'e') || decide ('e' = 'E')) = true := by decide
  unfold exponentPart?
  dsimp only
  rw [if_pos hletter]
  simp only [h, hempty, hall, Bool.not_true, Bool.or_self, Bool.false_eq_true, if_false]

theorem exponentPart?_exponentText (e : ℤ) : exponentPart? (exponentText e) = some e := by
  have hne := Text.padded_ne_nil 2 e.natAbs
  have hdigits : ∀ c ∈ Text.padded 2 e.natAbs, c.isDigit = true :=
    fun c hc => Text.isDigit_of_mem_padded hc
  by_cases he : e < 0
  · have hsign : sign ('-' :: Text.padded 2 e.natAbs) = (true, Text.padded 2 e.natAbs) := rfl
    rw [exponentText, if_pos he, exponentPart?_of_sign hsign hne hdigits, Text.valueOf_padded,
      if_pos rfl]
    exact congrArg some (by omega)
  · have hsign : sign ('+' :: Text.padded 2 e.natAbs) = (false, Text.padded 2 e.natAbs) := rfl
    rw [exponentText, if_neg he, exponentPart?_of_sign hsign hne hdigits, Text.valueOf_padded,
      if_neg Bool.false_ne_true]
    exact congrArg some (by omega)

theorem exponentPart?_getD (exponent : Option ℤ) :
    exponentPart? ((exponent.map exponentText).getD []) = some (exponent.getD 0) := by
  cases exponent with
  | none => rfl
  | some e => exact exponentPart?_exponentText e

variable {whole fraction : List Char} (hwhole : ∀ c ∈ whole, c.isDigit = true)
  (hfraction : ∀ c ∈ fraction, c.isDigit = true)

include hwhole hfraction

theorem significand?_laidOut (hne : whole ≠ []) (exponent : Option ℤ) :
    significand? (laidOut whole fraction exponent) =
      some (whole, fraction, (exponent.map exponentText).getD []) := by
  have hstops := stops_exponentText exponent
  have hempty : whole.isEmpty = false := List.isEmpty_eq_false_iff.2 hne
  unfold laidOut significand?
  dsimp only
  rw [List.append_assoc]
  cases fraction with
  | nil =>
    rw [List.isEmpty_nil, if_pos rfl, List.nil_append,
      Text.takeWhile_append_of_stops hwhole hstops, Text.dropWhile_append_of_stops hwhole hstops]
    cases exponent with
    | none => simp [hempty]
    | some e => simp [hempty, exponentText]
  | cons d ds =>
    have hpoint : Text.Stops Char.isDigit
        (('.' :: d :: ds) ++ (exponent.map exponentText).getD []) := by
      intro c hc
      cases hc
      rfl
    rw [List.isEmpty_cons, if_neg Bool.false_ne_true,
      Text.takeWhile_append_of_stops hwhole hpoint, Text.dropWhile_append_of_stops hwhole hpoint,
      hempty, Bool.false_and, if_neg Bool.false_ne_true]
    show some (whole, (d :: ds ++ _).takeWhile Char.isDigit, (d :: ds ++ _).dropWhile Char.isDigit)
      = _
    rw [Text.takeWhile_append_of_stops hfraction hstops,
      Text.dropWhile_append_of_stops hfraction hstops]

theorem numeral?_laidOut (hne : whole ≠ []) (exponent : Option ℤ) (negative : Bool) :
    numeral? negative (laidOut whole fraction exponent) =
      some (ofDecimal negative (whole ++ fraction) (exponent.getD 0 - fraction.length)) := by
  unfold numeral?
  rw [significand?_laidOut hwhole hfraction hne]
  show (exponentPart? _ >>= _) = _
  rw [exponentPart?_getD]
  rfl

omit hwhole hfraction

/-! ## Rounding once -/

variable {m : ℕ} {e : ℤ}

/-- The first digit and the power of ten tell the size of a decimal number. -/
theorem decimalValue_mem {d : Char} {ds : List Char} (h : ∀ c ∈ d :: ds, c.isDigit = true)
    (hd : d ≠ '0') (k : ℤ) :
    (10 : ℚ) ^ (ds.length + k) ≤ decimalValue (d :: ds) k ∧
      decimalValue (d :: ds) k < 10 ^ (ds.length + 1 + k) := by
  have hlow : ((10 ^ ds.length : ℕ) : ℚ) ≤ (Text.valueOf (d :: ds) : ℕ) :=
    Nat.cast_le.2 (Text.le_valueOf (h d List.mem_cons_self) hd)
  have hhigh : ((Text.valueOf (d :: ds) : ℕ) : ℚ) < (10 ^ (ds.length + 1) : ℕ) :=
    Nat.cast_lt.2 (Text.valueOf_lt h)
  unfold decimalValue
  rw [ten_zpow_add, ten_zpow_add, ← Nat.cast_succ, zpow_natCast, zpow_natCast]
  push_cast at hlow hhigh
  exact ⟨mul_le_mul_of_nonneg_right hlow (ten_zpow_pos k).le,
    mul_lt_mul_of_pos_right hhigh (ten_zpow_pos k)⟩

/-- A decimal number in the interval is read as the number of the interval. -/
theorem ofDecimal_of_rounds (hc : Canonical m e) (hm : 0 < m) {ds : List Char} {k : ℤ}
    (hds : ∀ c ∈ ds, c.isDigit = true) (h : Rounds m e (decimalValue ds k)) (negative : Bool) :
    ofDecimal negative ds k = .finite negative m e hc := by
  obtain ⟨hlow, hhigh⟩ := h.mem hc hm
  have hpos := h.pos hm
  have hvalue : decimalValue (ds.dropWhile (· == '0')) k = decimalValue ds k := by
    rw [decimalValue, Text.valueOf_dropZeros, decimalValue]
  have hdigits : ∀ c ∈ ds.dropWhile (· == '0'), c.isDigit = true :=
    fun c hc => hds c (List.dropWhile_sublist _ |>.subset hc)
  have hhead := List.head?_dropWhile_not (· == '0') ds
  unfold ofDecimal
  dsimp only
  rw [← hvalue] at h hlow hhigh hpos
  generalize ds.dropWhile (· == '0') = cs at hdigits hhead h hlow hhigh hpos ⊢
  cases cs with
  | nil =>
    have hzero : decimalValue [] k = 0 := by rw [decimalValue]; exact zero_mul _
    rw [hzero] at hpos
    exact absurd hpos (lt_irrefl 0)
  | cons d cs =>
    have hd : d ≠ '0' := fun heq => by simp [heq] at hhead
    obtain ⟨hsizeLow, hsizeHigh⟩ := decimalValue_mem hdigits hd k
    have hbelow : (cs.length + k : ℤ) < 400 :=
      (zpow_lt_zpow_iff_right₀ (by norm_num : (1 : ℚ) < 10)).1 (hsizeLow.trans_lt hhigh)
    have habove : (-401 : ℤ) < cs.length + 1 + k :=
      (zpow_lt_zpow_iff_right₀ (by norm_num : (1 : ℚ) < 10)).1 (hlow.trans hsizeHigh)
    have hbound : decimalExponentBound = 400 := rfl
    rw [List.isEmpty_cons, if_neg Bool.false_ne_true, List.length_cons, Nat.cast_succ, hbound,
      if_neg (by omega), if_neg (by omega)]
    split
    · next hk =>
      refine ofRatio_of_rounds hc hm Nat.one_pos ?_ negative
      rw [Nat.cast_one, div_one, Nat.cast_mul, cast_tenPow, ← zpow_natCast, Int.toNat_of_nonneg hk]
      exact h
    · next hk =>
      refine ofRatio_of_rounds hc hm (tenPow_pos _) ?_ negative
      rw [cast_tenPow, ← zpow_natCast, Int.toNat_of_nonneg (by omega), zpow_neg, div_inv_eq_mul]
      exact h

/-! ## The layouts in use -/

/-- A layout that is a number in documents: no needless zero in front, and a fraction or an
exponent. -/
structure IsLayout (whole fraction : List Char) (exponent : Option ℤ) : Prop where
  isDigit_whole : ∀ c ∈ whole, c.isDigit = true
  isDigit_fraction : ∀ c ∈ fraction, c.isDigit = true
  head : whole = ['0'] ∨ ∃ d rest, whole = d :: rest ∧ d ≠ '0'
  isFloat : fraction ≠ [] ∨ exponent.isSome = true

theorem isDigit_of_mem_zeros (n : ℕ) : ∀ c ∈ List.replicate n '0', c.isDigit = true := by
  intro c hc
  rw [List.eq_of_mem_replicate hc]
  rfl

open Shortest (IsNumeral)

variable {digits : List Char} {place : ℤ}

/-- The layout keeps the value of the digits. -/
structure Keeps (digits : List Char) (place : ℤ) (whole fraction : List Char)
    (exponent : Option ℤ) : Prop where
  layout : IsLayout whole fraction exponent
  value : decimalValue (whole ++ fraction) (exponent.getD 0 - fraction.length) =
    decimalValue digits (place - digits.length)

/-- All digits stand behind the point. -/
theorem keeps_behind (h : IsNumeral m e digits place) (hplace : place ≤ 0) :
    Keeps digits place ['0'] (List.replicate (-place).toNat '0' ++ digits) none := by
  obtain ⟨d, rest, hdigits, -⟩ := h.head
  have hne : digits ≠ [] := by
    rw [hdigits]
    exact List.cons_ne_nil d rest
  refine ⟨⟨isDigit_of_mem_zeros 1, ?_, .inl rfl, .inl ?_⟩, ?_⟩
  · intro c hc
    exact (List.mem_append.1 hc).elim (isDigit_of_mem_zeros _ c) (h.isDigit c)
  · exact List.append_ne_nil_of_right_ne_nil _ hne
  · have hexponent : (0 - (List.replicate (-place).toNat '0' ++ digits).length : ℤ) =
        place - digits.length := by
      rw [List.length_append, List.length_replicate]
      omega
    rw [Option.getD_none, hexponent, decimalValue, ← List.replicate_one,
      Text.valueOf_zeros_append, Text.valueOf_zeros_append]
    rfl

/-- Zeros fill up to the point, and one stands behind it. -/
theorem keeps_filled (h : IsNumeral m e digits place) (hplace : 0 < place)
    (hlength : digits.length ≤ place.toNat) :
    Keeps digits place (digits ++ List.replicate (place.toNat - digits.length) '0') ['0'] none := by
  obtain ⟨d, rest, hdigits, hd⟩ := h.head
  refine ⟨⟨?_, isDigit_of_mem_zeros 1, .inr ?_, .inl (List.cons_ne_nil _ _)⟩, ?_⟩
  · intro c hc
    exact (List.mem_append.1 hc).elim (h.isDigit c) (isDigit_of_mem_zeros _ c)
  · rw [hdigits]
    exact ⟨d, _, rfl, hd⟩
  · rw [Option.getD_none, ← List.replicate_one, decimalValue_zeros, decimalValue_zeros]
    congr 1
    simp only [List.length_replicate]
    omega

/-- The point stands between two digits. -/
theorem keeps_split (h : IsNumeral m e digits place) (hplace : 0 < place)
    (hlength : ¬digits.length ≤ place.toNat) :
    Keeps digits place (digits.take place.toNat) (digits.drop place.toNat) none := by
  obtain ⟨d, rest, hdigits, hd⟩ := h.head
  have hdrop : digits.drop place.toNat ≠ [] := by
    rw [Ne, List.drop_eq_nil_iff]
    exact hlength
  refine ⟨⟨?_, ?_, .inr ?_, .inl hdrop⟩, ?_⟩
  · exact fun c hc => h.isDigit c (List.mem_of_mem_take hc)
  · exact fun c hc => h.isDigit c (List.mem_of_mem_drop hc)
  · obtain ⟨n, hn⟩ := Nat.exists_eq_add_one.2 (show 0 < place.toNat by omega)
    rw [hdigits, hn]
    exact ⟨d, _, rfl, hd⟩
  · rw [Option.getD_none, List.take_append_drop, List.length_drop]
    congr 1
    omega

theorem positional_eq_laidOut (h : IsNumeral m e digits place) :
    ∃ whole fraction, Keeps digits place whole fraction none ∧
      positional digits place = laidOut whole fraction none := by
  unfold positional
  split
  · next hplace =>
    have hkeeps := keeps_behind h hplace
    refine ⟨_, _, hkeeps, ?_⟩
    simp [laidOut, hkeeps.layout.isFloat.resolve_right Bool.false_ne_true]
  · next hplace =>
    have hplace := not_le.1 hplace
    dsimp only
    split
    · next hlength => exact ⟨_, _, keeps_filled h hplace hlength, by simp [laidOut]⟩
    · next hlength => exact ⟨_, _, keeps_split h hplace hlength, by simp [laidOut, hlength]⟩

theorem scientific_eq_laidOut (h : IsNumeral m e digits place) :
    ∃ whole fraction, Keeps digits place whole fraction (some (place - 1)) ∧
      scientific digits place = laidOut whole fraction (some (place - 1)) := by
  obtain ⟨d, rest, rfl, hd⟩ := h.head
  refine ⟨[d], rest, ⟨⟨?_, ?_, .inr ⟨d, [], rfl, hd⟩, .inr rfl⟩, ?_⟩, ?_⟩
  · intro c hc
    rw [List.mem_singleton.1 hc]
    exact h.isDigit d List.mem_cons_self
  · exact fun c hc => h.isDigit c (List.mem_cons_of_mem d hc)
  · rw [Option.getD_some, List.singleton_append, List.length_cons]
    congr 1
    omega
  · cases rest <;> simp [scientific, laidOut]

/-- Where the layout keeps the value of a numeral, it is read as the number. -/
theorem Keeps.ofDecimal_eq {whole fraction : List Char} {exponent : Option ℤ}
    (hkeeps : Keeps digits place whole fraction exponent) (hc : Canonical m e) (hm : 0 < m)
    (h : IsNumeral m e digits place) (negative : Bool) :
    ofDecimal negative (whole ++ fraction) (exponent.getD 0 - fraction.length) =
      .finite negative m e hc := by
  refine ofDecimal_of_rounds hc hm ?_ (hkeeps.value ▸ h.rounds) negative
  exact fun c hc => (List.mem_append.1 hc).elim (hkeeps.layout.isDigit_whole c)
    (hkeeps.layout.isDigit_fraction c)

/-- The text of a number without its sign. -/
def body (style : TextStyle) (mantissa : ℕ) (exponent : ℤ) : List Char :=
  if mantissa = 0 then ['0', '.', '0']
  else
    let (digits, place) := Shortest.digits mantissa exponent
    if style.leastPositional < place && place ≤ style.positionalEnd then positional digits place
    else scientific digits place

theorem body_zero (style : TextStyle) (e : ℤ) :
    body style 0 e = laidOut ['0'] ['0'] none := by
  rw [body, if_pos rfl]
  rfl

theorem body_of_ne (hm : m ≠ 0) (style : TextStyle) (e : ℤ) :
    body style m e =
      if style.leastPositional < (Shortest.digits m e).2 &&
          (Shortest.digits m e).2 ≤ style.positionalEnd then
        positional (Shortest.digits m e).1 (Shortest.digits m e).2
      else scientific (Shortest.digits m e).1 (Shortest.digits m e).2 := by
  unfold body
  rw [if_neg hm]

theorem textOf_finite (style : TextStyle) (negative : Bool) (hc : Canonical m e) :
    (Binary64.finite negative m e hc).textOf style =
      String.ofList (if negative then '-' :: body style m e else body style m e) := rfl

/-- Every number is laid out so that its text is read as the number. -/
theorem body_eq_laidOut (hc : Canonical m e) (style : TextStyle) :
    ∃ whole fraction exponent, IsLayout whole fraction exponent ∧
      body style m e = laidOut whole fraction exponent ∧
      ∀ negative, ofDecimal negative (whole ++ fraction) (exponent.getD 0 - fraction.length) =
        .finite negative m e hc := by
  by_cases hm : m = 0
  · subst hm
    obtain rfl : e = leastExponent := hc.normal.resolve_left (by decide)
    have hlayout : IsLayout ['0'] ['0'] none :=
      ⟨isDigit_of_mem_zeros 1, isDigit_of_mem_zeros 1, .inl rfl, .inl (List.cons_ne_nil _ _)⟩
    exact ⟨['0'], ['0'], none, hlayout, body_zero style _, fun _ => rfl⟩
  · have hpos := Nat.pos_of_ne_zero hm
    have hnumeral := Shortest.isNumeral_digits hc hpos
    rw [body_of_ne hm]
    generalize Shortest.digits m e = numeral at hnumeral ⊢
    obtain ⟨digits, place⟩ := numeral
    dsimp only at hnumeral ⊢
    split
    · obtain ⟨whole, fraction, hkeeps, heq⟩ := positional_eq_laidOut hnumeral
      exact ⟨whole, fraction, none, hkeeps.layout, heq, hkeeps.ofDecimal_eq hc hpos hnumeral⟩
    · obtain ⟨whole, fraction, hkeeps, heq⟩ := scientific_eq_laidOut hnumeral
      exact ⟨whole, fraction, _, hkeeps.layout, heq, hkeeps.ofDecimal_eq hc hpos hnumeral⟩

end Binary64
end WorkflowDispatch
