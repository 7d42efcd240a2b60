import Mathlib.Data.List.TakeWhile
import WorkflowDispatch.Proofs.Binary64.Layout
import WorkflowDispatch.Proofs.Json.Spelling
/-!
Numbers in documents.  An integer is read as the integer that was written, and a floating-point
number as the very same number.
-/

namespace WorkflowDispatch
namespace Json

open Reader

/-! ## Integers -/

theorem number?_of_digit {cs : List Char} (h : ∀ c ∈ cs.head?, c.isDigit = true) :
    number? cs = unsigned? false cs := by
  unfold number?
  split
  · exact absurd (h '-' rfl) Bool.false_ne_true
  · rfl

theorem isWhole_decimalNat (n : Nat) : isWhole (Text.decimalNat n) = true := by
  by_cases hn : n = 0
  · rw [hn]
    decide
  · obtain ⟨d, ds, hd, hne⟩ := Text.head_of_decimalNat hn
    rw [isWhole, hd]
    simp [hne]

theorem unsigned?_decimalNat (negative : Bool) (n : Nat) :
    unsigned? negative (Text.decimalNat n) = some (.int (if negative then -(n : Int) else n)) := by
  have hdigits : ∀ c ∈ Text.decimalNat n, c.isDigit = true :=
    fun c hc => Text.isDigit_of_mem_decimalNat hc
  have hrest : (Text.decimalNat n).dropWhile Char.isDigit = [] :=
    List.dropWhile_eq_nil_iff.2 hdigits
  have hwhole : (Text.decimalNat n).takeWhile Char.isDigit = Text.decimalNat n :=
    List.takeWhile_eq_self_iff.2 hdigits
  unfold unsigned?
  dsimp only
  rw [hrest, hwhole, isWhole_decimalNat, Text.valueOf_decimalNat]
  rfl

theorem number?_decimalInt (i : Int) : number? (Text.decimalInt i) = some (.int i) := by
  unfold Text.decimalInt
  by_cases hi : i < 0
  · rw [if_pos hi]
    show unsigned? true _ = _
    rw [unsigned?_decimalNat, if_pos rfl]
    congr 2
    omega
  · rw [if_neg hi]
    have hdigits : ∀ c ∈ Text.decimalNat i.natAbs, c.isDigit = true :=
      fun c hc => Text.isDigit_of_mem_decimalNat hc
    rw [number?_of_digit fun c hc => hdigits c (List.mem_of_mem_head? hc), unsigned?_decimalNat,
      if_neg (by decide)]
    congr 2
    omega

theorem isNumberChar_of_mem_decimalInt {i : Int} {c : Char} (h : c ∈ Text.decimalInt i) :
    isNumberChar c = true := by
  have hdigit : ∀ d ∈ Text.decimalNat i.natAbs, isNumberChar d = true := by
    intro d hd
    rw [isNumberChar, Text.isDigit_of_mem_decimalNat hd, Bool.true_or]
  unfold Text.decimalInt at h
  split at h
  · rcases List.mem_cons.1 h with rfl | h
    · rfl
    · exact hdigit c h
  · exact hdigit c h

theorem spells_int (i : Int) : Spells (.document (.int i)) (Text.decimal i).toList := by
  rw [Text.decimal, String.toList_ofList]
  exact .number (number?_decimalInt i) fun c hc => isNumberChar_of_mem_decimalInt hc

/-! ## Floating-point numbers -/

open Binary64 (IsLayout laidOut)

variable {whole fraction : List Char} {exponent : Option ℤ}

theorem isWhole_of_isLayout (h : IsLayout whole fraction exponent) : isWhole whole = true := by
  rcases h.head with rfl | ⟨d, rest, rfl, hd⟩
  · rfl
  · simp [isWhole, hd]

theorem head_of_isLayout (h : IsLayout whole fraction exponent) :
    ∃ d rest, whole = d :: rest ∧ d.isDigit = true := by
  have hdigit := h.isDigit_whole
  rcases h.head with rfl | ⟨d, rest, rfl, -⟩
  · exact ⟨'0', [], rfl, rfl⟩
  · exact ⟨d, rest, rfl, hdigit d List.mem_cons_self⟩

/-- What stands behind the whole part of a layout: a point with a digit, or the letter of an
exponent. -/
theorem tail_of_isLayout (h : IsLayout whole fraction exponent) :
    ∃ tail, laidOut whole fraction exponent = whole ++ tail ∧ Text.Stops Char.isDigit tail ∧
      isFraction tail = true ∧ tail.isEmpty = false := by
  unfold laidOut
  refine ⟨_, List.append_assoc _ _ _, ?_⟩
  have hfraction := h.isDigit_fraction
  cases hf : fraction with
  | nil =>
    obtain ⟨k, rfl⟩ := Option.isSome_iff_exists.1 (h.isFloat.resolve_left fun hne => hne hf)
    refine ⟨fun c hc => ?_, rfl, rfl⟩
    cases hc
    rfl
  | cons d ds =>
    rw [hf] at hfraction
    refine ⟨fun c hc => ?_, ?_, rfl⟩
    · cases hc
      rfl
    · simp [isFraction, hfraction d List.mem_cons_self]

/-- A layout is read as a floating-point number. -/
theorem unsigned?_laidOut (h : IsLayout whole fraction exponent) (negative : Bool) :
    unsigned? negative (laidOut whole fraction exponent) =
      some (.float (Binary64.ofDecimal negative (whole ++ fraction)
        (exponent.getD 0 - fraction.length))) := by
  obtain ⟨d, rest, hd, -⟩ := head_of_isLayout h
  have hne : whole ≠ [] := hd ▸ List.cons_ne_nil d rest
  have hnumeral :=
    Binary64.numeral?_laidOut h.isDigit_whole h.isDigit_fraction hne exponent negative
  obtain ⟨tail, htail, hstops, hpoint, hempty⟩ := tail_of_isLayout h
  rw [htail] at hnumeral ⊢
  unfold unsigned?
  dsimp only
  rw [Text.takeWhile_append_of_stops h.isDigit_whole hstops,
    Text.dropWhile_append_of_stops h.isDigit_whole hstops, isWhole_of_isLayout h, hpoint, hempty,
    hnumeral]
  rfl

theorem isNumberChar_of_isDigit {c : Char} (h : c.isDigit = true) : isNumberChar c = true := by
  rw [isNumberChar, h, Bool.true_or]

theorem isNumberChar_of_mem_exponentText {k : ℤ} {c : Char} (h : c ∈ Binary64.exponentText k) :
    isNumberChar c = true := by
  unfold Binary64.exponentText at h
  rcases List.mem_cons.1 h with rfl | h
  · rfl
  rcases List.mem_cons.1 h with rfl | h
  · split <;> rfl
  · exact isNumberChar_of_isDigit (Text.isDigit_of_mem_padded h)

theorem isNumberChar_of_mem_laidOut (h : IsLayout whole fraction exponent) {c : Char}
    (hc : c ∈ laidOut whole fraction exponent) : isNumberChar c = true := by
  unfold laidOut at hc
  rcases List.mem_append.1 hc with hc | hc
  · rcases List.mem_append.1 hc with hc | hc
    · exact isNumberChar_of_isDigit (h.isDigit_whole c hc)
    · split at hc
      · cases hc
      · rcases List.mem_cons.1 hc with rfl | hc
        · rfl
        · exact isNumberChar_of_isDigit (h.isDigit_fraction c hc)
  · cases exponent with
    | none => cases hc
    | some k => exact isNumberChar_of_mem_exponentText hc

variable {m : ℕ} {e : ℤ}

theorem number?_documentText (hc : Binary64.Canonical m e) (negative : Bool) :
    number? (Binary64.finite negative m e hc).documentText.toList =
      some (.float (.finite negative m e hc)) := by
  obtain ⟨whole, fraction, exponent, hlayout, hbody, hread⟩ :=
    Binary64.body_eq_laidOut hc Binary64.documentStyle
  have hunsigned := unsigned?_laidOut hlayout negative
  rw [hread negative] at hunsigned
  rw [Binary64.documentText, Binary64.textOf_finite, hbody, String.toList_ofList]
  cases negative with
  | true => exact hunsigned
  | false =>
    obtain ⟨d, rest, hd, hdigit⟩ := head_of_isLayout hlayout
    refine (number?_of_digit fun c hc => ?_).trans hunsigned
    rw [hd] at hc
    cases hc
    exact hdigit

theorem isNumberChar_of_mem_documentText (hc : Binary64.Canonical m e) {negative : Bool} {c : Char}
    (h : c ∈ (Binary64.finite negative m e hc).documentText.toList) : isNumberChar c = true := by
  obtain ⟨whole, fraction, exponent, hlayout, hbody, -⟩ :=
    Binary64.body_eq_laidOut hc Binary64.documentStyle
  rw [Binary64.documentText, Binary64.textOf_finite, hbody, String.toList_ofList] at h
  cases negative with
  | true =>
    rcases List.mem_cons.1 h with rfl | h
    · rfl
    · exact isNumberChar_of_mem_laidOut hlayout h
  | false => exact isNumberChar_of_mem_laidOut hlayout h

/-- Every floating-point number is spelled by its text. -/
theorem spells_float (x : Binary64) : Spells (.document (.float x)) x.documentText.toList := by
  cases x with
  | nan => exact .constant (k := ("NaN", .float .nan)) (by simp [constants])
  | infinite negative =>
    cases negative with
    | false => exact .constant (k := ("Infinity", .float (.infinite false))) (by simp [constants])
    | true => exact .constant (k := ("-Infinity", .float (.infinite true))) (by simp [constants])
  | finite negative m e hc =>
    exact .number (number?_documentText hc negative)
      fun c hc' => isNumberChar_of_mem_documentText hc hc'

end Json
end WorkflowDispatch
