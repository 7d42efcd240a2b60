import WorkflowDispatch.Json.Writer
import WorkflowDispatch.Proofs.Json.Reader
import WorkflowDispatch.Proofs.Text.Numeral
/-!
Texts in JSON are read as they were written, character by character.
-/

namespace WorkflowDispatch
namespace Json

open Writer Reader

theorem hexDigit?_digitChar {d : Nat} (hd : d < 16) : hexDigit? (Nat.digitChar d) = some d := by
  revert d
  decide

theorem unit?_hex {n : Nat} (hn : n < 0x10000) (rest : List Char) :
    unit? (Text.hex 4 n ++ rest) = some (n, rest) := by
  have hdigits : ((n / 16 / 16 / 16 * 16 + n / 16 / 16 % 16) * 16 + n / 16 % 16) * 16 + n % 16
      = n := by omega
  rw [Text.hex_four hn]
  simp only [List.cons_append, List.nil_append, unit?]
  rw [hexDigit?_digitChar (by omega), hexDigit?_digitChar (by omega),
    hexDigit?_digitChar (by omega), hexDigit?_digitChar (by omega)]
  show some (((n / 16 / 16 / 16 * 16 + n / 16 / 16 % 16) * 16 + n / 16 % 16) * 16 + n % 16, rest)
    = some (n, rest)
  rw [hdigits]

theorem toNat_lt_surrogates_or (c : Char) :
    c.toNat < 0xD800 ∨ 0xE000 ≤ c.toNat ∧ c.toNat < 0x110000 := by
  rcases c.valid with h | ⟨hl, hr⟩
  · exact .inl h
  · exact .inr ⟨hl, hr⟩

/-- A unit that is no surrogate is a character of its own. -/
theorem numbered?_of_not_surrogate {n : Nat} (hn : n < 0x10000) (hs : n < 0xD800 ∨ 0xE000 ≤ n)
    (rest : List Char) : numbered? (Text.hex 4 n ++ rest) = some (Char.ofNat n, rest) := by
  have hb : (decide (n < 0xD800) || decide (0xE000 ≤ n)) = true := by
    rw [Bool.or_eq_true, decide_eq_true_iff, decide_eq_true_iff]
    exact hs
  unfold numbered?
  rw [unit?_hex hn]
  show (if decide (n < 0xD800) || decide (0xE000 ≤ n) then _ else _) = _
  rw [if_pos hb]
  rfl

theorem numbered?_of_pair {high low : Nat} (hh : 0xD800 ≤ high ∧ high < 0xDC00)
    (hl : 0xDC00 ≤ low ∧ low < 0xE000) (rest : List Char) :
    numbered? (Text.hex 4 high ++ (unitEscape low ++ rest)) =
      some (Char.ofNat (0x10000 + (high - 0xD800) * 0x400 + (low - 0xDC00)), rest) := by
  have hb : ¬(decide (high < 0xD800) || decide (0xE000 ≤ high)) = true := by
    rw [Bool.or_eq_true, decide_eq_true_iff, decide_eq_true_iff]
    omega
  have hpair :
      (decide (high < 0xDC00) && decide (0xDC00 ≤ low) && decide (low < 0xE000)) = true := by
    rw [Bool.and_eq_true, Bool.and_eq_true, decide_eq_true_iff, decide_eq_true_iff,
      decide_eq_true_iff]
    exact ⟨⟨hh.2, hl.1⟩, hl.2⟩
  unfold numbered?
  rw [unit?_hex (by omega)]
  show (if decide (high < 0xD800) || decide (0xE000 ≤ high) then _ else
    unit? (Text.hex 4 low ++ rest) >>= _) = _
  rw [if_neg hb, unit?_hex (by omega)]
  show (if decide (high < 0xDC00) && decide (0xDC00 ≤ low) && decide (low < 0xE000) then _ else _)
    = _
  rw [if_pos hpair]
  rfl

theorem character?_unitEscape (n : Nat) (rest : List Char) :
    character? (unitEscape n ++ rest) = numbered? (Text.hex 4 n ++ rest) := rfl

/-- The number of a character is written as one escape, or as the two halves of a pair. -/
theorem character?_numbered (c : Char) (rest : List Char) :
    character? (numbered c.toNat ++ rest) = some (c, rest) := by
  have hc := toNat_lt_surrogates_or c
  unfold numbered
  by_cases h : c.toNat < 0x10000
  · rw [if_pos h]
    rw [character?_unitEscape, numbered?_of_not_surrogate h (by omega), Char.ofNat_toNat]
  · -- The two halves give the number back that was split.
    have hnumber : 0x10000 + (0xD800 + (c.toNat - 0x10000) / 0x400 - 0xD800) * 0x400
        + (0xDC00 + (c.toNat - 0x10000) % 0x400 - 0xDC00) = c.toNat := by omega
    rw [if_neg h, List.append_assoc, character?_unitEscape,
      numbered?_of_pair (by omega) (by omega), hnumber, Char.ofNat_toNat]

theorem character?_of_isPlain {c : Char} (h : isPlain c = true) (rest : List Char) :
    character? (c :: rest) = some (c, rest) := by
  unfold character?
  split
  · next heq =>
    obtain ⟨rfl, -⟩ := List.cons.inj heq
    exact absurd h (by decide)
  · next heq =>
    obtain ⟨rfl, rfl⟩ := List.cons.inj heq
    rw [if_pos h]
  · next heq => simp at heq

theorem le_of_shows {charset : Charset} {c : Char} (h : shows charset c = true) :
    0x20 ≤ c.toNat := by
  cases charset with
  | unicode => exact of_decide_eq_true h
  | ascii => exact of_decide_eq_true (Bool.and_eq_true_iff.1 h).1

theorem eq_ofNat_of_toNat_eq {c : Char} {n : Nat} (h : c.toNat = n) : c = Char.ofNat n := by
  rw [← h, Char.ofNat_toNat]

theorem character?_escape (charset : Charset) (c : Char) (rest : List Char) :
    character? (escape charset c ++ rest) = some (c, rest) := by
  unfold escape
  split
  · next h => rw [eq_ofNat_of_toNat_eq h]; rfl
  next hq =>
  split
  · next h => rw [h]; rfl
  next hslash =>
  split
  · next h => rw [h]; rfl
  split
  · next h => rw [h]; rfl
  split
  · next h => rw [h]; rfl
  split
  · next h => rw [eq_ofNat_of_toNat_eq h]; rfl
  split
  · next h => rw [eq_ofNat_of_toNat_eq h]; rfl
  split
  · next h =>
    refine character?_of_isPlain ?_ rest
    rw [isPlain, Bool.and_eq_true, Bool.and_eq_true, bne_iff_ne, bne_iff_ne, decide_eq_true_iff]
    exact ⟨⟨hslash, fun hc => hq (hc ▸ rfl)⟩, le_of_shows h⟩
  · exact character?_numbered c rest

/-! ## Whole texts -/

theorem body?_escape (charset : Charset) (c : Char) (rest : List Char) :
    body? (escape charset c ++ rest) = (body? rest).map (fun r => (c :: r.1, r.2)) := by
  rw [body?]
  split
  · next h =>
    rw [character?_escape] at h
    obtain ⟨rfl, rfl⟩ := Prod.mk.inj (Option.some.inj h)
    rfl
  · next h =>
    rw [character?_escape] at h
    simp at h

theorem body?_quote (rest : List Char) : body? (quote :: rest) = some ([], rest) := by
  rw [body?]
  rfl

theorem body?_flatMap_escape (charset : Charset) (cs rest : List Char) :
    body? (cs.flatMap (escape charset) ++ quote :: rest) = some (cs, rest) := by
  induction cs with
  | nil => exact body?_quote rest
  | cons c cs ih =>
    rw [List.flatMap_cons, List.append_assoc, body?_escape, ih]
    rfl

end Json
end WorkflowDispatch
