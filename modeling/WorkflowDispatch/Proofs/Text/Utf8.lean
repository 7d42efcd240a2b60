import WorkflowDispatch.Text.Utf8
/-!
A text is read back from its bytes.  Reading goes character by character, so the statement about one
character is about all bytes that begin with those of the character.
-/

namespace WorkflowDispatch
namespace Text
namespace Utf8

/-! ## Leading bytes -/

theorem Lead.ofByte?_one {b : UInt8} (h : b.toNat < 0x80) :
    Lead.ofByte? b = some ⟨b.toNat, 0, 0x80, 0xBF⟩ := by
  unfold ofByte?
  dsimp only
  rw [if_pos h]

theorem Lead.ofByte?_two {b : UInt8} (hlow : 0xC2 ≤ b.toNat) (hhigh : b.toNat < 0xE0) :
    Lead.ofByte? b = some ⟨b.toNat - 0xC0, 1, 0x80, 0xBF⟩ := by
  unfold ofByte?
  dsimp only
  rw [if_neg (by omega), if_neg (by omega), if_pos hhigh]

/-- Two bytes narrow what may follow them: the one that would begin overlong forms, and the one that
would begin surrogates. -/
theorem Lead.ofByte?_three {b : UInt8} (hlow : 0xE0 ≤ b.toNat) (hhigh : b.toNat < 0xF0) :
    ∃ low high, Lead.ofByte? b = some ⟨b.toNat - 0xE0, 2, low, high⟩ ∧
      low ≤ (if b.toNat = 0xE0 then 0xA0 else 0x80) ∧
      (if b.toNat = 0xED then 0x9F else 0xBF) ≤ high := by
  unfold ofByte?
  dsimp only
  rw [if_neg (by omega), if_neg (by omega), if_neg (by omega)]
  by_cases hfirst : b.toNat = 0xE0
  · rw [if_pos hfirst]
    exact ⟨_, _, by rw [hfirst], by simp [hfirst], by simp [hfirst]⟩
  rw [if_neg hfirst]
  by_cases hsurrogate : b.toNat = 0xED
  · rw [if_pos hsurrogate]
    exact ⟨_, _, by rw [hsurrogate], by simp [hsurrogate], by simp [hsurrogate]⟩
  rw [if_neg hsurrogate, if_pos hhigh]
  exact ⟨_, _, rfl, by simp [hfirst], by simp [hsurrogate]⟩

/-- The first of these leading bytes would begin overlong forms, and the last one numbers past the
last code point. -/
theorem Lead.ofByte?_four {b : UInt8} (hlow : 0xF0 ≤ b.toNat) (hhigh : b.toNat ≤ 0xF4) :
    ∃ low high, Lead.ofByte? b = some ⟨b.toNat - 0xF0, 3, low, high⟩ ∧
      low ≤ (if b.toNat = 0xF0 then 0x90 else 0x80) ∧
      (if b.toNat = 0xF4 then 0x8F else 0xBF) ≤ high := by
  unfold ofByte?
  dsimp only
  rw [if_neg (by omega), if_neg (by omega), if_neg (by omega), if_neg (by omega),
    if_neg (by omega), if_neg (by omega)]
  by_cases hfirst : b.toNat = 0xF0
  · rw [if_pos hfirst]
    exact ⟨_, _, by rw [hfirst], by simp [hfirst], by simp [hfirst]⟩
  rw [if_neg hfirst]
  by_cases hlast : b.toNat = 0xF4
  · rw [if_neg (by omega), if_pos hlast]
    exact ⟨_, _, by rw [hlast], by simp [hlast], by simp [hlast]⟩
  rw [if_pos (by omega)]
  exact ⟨_, _, rfl, by simp [hfirst], by simp [hlast]⟩

/-! ## Bytes behind them -/

theorem continuation_cons {low high : Nat} {b : UInt8} (hlow : low ≤ b.toNat)
    (hhigh : b.toNat ≤ high) (count taken code : Nat) (rest : List UInt8) :
    continuation low high (count + 1) taken code (b :: rest) =
      continuation 0x80 0xBF count (taken + 1) (code * 0x40 + (b.toNat - 0x80)) rest := by
  rw [continuation, decide_eq_true hlow, decide_eq_true hhigh]
  rfl

/-- The byte for six bits that do not come first. -/
def trail (n : Nat) : UInt8 := UInt8.ofNat (n % 64 + 128)

theorem toNat_trail (n : Nat) : (trail n).toNat = n % 64 + 128 := by
  have h : n % 64 + 128 < 256 := by omega
  exact UInt8.toNat_ofNat_of_lt' h

/-- Six more bits are read when the byte is within the bounds for its place. -/
theorem continuation_trail {low high n : Nat} (hlow : low ≤ n % 64 + 128)
    (hhigh : n % 64 + 128 ≤ high) (count taken code : Nat) (rest : List UInt8) :
    continuation low high (count + 1) taken code (trail n :: rest) =
      continuation 0x80 0xBF count (taken + 1) (code * 0x40 + n % 64) rest := by
  rw [continuation_cons (by rw [toNat_trail]; exact hlow) (by rw [toNat_trail]; exact hhigh),
    toNat_trail, Nat.add_sub_cancel]

/-- Behind the second byte every byte of this kind is within the bounds. -/
theorem continuation_trail_plain (n count taken code : Nat) (rest : List UInt8) :
    continuation 0x80 0xBF (count + 1) taken code (trail n :: rest) =
      continuation 0x80 0xBF count (taken + 1) (code * 0x40 + n % 64) rest :=
  continuation_trail (by omega) (by omega) count taken code rest

theorem decodeFrom_of_lead {b : UInt8} {bytes rest : List UInt8} {lead : Lead} {code : Nat}
    (hlead : Lead.ofByte? b = some lead)
    (hcode : continuation lead.low lead.high lead.following 0 lead.bits bytes = .ok (code, rest))
    (position : Nat) :
    decodeFrom position (b :: bytes) =
      (decodeFrom (position + 1 + lead.following) rest).map (Char.ofNat code :: ·) := by
  rw [decodeFrom, hlead]
  dsimp only
  split
  · next h => rw [hcode] at h; cases h
  · next h =>
    rw [hcode] at h
    cases h
    rfl

/-! ## Characters

A character is encoded in one to four bytes by the size of its number, and each size has its
lemma. -/

theorem toNat_lead {n : Nat} (h : n < 256) : (UInt8.ofNat n).toNat = n :=
  UInt8.toNat_ofNat_of_lt' h

variable {n : Nat}

theorem decodeFrom_one (h : n ≤ 0x7F) (rest : List UInt8) (position : Nat) :
    decodeFrom position (UInt8.ofNat n :: rest) =
      (decodeFrom (position + 1) rest).map (Char.ofNat n :: ·) := by
  have hb : (UInt8.ofNat n).toNat = n := toNat_lead (by omega)
  have hlead := Lead.ofByte?_one (b := UInt8.ofNat n) (by omega)
  rw [hb] at hlead
  exact decodeFrom_of_lead hlead rfl position

theorem decodeFrom_two (hlow : 0x7F < n) (hhigh : n ≤ 0x7FF) (rest : List UInt8)
    (position : Nat) :
    decodeFrom position (UInt8.ofNat (n / 64 % 32 + 0xC0) :: trail n :: rest) =
      (decodeFrom (position + 2) rest).map (Char.ofNat n :: ·) := by
  have hb : (UInt8.ofNat (n / 64 % 32 + 0xC0)).toNat = n / 64 % 32 + 0xC0 :=
    toNat_lead (by omega)
  have hlead := Lead.ofByte?_two (b := UInt8.ofNat (n / 64 % 32 + 0xC0)) (by omega) (by omega)
  rw [hb, Nat.add_sub_cancel] at hlead
  have hsecond := continuation_trail_plain n 0 0 (n / 64 % 32) rest
  have hcode : n / 64 % 32 * 0x40 + n % 64 = n := by omega
  rw [hcode] at hsecond
  exact decodeFrom_of_lead hlead hsecond position

theorem decodeFrom_three (hlow : 0x7FF < n) (hhigh : n ≤ 0xFFFF)
    (hsurrogate : n < 0xD800 ∨ 0xDFFF < n) (rest : List UInt8) (position : Nat) :
    decodeFrom position
        (UInt8.ofNat (n / 4096 % 16 + 0xE0) :: trail (n / 64) :: trail n :: rest) =
      (decodeFrom (position + 3) rest).map (Char.ofNat n :: ·) := by
  have hb : (UInt8.ofNat (n / 4096 % 16 + 0xE0)).toNat = n / 4096 % 16 + 0xE0 :=
    toNat_lead (by omega)
  obtain ⟨low, high, hlead, hl, hh⟩ :=
    Lead.ofByte?_three (b := UInt8.ofNat (n / 4096 % 16 + 0xE0)) (by omega) (by omega)
  rw [hb] at hl hh
  rw [hb, Nat.add_sub_cancel] at hlead
  -- The bounds for the second byte keep out nothing but overlong forms and surrogates.
  have hfrom : low ≤ n / 64 % 64 + 128 := by split at hl <;> omega
  have hto : n / 64 % 64 + 128 ≤ high := by split at hh <;> omega
  have hsecond := continuation_trail hfrom hto 1 0 (n / 4096 % 16) (trail n :: rest)
  have hthird := continuation_trail_plain n 0 1 (n / 4096 % 16 * 0x40 + n / 64 % 64) rest
  have hcode : (n / 4096 % 16 * 0x40 + n / 64 % 64) * 0x40 + n % 64 = n := by omega
  rw [hcode] at hthird
  exact decodeFrom_of_lead hlead (hsecond.trans hthird) position

theorem decodeFrom_four (hlow : 0xFFFF < n) (hhigh : n < 0x110000) (rest : List UInt8)
    (position : Nat) :
    decodeFrom position
        (UInt8.ofNat (n / 262144 % 8 + 0xF0) :: trail (n / 4096) :: trail (n / 64) :: trail n ::
          rest) =
      (decodeFrom (position + 4) rest).map (Char.ofNat n :: ·) := by
  have hb : (UInt8.ofNat (n / 262144 % 8 + 0xF0)).toNat = n / 262144 % 8 + 0xF0 :=
    toNat_lead (by omega)
  obtain ⟨low, high, hlead, hl, hh⟩ :=
    Lead.ofByte?_four (b := UInt8.ofNat (n / 262144 % 8 + 0xF0)) (by omega) (by omega)
  rw [hb] at hl hh
  rw [hb, Nat.add_sub_cancel] at hlead
  have hfrom : low ≤ n / 4096 % 64 + 128 := by split at hl <;> omega
  have hto : n / 4096 % 64 + 128 ≤ high := by split at hh <;> omega
  have hsecond := continuation_trail hfrom hto 2 0 (n / 262144 % 8)
    (trail (n / 64) :: trail n :: rest)
  have hthird := continuation_trail_plain (n / 64) 1 1
    (n / 262144 % 8 * 0x40 + n / 4096 % 64) (trail n :: rest)
  have hfourth := continuation_trail_plain n 0 2
    ((n / 262144 % 8 * 0x40 + n / 4096 % 64) * 0x40 + n / 64 % 64) rest
  have hcode :
      ((n / 262144 % 8 * 0x40 + n / 4096 % 64) * 0x40 + n / 64 % 64) * 0x40 + n % 64 = n := by
    omega
  rw [hcode] at hfourth
  exact decodeFrom_of_lead hlead (hsecond.trans (hthird.trans hfourth)) position

/-- What a character is encoded in, by its number. -/
theorem utf8EncodeChar_eq (c : Char) :
    String.utf8EncodeChar c =
      if c.toNat ≤ 0x7F then [UInt8.ofNat c.toNat]
      else if c.toNat ≤ 0x7FF then [UInt8.ofNat (c.toNat / 64 % 32 + 0xC0), trail c.toNat]
      else if c.toNat ≤ 0xFFFF then
        [UInt8.ofNat (c.toNat / 4096 % 16 + 0xE0), trail (c.toNat / 64), trail c.toNat]
      else
        [UInt8.ofNat (c.toNat / 262144 % 8 + 0xF0), trail (c.toNat / 4096), trail (c.toNat / 64),
          trail c.toNat] := rfl

/-- A character is no half of a surrogate pair, and there are none past the last code point. -/
theorem toNat_bounds (c : Char) :
    (c.toNat < 0xD800 ∨ 0xDFFF < c.toNat) ∧ c.toNat < 0x110000 := by
  have h : c.toNat < 0xD800 ∨ 0xDFFF < c.toNat ∧ c.toNat < 0x110000 := c.valid
  omega

theorem exists_decodeFrom_utf8EncodeChar (c : Char) (rest : List UInt8) (position : Nat) :
    ∃ next, decodeFrom position (String.utf8EncodeChar c ++ rest) =
      (decodeFrom next rest).map (c :: ·) := by
  obtain ⟨hsurrogate, hlast⟩ := toNat_bounds c
  have hc : Char.ofNat c.toNat = c := Char.ofNat_toNat c
  rw [utf8EncodeChar_eq]
  split
  · next h => exact ⟨_, hc ▸ decodeFrom_one h rest position⟩
  · next h =>
    split
    · next h' => exact ⟨_, hc ▸ decodeFrom_two (by omega) h' rest position⟩
    · next h' =>
      split
      · next h'' => exact ⟨_, hc ▸ decodeFrom_three (by omega) h'' hsurrogate rest position⟩
      · next h'' => exact ⟨_, hc ▸ decodeFrom_four (by omega) hlast rest position⟩

theorem decodeFrom_flatMap_utf8EncodeChar (cs : List Char) (position : Nat) :
    decodeFrom position (cs.flatMap String.utf8EncodeChar) = .ok cs := by
  induction cs generalizing position with
  | nil => rw [List.flatMap_nil, decodeFrom]
  | cons c cs ih =>
    obtain ⟨next, hnext⟩ :=
      exists_decodeFrom_utf8EncodeChar c (cs.flatMap String.utf8EncodeChar) position
    rw [List.flatMap_cons, hnext, ih]
    rfl

end Utf8

theorem toList_toUTF8 (s : String) :
    s.toUTF8.data.toList = s.toList.flatMap String.utf8EncodeChar := by
  have h : s.toUTF8 = (String.ofList s.toList).toUTF8 := by rw [String.ofList_toList]
  rw [h]
  exact List.toList_data_toByteArray

theorem decodeUtf8_toUTF8 (s : String) : decodeUtf8 s.toUTF8.data.toList = .ok s := by
  rw [toList_toUTF8, decodeUtf8, Utf8.decodeFrom_flatMap_utf8EncodeChar]
  exact congrArg Except.ok String.ofList_toList

end Text
end WorkflowDispatch
