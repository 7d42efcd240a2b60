import Mathlib.Algebra.Group.Nat.Defs
import WorkflowDispatch.Text.Numeral
/-!
The digits of numerals, the numbers that they stand for, and the order of numerals of one length.
-/

namespace WorkflowDispatch
namespace Text

/-- The last digit of a numeral that has room for more than one. -/
theorem hex_succ {width : Nat} (hw : 0 < width) (n : Nat) :
    hex (width + 1) n = hex width (n / 16) ++ [Nat.digitChar (n % 16)] := by
  unfold hex
  by_cases hn : n < 16
  · rw [Nat.toDigits_of_lt_base hn, Nat.div_eq_of_lt hn, Nat.mod_eq_of_lt hn, Nat.toDigits_zero,
      List.leftpad, List.leftpad]
    have hzeros : List.replicate width '0' = List.replicate (width - 1) '0' ++ ['0'] := by
      rw [← List.replicate_succ', Nat.sub_add_cancel hw]
    simp only [List.length_cons, List.length_nil, Nat.zero_add, Nat.add_sub_cancel]
    rw [hzeros]
  · rw [Nat.toDigits_of_base_le (by decide) (Nat.le_of_not_lt hn), List.leftpad, List.leftpad,
      List.length_append, List.length_singleton, Nat.add_sub_add_right, List.append_assoc]

theorem hex_four {n : Nat} (hn : n < 0x10000) :
    hex 4 n =
      [Nat.digitChar (n / 16 / 16 / 16), Nat.digitChar (n / 16 / 16 % 16),
        Nat.digitChar (n / 16 % 16), Nat.digitChar (n % 16)] := by
  have hfirst : hex 1 (n / 16 / 16 / 16) = [Nat.digitChar (n / 16 / 16 / 16)] := by
    rw [hex, Nat.toDigits_of_lt_base (by omega)]
    rfl
  rw [hex_succ (by decide), hex_succ (by decide), hex_succ (by decide), hfirst]
  rfl

theorem exists_digitChar_of_mem_toDigits {n : Nat} {c : Char} (h : c ∈ Nat.toDigits 16 n) :
    ∃ d < 16, c = Nat.digitChar d := by
  induction n using Nat.strongRecOn with
  | ind n ih =>
    by_cases hn : n < 16
    · rw [Nat.toDigits_of_lt_base hn, List.mem_singleton] at h
      exact ⟨n, hn, h⟩
    · rw [Nat.toDigits_of_base_le (by decide) (Nat.le_of_not_lt hn)] at h
      rcases List.mem_append.1 h with h | h
      · exact ih (n / 16) (by omega) h
      · exact ⟨n % 16, Nat.mod_lt n (by decide), List.mem_singleton.1 h⟩

theorem exists_digitChar_of_mem_hex {width n : Nat} {c : Char} (h : c ∈ hex width n) :
    ∃ d < 16, c = Nat.digitChar d := by
  rcases List.mem_append.1 h with h | h
  · exact ⟨0, by decide, (List.mem_replicate.1 h).2⟩
  · exact exists_digitChar_of_mem_toDigits h

theorem valueOf_decimalNat (n : Nat) : valueOf (decimalNat n) = n :=
  Nat.ofDigitChars_ten_toDigits

theorem isDigit_of_mem_decimalNat {n : Nat} {c : Char} (h : c ∈ decimalNat n) : c.isDigit :=
  Nat.isDigit_of_mem_toDigits (by decide) (by decide) h

theorem digitChar_ne_zero {d : Nat} (h : d < 10) (hd : d ≠ 0) : Nat.digitChar d ≠ '0' := by
  revert d
  decide

/-- The numeral of a number other than zero does not begin with a zero. -/
theorem head_of_decimalNat {n : Nat} (hn : n ≠ 0) :
    ∃ d ds, decimalNat n = d :: ds ∧ d ≠ '0' := by
  induction n using Nat.strongRecOn with
  | ind n ih =>
    by_cases h : n < 10
    · exact ⟨_, _, Nat.toDigits_of_lt_base h, digitChar_ne_zero h hn⟩
    · obtain ⟨d, ds, hd, hne⟩ := ih (n / 10) (by omega) (by omega)
      refine ⟨d, ds ++ [Nat.digitChar (n % 10)], ?_, hne⟩
      rw [decimalNat, Nat.toDigits_of_base_le (by decide) (Nat.le_of_not_lt h)]
      show decimalNat (n / 10) ++ _ = _
      rw [hd]
      rfl

/-! ## The number that digits stand for -/

theorem valueOf_append (a b : List Char) :
    valueOf (a ++ b) = valueOf a * 10 ^ b.length + valueOf b := by
  have hsplit : valueOf (a ++ b) = Nat.ofDigitChars 10 b (valueOf a) :=
    Nat.ofDigitChars_append 0
  rw [hsplit, Nat.ofDigitChars_eq_ofDigitChars_zero, Nat.mul_comm]
  rfl

theorem valueOf_cons (d : Char) (ds : List Char) :
    valueOf (d :: ds) = digitValue d * 10 ^ ds.length + valueOf ds := by
  have hone : valueOf [d] = digitValue d := Nat.zero_add _
  rw [← hone, ← valueOf_append]
  rfl

theorem valueOf_zeros (k : Nat) : valueOf (List.replicate k '0') = 0 := by
  induction k with
  | zero => rfl
  | succ k ih =>
    have hzero : digitValue '0' = 0 := rfl
    rw [List.replicate_succ, valueOf_cons, ih, hzero, Nat.zero_mul]

theorem valueOf_zeros_append (k : Nat) (ds : List Char) :
    valueOf (List.replicate k '0' ++ ds) = valueOf ds := by
  rw [valueOf_append, valueOf_zeros, Nat.zero_mul, Nat.zero_add]

theorem valueOf_dropZeros (ds : List Char) : valueOf (ds.dropWhile (· == '0')) = valueOf ds := by
  induction ds with
  | nil => rfl
  | cons d ds ih =>
    by_cases hd : d = '0'
    · have hzero : digitValue '0' = 0 := rfl
      rw [List.dropWhile_cons_of_pos (by simp [hd]), ih, valueOf_cons, hd, hzero, Nat.zero_mul,
        Nat.zero_add]
    · rw [List.dropWhile_cons_of_neg (by simp [hd])]

theorem digitValue_lt {d : Char} (h : d.isDigit = true) : digitValue d < 10 := by
  have h := (Bool.and_eq_true_iff.1 h).2
  have hle : d.toNat ≤ '9'.toNat := UInt32.le_iff_toNat_le.1 (of_decide_eq_true h)
  have hnine : '9'.toNat = 57 := rfl
  have hzero : '0'.toNat = 48 := rfl
  unfold digitValue
  omega

theorem digitValue_pos {d : Char} (h : d.isDigit = true) (hd : d ≠ '0') : 0 < digitValue d := by
  have h := (Bool.and_eq_true_iff.1 h).1
  have hle : '0'.toNat ≤ d.toNat := UInt32.le_iff_toNat_le.1 (of_decide_eq_true h)
  have hne : d.toNat ≠ '0'.toNat := fun heq => hd (Char.toNat_inj.1 heq)
  unfold digitValue
  omega

theorem valueOf_lt {ds : List Char} (h : ∀ c ∈ ds, c.isDigit = true) :
    valueOf ds < 10 ^ ds.length := by
  induction ds with
  | nil => exact Nat.one_pos
  | cons d ds ih =>
    have hd := digitValue_lt (h d List.mem_cons_self)
    have hds := ih fun c hc => h c (List.mem_cons_of_mem d hc)
    have hmul : digitValue d * 10 ^ ds.length ≤ 9 * 10 ^ ds.length :=
      Nat.mul_le_mul_right _ (by omega)
    rw [valueOf_cons, List.length_cons, Nat.pow_succ]
    omega

/-- A first digit other than zero tells the size of the number. -/
theorem le_valueOf {d : Char} {ds : List Char} (h : d.isDigit = true) (hd : d ≠ '0') :
    10 ^ ds.length ≤ valueOf (d :: ds) := by
  have hmul : 1 * 10 ^ ds.length ≤ digitValue d * 10 ^ ds.length :=
    Nat.mul_le_mul_right _ (digitValue_pos h hd)
  rw [valueOf_cons]
  omega

/-- A numeral has no more digits than its number needs. -/
theorem pow_le_of_length_decimalNat {n : Nat} (hn : 0 < n) :
    10 ^ ((decimalNat n).length - 1) ≤ n := by
  by_cases hone : (decimalNat n).length ≤ 1
  · rw [Nat.sub_eq_zero_of_le hone]
    exact hn
  · refine Nat.le_of_not_lt fun hlt => ?_
    have hle : (decimalNat n).length ≤ (decimalNat n).length - 1 :=
      (Nat.length_toDigits_le_iff (by decide) (by omega)).2 hlt
    omega

/-- Padding does not change the number. -/
theorem valueOf_padded (width n : Nat) : valueOf (padded width n) = n := by
  rw [padded, List.leftpad, valueOf_zeros_append, valueOf_decimalNat]

theorem isDigit_of_mem_padded {width n : Nat} {c : Char} (h : c ∈ padded width n) :
    c.isDigit = true := by
  rcases List.mem_append.1 h with h | h
  · rw [List.eq_of_mem_replicate h]
    rfl
  · exact isDigit_of_mem_decimalNat h

theorem padded_ne_nil (width n : Nat) : padded width n ≠ [] :=
  List.append_ne_nil_of_right_ne_nil _ (List.ne_nil_of_length_pos Nat.length_toDigits_pos)

/-! ## The order of numerals -/

theorem length_padded {width n : Nat} (hw : 0 < width) (h : n < 10 ^ width) :
    (padded width n).length = width := by
  rw [padded, List.length_leftpad]
  exact Nat.max_eq_left ((Nat.length_toDigits_le_iff (by decide) hw).2 h)

theorem digitValue_inj {c d : Char} (hc : c.isDigit = true) (hd : d.isDigit = true)
    (h : digitValue c = digitValue d) : c = d := by
  have hzero : ∀ {e : Char}, e.isDigit = true → '0'.toNat ≤ e.toNat := fun he =>
    UInt32.le_iff_toNat_le.1 (of_decide_eq_true (Bool.and_eq_true_iff.1 he).1)
  have hlow := hzero hc
  have hlow' := hzero hd
  unfold digitValue at h
  exact Char.toNat_inj.1 (by omega)

/-- Of two numerals with as many digits, the one for the greater number is the greater text. -/
theorem lt_of_valueOf_lt {a b : List Char} (ha : ∀ c ∈ a, c.isDigit = true)
    (hb : ∀ c ∈ b, c.isDigit = true) (hlen : a.length = b.length) (h : valueOf a < valueOf b) :
    a < b := by
  induction a generalizing b with
  | nil =>
    rw [List.eq_nil_of_length_eq_zero hlen.symm] at h
    exact absurd h (Nat.lt_irrefl _)
  | cons x xs ih =>
    cases b with
    | nil => cases hlen
    | cons y ys =>
      have hx := ha x List.mem_cons_self
      have hy := hb y List.mem_cons_self
      have hxs : ∀ c ∈ xs, c.isDigit = true := fun c hc => ha c (List.mem_cons_of_mem x hc)
      have hys : ∀ c ∈ ys, c.isDigit = true := fun c hc => hb c (List.mem_cons_of_mem y hc)
      have hlen : xs.length = ys.length := Nat.succ.inj hlen
      rw [valueOf_cons, valueOf_cons, hlen] at h
      rw [List.cons_lt_cons_iff]
      rcases Nat.lt_trichotomy (digitValue x) (digitValue y) with hlt | heq | hgt
      · left
        unfold digitValue at hlt
        show x.toNat < y.toNat
        omega
      · right
        rw [heq] at h
        exact ⟨digitValue_inj hx hy heq, ih hxs hys hlen (by omega)⟩
      · have hbound := valueOf_lt hys
        have hmul := Nat.mul_le_mul_right (10 ^ ys.length) hgt
        rw [Nat.succ_mul] at hmul
        omega

/-- What stands behind two texts of one length does not matter to their order. -/
theorem append_lt_append {a b : List Char} (h : a < b) (hlen : a.length = b.length)
    (c d : List Char) : a ++ c < b ++ d := by
  induction a generalizing b with
  | nil =>
    rw [List.eq_nil_of_length_eq_zero hlen.symm] at h
    exact absurd h (List.lt_irrefl [])
  | cons x xs ih =>
    cases b with
    | nil => cases hlen
    | cons y ys =>
      rw [List.cons_lt_cons_iff] at h
      rw [List.cons_append, List.cons_append, List.cons_lt_cons_iff]
      rcases h with h | ⟨hxy, h⟩
      · exact .inl h
      · exact .inr ⟨hxy, ih h (Nat.succ.inj hlen)⟩

theorem padded_append_lt {width m n : Nat} (hw : 0 < width) (h : m < n) (hn : n < 10 ^ width)
    (a b : List Char) : padded width m ++ a < padded width n ++ b := by
  have hlen : (padded width m).length = (padded width n).length := by
    rw [length_padded hw (by omega), length_padded hw hn]
  have hlt : padded width m < padded width n := by
    apply lt_of_valueOf_lt (fun _ => isDigit_of_mem_padded) (fun _ => isDigit_of_mem_padded) hlen
    rw [valueOf_padded, valueOf_padded]
    exact h
  exact append_lt_append hlt hlen a b

/-! ## The characters in front of a text -/

/-- The property of the characters before ends where the rest begins. -/
def Stops (p : Char → Bool) (rest : List Char) : Prop := ∀ c ∈ rest.head?, p c = false

theorem takeWhile_append_of_stops {p : Char → Bool} {cs rest : List Char}
    (hc : ∀ c ∈ cs, p c = true) (hrest : Stops p rest) : (cs ++ rest).takeWhile p = cs := by
  rw [List.takeWhile_append_of_pos hc]
  cases rest with
  | nil => rw [List.takeWhile_nil, List.append_nil]
  | cons c rest => rw [List.takeWhile_cons_of_neg (by simp [hrest c rfl]), List.append_nil]

theorem dropWhile_append_of_stops {p : Char → Bool} {cs rest : List Char}
    (hc : ∀ c ∈ cs, p c = true) (hrest : Stops p rest) : (cs ++ rest).dropWhile p = rest := by
  rw [List.dropWhile_append_of_pos hc]
  cases rest with
  | nil => rfl
  | cons c rest => rw [List.dropWhile_cons_of_neg (by simp [hrest c rfl])]

end Text
end WorkflowDispatch
