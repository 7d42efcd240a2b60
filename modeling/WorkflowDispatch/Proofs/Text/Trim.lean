import Mathlib.Data.List.DropRight
import WorkflowDispatch.Text.Blank
/-!
Trimming leaves nothing to trim.
-/

namespace WorkflowDispatch
namespace Text

theorem trimRight_trimRight (p : Char → Bool) (cs : List Char) :
    trimRight p (trimRight p cs) = trimRight p cs :=
  List.rdropWhile_idempotent p cs

theorem stripRight_stripRight (c : Char) (s : String) :
    stripRight c (stripRight c s) = stripRight c s := by
  unfold stripRight
  rw [String.toList_ofList, trimRight_trimRight]

theorem ne_empty_of_not_blank {s : String} (h : isBlankText s = false) : s ≠ "" := by
  rintro rfl
  exact absurd h (by decide)

theorem exists_of_not_blank {s : String} (h : isBlankText s = false) :
    ∃ c ∈ s.toList, isBlank c = false := by
  simpa [isBlankText] using h

/-! ## The ends of a trimmed text -/

variable {p : Char → Bool} {cs : List Char} {c : Char}

theorem trim_of_all (h : ∀ c ∈ cs, p c = true) : trim p cs = [] := by
  rw [trim, trimLeft, List.dropWhile_eq_nil_iff.2 h]
  rfl

theorem head_of_trimLeft (h : (trimLeft p cs).head? = some c) : p c = false := by
  have hhead := List.head?_dropWhile_not p cs
  rw [trimLeft] at h
  rw [h] at hhead
  exact hhead

/-- Trimming at the right end takes nothing from the left one. -/
theorem head_of_trimRight (h : (trimRight p cs).head? = some c) : cs.head? = some c := by
  obtain ⟨rest, hrest⟩ := List.rdropWhile_prefix p (l := cs)
  rw [← hrest, List.head?_append, show (List.rdropWhile p cs).head? = some c from h]
  rfl

/-- Trimming at the left end takes nothing from the right one. -/
theorem last_of_trimLeft (h : (trimLeft p cs).getLast? = some c) : cs.getLast? = some c := by
  obtain ⟨front, hfront⟩ := List.dropWhile_suffix p (l := cs)
  rw [← hfront, List.getLast?_append, show (List.dropWhile p cs).getLast? = some c from h]
  rfl

theorem last_of_trimRight (h : (trimRight p cs).getLast? = some c) : p c = false := by
  rw [trimRight, List.getLast?_reverse] at h
  exact head_of_trimLeft h

theorem head_of_trim (h : (trim p cs).head? = some c) : p c = false :=
  head_of_trimLeft (head_of_trimRight h)

theorem trimLeft_of_head (h : ∀ c, cs.head? = some c → p c = false) : trimLeft p cs = cs := by
  cases cs with
  | nil => rfl
  | cons c rest => exact List.dropWhile_cons_of_neg (by simp [h c rfl])

/-- A blank front is all that is trimmed of a text that goes on with something else. -/
theorem trimLeft_append (front : List Char) (h : ∀ c, cs.head? = some c → p c = false) :
    trimLeft p (front ++ cs) = trimLeft p front ++ cs := by
  unfold trimLeft
  rw [List.dropWhile_append]
  split
  · next hempty =>
    rw [List.isEmpty_iff.1 hempty]
    exact trimLeft_of_head h
  · rfl

theorem trimRight_of_last (h : ∀ c, cs.getLast? = some c → p c = false) : trimRight p cs = cs := by
  have hhead : ∀ c, cs.reverse.head? = some c → p c = false := fun c hc =>
    h c (List.head?_reverse ▸ hc)
  unfold trimRight
  rw [show cs.reverse.dropWhile p = cs.reverse from trimLeft_of_head hhead, List.reverse_reverse]

theorem trim_trim (p : Char → Bool) (cs : List Char) : trim p (trim p cs) = trim p cs := by
  have hleft : trimLeft p (trim p cs) = trim p cs := trimLeft_of_head fun _ => head_of_trim
  rw [trim, hleft]
  exact trimRight_trimRight p (trimLeft p cs)

theorem strip_strip (s : String) : strip (strip s) = strip s := by
  unfold strip
  rw [String.toList_ofList, trim_trim]

/-! ## What is trimmed away -/

theorem exists_trimRight (p : Char → Bool) (cs : List Char) :
    ∃ back, cs = trimRight p cs ++ back ∧ ∀ c ∈ back, p c = true := by
  refine ⟨(cs.reverse.takeWhile p).reverse, ?_, fun c hc => ?_⟩
  · rw [trimRight, ← List.reverse_append, List.takeWhile_append_dropWhile, List.reverse_reverse]
  · exact List.mem_takeWhile_imp (List.mem_reverse.1 hc)

theorem exists_trim (p : Char → Bool) (cs : List Char) :
    ∃ front back, cs = front ++ (trim p cs ++ back) ∧ (∀ c ∈ front, p c = true) ∧
      ∀ c ∈ back, p c = true := by
  obtain ⟨back, hback, hall⟩ := exists_trimRight p (trimLeft p cs)
  refine ⟨cs.takeWhile p, back, ?_, fun c hc => List.mem_takeWhile_imp hc, hall⟩
  rw [trim, ← hback]
  exact (List.takeWhile_append_dropWhile ..).symm

theorem trimRight_append {back : List Char} (h : ∀ c ∈ back, p c = true) (cs : List Char) :
    trimRight p (cs ++ back) = trimRight p cs := by
  have hreverse : ∀ c ∈ back.reverse, p c = true := fun c hc => h c (List.mem_reverse.1 hc)
  rw [trimRight, List.reverse_append, List.dropWhile_append_of_pos hreverse, trimRight]

/-- What stands between the two ends is what is left, if there is nothing to trim in it. -/
theorem trim_append {front back : List Char} (hfront : ∀ c ∈ front, p c = true)
    (hback : ∀ c ∈ back, p c = true) (hhead : ∀ c, cs.head? = some c → p c = false)
    (hlast : ∀ c, cs.getLast? = some c → p c = false) : trim p (front ++ (cs ++ back)) = cs := by
  rw [trim, trimLeft, List.dropWhile_append_of_pos hfront]
  cases cs with
  | nil => exact trim_of_all hback
  | cons c rest =>
    rw [show ((c :: rest) ++ back).dropWhile p = (c :: rest) ++ back from
      trimLeft_of_head fun _ hc => hhead _ hc, trimRight_append hback, trimRight_of_last hlast]

/-! ## One character at an end -/

/-- A character so many times. -/
def repeated (c : Char) (n : Nat) : String := String.ofList (List.replicate n c)

theorem beq_of_mem_repeated {d : Char} {n : Nat} (h : d ∈ (repeated c n).toList) :
    (d == c) = true := by
  rw [repeated, String.toList_ofList] at h
  exact beq_iff_eq.2 (List.eq_of_mem_replicate h)

/-- A text of nothing but one character. -/
theorem eq_repeated_of_all {ds : List Char} (h : ∀ d ∈ ds, (d == c) = true) :
    String.ofList ds = repeated c ds.length := by
  have hreplicate : ds = List.replicate ds.length c :=
    List.eq_replicate_of_mem fun d hd => beq_iff_eq.1 (h d hd)
  exact congrArg String.ofList hreplicate

theorem stripRight_append_repeated (c : Char) (s : String) (n : Nat) :
    stripRight c (s ++ repeated c n) = stripRight c s := by
  unfold stripRight
  rw [String.toList_append, trimRight_append fun _ => beq_of_mem_repeated]

theorem stripLeft_repeated_append (c : Char) (s : String) (n : Nat) :
    stripLeft c (repeated c n ++ s) = stripLeft c s := by
  unfold stripLeft trimLeft
  rw [String.toList_append, List.dropWhile_append_of_pos fun _ => beq_of_mem_repeated]

theorem exists_stripRight (c : Char) (s : String) : ∃ n, s = stripRight c s ++ repeated c n := by
  obtain ⟨back, hback, hall⟩ := exists_trimRight (· == c) s.toList
  refine ⟨back.length, ?_⟩
  rw [stripRight, ← eq_repeated_of_all hall, ← String.ofList_append, ← hback, String.ofList_toList]

theorem exists_stripLeft (c : Char) (s : String) : ∃ n, s = repeated c n ++ stripLeft c s := by
  have hall : ∀ d ∈ s.toList.takeWhile (· == c), (d == c) = true := fun _ => List.mem_takeWhile_imp
  refine ⟨(s.toList.takeWhile (· == c)).length, ?_⟩
  rw [stripLeft, ← eq_repeated_of_all hall, ← String.ofList_append, trimLeft,
    List.takeWhile_append_dropWhile, String.ofList_toList]

theorem last_of_stripRight (c : Char) (s : String) :
    (stripRight c s).toList.getLast? ≠ some c := by
  intro h
  rw [stripRight, String.toList_ofList] at h
  have hne := last_of_trimRight h
  simp at hne

theorem head_of_stripLeft (c : Char) (s : String) : (stripLeft c s).toList.head? ≠ some c := by
  intro h
  rw [stripLeft, String.toList_ofList] at h
  have hne := head_of_trimLeft h
  simp at hne

end Text
end WorkflowDispatch
