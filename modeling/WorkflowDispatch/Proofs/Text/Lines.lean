import WorkflowDispatch.Proofs.Text.Numeral
import WorkflowDispatch.Text.Quoted
/-!
The lines of a text.  More characters than the line feed end a line.  A quoted text holds none of
them, whatever the text is that was quoted.
-/

namespace WorkflowDispatch
namespace Text

/-- The characters that end a line: the four controls from the line feed to the carriage return, the
information separators but for the last of them, the next line, and the separators of lines and of
paragraphs. -/
def isLineBreak (c : Char) : Bool :=
  let n := c.toNat
  (0x0A ≤ n && n ≤ 0x0D) || (0x1C ≤ n && n ≤ 0x1E) || n == 0x85 || n == 0x2028 || n == 0x2029

/-- The lines of a text, without what ends them.  A carriage return and a line feed behind it end
one line together.  There is no line behind the last line break. -/
def splitLines : List Char → List (List Char)
  | [] => []
  | '\r' :: '\n' :: rest => [] :: splitLines rest
  | c :: rest =>
    if isLineBreak c then [] :: splitLines rest
    else
      match splitLines rest with
      | [] => [[c]]
      | line :: lines => (c :: line) :: lines

/-- Nothing in the text ends a line. -/
def IsUnbroken (cs : List Char) : Prop := ∀ c ∈ cs, isLineBreak c = false

theorem IsUnbroken.append {cs ds : List Char} (hcs : IsUnbroken cs) (hds : IsUnbroken ds) :
    IsUnbroken (cs ++ ds) := List.forall_mem_append.2 ⟨hcs, hds⟩

theorem IsUnbroken.cons {c : Char} {cs : List Char} (hc : isLineBreak c = false)
    (hcs : IsUnbroken cs) : IsUnbroken (c :: cs) := List.forall_mem_cons.2 ⟨hc, hcs⟩

theorem isUnbroken_append {s t : String} (hs : IsUnbroken s.toList) (ht : IsUnbroken t.toList) :
    IsUnbroken (s ++ t).toList := by
  rw [String.toList_append]
  exact hs.append ht

theorem isUnbroken_literal {s : String} (h : s.toList.all (!isLineBreak ·) = true) :
    IsUnbroken s.toList := fun c hc => Bool.not_eq_true' _ ▸ List.all_eq_true.1 h c hc

/-! ## Splitting -/

theorem splitLines_cons {c : Char} (hc : isLineBreak c = false) (rest : List Char) :
    splitLines (c :: rest) =
      match splitLines rest with
      | [] => [[c]]
      | line :: lines => (c :: line) :: lines := by
  rw [splitLines, if_neg (Bool.eq_false_iff.1 hc)]
  rintro rest' rfl -
  exact absurd hc (by decide)

theorem splitLines_lineFeed (rest : List Char) :
    splitLines ('\n' :: rest) = [] :: splitLines rest := by
  rw [splitLines, if_pos (by decide)]
  exact fun _ h => absurd h (by decide)

/-- An unbroken text that is ended by a line feed is a line. -/
theorem splitLines_line {line : List Char} (h : IsUnbroken line) (rest : List Char) :
    splitLines (line ++ '\n' :: rest) = line :: splitLines rest := by
  induction line with
  | nil => exact splitLines_lineFeed rest
  | cons c line ih =>
    obtain ⟨hc, hline⟩ := List.forall_mem_cons.1 h
    rw [List.cons_append, splitLines_cons hc, ih hline]

theorem splitLines_flatMap {lines : List (List Char)} (h : ∀ line ∈ lines, IsUnbroken line) :
    splitLines (lines.flatMap (· ++ ['\n'])) = lines := by
  induction lines with
  | nil => rfl
  | cons line lines ih =>
    obtain ⟨hline, hlines⟩ := List.forall_mem_cons.1 h
    rw [List.flatMap_cons, List.append_assoc, List.singleton_append, splitLines_line hline,
      ih hlines]

-- Two characters that end one line, and one that ends a line of no characters.
example : splitLines "a\r\nb\u2028\x1C".toList = ["a".toList, "b".toList, []] := by
  decide +kernel

/-! ## Quoted text -/

/-- What ends a line is not shown in quoted text. -/
theorem isPrintable_of_isLineBreak {c : Char} (h : isLineBreak c = true) :
    isPrintable c = false := by
  simp only [isLineBreak, Bool.or_eq_true, Bool.and_eq_true, decide_eq_true_eq, beq_iff_eq] at h
  unfold isPrintable
  obtain (((⟨_, hn⟩ | ⟨_, hn⟩) | hn) | hn) | hn := h
  · rw [if_pos (by omega), Bool.and_eq_false_iff]
    exact .inl (decide_eq_false (by omega))
  · rw [if_pos (by omega), Bool.and_eq_false_iff]
    exact .inl (decide_eq_false (by omega))
  all_goals
    rw [hn]
    decide +kernel

theorem isLineBreak_of_shows {style : QuoteStyle} {c : Char} (h : style.shows c = true) :
    isLineBreak c = false := by
  have hprintable : isPrintable c = true := by
    cases style with
    | printable => exact h
    | ascii => exact (Bool.and_eq_true_iff.1 h).2
  refine Bool.eq_false_iff.2 fun hbreak => ?_
  rw [isPrintable_of_isLineBreak hbreak] at hprintable
  cases hprintable

namespace Quoted

theorem isLineBreak_digitChar {d : Nat} (hd : d < 16) : isLineBreak (Nat.digitChar d) = false := by
  revert d
  decide

theorem isUnbroken_hex (width n : Nat) : IsUnbroken (hex width n) := by
  intro c hc
  obtain ⟨d, hd, rfl⟩ := exists_digitChar_of_mem_hex hc
  exact isLineBreak_digitChar hd

theorem isUnbroken_numbered (c : Char) : IsUnbroken (numbered c) := by
  unfold numbered
  dsimp only
  split
  · exact .cons (by decide) (.cons (by decide) (isUnbroken_hex _ _))
  split
  · exact .cons (by decide) (.cons (by decide) (isUnbroken_hex _ _))
  · exact .cons (by decide) (.cons (by decide) (isUnbroken_hex _ _))

theorem isUnbroken_escape (style : QuoteStyle) {delim : Char} (hdelim : isLineBreak delim = false)
    (c : Char) : IsUnbroken (escape style delim c) := by
  unfold escape
  split
  · next h =>
    refine .cons (by decide) (.cons ?_ nofun)
    rcases Bool.or_eq_true_iff.1 h with h | h
    · exact of_decide_eq_true h ▸ hdelim
    · exact of_decide_eq_true h ▸ by decide
  split
  · exact .cons (by decide) (.cons (by decide) nofun)
  split
  · exact .cons (by decide) (.cons (by decide) nofun)
  split
  · exact .cons (by decide) (.cons (by decide) nofun)
  split
  · next h => exact .cons (isLineBreak_of_shows h) nofun
  · exact isUnbroken_numbered c

theorem isLineBreak_delimiter (cs : List Char) : isLineBreak (delimiter cs) = false := by
  unfold delimiter
  split
  · decide
  · decide

theorem isUnbroken_encode (style : QuoteStyle) (cs : List Char) :
    IsUnbroken (encode style cs) := by
  have hdelim := isLineBreak_delimiter cs
  refine .append (.cons hdelim fun c hc => ?_) (.cons hdelim nofun)
  obtain ⟨d, -, hd⟩ := List.mem_flatMap.1 hc
  exact isUnbroken_escape style hdelim d c hd

end Quoted

/-- Quoting leaves nothing that ends a line. -/
theorem isUnbroken_quote (s : String) : IsUnbroken (quote s).toList := by
  rw [quote, quoteAs, String.toList_ofList]
  exact Quoted.isUnbroken_encode .printable s.toList

end Text
end WorkflowDispatch
