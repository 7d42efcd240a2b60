import Mathlib.Data.List.Infix
import WorkflowDispatch.EnvFile.Read
import WorkflowDispatch.Proofs.Text.Utf8
/-!
Writing a settings file.  A value in single quotes, with a backslash before each backslash and each
single quote of it, is read back whatever it holds: it may go over several lines and may look like
a comment or like other statements.  Main statement: the file that has one such line for each name
says exactly what it was written from, without a warning.
-/

namespace WorkflowDispatch
namespace EnvFile

/-! ## Writing -/

def escapeSingle (c : Char) : List Char :=
  if c = '\\' || c = singleQuote then ['\\', c] else [c]

def escaped (value : String) : List Char := value.toList.flatMap escapeSingle

/-- A line that gives the name its value. -/
def quotedLine (name value : String) : List Char :=
  name.toList ++ '=' :: singleQuote :: (escaped value ++ [singleQuote])

/-- One line for each name, with line breaks between them. -/
def quotedLines : List (String × String) → List Char
  | [] => []
  | [p] => quotedLine p.1 p.2
  | p :: q :: rest => quotedLine p.1 p.2 ++ '\n' :: quotedLines (q :: rest)

/-- The text may end with a line break. -/
def quotedFile (pairs : List (String × String)) (lastBreak : Bool) : String :=
  String.ofList (quotedLines pairs ++ if lastBreak then ['\n'] else [])

/-- A name that can stand in front of an equals sign as it is. -/
structure IsPlainName (name : String) : Prop where
  not_empty : name.toList ≠ []
  nameChars : ∀ c ∈ name.toList, isNameChar c = true
  not_quoted : name.toList.head? ≠ some singleQuote
  not_marked : name.toList.head? ≠ some byteOrderMark

/-! ## Values -/

theorem quotedBody_cons {quote c : Char} (hquote : c ≠ quote) (hbackslash : c ≠ '\\')
    (rest : List Char) :
    quotedBody quote (c :: rest) = (quotedBody quote rest).map fun r => (c :: r.1, r.2) := by
  rw [quotedBody.eq_def]
  dsimp only
  rw [if_neg hquote, if_neg hbackslash]

theorem quotedBody_backslash {quote : Char} (hquote : '\\' ≠ quote) (c : Char)
    (rest : List Char) :
    quotedBody quote ('\\' :: c :: rest) =
      (quotedBody quote rest).map fun r => ('\\' :: c :: r.1, r.2) := by
  rw [quotedBody.eq_def]
  dsimp only
  rw [if_neg hquote, if_pos rfl]

/-- A character is written behind a backslash that is taken away again, or as it is. -/
theorem escapeSingle_cases (c : Char) :
    (escapeSingle c = ['\\', c] ∧ singleEscape c = some c) ∨
      (escapeSingle c = [c] ∧ c ≠ '\\' ∧ c ≠ singleQuote) := by
  unfold escapeSingle singleEscape
  by_cases h : c = '\\' ∨ c = singleQuote
  · left
    simp [h]
  · right
    simpa using h

/-- The quotes close behind the value and not earlier. -/
theorem quotedBody_escaped (cs rest : List Char) :
    quotedBody singleQuote (cs.flatMap escapeSingle ++ singleQuote :: rest) =
      some (cs.flatMap escapeSingle, rest) := by
  have hne : '\\' ≠ singleQuote := by decide
  induction cs with
  | nil =>
    rw [List.flatMap_nil, List.nil_append, quotedBody.eq_def]
    exact if_pos rfl
  | cons c cs ih =>
    rw [List.flatMap_cons, List.append_assoc]
    rcases escapeSingle_cases c with ⟨hescape, _⟩ | ⟨hescape, hbackslash, hquote⟩
    · rw [hescape, List.cons_append, List.cons_append, List.nil_append,
        quotedBody_backslash hne, ih]
      rfl
    · rw [hescape, List.cons_append, List.nil_append, quotedBody_cons hquote hbackslash, ih]
      rfl

theorem unescape_cons {c : Char} (h : c ≠ '\\') (escapes : Char → Option Char)
    (rest : List Char) : unescape escapes (c :: rest) = c :: unescape escapes rest := by
  cases rest with
  | nil => rw [unescape]; exact fun _ _ h' _ => h h'
  | cons d rest => rw [unescape]; exact fun _ _ h' _ => h h'

theorem unescape_escaped (cs : List Char) :
    unescape singleEscape (cs.flatMap escapeSingle) = cs := by
  induction cs with
  | nil => rfl
  | cons c cs ih =>
    rw [List.flatMap_cons]
    rcases escapeSingle_cases c with ⟨hescape, hsingle⟩ | ⟨hescape, hbackslash, _⟩
    · rw [hescape, List.cons_append, List.cons_append, List.nil_append, unescape, hsingle]
      dsimp only
      rw [ih]
    · rw [hescape, List.cons_append, List.nil_append, unescape_cons hbackslash, ih]

theorem readValue_escaped (value : String) (rest : List Char) :
    readValue (singleQuote :: (escaped value ++ singleQuote :: rest)) = .ok (value, rest) := by
  unfold readValue readQuotedValue
  rw [List.head?_cons, if_pos rfl, List.drop_succ_cons, List.drop_zero, escaped,
    quotedBody_escaped]
  dsimp only
  rw [unescape_escaped, String.ofList_toList]

/-! ## Statements -/

theorem skipBlanks_cons {c : Char} (h : isInnerBlank c = false) (rest : List Char) :
    skipBlanks (c :: rest) = c :: rest :=
  List.dropWhile_cons_of_neg (Bool.eq_false_iff.1 h)

theorem isInnerBlank_of_isNameChar {c : Char} (h : isNameChar c = true) :
    isInnerBlank c = false := by
  unfold isNameChar at h
  unfold isInnerBlank
  cases hblank : Text.isBlank c with
  | false => rfl
  | true =>
    rw [hblank] at h
    simp at h

theorem readAssigned_quoted (value : String) (rest : List Char) :
    readAssigned (skipBlanks ('=' :: singleQuote :: (escaped value ++ singleQuote :: rest))) =
      .ok (some value, rest) := by
  have hquote : skipBlanks (singleQuote :: (escaped value ++ singleQuote :: rest)) =
      singleQuote :: (escaped value ++ singleQuote :: rest) := skipBlanks_cons (by decide) _
  have hhash : ¬ some singleQuote = some '#' := by decide
  rw [skipBlanks_cons (by decide)]
  unfold readAssigned
  rw [List.head?_cons, if_pos rfl, List.drop_succ_cons, List.drop_zero]
  dsimp only
  rw [hquote, List.head?_cons, decide_eq_false hhash, Bool.false_and, if_neg Bool.false_ne_true,
    readValue_escaped]
  rfl

variable {name : String}

/-- A name of such letters is not taken for the word in front of a statement, since no blank follows
it. -/
theorem skipExport_name (h : ∀ c ∈ name.toList, isNameChar c = true) (rest : List Char) :
    skipExport (name.toList ++ '=' :: rest) = name.toList ++ '=' :: rest := by
  unfold skipExport
  dsimp only
  refine if_neg fun hcond => ?_
  obtain ⟨htake, hblank⟩ := Bool.and_eq_true_iff.1 hcond
  have htake := of_decide_eq_true htake
  -- An equals sign within the first six letters is none of those of the word.
  have hlength : 6 ≤ name.toList.length := by
    by_contra hlt
    obtain ⟨k, hk⟩ : ∃ k, 6 - name.toList.length = k + 1 := ⟨5 - name.toList.length, by omega⟩
    have hmem : '=' ∈ (name.toList ++ '=' :: rest).take 6 := by
      rw [List.take_append, hk, List.take_succ_cons]
      exact List.mem_append_right _ List.mem_cons_self
    rw [htake] at hmem
    revert hmem
    decide
  rw [List.drop_append_of_le_length hlength] at hblank
  cases hdrop : name.toList.drop 6 with
  | nil =>
    have hequals : isInnerBlank '=' = false := by decide
    rw [hdrop, List.nil_append, List.head?_cons, Option.any_some, hequals] at hblank
    cases hblank
  | cons c cs =>
    have hc := h c (List.mem_of_mem_drop (hdrop ▸ List.mem_cons_self))
    rw [hdrop, List.cons_append, List.head?_cons, Option.any_some,
      isInnerBlank_of_isNameChar hc] at hblank
    cases hblank

theorem readName_plain (h : IsPlainName name) (rest : List Char) :
    readName (name.toList ++ '=' :: rest) = .ok (some name, '=' :: rest) := by
  have hequals : ¬ isNameChar '=' = true := by decide
  have htake : (name.toList ++ '=' :: rest).takeWhile isNameChar = name.toList := by
    rw [List.takeWhile_append_of_pos h.nameChars, List.takeWhile_cons_of_neg hequals,
      List.append_nil]
  have hdrop : (name.toList ++ '=' :: rest).dropWhile isNameChar = '=' :: rest := by
    rw [List.dropWhile_append_of_pos h.nameChars, List.dropWhile_cons_of_neg hequals]
  obtain ⟨c, cs, hcs⟩ := List.exists_cons_of_ne_nil h.not_empty
  have hc : c ≠ '#' := by
    rintro rfl
    have hhash := h.nameChars '#' (hcs ▸ List.mem_cons_self)
    revert hhash
    decide
  have hquote : c ≠ singleQuote := fun hq => h.not_quoted (by rw [hcs, hq]; rfl)
  have hhead : (name.toList ++ '=' :: rest).head? = some c := by rw [hcs]; rfl
  unfold readName
  rw [hhead]
  dsimp only
  rw [if_neg hc, if_neg hquote, htake, hdrop, hcs, List.isEmpty_cons, if_neg Bool.false_ne_true,
    ← hcs, String.ofList_toList]

theorem dropWhile_isBlank_name (h : IsPlainName name) (rest : List Char) :
    (name.toList ++ '=' :: rest).dropWhile Text.isBlank = name.toList ++ '=' :: rest := by
  obtain ⟨c, cs, hcs⟩ := List.exists_cons_of_ne_nil h.not_empty
  have hc : ¬ Text.isBlank c = true := by
    intro hblank
    have hname := h.nameChars c (hcs ▸ List.mem_cons_self)
    rw [isNameChar, hblank] at hname
    simp at hname
  rw [hcs, List.cons_append, List.dropWhile_cons_of_neg hc]

theorem quotedLine_append (name value : String) (behind : List Char) :
    quotedLine name value ++ behind =
      name.toList ++ '=' :: singleQuote :: (escaped value ++ singleQuote :: behind) := by
  simp [quotedLine]

/-- The line is read as what it was written from, when it ends behind the quotes. -/
theorem readStatement_quotedLine (h : IsPlainName name) (value : String)
    {behind rest : List Char} (hend : readLineEnd (skipComment behind) = .ok ((), rest)) :
    readStatement (quotedLine name value ++ behind) = .ok (some (name, some value), rest) := by
  rw [quotedLine_append]
  unfold readStatement
  rw [dropWhile_isBlank_name h, skipExport_name h.nameChars, readName_plain h]
  simp only [bind, Except.bind, readAssigned_quoted, hend, pure, Except.pure, Option.map_some]

theorem round_quotedLine (h : IsPlainName name) (value : String) {behind rest : List Char}
    (hend : readLineEnd (skipComment behind) = .ok ((), rest)) :
    round (quotedLine name value ++ behind) = ⟨some (name, some value), true, rest⟩ := by
  have hne : ¬ ((quotedLine name value ++ behind).dropWhile Text.isBlank).isEmpty = true := by
    rw [quotedLine_append, dropWhile_isBlank_name h]
    simp
  rw [round, if_neg hne, readStatement_quotedLine h value hend]

theorem statementsFrom_quotedLine (h : IsPlainName name) (value : String)
    {behind rest : List Char} (hend : readLineEnd (skipComment behind) = .ok ((), rest))
    (line : Nat) :
    ∃ next, statementsFrom line (quotedLine name value ++ behind) =
      ((name, some value) :: (statementsFrom next rest).1, (statementsFrom next rest).2) := by
  have hne : ¬ quotedLine name value ++ behind = [] := by
    rw [quotedLine_append]
    simp
  refine ⟨line + (lineBreaks (quotedLine name value ++ behind) - lineBreaks rest), ?_⟩
  rw [statementsFrom, dif_neg hne, round_quotedLine h value hend]
  rfl

/-! ## Whole files -/

theorem readLineEnd_break (rest : List Char) :
    readLineEnd (skipComment ('\n' :: rest)) = .ok ((), rest) := by
  have hskip : skipBlanks ('\n' :: rest) = '\n' :: rest := skipBlanks_cons (by decide) rest
  have hhash : ¬ some '\n' = some '#' := by decide
  unfold skipComment
  dsimp only
  rw [hskip, List.head?_cons, if_neg hhash]
  unfold readLineEnd
  rw [hskip]
  exact if_pos rfl

variable {pairs : List (String × String)}

theorem statementsFrom_quotedLines (h : ∀ p ∈ pairs, IsPlainName p.1) (lastBreak : Bool)
    (line : Nat) :
    statementsFrom line (quotedLines pairs ++ if lastBreak then ['\n'] else []) =
      (pairs.map fun p => (p.1, some p.2), []) := by
  have hempty : ∀ n, statementsFrom n [] = ([], []) := fun n => by rw [statementsFrom, dif_pos rfl]
  have hlast : readLineEnd (skipComment (if lastBreak then ['\n'] else [])) = .ok ((), []) := by
    cases lastBreak
    · rfl
    · exact readLineEnd_break []
  induction pairs using quotedLines.induct generalizing line with
  | case1 =>
    cases lastBreak
    · exact hempty line
    · have hround : round ['\n'] = ⟨none, true, []⟩ := rfl
      show statementsFrom line ['\n'] = ([], [])
      rw [statementsFrom, dif_neg (List.cons_ne_nil _ _), hround]
      dsimp only
      rw [hempty]
      rfl
  | case2 p =>
    obtain ⟨next, hnext⟩ :=
      statementsFrom_quotedLine (h p List.mem_cons_self) p.2 hlast line
    rw [quotedLines, hnext, hempty]
    rfl
  | case3 p q rest ih =>
    have ih := ih fun r hr => h r (List.mem_cons_of_mem _ hr)
    obtain ⟨next, hnext⟩ :=
      statementsFrom_quotedLine (h p List.mem_cons_self) p.2 (readLineEnd_break _) line
    rw [quotedLines, List.append_assoc, List.cons_append, hnext, ih]
    rfl

/-! ## References

A value in which no dollar sign stands before an opening brace refers to nothing. -/

/-- The text refers to no other variable. -/
def IsLiteral (cs : List Char) : Prop := ¬ ['$', openingBrace] <:+: cs

theorem IsLiteral.tail {c : Char} {cs : List Char} (h : IsLiteral (c :: cs)) : IsLiteral cs :=
  fun hinside => h (hinside.trans (List.suffix_cons c cs).isInfix)

theorem parts_of_isLiteral {cs : List Char} (h : IsLiteral cs) :
    parts cs = cs.map .character := by
  induction cs with
  | nil => rw [parts, List.map_nil]
  | cons c cs ih =>
    have hdollar : ¬ (c = '$' && cs.head? = some openingBrace) = true := by
      intro hcond
      simp only [Bool.and_eq_true, decide_eq_true_eq] at hcond
      obtain ⟨rfl, hhead⟩ := hcond
      obtain ⟨rest, rfl⟩ := List.head?_eq_some_iff.1 hhead
      exact h (List.prefix_append ['$', openingBrace] rest).isInfix
    rw [parts, if_neg hdollar, ih h.tail, List.map_cons]

theorem resolveText_of_isLiteral {value : String} (h : IsLiteral value.toList)
    (lookup : String → Option (Option String)) : resolveText lookup value = value := by
  have hmap : (value.toList.map Part.character).map (·.resolve lookup) =
      value.toList.map String.singleton := List.map_map ..
  unfold resolveText
  rw [parts_of_isLiteral h, hmap, ← String.toList_inj, String.toList_join, List.flatMap_map]
  simp

/-- Values that refer to nothing stay as they stand in the file. -/
theorem resolve_of_isLiteral (h : ∀ p ∈ pairs, IsLiteral p.2.toList)
    (hnames : (Bindings.names pairs).Nodup) (environment : Bindings String) :
    resolve environment (pairs.map fun p => (p.1, some p.2)) =
      pairs.map fun p => (p.1, some p.2) := by
  have hset : resolve environment (pairs.map fun p => (p.1, some p.2)) =
      Bindings.ofPairs (pairs.map fun p => (p.1, some p.2)) := by
    refine List.foldl_ext _ _ _ fun values a ha => ?_
    obtain ⟨p, hp, rfl⟩ := List.mem_map.1 ha
    dsimp only
    rw [Option.map_some, resolveText_of_isLiteral (h p hp)]
  have hmap : Bindings.names (pairs.map fun p => (p.1, some p.2)) = Bindings.names pairs :=
    List.map_map ..
  rw [hset]
  exact Bindings.ofPairs_of_nodup (hmap ▸ hnames)

/-! ## Bytes -/

theorem unifyLineBreaks_of_not_mem {cs : List Char} (h : '\r' ∉ cs) : unifyLineBreaks cs = cs := by
  induction cs with
  | nil => rfl
  | cons c cs ih =>
    have hc : c ≠ '\r' := fun hc => h (hc ▸ List.mem_cons_self)
    rw [unifyLineBreaks, ih fun hmem => h (List.mem_cons_of_mem _ hmem)]
    · exact fun _ h' _ => hc h'
    · exact fun h' => hc h'

theorem not_mem_escaped {value : String} (h : '\r' ∉ value.toList) : '\r' ∉ escaped value := by
  intro hmem
  obtain ⟨c, hc, hescape⟩ := List.mem_flatMap.1 hmem
  have hne : '\r' ≠ c := fun hr => h (hr ▸ hc)
  rcases escapeSingle_cases c with ⟨hc, _⟩ | ⟨hc, _, _⟩
  · simp [hc, hne] at hescape
  · simp [hc, hne] at hescape

theorem not_mem_quotedLine (hname : IsPlainName name) {value : String}
    (hvalue : '\r' ∉ value.toList) : '\r' ∉ quotedLine name value := by
  have hreturn : '\r' ∉ name.toList := by
    intro hmem
    have hchar := hname.nameChars _ hmem
    revert hchar
    decide
  have hquote : '\r' ≠ singleQuote := by decide
  simp [quotedLine, hreturn, hquote, not_mem_escaped hvalue]

theorem not_mem_quotedLines (hnames : ∀ p ∈ pairs, IsPlainName p.1)
    (hvalues : ∀ p ∈ pairs, '\r' ∉ p.2.toList) : '\r' ∉ quotedLines pairs := by
  induction pairs using quotedLines.induct with
  | case1 => exact List.not_mem_nil
  | case2 p =>
    exact not_mem_quotedLine (hnames p List.mem_cons_self) (hvalues p List.mem_cons_self)
  | case3 p q rest ih =>
    have hp := not_mem_quotedLine (hnames p List.mem_cons_self) (hvalues p List.mem_cons_self)
    have hrest := ih (fun r hr => hnames r (List.mem_cons_of_mem _ hr))
      (fun r hr => hvalues r (List.mem_cons_of_mem _ hr))
    simp [quotedLines, hp, hrest]

/-- A file does not begin with a byte order mark when its first name does not. -/
theorem withoutMark_quotedLines (h : ∀ p ∈ pairs, IsPlainName p.1) (lastBreak : Bool) :
    withoutMark (quotedLines pairs ++ if lastBreak then ['\n'] else []) =
      quotedLines pairs ++ if lastBreak then ['\n'] else [] := by
  have hline : ∀ p ∈ pairs, ∀ behind, withoutMark (quotedLine p.1 p.2 ++ behind) =
      quotedLine p.1 p.2 ++ behind := by
    intro p hp behind
    obtain ⟨c, cs, hcs⟩ := List.exists_cons_of_ne_nil (h p hp).not_empty
    have hmark : c ≠ byteOrderMark := fun hc => (h p hp).not_marked (by rw [hcs, hc]; rfl)
    rw [quotedLine_append, hcs, List.cons_append, withoutMark, if_neg hmark]
  cases pairs using quotedLines.fun_cases with
  | case1 =>
    cases lastBreak
    · rfl
    · have hmark : '\n' ≠ byteOrderMark := by decide
      show withoutMark ['\n'] = ['\n']
      rw [withoutMark, if_neg hmark]
  | case2 p => exact hline p List.mem_cons_self _
  | case3 p q rest =>
    rw [quotedLines, List.append_assoc]
    exact hline p List.mem_cons_self _

/-- The content of a file is what it was written from, and nothing in it is malformed. -/
theorem Content.ofBytes_quotedFile (hplain : ∀ p ∈ pairs, IsPlainName p.1)
    (hnames : (Bindings.names pairs).Nodup) (hreturn : ∀ p ∈ pairs, '\r' ∉ p.2.toList)
    (hliteral : ∀ p ∈ pairs, IsLiteral p.2.toList) (environment : Bindings String)
    (lastBreak : Bool) :
    Content.ofBytes environment (quotedFile pairs lastBreak).toUTF8.data.toList =
      .ok ⟨pairs.map fun p => (p.1, some p.2), []⟩ := by
  have hlines : '\r' ∉ quotedLines pairs ++ if lastBreak then ['\n'] else [] := by
    have := not_mem_quotedLines hplain hreturn
    cases lastBreak <;> simp [this]
  have htext : withoutMark (unifyLineBreaks (quotedFile pairs lastBreak).toList) =
      quotedLines pairs ++ if lastBreak then ['\n'] else [] := by
    rw [quotedFile, String.toList_ofList, unifyLineBreaks_of_not_mem hlines,
      withoutMark_quotedLines hplain]
  unfold ofBytes
  rw [Text.decodeUtf8_toUTF8]
  show Except.ok (ofText environment
    (String.ofList (withoutMark (unifyLineBreaks (quotedFile pairs lastBreak).toList)))) = _
  unfold ofText statements
  rw [htext, String.toList_ofList, statementsFrom_quotedLines hplain]
  dsimp only
  rw [resolve_of_isLiteral hliteral hnames]

end EnvFile
end WorkflowDispatch
