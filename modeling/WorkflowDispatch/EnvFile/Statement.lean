import WorkflowDispatch.Text.Blank
/-!
The statements of a settings file.  A statement gives a name a value, mentions a name without a
value, or is a comment.  A statement that cannot be read costs the line on which the reading
stopped, and the reading goes on behind that line.
-/

namespace WorkflowDispatch
namespace EnvFile

/-- A name with its value as it stands in the file, references not yet resolved. -/
abbrev Assignment := String × Option String

/-- The outcome of one reading step: what was read and what follows it, or the text from the place
where the reading failed. -/
abbrev Reading (α : Type) := Except (List Char) (α × List Char)

/-- Blanks other than line breaks. -/
def isInnerBlank (c : Char) : Bool := Text.isBlank c && c != '\n' && c != '\r'

def skipBlanks (cs : List Char) : List Char := cs.dropWhile isInnerBlank

/-- The word `export` may stand in front of a statement when a blank follows it. -/
def skipExport (cs : List Char) : List Char :=
  let rest := cs.drop 6
  if cs.take 6 = ['e', 'x', 'p', 'o', 'r', 't'] && rest.head?.any isInnerBlank then skipBlanks rest
  else cs

def skipComment (cs : List Char) : List Char :=
  let rest := skipBlanks cs
  if rest.head? = some '#' then rest.dropWhile (· != '\n') else cs

/-- The rest of the line and its line break. -/
def skipLine (cs : List Char) : List Char := (cs.dropWhile (· != '\n')).drop 1

/-! ## Names -/

def isNameChar (c : Char) : Bool := c != '=' && c != '#' && !Text.isBlank c

def singleQuote : Char := Char.ofNat 0x27

def doubleQuote : Char := Char.ofNat 0x22

/-- A name in single quotes holds any character but the quote, and at least one. -/
def readQuotedName (cs : List Char) : Reading (Option String) :=
  let inner := cs.drop 1
  let name := inner.takeWhile (· != singleQuote)
  match inner.dropWhile (· != singleQuote) with
  | _ :: rest => if name.isEmpty then .error cs else .ok (some (String.ofList name), rest)
  | [] => .error cs

/-- A comment has no name. -/
def readName (cs : List Char) : Reading (Option String) :=
  match cs.head? with
  | some c =>
    if c = '#' then .ok (none, cs)
    else if c = singleQuote then readQuotedName cs
    else
      let name := cs.takeWhile isNameChar
      if name.isEmpty then .error cs
      else .ok (some (String.ofList name), cs.dropWhile isNameChar)
  | none => .error cs

/-! ## Values -/

/-- The text up to the closing quote, with its backslashes.  A backslash keeps the character behind
it, of whatever kind, from closing the quotes. -/
def quotedBody (quote : Char) : List Char → Option (List Char × List Char)
  | [] => none
  | c :: rest =>
    if c = quote then some ([], rest)
    else if c = '\\' then
      match rest with
      | [] => none
      | d :: rest => (quotedBody quote rest).map (fun r => (c :: d :: r.1, r.2))
    else (quotedBody quote rest).map (fun r => (c :: r.1, r.2))

/-- The characters that a backslash stands for inside single quotes. -/
def singleEscape (c : Char) : Option Char :=
  if c = '\\' || c = singleQuote then some c else none

/-- The letters that stand for control characters. -/
def controlLetters : List (Char × Nat) :=
  [('a', 0x07), ('b', 0x08), ('f', 0x0C), ('n', 0x0A), ('r', 0x0D), ('t', 0x09), ('v', 0x0B)]

/-- Inside double quotes there are control characters as well. -/
def doubleEscape (c : Char) : Option Char :=
  if c = '\\' || c = singleQuote || c = doubleQuote then some c
  else (controlLetters.lookup c).map Char.ofNat

/-- A backslash before any other character stays. -/
def unescape (escapes : Char → Option Char) : List Char → List Char
  | '\\' :: c :: rest =>
    match escapes c with
    | some d => d :: unescape escapes rest
    | none => '\\' :: unescape escapes (c :: rest)
  | c :: rest => c :: unescape escapes rest
  | [] => []

def readQuotedValue (quote : Char) (escapes : Char → Option Char) (cs : List Char) :
    Reading String :=
  match quotedBody quote (cs.drop 1) with
  | some (body, rest) => .ok (String.ofList (unescape escapes body), rest)
  | none => .error cs

/-- The text before the first comment, which begins with a number sign behind a blank. -/
def beforeComment : List Char → List Char
  | c :: d :: rest =>
    if Text.isBlank c && d = '#' then [] else c :: beforeComment (d :: rest)
  | cs => cs

def plainValue (line : List Char) : String :=
  String.ofList (Text.trimRight Text.isBlank (beforeComment line))

def readValue (cs : List Char) : Reading String :=
  if cs.head? = some singleQuote then readQuotedValue singleQuote singleEscape cs
  else if cs.head? = some doubleQuote then readQuotedValue doubleQuote doubleEscape cs
  else .ok (plainValue (cs.takeWhile (· != '\n')), cs.dropWhile (· != '\n'))

/-- What follows a name: an equals sign and a value, or neither.  A comment directly behind blanks
is not a value. -/
def readAssigned (cs : List Char) : Reading (Option String) :=
  if cs.head? = some '=' then
    let behind := cs.drop 1
    let start := skipBlanks behind
    if start.head? = some '#' && behind.head?.any isInnerBlank then .ok (some "", start)
    else (readValue start).map (fun r => (some r.1, r.2))
  else .ok (none, cs)

/-! ## Statements -/

/-- A statement must end with its line. -/
def readLineEnd (cs : List Char) : Reading Unit :=
  match skipBlanks cs with
  | [] => .ok ((), [])
  | c :: rest => if c = '\n' then .ok ((), rest) else .error cs

/-- The statement that follows the blanks and empty lines at the beginning. -/
def readStatement (cs : List Char) : Except (List Char) (Option Assignment × List Char) := do
  let (name, cs) ← readName (skipExport (cs.dropWhile Text.isBlank))
  let (value, cs) ← readAssigned (skipBlanks cs)
  let (_, cs) ← readLineEnd (skipComment cs)
  return (name.map (fun n => (n, value)), cs)

/-- One round of reading: the assignment if there is one, whether the statement was well formed,
and what follows it. -/
structure Round where
  assignment : Option Assignment
  wellFormed : Bool
  rest : List Char

/-- At the end of the file there may be blanks alone. -/
def round (cs : List Char) : Round :=
  if (cs.dropWhile Text.isBlank).isEmpty then ⟨none, true, []⟩
  else
    match readStatement cs with
    | .ok (assignment, rest) => ⟨assignment, true, rest⟩
    | .error rest => ⟨none, false, skipLine rest⟩

/-! ## Each round leaves less of the file -/

/-- What follows the part that was read, or the place of the failure, has at most `n`
characters. -/
def Within {α : Type} (n : Nat) : Reading α → Prop
  | .ok (_, rest) => rest.length ≤ n
  | .error rest => rest.length ≤ n

theorem length_skipBlanks (cs : List Char) : (skipBlanks cs).length ≤ cs.length :=
  Text.length_dropWhile_le _ cs

theorem length_skipExport (cs : List Char) : (skipExport cs).length ≤ cs.length := by
  unfold skipExport
  dsimp only
  split
  · exact Nat.le_trans (length_skipBlanks _) (by simp)
  · exact Nat.le_refl _

theorem length_skipComment (cs : List Char) : (skipComment cs).length ≤ cs.length := by
  unfold skipComment
  dsimp only
  split
  · exact Nat.le_trans (Text.length_dropWhile_le _ _) (length_skipBlanks cs)
  · exact Nat.le_refl _

theorem within_readQuotedName (cs : List Char) : Within cs.length (readQuotedName cs) := by
  have h := Text.length_dropWhile_le (· != singleQuote) (cs.drop 1)
  unfold readQuotedName
  dsimp only
  split
  · next c rest heq =>
    rw [heq] at h
    simp only [List.length_cons, List.length_drop] at h
    split
    · exact Nat.le_refl _
    · show rest.length ≤ cs.length
      omega
  · exact Nat.le_refl _

theorem within_readName (cs : List Char) : Within cs.length (readName cs) := by
  unfold readName
  split
  · split
    · exact Nat.le_refl _
    · split
      · exact within_readQuotedName cs
      · dsimp only
        split
        · exact Nat.le_refl _
        · exact Text.length_dropWhile_le _ cs
  · exact Nat.le_refl _

theorem length_of_quotedBody {quote : Char} {cs body rest : List Char}
    (h : quotedBody quote cs = some (body, rest)) : rest.length ≤ cs.length := by
  fun_induction quotedBody quote cs generalizing body with
  | case1 => simp at h
  | case2 =>
    obtain ⟨_, rfl⟩ := Prod.mk.inj (Option.some.inj h)
    simp
  | case3 => simp at h
  | case4 _ _ _ ih =>
    obtain ⟨⟨b, r⟩, hr, he⟩ := Option.map_eq_some_iff.1 h
    obtain ⟨_, rfl⟩ := Prod.mk.inj he
    exact Nat.le_succ_of_le (Nat.le_succ_of_le (ih hr))
  | case5 _ _ _ _ ih =>
    obtain ⟨⟨b, r⟩, hr, he⟩ := Option.map_eq_some_iff.1 h
    obtain ⟨_, rfl⟩ := Prod.mk.inj he
    exact Nat.le_succ_of_le (ih hr)

theorem within_readQuotedValue (quote : Char) (escapes : Char → Option Char) (cs : List Char) :
    Within cs.length (readQuotedValue quote escapes cs) := by
  unfold readQuotedValue
  split
  · next h => exact Nat.le_trans (length_of_quotedBody h) (by simp)
  · exact Nat.le_refl _

theorem within_readValue (cs : List Char) : Within cs.length (readValue cs) := by
  unfold readValue
  split
  · exact within_readQuotedValue _ _ cs
  · split
    · exact within_readQuotedValue _ _ cs
    · exact Text.length_dropWhile_le _ cs

theorem Within.mono {α : Type} {m n : Nat} {r : Reading α} (h : Within m r) (hmn : m ≤ n) :
    Within n r := by
  cases r <;> exact Nat.le_trans h hmn

theorem Within.map {α β : Type} {n : Nat} {r : Reading α} (h : Within n r) (f : α → β) :
    Within n (r.map (fun x => (f x.1, x.2))) := by
  cases r <;> exact h

theorem Within.andThen {α β : Type} {n : Nat} {r : Reading α} {f : α × List Char → Reading β}
    (h : Within n r) (hf : ∀ x, x.2.length ≤ n → Within n (f x)) : Within n (Except.bind r f) := by
  cases r with
  | error rest => exact h
  | ok x => exact hf x h

theorem within_readAssigned (cs : List Char) : Within cs.length (readAssigned cs) := by
  have h : (skipBlanks (cs.drop 1)).length ≤ cs.length :=
    Nat.le_trans (length_skipBlanks _) (by simp)
  unfold readAssigned
  split
  · dsimp only
    split
    · exact h
    · exact ((within_readValue _).mono h).map some
  · exact Nat.le_refl _

theorem within_readLineEnd (cs : List Char) : Within cs.length (readLineEnd cs) := by
  have h := length_skipBlanks cs
  unfold readLineEnd
  split
  · exact Nat.zero_le _
  · next heq =>
    rw [heq] at h
    split
    · exact Nat.le_of_succ_le h
    · exact Nat.le_refl _

/-- A line that ends leaves the lines behind it only. -/
theorem length_of_readLineEnd {cs rest : List Char} {n : Nat} (hn : 0 < n) (hcs : cs.length ≤ n)
    (h : readLineEnd cs = .ok ((), rest)) : rest.length < n := by
  have hb := length_skipBlanks cs
  unfold readLineEnd at h
  split at h
  · obtain ⟨_, rfl⟩ := Prod.mk.inj (Except.ok.inj h)
    exact hn
  · next heq =>
    rw [heq] at hb
    split at h
    · obtain ⟨_, rfl⟩ := Prod.mk.inj (Except.ok.inj h)
      exact Nat.lt_of_lt_of_le hb hcs
    · simp at h

theorem length_readName_start (cs : List Char) :
    (skipExport (cs.dropWhile Text.isBlank)).length ≤ cs.length :=
  Nat.le_trans (length_skipExport _) (Text.length_dropWhile_le _ cs)

theorem within_readStatement (cs : List Char) : Within cs.length (readStatement cs) := by
  refine ((within_readName _).mono (length_readName_start cs)).andThen (fun x hx => ?_)
  have ha := (within_readAssigned (skipBlanks x.2)).mono (Nat.le_trans (length_skipBlanks _) hx)
  refine ha.andThen (fun y hy => ?_)
  have he := (within_readLineEnd (skipComment y.2)).mono (Nat.le_trans (length_skipComment _) hy)
  exact he.andThen (fun z hz => hz)

theorem length_of_readStatement {cs rest : List Char} {a : Option Assignment} (hn : 0 < cs.length)
    (h : readStatement cs = .ok (a, rest)) : rest.length < cs.length := by
  have h1 := (within_readName _).mono (length_readName_start cs)
  unfold readStatement at h
  cases hname : readName (skipExport (cs.dropWhile Text.isBlank)) with
  | error e => simp [hname, bind, Except.bind] at h
  | ok x =>
    rw [hname] at h1
    have h2 := (within_readAssigned (skipBlanks x.2)).mono (Nat.le_trans (length_skipBlanks _) h1)
    cases hvalue : readAssigned (skipBlanks x.2) with
    | error e => simp [hname, hvalue, bind, Except.bind] at h
    | ok y =>
      rw [hvalue] at h2
      cases hend : readLineEnd (skipComment y.2) with
      | error e => simp [hname, hvalue, hend, bind, Except.bind] at h
      | ok z =>
        simp only [hname, hvalue, hend, bind, Except.bind, pure, Except.pure, Except.ok.injEq,
          Prod.mk.injEq] at h
        obtain ⟨_, rfl⟩ := h
        exact length_of_readLineEnd hn (Nat.le_trans (length_skipComment _) h2) hend

theorem length_skipLine {cs : List Char} {n : Nat} (hn : 0 < n) (h : cs.length ≤ n) :
    (skipLine cs).length < n := by
  have := Text.length_dropWhile_le (· != '\n') cs
  unfold skipLine
  rw [List.length_drop]
  omega

theorem length_round {cs : List Char} (hn : 0 < cs.length) :
    (round cs).rest.length < cs.length := by
  unfold round
  split
  · exact hn
  · split
    · next h => exact length_of_readStatement hn h
    · next h =>
      have := within_readStatement cs
      rw [h] at this
      exact length_skipLine hn this

/-! ## The whole file -/

def lineBreaks (cs : List Char) : Nat := cs.count '\n'

/-- The assignments of a file in their order and the lines on which a malformed statement was
looked for, where the text begins on line `line`. -/
def statementsFrom (line : Nat) (cs : List Char) : List Assignment × List Nat :=
  if _h : cs = [] then ([], [])
  else
    let r := round cs
    let (assignments, faults) :=
      statementsFrom (line + (lineBreaks cs - lineBreaks r.rest)) r.rest
    (r.assignment.toList ++ assignments, if r.wellFormed then faults else line :: faults)
  termination_by cs.length
  decreasing_by exact length_round (List.length_pos_iff.2 _h)

def statements (text : String) : List Assignment × List Nat := statementsFrom 1 text.toList

end EnvFile
end WorkflowDispatch
