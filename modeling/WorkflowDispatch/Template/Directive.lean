import WorkflowDispatch.Text.Blank
import WorkflowDispatch.Text.Numeral
import WorkflowDispatch.Text.Quoted
import WorkflowDispatch.Value.Basic
/-!
What a message template says, before any value is put into it.  A template is text with
directives; a directive begins with a percent sign, may name a key, and ends with the letter of a
conversion.  A directive that is not well formed is kept with its fault, because the values that
it asks for before the fault are still asked for.
-/

namespace WorkflowDispatch
namespace Template

inductive Error where
  | mappingRequired
  | missingKey (key : String)
  | wrongIndex (container : String)
  | tooFewValues
  | tooManyValues
  | incompleteKey
  | incompleteDirective
  | widthTooBig
  | precisionTooBig
  | amountNotInteger
  | widthOverflow
  | precisionOverflow
  | precisionTooLarge
  | tooLong
  | unsupportedConversion (c : Char) (position : Nat)
  | realRequired (c : Char) (kind : String)
  | integerRequired (c : Char) (kind : String)
  | floatRequired (kind : String)
  | infiniteInteger
  | integerOfNan
  | integerTooLarge
  | characterRequired
  | characterRange
  deriving Repr

/-- A character that the message can show as it is. -/
def shownConversion (c : Char) : String :=
  if 31 ≤ c.toNat && c.toNat ≤ 126 then String.singleton c else "?"

def Error.message : Error → String
  | .mappingRequired => "format requires a mapping"
  | .missingKey key => Text.quote key
  | .wrongIndex container => container ++ " indices must be integers or slices, not str"
  | .tooFewValues => "not enough arguments for format string"
  | .tooManyValues => "not all arguments converted during string formatting"
  | .incompleteKey => "incomplete format key"
  | .incompleteDirective => "incomplete format"
  | .widthTooBig => "width too big"
  | .precisionTooBig => "precision too big"
  | .amountNotInteger => "* wants int"
  | .widthOverflow => "Python int too large to convert to C ssize_t"
  | .precisionOverflow => "Python int too large to convert to C int"
  | .precisionTooLarge => "precision too large"
  | .tooLong => ""
  | .unsupportedConversion c position =>
    "unsupported format character '" ++ shownConversion c ++ "' (0x"
      ++ String.ofList (Nat.toDigits 16 (c.toNat)) ++ ") at index " ++ Text.decimal position
  | .realRequired c kind =>
    "%" ++ String.singleton c ++ " format: a real number is required, not " ++ kind
  | .integerRequired c kind =>
    "%" ++ String.singleton c ++ " format: an integer is required, not " ++ kind
  | .floatRequired kind => "must be real number, not " ++ kind
  | .infiniteInteger => "cannot convert float infinity to integer"
  | .integerOfNan => "cannot convert float NaN to integer"
  | .integerTooLarge => "int too large to convert to float"
  | .characterRequired => "%c requires int or char"
  | .characterRange => "%c arg not in range(0x110000)"

/-! ## Directives -/

inductive Key where
  | absent
  | unclosed
  | named (key : String)

/-- A width or a precision: left out, written in the template, or to be taken from the values. -/
inductive Amount where
  | absent
  | given (n : Nat)
  | taken

structure Flags where
  left : Bool
  plus : Bool
  blank : Bool
  alternate : Bool
  zero : Bool

structure Directive where
  key : Key
  flags : Flags
  width : Amount
  precision : Amount
  /-- The letter of the conversion with its position, or what is wrong with the directive. -/
  conversion : Except Error (Char × Nat)

inductive Piece where
  | text (cs : List Char)
  | directive (d : Directive)

/-! ## Reading -/

/-- The key up to the parenthesis that closes the ones still open, and what follows. -/
def closeKey : Nat → List Char → Option (List Char × List Char)
  | _, [] => none
  | depth, c :: rest =>
    if c = ')' && depth = 0 then some ([], rest)
    else
      let inner := if c = ')' then depth - 1 else if c = '(' then depth + 1 else depth
      (closeKey inner rest).map (fun r => (c :: r.1, r.2))

def readKey : List Char → Key × List Char
  | '(' :: rest =>
    match closeKey 0 rest with
    | some (key, rest) => (.named (String.ofList key), rest)
    | none => (.unclosed, [])
  | cs => (.absent, cs)

def isFlag (c : Char) : Bool := ['-', '+', ' ', '#', '0'].contains c

def Flags.ofList (cs : List Char) : Flags :=
  { left := cs.contains '-', plus := cs.contains '+', blank := cs.contains ' '
    alternate := cs.contains '#', zero := cs.contains '0' }

def readFlags (cs : List Char) : Flags × List Char :=
  (.ofList (cs.takeWhile isFlag), cs.dropWhile isFlag)

/-- An amount of at most `limit`. -/
def readAmount (limit : Nat) (tooBig : Error) : List Char → Except Error Amount × List Char
  | '*' :: rest => (.ok .taken, rest)
  | cs =>
    let digits := cs.takeWhile Char.isDigit
    let rest := cs.dropWhile Char.isDigit
    if digits.isEmpty then (.ok .absent, rest)
    else if limit < Text.valueOf digits then (.error tooBig, rest)
    else (.ok (.given (Text.valueOf digits)), rest)

def widthLimit : Nat := 0x7FFFFFFFFFFFFFFF

def precisionLimit : Nat := 0x7FFFFFFF

/-- A point without an amount behind it asks for the precision 0. -/
def readPrecision : List Char → Except Error Amount × List Char
  | '.' :: rest =>
    match readAmount precisionLimit .precisionTooBig rest with
    | (.ok .absent, rest) => (.ok (.given 0), rest)
    | r => r
  | cs => (.ok .absent, cs)

/-- A letter for the size of a number is accepted and has no meaning. -/
def skipSize : List Char → List Char
  | c :: rest => if ['h', 'l', 'L'].contains c then rest else c :: rest
  | [] => []

/-- The letter that ends the directive, in a template of `size` characters. -/
def readConversion (size : Nat) : List Char → Except Error (Char × Nat) × List Char
  | [] => (.error .incompleteDirective, [])
  | c :: rest => (.ok (c, size - rest.length - 1), rest)

/-- The directive whose percent sign has just been passed, and what follows it. -/
def readDirective (size : Nat) (cs : List Char) : Directive × List Char :=
  let (key, cs) := readKey cs
  let (flags, cs) := readFlags cs
  match readAmount widthLimit .widthTooBig cs with
  | (.error e, cs) => (⟨key, flags, .absent, .absent, .error e⟩, cs)
  | (.ok width, cs) =>
    match readPrecision cs with
    | (.error e, cs) => (⟨key, flags, width, .absent, .error e⟩, cs)
    | (.ok precision, cs) =>
      let (conversion, cs) := readConversion size (skipSize cs)
      (⟨key, flags, width, precision, conversion⟩, cs)

/-! ## Every reader leaves at most what it was given -/

theorem length_of_closeKey {depth : Nat} {cs key rest : List Char}
    (h : closeKey depth cs = some (key, rest)) : rest.length ≤ cs.length := by
  induction cs generalizing depth key with
  | nil => simp [closeKey] at h
  | cons c cs ih =>
    rw [closeKey] at h
    split at h
    · simp only [Option.some.injEq, Prod.mk.injEq] at h
      simp [h.2]
    · obtain ⟨⟨inner, tail⟩, hr, he⟩ := Option.map_eq_some_iff.1 h
      obtain ⟨_, rfl⟩ := Prod.mk.inj he
      exact Nat.le_succ_of_le (ih hr)

theorem length_readKey (cs : List Char) : (readKey cs).2.length ≤ cs.length := by
  unfold readKey
  split
  · split
    · next h => exact Nat.le_succ_of_le (length_of_closeKey h)
    · simp
  · simp

theorem length_readAmount (limit : Nat) (e : Error) (cs : List Char) :
    (readAmount limit e cs).2.length ≤ cs.length := by
  unfold readAmount
  split
  · simp
  · dsimp only
    split
    · exact Text.length_dropWhile_le _ _
    · split <;> exact Text.length_dropWhile_le _ _

theorem length_readPrecision (cs : List Char) : (readPrecision cs).2.length ≤ cs.length := by
  unfold readPrecision
  split
  · next rest =>
    have h := length_readAmount precisionLimit .precisionTooBig rest
    split
    · next heq => rw [heq] at h; exact Nat.le_succ_of_le h
    · exact Nat.le_succ_of_le h
  · simp

theorem length_skipSize (cs : List Char) : (skipSize cs).length ≤ cs.length := by
  unfold skipSize
  split
  · split <;> simp
  · simp

theorem length_readConversion (size : Nat) (cs : List Char) :
    (readConversion size cs).2.length ≤ cs.length := by
  cases cs <;> simp [readConversion]

theorem length_readDirective (size : Nat) (cs : List Char) :
    (readDirective size cs).2.length ≤ cs.length := by
  have hk := length_readKey cs
  have hf := Text.length_dropWhile_le isFlag (readKey cs).2
  have hw := length_readAmount widthLimit .widthTooBig (readFlags (readKey cs).2).2
  unfold readDirective
  dsimp only
  have hkf : (readFlags (readKey cs).2).2.length ≤ cs.length := Nat.le_trans hf hk
  split
  · next heq => rw [heq] at hw; exact Nat.le_trans hw hkf
  · next width rest heq =>
    rw [heq] at hw
    have hp := length_readPrecision rest
    split
    · next heq => rw [heq] at hp; exact Nat.le_trans hp (Nat.le_trans hw hkf)
    · next heq =>
      rw [heq] at hp
      exact Nat.le_trans (length_readConversion _ _)
        (Nat.le_trans (length_skipSize _) (Nat.le_trans hp (Nat.le_trans hw hkf)))

/-- The pieces of a template of `size` characters.  Two percent signs in a row stand for one. -/
def readPieces (size : Nat) : List Char → List Piece
  | [] => []
  | c :: cs =>
    if c ≠ '%' then .text [c] :: readPieces size cs
    else if cs.head? = some '%' then .text ['%'] :: readPieces size (cs.drop 1)
    else .directive (readDirective size cs).1 :: readPieces size (readDirective size cs).2
  termination_by cs => cs.length
  decreasing_by
    · simp
    · simp only [List.length_drop, List.length_cons]; omega
    · exact Nat.lt_succ_of_le (length_readDirective size cs)

def pieces (template : List Char) : List Piece := readPieces template.length template

end Template
end WorkflowDispatch
