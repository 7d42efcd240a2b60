import WorkflowDispatch.Binary64.Reader
import WorkflowDispatch.Json.Basic
/-!
Reading JSON.  Blanks may stand around every part of a document.  An object is read with its members
in their order, and a number is an integer unless it has a fraction or an exponent.
-/

namespace WorkflowDispatch
namespace Json
namespace Reader

def quote : Char := Char.ofNat 0x22

def leftBrace : Char := Char.ofNat 0x7B

def rightBrace : Char := Char.ofNat 0x7D

def isBlank (c : Char) : Bool := c == ' ' || c == '\t' || c == '\n' || c == '\r'

def skipBlanks (cs : List Char) : List Char := cs.dropWhile isBlank

/-! ## Texts -/

/-- A hexadecimal digit in either case. -/
def hexDigit? (c : Char) : Option Nat := (List.range 16).find? (Nat.digitChar · == c.toLower)

/-- Four digits, which are one UTF-16 unit. -/
def unit? : List Char → Option (Nat × List Char)
  | a :: b :: c :: d :: rest => do
    let a ← hexDigit? a
    let b ← hexDigit? b
    let c ← hexDigit? c
    let d ← hexDigit? d
    return (((a * 16 + b) * 16 + c) * 16 + d, rest)
  | _ => none

/-- The character for the digits of an escape.  The first half of a pair needs the escape of the
second half behind it. -/
def numbered? (cs : List Char) : Option (Char × List Char) := do
  let (high, rest) ← unit? cs
  if high < 0xD800 || 0xE000 ≤ high then return (Char.ofNat high, rest)
  match rest with
  | '\\' :: 'u' :: rest =>
    let (low, rest) ← unit? rest
    if high < 0xDC00 && 0xDC00 ≤ low && low < 0xE000 then
      return (Char.ofNat (0x10000 + (high - 0xD800) * 0x400 + (low - 0xDC00)), rest)
    else none
  | _ => none

/-- The escapes of one letter, and the numbers of the characters that they stand for. -/
def letterEscapes : List (Nat × Nat) :=
  [(0x22, 0x22), (0x5C, 0x5C), (0x2F, 0x2F), (0x62, 0x08), (0x66, 0x0C), (0x6E, 0x0A),
    (0x72, 0x0D), (0x74, 0x09)]

/-- The characters that stand for themselves. -/
def isPlain (c : Char) : Bool := c != '\\' && c != quote && 0x20 ≤ c.toNat

/-- One character of a text, which is not the quote at its end. -/
def character? : List Char → Option (Char × List Char)
  | '\\' :: c :: rest =>
    if c = 'u' then numbered? rest
    else (letterEscapes.lookup c.toNat).map (Char.ofNat ·, rest)
  | c :: rest => if isPlain c then some (c, rest) else none
  | [] => none

theorem length_of_unit? {cs rest : List Char} {n : Nat} (h : unit? cs = some (n, rest)) :
    rest.length < cs.length := by
  unfold unit? at h
  split at h
  · simp only [Option.bind_eq_bind, Option.bind_eq_some_iff, Option.pure_def, Option.some.injEq,
      Prod.mk.injEq] at h
    obtain ⟨_, _, _, _, _, _, _, _, _, rfl⟩ := h
    simp only [List.length_cons]
    omega
  · simp at h

theorem length_of_numbered? {cs rest : List Char} {c : Char}
    (h : numbered? cs = some (c, rest)) : rest.length < cs.length := by
  unfold numbered? at h
  obtain ⟨⟨high, tail⟩, hu, h⟩ := Option.bind_eq_some_iff.1 h
  have hu := length_of_unit? hu
  dsimp only at h
  split at h
  · obtain ⟨_, rfl⟩ := Prod.mk.inj (Option.some.inj h)
    exact hu
  · split at h
    · obtain ⟨⟨low, tail'⟩, hl, h⟩ := Option.bind_eq_some_iff.1 h
      have hl := length_of_unit? hl
      dsimp only at h
      split at h
      · obtain ⟨_, rfl⟩ := Prod.mk.inj (Option.some.inj h)
        simp only [List.length_cons] at hu
        omega
      · simp at h
    · simp at h

theorem length_of_character? {cs rest : List Char} {c : Char}
    (h : character? cs = some (c, rest)) : rest.length < cs.length := by
  unfold character? at h
  split at h
  · split at h
    · have := length_of_numbered? h
      simp only [List.length_cons]
      omega
    · obtain ⟨_, _, h⟩ := Option.map_eq_some_iff.1 h
      obtain ⟨_, rfl⟩ := Prod.mk.inj h
      simp only [List.length_cons]
      omega
  · split at h
    · obtain ⟨_, rfl⟩ := Prod.mk.inj (Option.some.inj h)
      exact Nat.lt_succ_self _
    · simp at h
  · simp at h

/-- The text up to the closing quote, and what follows it. -/
def body? (cs : List Char) : Option (List Char × List Char) :=
  match _h : character? cs with
  | some (c, rest) => (body? rest).map (fun r => (c :: r.1, r.2))
  | none => if cs.head? = some quote then some ([], cs.drop 1) else none
  termination_by cs.length
  decreasing_by exact length_of_character? _h

/-- The name of a member, with the colon behind it. -/
def name? : List Char → Option (String × List Char)
  | c :: cs => do
    if c ≠ quote then none
    let (name, cs) ← body? cs
    match skipBlanks cs with
    | ':' :: rest => return (String.ofList name, rest)
    | _ => none
  | [] => none

/-! ## Numbers and constants -/

def isNumberChar (c : Char) : Bool := c.isDigit || ['-', '+', '.', 'e', 'E'].contains c

/-- The whole part of a number has no zeros in front. -/
def isWhole (digits : List Char) : Bool := digits == ['0'] || digits.head?.any (· != '0')

/-- A point needs a digit behind it. -/
def isFraction (cs : List Char) : Bool :=
  cs.head? != some '.' || (cs.drop 1).head?.any Char.isDigit

/-- The number that fills the text behind the sign. -/
def unsigned? (negative : Bool) (cs : List Char) : Option Json :=
  let whole := cs.takeWhile Char.isDigit
  let rest := cs.dropWhile Char.isDigit
  if !isWhole whole || !isFraction rest then none
  else if rest.isEmpty then
    some (.int (if negative then -(Text.valueOf whole : Int) else Text.valueOf whole))
  else (Binary64.Reader.numeral? negative cs).map .float

def number? : List Char → Option Json
  | '-' :: cs => unsigned? true cs
  | cs => unsigned? false cs

def constants : List (String × Json) :=
  [("null", .null), ("true", .bool true), ("false", .bool false), ("NaN", .float .nan),
    ("Infinity", .float (.infinite false)), ("-Infinity", .float (.infinite true))]

def scalar? (cs : List Char) : Option (Json × List Char) :=
  match constants.find? (fun k => k.1.toList.isPrefixOf cs) with
  | some k => some (k.2, cs.drop k.1.length)
  | none => (number? (cs.takeWhile isNumberChar)).map (·, cs.dropWhile isNumberChar)

/-! ## Documents -/

mutual

/-- A value and what follows it.  The first argument bounds the depth. -/
def value? : Nat → List Char → Option (Json × List Char)
  | 0, _ => none
  | depth + 1, cs =>
    match skipBlanks cs with
    | [] => none
    | c :: rest =>
      if c = quote then (body? rest).map (fun r => (.text (String.ofList r.1), r.2))
      else if c = '[' then
        if (skipBlanks rest).head? = some ']' then some (.array [], (skipBlanks rest).drop 1)
        else (items? depth rest).map (fun r => (.array r.1, r.2))
      else if c = leftBrace then
        if (skipBlanks rest).head? = some rightBrace then
          some (.object [], (skipBlanks rest).drop 1)
        else (members? depth rest).map (fun r => (.object r.1, r.2))
      else scalar? (c :: rest)

/-- At least one item, up to the closing bracket. -/
def items? : Nat → List Char → Option (List Json × List Char)
  | 0, _ => none
  | depth + 1, cs => do
    let (first, cs) ← value? depth cs
    match skipBlanks cs with
    | ',' :: rest =>
      let (others, rest) ← items? depth rest
      return (first :: others, rest)
    | ']' :: rest => return ([first], rest)
    | _ => none

/-- At least one member, up to the closing brace. -/
def members? : Nat → List Char → Option (List (String × Json) × List Char)
  | 0, _ => none
  | depth + 1, cs => do
    let (name, cs) ← name? (skipBlanks cs)
    let (first, cs) ← value? depth cs
    match skipBlanks cs with
    | [] => none
    | c :: rest =>
      if c = ',' then
        let (others, rest) ← members? depth rest
        return ((name, first) :: others, rest)
      else if c = rightBrace then return ([(name, first)], rest)
      else none

end

end Reader

/-- The document that a text is.  No text has more levels than characters. -/
def read (s : String) : Option Json :=
  match Reader.value? s.length s.toList with
  | some (j, rest) => if (Reader.skipBlanks rest).isEmpty then some j else none
  | none => none

end Json
end WorkflowDispatch
