import WorkflowDispatch.Binary64.Fixed
import WorkflowDispatch.Template.Directive
import WorkflowDispatch.Value.Text
/-!
What a value becomes under a conversion.  The converted text of a number is held apart from its
sign and its base mark, because padding with zeros goes between the two and the digits.
-/

namespace WorkflowDispatch
namespace Template

/-- A converted value.  Only a number has a sign and may be padded with zeros. -/
structure Converted where
  isNumber : Bool
  negative : Bool
  mark : List Char
  body : List Text.Stretch

def Converted.ofText (cs : List Char) : Converted := ⟨false, false, [], [.chars cs]⟩

/-! ## Integers -/

/-- The integer that a decimal conversion shows: a floating-point number loses its fraction. -/
def decimalOperand (c : Char) : Value → Except Error Int
  | .int i => .ok i
  | .bool b => .ok (Value.ofTruth b)
  | .float x =>
    match x.truncate? with
    | some i => .ok i
    | none => .error (if x = .nan then .integerOfNan else .infiniteInteger)
  | v => .error (.realRequired c v.kind)

def exactOperand (c : Char) : Value → Except Error Int
  | .int i => .ok i
  | .bool b => .ok (Value.ofTruth b)
  | v => .error (.integerRequired c v.kind)

/-- The base of an integer conversion and the two characters that mark it. -/
def baseOf (c : Char) : Nat × List Char :=
  if c = 'o' then (8, ['0', 'o'])
  else if c = 'x' then (16, ['0', 'x'])
  else if c = 'X' then (16, ['0', 'X'])
  else (10, [])

/-- Room for a sign and a base mark has to be left below `precisionLimit`. -/
def digitLimit : Nat := precisionLimit - 3

/-- The precision of an integer is the least number of its digits. -/
def convertInteger (c : Char) (alternate : Bool) (precision : Option Nat) (i : Int) :
    Except Error Converted :=
  let (base, mark) := baseOf c
  let least := precision.getD 0
  let digits := Nat.toDigits base i.natAbs
  if digitLimit < least then .error .precisionTooLarge
  else .ok
    { isNumber := true
      negative := decide (i < 0)
      mark := if alternate then mark else []
      body := [.fill '0' (least - digits.length),
        .chars (if c = 'X' then digits.map Char.toUpper else digits)] }

/-! ## Floating-point numbers -/

def floatOperand : Value → Except Error Binary64
  | .float x => .ok x
  | .bool b => .ok (.ofBool b)
  | .int i =>
    match Binary64.ofInt? i with
    | some x => .ok x
    | none => .error .integerTooLarge
  | v => .error (.floatRequired v.kind)

def floatForm (c : Char) : Binary64.FixedForm :=
  if c.toLower = 'e' then .scientific else if c.toLower = 'f' then .positional else .general

/-- The digits behind the point.  The scientific form counts its first digit with them, and past
the greatest count it is left with that digit alone. -/
def floatPlaces (c : Char) (precision : Option Nat) : Nat :=
  let places := precision.getD 6
  if c.toLower = 'e' && places = precisionLimit then 0 else places

def convertFloat (c : Char) (alternate : Bool) (precision : Option Nat) (x : Binary64) :
    Converted :=
  let body : List Text.Stretch :=
    match x with
    | .nan => [.chars "nan".toList]
    | .infinite _ => [.chars "inf".toList]
    | .finite _ m e _ => Binary64.fixedText (floatForm c) (floatPlaces c precision) alternate m e
  { isNumber := true
    negative := x.isNegative
    mark := []
    body := if c.isUpper then body.map (·.map Char.toUpper) else body }

/-! ## Characters and texts -/

/-- The character for a number.  The numbers kept for the halves of surrogate pairs are those of no
character, and the replacement character stands for them. -/
def characterOf (n : Nat) : Char :=
  if n.isValidChar then Char.ofNat n else Char.ofNat 0xFFFD

/-- One character, given as a text of length one or by its number. -/
def characterOperand : Value → Except Error Char
  | .text s =>
    match s.toList with
    | [c] => .ok c
    | _ => .error .characterRequired
  | .int i => ofNumber i
  | .bool b => ofNumber (Value.ofTruth b)
  | _ => .error .characterRequired
where
  ofNumber (i : Int) : Except Error Char :=
    if 0 ≤ i && i < 0x110000 then .ok (characterOf i.toNat) else .error .characterRange

/-- The precision of a text is the greatest number of its characters. -/
def convertText (precision : Option Nat) (s : String) : Converted :=
  .ofText (match precision with
    | some n => s.toList.take n
    | none => s.toList)

def convert (c : Char) (position : Nat) (alternate : Bool) (precision : Option Nat) (v : Value) :
    Except Error Converted :=
  if c = 's' then .ok (convertText precision v.plain)
  else if c = 'r' then .ok (convertText precision (v.quoted .printable))
  else if c = 'a' then .ok (convertText precision (v.quoted .ascii))
  else if ['d', 'i', 'u'].contains c then
    (decimalOperand c v).bind (convertInteger c alternate precision)
  else if ['o', 'x', 'X'].contains c then
    (exactOperand c v).bind (convertInteger c alternate precision)
  else if ['e', 'E', 'f', 'F', 'g', 'G'].contains c then
    (floatOperand v).map (convertFloat c alternate precision)
  else if c = 'c' then (characterOperand v).map (fun ch => .ofText [ch])
  else .error (.unsupportedConversion c position)

/-! ## Padding -/

def signOf (flags : Flags) (x : Converted) : List Char :=
  if !x.isNumber then []
  else if x.negative then ['-']
  else if flags.plus then ['+']
  else if flags.blank then [' ']
  else []

/-- The converted value filled up to `width` characters: with blanks behind it or before it, or
with zeros before the digits of a number. -/
def padded (flags : Flags) (width : Nat) (x : Converted) : List Text.Stretch :=
  let front := signOf flags x ++ x.mark
  let missing := width - (front.length + Text.Stretch.total x.body)
  if flags.left then .chars front :: x.body ++ [.fill ' ' missing]
  else if flags.zero && x.isNumber then .chars front :: .fill '0' missing :: x.body
  else .fill ' ' missing :: .chars front :: x.body

end Template
end WorkflowDispatch
