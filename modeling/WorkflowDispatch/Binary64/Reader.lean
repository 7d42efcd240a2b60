import WorkflowDispatch.Binary64.Basic
import WorkflowDispatch.Text.Blank
import WorkflowDispatch.Text.Numeral
/-!
Reading a number from its decimal text.  The text is read exactly and then rounded once.
-/

namespace WorkflowDispatch
namespace Binary64

/-- Between these decimal exponents lie all finite numbers.  A numeral outside needs no
arithmetic. -/
def decimalExponentBound : Int := 400

/-- The number nearest to `digits * 10 ^ exponent`. -/
def ofDecimal (negative : Bool) (digits : List Char) (exponent : Int) : Binary64 :=
  let digits := digits.dropWhile (· == '0')
  let size : Int := digits.length
  if digits.isEmpty then zero negative
  else if decimalExponentBound < size + exponent then .infinite negative
  else if size + exponent < -decimalExponentBound then zero negative
  else if 0 ≤ exponent then
    ofRatio negative (Text.valueOf digits * tenPow exponent.toNat) 1 Nat.one_pos
  else ofRatio negative (Text.valueOf digits) (tenPow (-exponent).toNat) (tenPow_pos _)

namespace Reader

/-- A sign in front, and what follows it. -/
def sign : List Char → Bool × List Char
  | '-' :: rest => (true, rest)
  | '+' :: rest => (false, rest)
  | rest => (false, rest)

/-- The exponent part that must fill the rest of the text: nothing, or the letter, an optional
sign and at least one digit. -/
def exponentPart? : List Char → Option Int
  | [] => some 0
  | c :: rest =>
    if c = 'e' || c = 'E' then
      let (negative, digits) := sign rest
      if digits.isEmpty || !digits.all Char.isDigit then none
      else
        let n : Int := Text.valueOf digits
        some (if negative then -n else n)
    else none

/-- The digits before and after the point and the text behind them.  At least one digit is
needed, on either side. -/
def significand? (cs : List Char) : Option (List Char × List Char × List Char) :=
  let whole := cs.takeWhile Char.isDigit
  let (fraction, rest) :=
    match cs.dropWhile Char.isDigit with
    | '.' :: tail => (tail.takeWhile Char.isDigit, tail.dropWhile Char.isDigit)
    | tail => ([], tail)
  if whole.isEmpty && fraction.isEmpty then none else some (whole, fraction, rest)

def numeral? (negative : Bool) (cs : List Char) : Option Binary64 := do
  let (whole, fraction, rest) ← significand? cs
  let exponent ← exponentPart? rest
  return ofDecimal negative (whole ++ fraction) (exponent - fraction.length)

/-- A numeral, or one of the words for infinity and for no number, in letters of any case. -/
def unseparated? (cs : List Char) : Option Binary64 :=
  let (negative, body) := sign cs
  let word := String.ofList (body.map Char.toLower)
  if word = "inf" || word = "infinity" then some (.infinite negative)
  else if word = "nan" then some .nan
  else numeral? negative body

def hasDoubled (c : Char) : List Char → Bool
  | a :: b :: rest => (a == c && b == c) || hasDoubled c (b :: rest)
  | _ => false

/-- A text in which underscores separate characters: none at the ends and no two in a row. -/
def isSeparated (cs : List Char) : Bool :=
  cs.head? != some '_' && cs.getLast? != some '_' && !hasDoubled '_' cs

end Reader

/-- Reads a numeral.  It may have white space around it or underscores inside it, but not both. -/
def ofText? (s : String) : Option Binary64 :=
  let cs := s.toList
  match Reader.unseparated? (Text.trim Text.isSpace cs) with
  | some x => some x
  | none =>
    if Reader.isSeparated cs then Reader.unseparated? (cs.filter (· != '_')) else none

end Binary64
end WorkflowDispatch
