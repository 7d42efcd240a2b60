import WorkflowDispatch.Binary64.Basic
import WorkflowDispatch.Text.Numeral
/-!
The shortest decimal text of a number: the fewest digits that read back as the number, and of
those the nearest to it.
-/

namespace WorkflowDispatch
namespace Binary64
namespace Shortest

/-- The reals that are rounded to `mantissa * 2 ^ exponent` lie between `low` and `high`, all
three divided by `den`.  The two ends belong to the interval when the mantissa is even. -/
structure Interval where
  low : Nat
  value : Nat
  high : Nat
  den : Nat
  closed : Bool

/-- Below a power of two the neighbours lie twice as close. -/
def interval (mantissa : Nat) (exponent : Int) : Interval :=
  let below := if mantissa = twoPow 52 && leastExponent < exponent then 1 else 2
  let up := twoPow exponent.toNat
  { low := (4 * mantissa - below) * up
    value := 4 * mantissa * up
    high := (4 * mantissa + 2) * up
    den := 4 * twoPow (-exponent).toNat
    closed := mantissa % 2 == 0 }

/-- The value `n / den` lies in the interval. -/
def Interval.contains (i : Interval) (num den : Nat) : Bool :=
  let x := num * i.den
  let low := i.low * den
  let high := i.high * den
  if i.closed then low ≤ x && x ≤ high else low < x && x < high

/-- A power of ten past the reciprocal of every positive number. -/
def reach : Nat := 400

/-- How many digits stand before the decimal point.  It is negative for a number with zeros
behind the point. -/
def pointPosition (num den : Nat) : Int :=
  ((Text.decimalNat (num * tenPow reach / den)).length : Int) - reach

/-- The better of the two multiples of `unitNum / unitDen` around the value, if one is in the
interval. -/
def onGrid? (i : Interval) (unitNum unitDen : Nat) : Option Nat :=
  let lower := i.value * unitDen / (i.den * unitNum)
  let upper := lower + 1
  let hits (d : Nat) := i.contains (d * unitNum) unitDen
  match hits lower, hits upper with
  | true, false => some lower
  | false, true => some upper
  | false, false => none
  | true, true =>
    let twice := 2 * i.value * unitDen
    let middle := (lower + upper) * unitNum * i.den
    if twice < middle then some lower
    else if middle < twice then some upper
    else some (if lower % 2 = 0 then lower else upper)

/-- The digits of the first grid with a hit, where `place` is the position of the point and the
grids have one digit more each time. -/
def search (i : Interval) (place : Int) : List Nat → Option Nat
  | [] => none
  | digits :: more =>
    let unit := place - digits
    match onGrid? i (tenPow unit.toNat) (tenPow (-unit).toNat) with
    | some d => some (d * tenPow (17 - digits))
    | none => search i place more

/-- The digits without zeros at the end, and the position of the point, for a mantissa that is
not zero. -/
def digits (mantissa : Nat) (exponent : Int) : List Char × Int :=
  let i := interval mantissa exponent
  let place := pointPosition i.value i.den
  let all := Text.decimalNat ((search i place (List.range' 1 17)).getD 0)
  ((all.reverse.dropWhile (· == '0')).reverse, place + (all.length - 17 : Int))

end Shortest

/-- How the digits of a number are laid out: without an exponent from `10 ^ leastPositional` up to
but not including `10 ^ positionalEnd`, and how the three special values are written. -/
structure TextStyle where
  leastPositional : Int
  positionalEnd : Int
  infinity : String
  notANumber : String

/-- The style of messages. -/
def plainStyle : TextStyle := ⟨-4, 16, "inf", "nan"⟩

/-- The style of documents, which differs in the special values only. -/
def documentStyle : TextStyle := ⟨-4, 16, "Infinity", "NaN"⟩

/-- An exponent has a sign and at least two digits. -/
def exponentText (e : Int) : List Char :=
  'e' :: (if e < 0 then '-' else '+') :: Text.padded 2 e.natAbs

/-- Digits with the point behind the first `place` of them.  There is always a digit on both sides
of the point. -/
def positional (digits : List Char) (place : Int) : List Char :=
  if place ≤ 0 then '0' :: '.' :: List.replicate (-place).toNat '0' ++ digits
  else
    let n := place.toNat
    if digits.length ≤ n then digits ++ List.replicate (n - digits.length) '0' ++ ['.', '0']
    else digits.take n ++ '.' :: digits.drop n

def scientific (digits : List Char) (place : Int) : List Char :=
  digits.take 1 ++ (if digits.length ≤ 1 then [] else '.' :: digits.drop 1)
    ++ exponentText (place - 1)

def textOf (style : TextStyle) : Binary64 → String
  | .nan => style.notANumber
  | .infinite negative => (if negative then "-" else "") ++ style.infinity
  | .finite negative mantissa exponent _ =>
    let body :=
      if mantissa = 0 then ['0', '.', '0']
      else
        let (digits, place) := Shortest.digits mantissa exponent
        if style.leastPositional < place && place ≤ style.positionalEnd then positional digits place
        else scientific digits place
    String.ofList (if negative then '-' :: body else body)

def text (x : Binary64) : String := x.textOf plainStyle

def documentText (x : Binary64) : String := x.textOf documentStyle

end Binary64
end WorkflowDispatch
