import WorkflowDispatch.Binary64.Shortest
import WorkflowDispatch.Text.Stretch
/-!
Decimal texts with a given number of digits, rounded from the exact value with ties going to the
even digit.  They show the magnitude; the sign is the business of the caller.  Where more digits are
asked for than any number has, the rest are zeros and are not computed.
-/

namespace WorkflowDispatch
namespace Binary64

namespace Fixed

/-- No finite number has a digit other than zero so far behind its point or its first digit. -/
def exactDigits : Nat := 1100

/-- The magnitude `num / den` with `places` digits behind the point, which `point` keeps even when
no digit follows it. -/
def positional (num den places : Nat) (point : Bool) : List Char :=
  let all := Text.padded (places + 1) (roundDiv (num * tenPow places) den)
  let whole := all.take (all.length - places)
  let fraction := all.drop (all.length - places)
  if places = 0 && !point then whole else whole ++ '.' :: fraction

/-- The first `count` significant digits of `num / den` and the exponent of the first of them.
Rounding can carry into a new first digit. -/
def significant (num den count : Nat) : List Char × Int :=
  if num = 0 then (List.replicate count '0', 0)
  else
    let place := Shortest.pointPosition num den
    let unit := place - count
    let n := roundDiv (num * tenPow (-unit).toNat) (den * tenPow unit.toNat)
    if n = tenPow count then (Text.decimalNat (tenPow (count - 1)), place)
    else (Text.decimalNat n, place - 1)

/-- The first digit before the point and the others behind it. -/
def pointed (digits : List Char) (point : Bool) : List Char :=
  digits.take 1 ++ (if digits.length ≤ 1 && !point then [] else '.' :: digits.drop 1)

/-- Zeros at the end of a fraction are dropped, and the point with them when nothing is left. -/
def dropZeros (cs : List Char) : List Char :=
  if cs.contains '.' then
    let kept := (cs.reverse.dropWhile (· == '0')).reverse
    if kept.getLast? = some '.' then kept.dropLast else kept
  else cs

/-- Digits laid out with the point behind the one of exponent 0. -/
def laidOut (digits : List Char) (exponent : Int) (point : Bool) : List Char :=
  if exponent < 0 then '0' :: '.' :: List.replicate (-exponent - 1).toNat '0' ++ digits
  else
    let n := exponent.toNat + 1
    digits.take n ++ (if digits.length ≤ n && !point then [] else '.' :: digits.drop n)

end Fixed

/-- The three ways of giving a number a set number of digits. -/
inductive FixedForm where
  | positional
  | scientific
  | general

/-- A number's digits up to the last one that is computed, and what follows all its digits. -/
def fixedParts (form : FixedForm) (places : Nat) (keep : Bool) (num den : Nat) :
    List Char × List Char :=
  match form with
  | .positional => (Fixed.positional num den places keep, [])
  | .scientific =>
    let (digits, e) := Fixed.significant num den (places + 1)
    (Fixed.pointed digits keep, exponentText e)
  | .general =>
    let count := max places 1
    let (digits, e) := Fixed.significant num den count
    if -4 ≤ e && e < count then
      let cs := Fixed.laidOut digits e keep
      (if keep then cs else Fixed.dropZeros cs, [])
    else
      let kept := if keep then digits else (digits.reverse.dropWhile (· == '0')).reverse
      (Fixed.pointed (if kept.isEmpty then ['0'] else kept) keep, exponentText e)

/-- The digits of a finite magnitude.  The general form takes the scientific one for exponents
below -4 and for those that reach the number of digits, and it drops zeros at the end unless
`keep` is set; in the other forms `keep` keeps the point only. -/
def fixedText (form : FixedForm) (places : Nat) (keep : Bool) (mantissa : Nat) (exponent : Int) :
    List Text.Stretch :=
  let (num, den) := magnitude mantissa exponent
  let (front, back) := fixedParts form (min places Fixed.exactDigits) keep num den
  match form, keep with
  | .general, false => [.chars (front ++ back)]
  | _, _ => [.chars front, .fill '0' (places - Fixed.exactDigits), .chars back]

end Binary64
end WorkflowDispatch
