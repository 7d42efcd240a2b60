/-!
Numerals: the digits of a number and the number that digits stand for.
-/

namespace WorkflowDispatch
namespace Text

def decimalNat (n : Nat) : List Char := Nat.toDigits 10 n

def decimalInt (i : Int) : List Char :=
  if i < 0 then '-' :: decimalNat i.natAbs else decimalNat i.natAbs

/-- The text of an integer, with a sign only before a negative one.  It is written with all its
digits wherever it is used: that a runtime refuses to write more than 4300 of them is left out. -/
def decimal (i : Int) : String := String.ofList (decimalInt i)

/-- The digits of `n` to base 16, filled up with zeros to `width` characters. -/
def hex (width n : Nat) : List Char := (Nat.toDigits 16 n).leftpad width '0'

/-- The decimal digits of `n`, filled up with zeros to `width` characters. -/
def padded (width n : Nat) : List Char := (decimalNat n).leftpad width '0'

def digitValue (c : Char) : Nat := c.toNat - '0'.toNat

/-- The number that a list of ASCII digits stands for, read from the left. -/
def valueOf (digits : List Char) : Nat := digits.foldl (fun n c => 10 * n + digitValue c) 0

end Text
end WorkflowDispatch
