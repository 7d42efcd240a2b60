/-!
Blank characters and trimming.  Two classes are in use: trimming a setting removes `isBlank`
characters, reading a number trims the smaller class `isSpace`, which leaves out the four
information separators.
-/

namespace WorkflowDispatch
namespace Text

/-- The white space of Unicode. -/
def isSpace (c : Char) : Bool :=
  let n := c.toNat
  (0x09 ≤ n && n ≤ 0x0D) || n == 0x20 || n == 0x85 || n == 0xA0 || n == 0x1680 ||
    (0x2000 ≤ n && n ≤ 0x200A) || n == 0x2028 || n == 0x2029 || n == 0x202F || n == 0x205F ||
    n == 0x3000

/-- White space and the information separators U+001C to U+001F. -/
def isBlank (c : Char) : Bool :=
  isSpace c || (0x1C ≤ c.toNat && c.toNat ≤ 0x1F)

def trimLeft (p : Char → Bool) (cs : List Char) : List Char := cs.dropWhile p

def trimRight (p : Char → Bool) (cs : List Char) : List Char := (cs.reverse.dropWhile p).reverse

def trim (p : Char → Bool) (cs : List Char) : List Char := trimRight p (trimLeft p cs)

/-- The text without the blanks at its two ends. -/
def strip (s : String) : String := String.ofList (trim isBlank s.toList)

/-- A text is blank when nothing is left of it after `strip`. -/
def isBlankText (s : String) : Bool := s.toList.all isBlank

/-- Removes the character `c` from the right end as often as it stands there. -/
def stripRight (c : Char) (s : String) : String := String.ofList (trimRight (· == c) s.toList)

/-- Removes the character `c` from the left end as often as it stands there. -/
def stripLeft (c : Char) (s : String) : String := String.ofList (trimLeft (· == c) s.toList)

theorem length_dropWhile_le (p : Char → Bool) (cs : List Char) :
    (cs.dropWhile p).length ≤ cs.length := (List.dropWhile_suffix p).length_le

end Text
end WorkflowDispatch
