import WorkflowDispatch.Text.Case.Table
/-!
Upper and lower case of a text, character by character and without regard to the neighbours.  A
character may grow into several, so a text and its upper case can differ in length.
-/

namespace WorkflowDispatch
namespace Text
namespace Case

def Run.apply (r : Run) (n : Nat) : Char := Char.ofNat ((n : Int) + r.shift).toNat

/-- The mapping that the two tables describe.  A character that is in neither stays as it is. -/
def mapped (runs : List Run) (expansions : List (Nat × List Nat)) (c : Char) : List Char :=
  match expansions.lookup c.toNat with
  | some codes => codes.map Char.ofNat
  | none =>
    match runs.find? (·.contains c.toNat) with
    | some r => [r.apply c.toNat]
    | none => [c]

def upperChar (c : Char) : List Char :=
  if c.toNat < 0x80 then [c.toUpper] else mapped upperRuns upperExpansions c

def lowerChar (c : Char) : List Char :=
  if c.toNat < 0x80 then [c.toLower] else mapped lowerRuns lowerExpansions c

end Case

def upper (s : String) : String := String.ofList (s.toList.flatMap Case.upperChar)

def lower (s : String) : String := String.ofList (s.toList.flatMap Case.lowerChar)

end Text
end WorkflowDispatch
