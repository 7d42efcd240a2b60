/-!
Text in stretches.  A stretch may be one character many times, so the length of a text is known
before the text is written out.
-/

namespace WorkflowDispatch
namespace Text

inductive Stretch where
  | chars (cs : List Char)
  | fill (c : Char) (n : Nat)

namespace Stretch

def length : Stretch → Nat
  | .chars cs => cs.length
  | .fill _ n => n

def toList : Stretch → List Char
  | .chars cs => cs
  | .fill c n => List.replicate n c

def map (f : Char → Char) : Stretch → Stretch
  | .chars cs => .chars (cs.map f)
  | .fill c n => .fill (f c) n

/-- The length of stretches in a row. -/
def total : List Stretch → Nat
  | [] => 0
  | s :: rest => s.length + total rest

/-- Stretches in a row, written out. -/
def concat (parts : List Stretch) : List Char := parts.flatMap toList

theorem length_toList (s : Stretch) : s.toList.length = s.length := by
  cases s <;> simp [toList, length]

theorem length_concat (parts : List Stretch) : (concat parts).length = total parts := by
  induction parts with
  | nil => rfl
  | cons s rest ih =>
    rw [concat] at ih ⊢
    rw [List.flatMap_cons, List.length_append, length_toList, ih, total]

end Stretch
end Text
end WorkflowDispatch
