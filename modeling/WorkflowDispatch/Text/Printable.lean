import WorkflowDispatch.Text.Printable.Table
/-!
Which characters quoted text shows as they are.
-/

namespace WorkflowDispatch
namespace Text

/-- Among the ASCII characters these are the space and the visible ones. -/
def isPrintable (c : Char) : Bool :=
  let n := c.toNat
  if n < 0x80 then 0x20 ≤ n && n < 0x7F
  else !unprintableRanges.any (fun r => r.1 ≤ n && n ≤ r.2)

end Text
end WorkflowDispatch
