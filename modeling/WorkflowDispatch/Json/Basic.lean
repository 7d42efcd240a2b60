import WorkflowDispatch.Binary64.Basic
/-!
JSON documents.  The members of an object keep their order, and a name may occur twice, because the
documents are records of what was written and not dictionaries.
-/

namespace WorkflowDispatch

/-- Numbers are kept apart as integers and floating-point numbers, which include infinities and
the number that is none. -/
inductive Json where
  | null
  | bool (b : Bool)
  | int (i : Int)
  | float (x : Binary64)
  | text (s : String)
  | array (items : List Json)
  | object (members : List (String × Json))

end WorkflowDispatch
