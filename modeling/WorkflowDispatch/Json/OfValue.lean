import WorkflowDispatch.Json.Basic
import WorkflowDispatch.Value.Text
/-!
The document for a value.  Values without a counterpart in JSON become their plain text, and keys
become texts where JSON has a notation for them.
-/

namespace WorkflowDispatch
namespace Json

/-- A map has a key of a kind that no JSON name can stand for. -/
structure KeyError where
  kind : String

def KeyError.message (e : KeyError) : String :=
  "keys must be str, int, float, bool or None, not " ++ e.kind

/-- The name for a key.  Numbers and constants take their JSON notation. -/
def nameOfKey : Value → Except KeyError String
  | .text s => .ok s
  | .none => .ok "null"
  | .bool b => .ok (if b then "true" else "false")
  | .int i => .ok (Text.decimal i)
  | .float x => .ok x.documentText
  | v => .error ⟨v.kind⟩

mutual

def ofValue : Value → Except KeyError Json
  | .none => .ok .null
  | .bool b => .ok (.bool b)
  | .int i => .ok (.int i)
  | .float x => .ok (.float x)
  | .text s => .ok (.text s)
  | .list items => (ofItems items).map .array
  | .tuple items => (ofItems items).map .array
  | .map entries => (ofEntries entries).map .object
  | .secret s => .ok (.text (Value.maskedSecret s))
  | .path p => .ok (.text p)
  | .bytes b => .ok (.text (Text.quoteBytes b))

def ofItems : List Value → Except KeyError (List Json)
  | [] => .ok []
  | v :: rest => do
    let first ← ofValue v
    let others ← ofItems rest
    return first :: others

def ofEntries : List (Value × Value) → Except KeyError (List (String × Json))
  | [] => .ok []
  | (k, v) :: rest => do
    let name ← nameOfKey k
    let first ← ofValue v
    let others ← ofEntries rest
    return (name, first) :: others

end

end Json
end WorkflowDispatch
