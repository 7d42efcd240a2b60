import WorkflowDispatch.Value.Text
/-!
The items of a value by number.  Texts and bytes have items too, and in a map the number is looked
up as a key.
-/

namespace WorkflowDispatch
namespace Value

/-- Why a value has no item of a number. -/
inductive ItemError where
  | noItems (kind : String)
  | outOfRange (container : String)
  | missingKey (n : Nat)

/-- Bytes have no name in the message. -/
def ItemError.message : ItemError → String
  | .noItems kind => "'" ++ kind ++ "' object is not subscriptable"
  | .outOfRange container => container ++ "index out of range"
  | .missingKey n => Text.decimal n

/-- The item at a position that must exist. -/
def itemAt (container : String) (items : List Value) (n : Nat) : Except ItemError Value :=
  match items[n]? with
  | some v => .ok v
  | .none => .error (.outOfRange container)

def item (v : Value) (n : Nat) : Except ItemError Value :=
  match v with
  | .text s => itemAt "string " (s.toList.map (fun c => .text (String.singleton c))) n
  | .list items => itemAt "list " items n
  | .tuple items => itemAt "tuple " items n
  | .bytes b => itemAt "" (b.map (fun x => .int x.toNat)) n
  | .map entries =>
    match entries.find? (fun e => sameKey e.1 (.int n)) with
    | some e => .ok e.2
    | .none => .error (.missingKey n)
  | v => .error (.noItems v.kind)

end Value
end WorkflowDispatch
