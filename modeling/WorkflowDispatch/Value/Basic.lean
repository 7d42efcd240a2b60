import WorkflowDispatch.Binary64.Basic
/-!
Values that settings and log records carry.  They are dynamic by nature: a log record accepts any
value as an attribute, and a caller may pass a value of the wrong kind for a setting.
-/

namespace WorkflowDispatch

/-- A `secret` is a text that never shows its content, and a `path` is held in the normal form of
`Value.normalPath`. -/
inductive Value where
  | none
  | bool (b : Bool)
  | int (i : Int)
  | float (x : Binary64)
  | text (s : String)
  | list (items : List Value)
  | tuple (items : List Value)
  | map (entries : List (Value × Value))
  | secret (s : String)
  | path (p : String)
  | bytes (b : List UInt8)

namespace Value

/-- The name of a value's kind, as messages give it. -/
def kind : Value → String
  | .none => "NoneType"
  | .bool _ => "bool"
  | .int _ => "int"
  | .float _ => "float"
  | .text _ => "str"
  | .list _ => "list"
  | .tuple _ => "tuple"
  | .map _ => "dict"
  | .secret _ => "SecretStr"
  | .path _ => "PurePosixPath"
  | .bytes _ => "bytes"

/-- Whether a value counts as present.  Zero and everything empty is absent, but a path never
is. -/
def isPresent : Value → Bool
  | .none => false
  | .bool b => b
  | .int i => i != 0
  | .float x => !x.isZero
  | .text s => !s.isEmpty
  | .list items => !items.isEmpty
  | .tuple items => !items.isEmpty
  | .map entries => !entries.isEmpty
  | .secret s => !s.isEmpty
  | .path _ => true
  | .bytes b => !b.isEmpty

/-! ## Keys -/

/-- The integer that a truth value stands for among numbers. -/
def ofTruth (b : Bool) : Int := if b then 1 else 0

mutual

/-- Two values are the same key when they are equal.  Truth values, integers and floating-point
numbers are compared as numbers, so `1`, `1.0` and `true` are one key. -/
def sameKey : Value → Value → Bool
  | .none, .none => true
  | .bool a, .bool b => a == b
  | .bool a, .int b => ofTruth a == b
  | .bool a, .float b => b.equalsInt (ofTruth a)
  | .int a, .bool b => a == ofTruth b
  | .int a, .int b => a == b
  | .int a, .float b => b.equalsInt a
  | .float a, .bool b => a.equalsInt (ofTruth b)
  | .float a, .int b => a.equalsInt b
  | .float a, .float b => a.equals b
  | .text a, .text b => a == b
  | .tuple a, .tuple b => sameKeys a b
  | .secret a, .secret b => a == b
  | .path a, .path b => a == b
  | .bytes a, .bytes b => a == b
  | _, _ => false

def sameKeys : List Value → List Value → Bool
  | [], [] => true
  | a :: as, b :: bs => sameKey a b && sameKeys as bs
  | _, _ => false

end

/-- A key that is set again keeps its place and its first form. -/
def setEntry (key value : Value) : List (Value × Value) → List (Value × Value)
  | [] => [(key, value)]
  | (k, v) :: rest =>
    if sameKey k key then (k, value) :: rest else (k, v) :: setEntry key value rest

/-- The map that arises when the entries are set from left to right. -/
def ofEntries (entries : List (Value × Value)) : Value :=
  .map (entries.foldl (fun m e => setEntry e.1 e.2 m) [])

/-! ## Paths -/

/-- The slashes that a path begins with.  Two of them are a root of their own, any other number
counts as one. -/
def pathRoot (cs : List Char) : List Char :=
  match (cs.takeWhile (· == '/')).length with
  | 0 => []
  | 2 => ['/', '/']
  | _ => ['/']

/-- The path without empty components and without components that name the same place. -/
def normalPath (p : String) : String :=
  let root := pathRoot p.toList
  let parts := (p.toList.splitOn '/').filter (fun part => !part.isEmpty && part != ['.'])
  let body := (['/'].intercalate parts)
  if root.isEmpty && body.isEmpty then "." else String.ofList (root ++ body)

def ofPath (p : String) : Value := .path (normalPath p)

end Value
end WorkflowDispatch
