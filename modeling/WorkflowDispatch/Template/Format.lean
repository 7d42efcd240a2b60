import WorkflowDispatch.Template.Conversion
/-!
Putting values into a template.  A tuple gives its items in order, any other value is the only one
to be written, and a container other than a tuple is also a source of values by key.
-/

namespace WorkflowDispatch
namespace Template

/-- The values that are still to be written, and the container in which keys are looked up. -/
structure Pending where
  values : List Value
  source : Option Value

/-- Lists and bytes count as containers, although a key never fits them. -/
def isSource : Value → Bool
  | .map _ => true
  | .list _ => true
  | .bytes _ => true
  | _ => false

def Pending.ofValue : Value → Pending
  | .tuple items => ⟨items, none⟩
  | v => ⟨[v], if isSource v then some v else none⟩

def Pending.take (p : Pending) : Except Error (Value × Pending) :=
  match p.values with
  | [] => .error .tooFewValues
  | v :: rest => .ok (v, { p with values := rest })

def lookUp (source : Value) (key : String) : Except Error Value :=
  match source with
  | .map entries =>
    match entries.find? (fun e => Value.sameKey e.1 (.text key)) with
    | some e => .ok e.2
    | none => .error (.missingKey key)
  | .bytes _ => .error (.wrongIndex "byte")
  | _ => .error (.wrongIndex "list")

/-- A value that is looked up takes the place of those still to be written. -/
def Pending.select (p : Pending) : Key → Except Error Pending
  | .absent => .ok p
  | .unclosed =>
    match p.source with
    | none => .error .mappingRequired
    | some _ => .error .incompleteKey
  | .named key =>
    match p.source with
    | none => .error .mappingRequired
    | some source => (lookUp source key).map (fun v => { p with values := [v] })

/-- An amount that is taken from the values must be an integer no further from zero than
`limit`. -/
def Pending.amount (p : Pending) (limit : Nat) (overflow : Error) :
    Amount → Except Error (Option Int × Pending)
  | .absent => .ok (none, p)
  | .given n => .ok (some n, p)
  | .taken => do
    let (v, p) ← p.take
    let n ← match v with
      | .int n => pure n
      | .bool b => pure (Value.ofTruth b)
      | _ => throw .amountNotInteger
    if (limit : Int) < n || n < -(limit : Int) - 1 then throw overflow
    return (some n, p)

/-- A negative width asks for its opposite with the blanks behind the value. -/
def widthFlags (flags : Flags) (width : Option Int) : Flags :=
  match width with
  | some n => if n < 0 then { flags with left := true } else flags
  | none => flags

/-- The least width has no opposite and asks for nothing. -/
def fillWidth (width : Option Int) : Nat :=
  let n := (width.map Int.natAbs).getD 0
  if widthLimit < n then 0 else n

/-- No more characters than this can be put in for one directive. -/
def directiveLimit : Nat := 0x200000000

/-- No more characters than this can be put together into one message. -/
def messageLimit : Nat := 0x40000000

/-- The text for a directive.  The values for its width and its precision are taken before the one
to be written. -/
def apply (d : Directive) (p : Pending) : Except Error (List Text.Stretch × Pending) := do
  let p ← p.select d.key
  let (width, p) ← p.amount widthLimit .widthOverflow d.width
  let (precision, p) ← p.amount precisionLimit .precisionOverflow d.precision
  let (c, position) ← d.conversion
  let (v, p) ← p.take
  let x ← convert c position d.flags.alternate (precision.map Int.toNat) v
  let parts := padded (widthFlags d.flags width) (fillWidth width) x
  if directiveLimit < Text.Stretch.total parts then throw .tooLong
  return (parts, p)

def applyAll : List Piece → Pending → Except Error (List Text.Stretch × Pending)
  | [], p => .ok ([], p)
  | .text cs :: rest, p => (applyAll rest p).map (fun r => (.chars cs :: r.1, r.2))
  | .directive d :: rest, p => do
    let (parts, p) ← apply d p
    let (more, p) ← applyAll rest p
    return (parts ++ more, p)

/-- The template with the values put in.  All of them must have been used, except that a source of
keys may be left alone. -/
def format (template : String) (arguments : Value) : Except Error String := do
  let (parts, p) ← applyAll (pieces template.toList) (.ofValue arguments)
  if !p.values.isEmpty && p.source.isNone then throw .tooManyValues
  if messageLimit < Text.Stretch.total parts then throw .tooLong
  return String.ofList (Text.Stretch.concat parts)

end Template
end WorkflowDispatch
