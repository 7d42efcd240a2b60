import WorkflowDispatch.Json.OfValue
import WorkflowDispatch.Json.Writer
import WorkflowDispatch.Log.Incident
import WorkflowDispatch.Log.Level
import WorkflowDispatch.Log.Redaction
import WorkflowDispatch.Template.Format
import WorkflowDispatch.Timestamp
/-!
Log records and the line that is written for one: a JSON document with the time, the level, the
logger and the message, and behind them the attributes and the exception of the record if it has
any.
-/

namespace WorkflowDispatch
namespace Log

/-! ## Attributes -/

/-- The names that a record needs for itself. -/
def ownNames : List String :=
  ["name", "msg", "args", "levelname", "levelno", "pathname", "filename", "module", "exc_info",
    "exc_text", "stack_info", "lineno", "funcName", "created", "msecs", "relativeCreated",
    "thread", "threadName", "processName", "process"]

/-- The names that formatting a record gives a meaning to. -/
def formattedNames : List String := ["message", "asctime"]

/-- Attributes with these names are never written. -/
def reservedNames : List String := "taskName" :: formattedNames ++ ownNames

/-- The attributes of a record, none of which has a reserved name. -/
structure Attributes where
  bindings : Bindings Value
  unreserved : ∀ name ∈ bindings.names, name ∉ reservedNames

namespace Attributes

def empty : Attributes := ⟨[], nofun⟩

def set (b : Attributes) (name : String) (v : Value) (h : name ∉ reservedNames) : Attributes where
  bindings := b.bindings.set name v
  unreserved n hn := (Bindings.mem_names_of_set hn).elim (fun heq => heq ▸ h) (b.unreserved n)

/-- The bindings whose names are not reserved. -/
def kept (b : Bindings Value) : Attributes where
  bindings := b.filter (fun a => !reservedNames.contains a.1)
  unreserved n hn hmem := by
    obtain ⟨a, ha, rfl⟩ := List.mem_map.1 hn
    have hfree := (List.mem_filter.1 ha).2
    rw [List.contains_iff_mem.2 hmem] at hfree
    cases hfree

end Attributes

/-! ## Records -/

/-- The parts of a record may be of any kind, because attributes set on it can replace them.  They
can all be replaced at once by a map, and then a part may be missing and an attribute may stand
under a key that is no name: `foreign` is the first of those. -/
structure Record where
  logger : Option Value
  level : Option Value
  message : Option Value
  arguments : Option Value
  created : Option Value
  attributes : Attributes
  foreign : Option Value
  incident : Option Incident

/-- A part of a record that is asked for is missing. -/
structure MissingPart where
  name : String

def MissingPart.message (e : MissingPart) : String :=
  "'LogRecord' object has no attribute '" ++ e.name ++ "'"

/-- Why a record has no message.  A part of it is missing, its template does not fit its arguments,
or an attribute stands in the place of the function that puts the two together. -/
inductive MessageError where
  | missing (e : MissingPart)
  | template (e : Template.Error)
  | notCallable (kind : String)

def MessageError.text : MessageError → String
  | .missing e => e.message
  | .template e => e.message
  | .notCallable kind => "'" ++ kind ++ "' object is not callable"

/-- The key of an attribute is no name, so its first letter cannot be looked at. -/
structure ForeignKey where
  key : Value

def ForeignKey.message (e : ForeignKey) : String :=
  match e.key with
  | .bytes _ => "startswith first arg must be bytes or a tuple of bytes, not str"
  | k => "'" ++ k.kind ++ "' object has no attribute 'startswith'"

/-- Why there is no line for a record. -/
inductive LineError where
  | missing (e : MissingPart)
  | time (e : Timestamp.Error)
  | message (e : MessageError)
  | foreign (e : ForeignKey)
  | incident (e : Incident.Error)
  | key (e : Json.KeyError)

def LineError.text : LineError → String
  | .missing e => e.message
  | .time e => e.message
  | .message e => e.text
  | .foreign e => e.message
  | .incident e => e.message
  | .key e => e.message

/-! ## Parts -/

/-- The name of the function that puts a message together. -/
def messageName : String := "getMessage"

/-- An attribute under a name of the record replaces that part of it. -/
def Record.replace (r : Record) (name : String) (v : Value) : Record :=
  if name = "name" then { r with logger := some v }
  else if name = "msg" then { r with message := some v }
  else if name = "args" then { r with arguments := some v }
  else if name = "levelname" then { r with level := some v }
  else if name = "created" then { r with created := some v }
  else if name = "exc_info" then { r with incident := some (.value v) }
  else if h : name ∈ reservedNames then r
  else { r with attributes := r.attributes.set name v h }

/-- A record without any part. -/
def Record.blank : Record :=
  { logger := none
    level := none
    message := none
    arguments := none
    created := none
    attributes := .empty
    foreign := none
    incident := none }

/-- An attribute under any key. -/
def Record.put (r : Record) (key v : Value) : Record :=
  match key with
  | .text name => r.replace name v
  | key => { r with foreign := r.foreign.or (some key) }

/-- The record whose parts and attributes are the entries of a map. -/
def Record.ofEntries (entries : List (Value × Value)) : Record :=
  entries.foldl (fun r e => r.put e.1 e.2) .blank

/-- Three names belong to the record as an object.  No value can be its class, and only a map can
hold its attributes. -/
inductive AssignError where
  | notClass (kind : String)
  | notMap (kind : String)
  | notWritable (name : String)

def AssignError.message : AssignError → String
  | .notClass kind => "__class__ must be set to a class, not '" ++ kind ++ "' object"
  | .notMap kind => "__dict__ must be set to a dictionary, not a '" ++ kind ++ "'"
  | .notWritable name => "attribute '" ++ name ++ "' of 'LogRecord' objects is not writable"

def Record.assign (r : Record) (name : String) (v : Value) : Except AssignError Record :=
  if name = "__class__" then .error (.notClass v.kind)
  else if name = "__weakref__" then .error (.notWritable name)
  else if name = "__dict__" then
    match v with
    | .map entries => .ok (.ofEntries entries)
    | v => .error (.notMap v.kind)
  else .ok (r.replace name v)

/-- Arguments are a tuple, unless a single map is given that is not empty: then the template refers
to its keys. -/
def argumentsOf : List Value → Value
  | [.map (e :: entries)] => .map (e :: entries)
  | values => .tuple values

/-- A record as a logger makes it, without attributes. -/
def Record.make (logger : String) (level : Int) (message : Value) (arguments : List Value)
    (created : Value) (incident : Incident) : Record :=
  { logger := some (.text logger)
    level := some (.text (Level.shown level))
    message := some message
    arguments := some (argumentsOf arguments)
    created := some created
    attributes := .empty
    foreign := none
    incident := some incident }

/-! ## The line -/

/-- A part of the record that is known under a name. -/
def part {α : Type} (name : String) (v : Option α) : Except MissingPart α :=
  match v with
  | some v => .ok v
  | none => .error ⟨name⟩

/-- A message without arguments is not a template. -/
def Record.text (r : Record) : Except MessageError String :=
  match r.attributes.bindings.get? messageName with
  | some v => .error (.notCallable v.kind)
  | none => do
    let message ← (part "msg" r.message).mapError .missing
    let arguments ← (part "args" r.arguments).mapError .missing
    if arguments.isPresent then (Template.format message.plain arguments).mapError .template
    else .ok message.plain

/-- Attributes whose name begins with an underscore are private. -/
def isShown (name : String) : Bool := name.toList.head? != some '_'

/-- The attributes as they are shown, with credentials redacted. -/
def Record.shownAttributes (r : Record) : Bindings Value :=
  (r.attributes.bindings.filter (fun a => isShown a.1)).map (fun a => (a.1, redact a.1 a.2))

/-- Every attribute stands under a name. -/
def Record.checkNames (r : Record) : Except ForeignKey Unit :=
  match r.foreign with
  | some key => .error ⟨key⟩
  | none => .ok ()

/-- A record without attributes to show has no such member. -/
def extraMember (attributes : Bindings Value) : Except Json.KeyError (List (String × Json)) :=
  if attributes.isEmpty then .ok []
  else (Json.ofValue (namedMap attributes)).map (fun j => [("extra", j)])

def exceptionMember : Option String → List (String × Json)
  | some text => [("exception", .text text)]
  | none => []

def Record.document (r : Record) : Except LineError Json := do
  let created ← (part "created" r.created).mapError .missing
  let time ← (Timestamp.ofValue created).mapError .time
  let level ← (part "levelname" r.level).mapError .missing
  let logger ← (part "name" r.logger).mapError .missing
  let message ← r.text.mapError .message
  r.checkNames.mapError .foreign
  let incident ← (part "exc_info" r.incident).mapError .missing
  let exception ← incident.report?.mapError .incident
  let level ← (Json.ofValue level).mapError .key
  let logger ← (Json.ofValue logger).mapError .key
  let extra ← (extraMember r.shownAttributes).mapError .key
  return .object
    ([("timestamp", .text time.text), ("level", level), ("logger", logger),
      ("message", .text message)] ++ extra ++ exceptionMember exception)

def Record.line (r : Record) : Except LineError String :=
  r.document.map (Json.write .unicode)

end Log
end WorkflowDispatch
