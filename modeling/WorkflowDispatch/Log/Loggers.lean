import WorkflowDispatch.Log.Record
/-!
Loggers and what they write.  Loggers form a tree by their dotted names, in which a logger has its
place from the first time that it is used; a record is written when its level reaches the one that
is in force at its logger.  All output goes through the handlers of the root.
-/

namespace WorkflowDispatch
namespace Log

/-- What a piece of a program gives to a logger. -/
structure Entry where
  logger : String
  level : Int
  message : Value
  arguments : List Value := []
  attributes : Bindings Value := []
  incident : Incident := .absent

/-- Text for the two streams. -/
structure Loggers.Output where
  out : String
  err : String

/-- A handler writes every record as a line of its own, or writes nothing. -/
inductive Handler where
  | lines
  | silent
  deriving DecidableEq, Repr

/-- A handler at the root.  Besides the kinds above it may be one that somebody else has set up,
which is known by a number and writes what it wants. -/
inductive RootHandler where
  | own (h : Handler)
  | foreign (id : Nat) (write : Record → Loggers.Output)

/-- Foreign handlers are told apart by their numbers. -/
instance : BEq RootHandler where
  beq
    | .own h, .own k => h == k
    | .foreign i _, .foreign j _ => i == j
    | _, _ => false

/-- A logger below the root.  The level 0 is no level of its own, and a logger without a parent
stands directly below the root. -/
structure Logger where
  level : Int
  parent : Option String

/-- The loggers in use and the handlers of the root.  A vacancy is a name above a logger that no
logger had when the one below it came into use. -/
structure Loggers where
  rootLevel : Int
  known : Bindings Logger
  vacancies : List (String × String)
  rootHandlers : List RootHandler

namespace Loggers

/-- The loggers of these libraries have a handler of their own, which is silent, and the loggers
below them use it. -/
def handledNames : List String := ["urllib3", "requests"]

/-- The libraries whose loggers are kept from writing debug records. -/
def quietNames : List String := ["github", "urllib3"]

/-- The loggers of the libraries are in use from the beginning. -/
def initial : Loggers :=
  { rootLevel := Level.warning.number
    known := .ofPairs ((quietNames ++ handledNames).map (fun name => (name, ⟨0, none⟩)))
    vacancies := []
    rootHandlers := [] }

/-! ## The tree -/

def rootName : String := "root"

/-- The root has two names. -/
def isRoot (name : String) : Bool := name.isEmpty || name == rootName

/-- The names above a name, the nearest first, where its characters are given from its end.  A dot
at the very beginning ends no name, and of two dots in a row the first ends none. -/
def namesAboveOf : List Char → List String
  | [] => []
  | '.' :: c :: rest => String.ofList (c :: rest).reverse :: namesAboveOf rest
  | _ :: rest => namesAboveOf rest

def namesAbove (name : String) : List String := namesAboveOf name.toList.reverse

def isKnown (l : Loggers) (name : String) : Bool := l.known.names.contains name

/-- A new logger takes the place above a logger that was waiting for it, unless the parent of that
one has a name which begins like that of the new logger. -/
def adopt (name : String) (known : Bindings Logger) (child : String) : Bindings Logger :=
  match known.get? child with
  | none => known
  | some logger =>
    if name.toList.isPrefixOf (logger.parent.getD rootName).toList then known
    else known.set child { logger with parent := some name }

/-- Takes a logger into use.  Its parent is the nearest known logger above it, and the names passed
over on the way there become vacancies. -/
def use (l : Loggers) (name : String) : Loggers :=
  if isRoot name || l.isKnown name then l
  else
    let above := namesAbove name
    let waiting := (l.vacancies.filter (·.1 == name)).map (·.2)
    let passed := above.takeWhile (fun n => !l.isKnown n)
    { l with
      known := (waiting.foldl (adopt name) l.known).set name ⟨0, above.find? l.isKnown⟩
      vacancies := l.vacancies ++ passed.map (·, name) }

/-- The loggers above a logger and below the root, the nearest first and at most `n` of them. -/
def ancestors (l : Loggers) : Nat → String → List String
  | 0, _ => []
  | n + 1, name =>
    match (l.known.get? name).bind (·.parent) with
    | some parent => parent :: l.ancestors n parent
    | none => []

/-- The logger and those above it, below the root.  Each has a shorter name than the one before,
so their number is bounded by the length of the first name. -/
def lineage (l : Loggers) (name : String) : List String := name :: l.ancestors name.length name

/-! ## Levels -/

/-- The level that was set for a logger. -/
def level (l : Loggers) (name : String) : Int :=
  if isRoot name then l.rootLevel else ((l.known.get? name).map (·.level)).getD 0

/-- The level in force: the nearest one that was set. -/
def effectiveLevel (l : Loggers) (name : String) : Int :=
  if isRoot name then l.rootLevel
  else ((l.lineage name).map l.level |>.find? (· != 0)).getD l.rootLevel

def setLevel (l : Loggers) (name : String) (n : Int) : Loggers :=
  if isRoot name then { l with rootLevel := n }
  else
    let l := l.use name
    let parent := (l.known.get? name).bind (·.parent)
    { l with known := l.known.set name ⟨n, parent⟩ }

def isEnabled (l : Loggers) (name : String) (n : Int) : Bool :=
  0 < n && l.effectiveLevel name ≤ n

/-! ## Configuration -/

/-- The name is not the name of a level. -/
structure UnknownLevel where
  name : String

def UnknownLevel.message (e : UnknownLevel) : String := "Unknown level: " ++ Text.quote e.name

/-- The handlers that nobody else has set up. -/
def handlers (l : Loggers) : List Handler :=
  l.rootHandlers.filterMap fun
    | .own h => some h
    | .foreign _ _ => none

def addHandler (l : Loggers) (h : Handler) : Loggers :=
  { l with rootHandlers := l.rootHandlers ++ [.own h] }

/-- Of equal handlers the first one is taken away. -/
def removeHandler (l : Loggers) (h : RootHandler) : Loggers :=
  { l with rootHandlers := l.rootHandlers.erase h }

/-- One handler that writes lines takes the place of all others, which are removed one by one. -/
def withLines (l : Loggers) : Loggers := (l.rootHandlers.foldl removeHandler l).addHandler .lines

def setThreshold (l : Loggers) (level : Level) : Loggers :=
  quietNames.foldl (fun l name => l.setLevel name (max level.number Level.info.number))
    (l.setLevel rootName level.number)

/-- Sets up the handler and the levels.  The handler is set up even when the level is unknown. -/
def configure (l : Loggers) (levelName : String) : Loggers × Option UnknownLevel :=
  match Level.ofName? (Text.upper levelName) with
  | some level => (l.withLines.setThreshold level, none)
  | none => (l.withLines, some ⟨Text.upper levelName⟩)

/-! ## Writing -/

def Output.empty : Output := ⟨"", ""⟩

/-- Each stream carries the texts in the order in which they were written. -/
def Output.join (outputs : List Output) : Output :=
  ⟨String.join (outputs.map (·.out)), String.join (outputs.map (·.err))⟩

/-- An attribute has a name that a record needs for itself. -/
structure Overwriting where
  name : String

def Overwriting.message (e : Overwriting) : String :=
  Text.quote ("Attempt to overwrite " ++ Text.quote e.name ++ " in LogRecord")

/-- The record for an entry that was made at the time `created`. -/
def record (created : Value) (e : Entry) : Except Overwriting Record :=
  match e.attributes.names.find? (fun n => formattedNames.contains n || ownNames.contains n) with
  | some name => .error ⟨name⟩
  | none =>
    let logger := if isRoot e.logger then rootName else e.logger
    .ok { Record.make logger e.level e.message e.arguments created e.incident with
          attributes := .kept e.attributes }

/-- A record that has no line is not written.  The report on the error that kept it from having one,
which a library for logs leaves on the second stream, is not part of the output. -/
def lineOutput (r : Record) : Output :=
  match r.line with
  | .ok line => ⟨line ++ "\n", ""⟩
  | .error _ => .empty

def handlerOutput (r : Record) : RootHandler → Output
  | .own .lines => lineOutput r
  | .own .silent => .empty
  | .foreign _ write => write r

/-- Some handler is responsible for the records of a logger. -/
def isHandled (l : Loggers) (name : String) : Bool :=
  !l.rootHandlers.isEmpty || (l.lineage name).any handledNames.contains

/-- Where nobody is responsible, warnings and worse still appear as bare messages, if their message
can be put together. -/
def lastResort (level : Int) (r : Record) : Output :=
  if level < Level.warning.number then .empty
  else
    match r.text with
    | .ok text => ⟨"", text ++ "\n"⟩
    | .error _ => .empty

/-- Every handler of the root gets the record. -/
def handle (l : Loggers) (e : Entry) (r : Record) : Output :=
  if l.isHandled e.logger then .join (l.rootHandlers.map (handlerOutput r))
  else lastResort e.level r

/-- Gives an entry to its logger, which comes into use with that, at the time `created`. -/
def emit (l : Loggers) (created : Value) (e : Entry) : Except Overwriting Output :=
  let l := l.use e.logger
  if l.isEnabled e.logger e.level then (record created e).map (l.handle e) else .ok .empty

end Loggers
end Log
end WorkflowDispatch
