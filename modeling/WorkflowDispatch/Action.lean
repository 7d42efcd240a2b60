import WorkflowDispatch.Log.Loggers
import WorkflowDispatch.Network
/-!
Actions on the network, and the traces that they leave.  A trace lists everything that can be seen
of an action in the order in which it happened: calls, log entries and printed text.
-/

namespace WorkflowDispatch

/-- A call at the edge of the program. -/
inductive Call where
  | connect (token : String) (baseUrl : String) (timeout : Int)
  | rateLimit
  | post (url : String) (body : List (String × String)) (timeout : Binary64)
  | closeSession
  | closeService
  deriving DecidableEq

inductive Stream where
  | out
  | err
  deriving DecidableEq, Repr

inductive Event where
  | call (c : Call)
  | log (e : Log.Entry)
  | print (stream : Stream) (text : String)

/-- What an action ended in, what could be seen of it, and the network as it left it. -/
structure Trace (α : Type) where
  result : Except Failure α
  events : List Event
  network : Network

def Action (α : Type) := Network → Trace α

namespace Action

variable {α β : Type}

def pure (x : α) : Action α := fun n => ⟨.ok x, [], n⟩

def fail (f : Failure) : Action α := fun n => ⟨.error f, [], n⟩

/-- The second action runs only if the first one succeeds. -/
def bind (a : Action α) (k : α → Action β) : Action β := fun n =>
  let t := a n
  match t.result with
  | .error f => ⟨.error f, t.events, t.network⟩
  | .ok x =>
    let u := k x t.network
    ⟨u.result, t.events ++ u.events, u.network⟩

instance : Monad Action where
  pure := Action.pure
  bind := Action.bind

/-- Leaves one event. -/
def event (e : Event) : Action Unit := fun n => ⟨.ok (), [e], n⟩

def log (e : Log.Entry) : Action Unit := event (.log e)

def print (stream : Stream) (text : String) : Action Unit := event (.print stream text)

/-- The action with its failure as a result. -/
def attempt (a : Action α) : Action (Except Failure α) := fun n =>
  let t := a n
  ⟨.ok t.result, t.events, t.network⟩

/-- Runs `cleanup` after the action whatever became of it.  A failure of the cleanup takes the
place of the result; it then happened while a failure of the action was being dealt with. -/
def andFinally (a : Action α) (cleanup : Action Unit) : Action α := fun n =>
  let t := a n
  let u := cleanup t.network
  let result :=
    match u.result, t.result with
    | .ok _, r => r
    | .error f, .ok _ => .error f
    | .error f, .error e => .error (f.whileHandling e)
  ⟨result, t.events ++ u.events, u.network⟩

/-! ## Calls -/

def connect (token baseUrl : String) (timeout : Int) : Action Unit :=
  event (.call (.connect token baseUrl timeout))

def askRateLimit : Action Value := fun n =>
  let (answer, n) := n.rateLimit
  ⟨answer, [.call .rateLimit], n⟩

def post (url : String) (body : List (String × String)) (timeout : Binary64) : Action Response :=
  fun n =>
    let (answer, n) := n.post
    ⟨answer, [.call (.post url body timeout)], n⟩

/-- Closing a connection succeeds unless the network has a failure for it. -/
def closing : Option Failure → Except Failure Unit
  | some f => .error f
  | none => .ok ()

def closeSession : Action Unit := fun n => ⟨closing n.sessionClose, [.call .closeSession], n⟩

def closeService : Action Unit := fun n => ⟨closing n.serviceClose, [.call .closeService], n⟩

end Action

/-- The calls of a trace. -/
def callsOf (events : List Event) : List Call :=
  events.filterMap fun e => match e with
    | .call c => some c
    | _ => none

end WorkflowDispatch
