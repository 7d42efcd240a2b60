import WorkflowDispatch.Trigger
/-!
Operations on a client one after another.  An operation sees the network as the operations before
it have left it, and nothing else of them.
-/

namespace WorkflowDispatch
namespace Client

/-- An operation on a client.  A target may turn out not to be one. -/
inductive Operation where
  | authenticate
  | dispatch (target : Except Target.Error Target)
  | run (target : Except Target.Error Target)
  | apiUrl (path : String)
  | close

inductive Answer where
  | done
  | status (n : Int)
  | accepted (a : Acceptance)
  | url (s : String)

def withTarget {α : Type} (target : Except Target.Error Target) (k : Target → Action α) :
    Action α :=
  match target with
  | .ok t => k t
  | .error e => .fail (.alone (.targetInvalid e))

def Operation.perform (c : Client) (now : Timestamp) : Operation → Action Answer
  | .authenticate => do
    c.authenticate
    return .done
  | .dispatch target => withTarget target fun t => do
    let status ← c.dispatch t
    return .status status
  | .run target => withTarget target fun t => do
    let acceptance ← Trigger.run c t now
    return .accepted acceptance
  | .apiUrl path => return .url (c.apiUrl path)
  | .close => do
    c.close
    return .done

/-- The traces of the operations.  A failure of one does not keep the next from being performed. -/
def performAll (c : Client) (now : Timestamp) : List Operation → Network → List (Trace Answer)
  | [], _ => []
  | operation :: rest, n =>
    let t := operation.perform c now n
    t :: performAll c now rest t.network

end Client
end WorkflowDispatch
