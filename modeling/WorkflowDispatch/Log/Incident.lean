import WorkflowDispatch.Value.Item
/-!
What a log record tells about an exception.
-/

namespace WorkflowDispatch
namespace Log

/-- A record tells of no exception, has the report of one, or has a value that was set in place of
one. -/
inductive Incident where
  | absent
  | report (text : String)
  | value (v : Value)

/-- What is written for an exception that is asked for and absent. -/
def noException : String := "NoneType: None"

namespace Incident

/-- A value cannot be told as an exception.  It has no such items, or one of its items is not
absent as it has to be. -/
inductive Error where
  | item (e : Value.ItemError)
  | notTrace (kind : String)
  | notException (kind : String)

def Error.message : Error → String
  | .item e => e.message
  | .notTrace kind => "'" ++ kind ++ "' object has no attribute 'tb_frame'"
  | .notException kind => "'" ++ kind ++ "' object has no attribute '__suppress_context__'"

/-- A value in place of an exception is taken for its kind, the exception and its trace.  No value
can be the last two, so they must be absent. -/
def reportOf (v : Value) : Except Error String := do
  let trace ← (v.item 2).mapError .item
  let _ ← (v.item 0).mapError .item
  let exception ← (v.item 1).mapError .item
  match trace, exception with
  | .none, .none => return noException
  | .none, e => throw (.notException e.kind)
  | t, _ => throw (.notTrace t.kind)

/-- The report, if there is one.  A value that is absent tells of no exception. -/
def report? : Incident → Except Error (Option String)
  | .absent => .ok none
  | .report text => .ok (some text)
  | .value v => if v.isPresent then (reportOf v).map some else .ok none

end Incident
end Log
end WorkflowDispatch
