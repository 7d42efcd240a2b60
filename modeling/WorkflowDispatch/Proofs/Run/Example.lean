import WorkflowDispatch.Proofs.Run.Calls
import WorkflowDispatch.Run.Example
/-!
The calls of the example program.  It shows a rejection where the command line program gives an exit
code for it, and in between it makes the same calls.
-/

namespace WorkflowDispatch
namespace Run
namespace Example

/-- What is left of an outcome behind the display of rejections. -/
def shown : Except Failure Acceptance → Except Failure (Except Nat Acceptance)
  | .ok acceptance => .ok (.ok acceptance)
  | .error f => if f.reason.isRejection then .ok (.error 1) else .error f

def shownEvents : Except Failure Acceptance → List Event
  | .ok _ => []
  | .error f => if f.reason.isRejection then [.print .out (f.message ++ "\n")] else []

theorem rejectionShown_apply (a : Action Acceptance) (n : Network) :
    rejectionShown a n =
      ⟨shown (a n).result, (a n).events ++ shownEvents (a n).result, (a n).network⟩ := by
  unfold rejectionShown
  rw [Action.attempt_bind]
  cases (a n).result with
  | ok acceptance => rfl
  | error f =>
    unfold shown shownEvents
    dsimp only
    split <;> rfl

theorem callsOf_shownEvents (outcome : Except Failure Acceptance) :
    callsOf (shownEvents outcome) = [] := by
  cases outcome with
  | ok acceptance => rfl
  | error f =>
    unfold shownEvents
    dsimp only
    split <;> rfl

/-- With a client, the calls are those of the trigger and of the closing behind it. -/
theorem callsOf_session (c : Client) (target : Target) (now : Timestamp) (n : Network) :
    callsOf ((rejectionShown (Trigger.run c target now)).andFinally c.close n).events =
      Trigger.calls c target n ++ Client.closeCalls n := by
  rw [Action.events_andFinally, rejectionShown_apply, callsOf_append, callsOf_append,
    callsOf_shownEvents, List.append_nil, Trigger.callsOf_run, Client.close_apply,
    Trigger.closeCalls_run, callsOf_map_call]

theorem callsOf_dispatch {x : Settings} (hx : x.WellFormed) (now : Timestamp) (n : Network) :
    callsOf (dispatch x now n).events = [] ∨
      ∃ seconds, callsOf (dispatch x now n).events = exchange x seconds n := by
  unfold dispatch
  cases hs : Client.wholeTimeout x.timeout with
  | error f =>
    left
    rw [Action.bind_of_error (build_parameters_of_error hx hs n)]
    rfl
  | ok seconds =>
    right
    refine ⟨seconds, ?_⟩
    rw [Action.bind_of_ok (build_parameters_of_ok hx hs n), Trace.events_after, callsOf_append,
      callsOf_bind_of_silent (fun outcome m => by cases outcome <;> rfl), callsOf_session,
      calls_clientFor]
    rfl

theorem calls_program (s : Surroundings) (n : Network) :
    (program s n).calls = [] ∨
      ∃ x seconds, s.Loads x ∧ (program s n).calls = exchange x seconds n :=
  calls_withSettings (fun _ => rfl) fun _ hx => callsOf_dispatch hx s.now n

end Example
end Run
end WorkflowDispatch
