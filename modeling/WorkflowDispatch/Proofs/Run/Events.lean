import WorkflowDispatch.Proofs.Log.Threshold
import WorkflowDispatch.Proofs.Run.Dispatch
/-!
What the events of a dispatch are.  The client calls and logs but prints nothing, and the words of
the command line program about an outcome come from its own logger.
-/

namespace WorkflowDispatch

/-- The texts that were printed on a stream. -/
def printsOf (stream : Stream) (events : List Event) : List String :=
  events.filterMap fun e => match e with
    | .print s text => if s = stream then some text else none
    | _ => none

namespace Event

/-- A record of the logger. -/
def isLoggedBy (logger : String) : Event → Bool
  | .log e => e.logger == logger
  | _ => false

/-- Clients leave calls and records of one logger and of one level. -/
inductive OfClient : Event → Prop where
  | call (c : Call) : OfClient (.call c)
  | entry (message : String) (attributes : Bindings Value)
      (free : attributes.names.find? Log.isTaken = none) :
      OfClient (.log (Client.infoEntry message attributes))

/-- The command line program leaves texts, and records of its own logger. -/
inductive OfCommand (entry : Run.Entry) : Event → Prop where
  | print (stream : Stream) (text : String) : OfCommand entry (.print stream text)
  | entry (message : String) (attributes : Bindings Value) (incident : Log.Incident)
      (free : attributes.names.find? Log.isTaken = none) :
      OfCommand entry (.log (Run.errorEntry entry message attributes incident))

end Event

@[simp] theorem printsOf_append (stream : Stream) (es ds : List Event) :
    printsOf stream (es ++ ds) = printsOf stream es ++ printsOf stream ds :=
  List.filterMap_append

theorem printsOf_of_client {es : List Event} (h : ∀ e ∈ es, e.OfClient) (stream : Stream) :
    printsOf stream es = [] := by
  refine List.filterMap_eq_nil_iff.2 fun e he => ?_
  cases h e he with
  | call c => rfl
  | entry message attributes free => rfl

theorem filter_isLoggedBy_of_command {entry : Run.Entry} {es : List Event}
    (h : ∀ e ∈ es, e.OfCommand entry) :
    es.filter (Event.isLoggedBy Client.loggerName) = [] := by
  refine List.filter_eq_nil_iff.2 fun e he => ?_
  cases h e he with
  | print stream text => exact Bool.false_ne_true
  | entry message attributes incident free => cases entry <;> exact of_decide_eq_false rfl

/-! ## Clients -/

namespace Client

theorem ofClient_of_openedEvents {answer : Except Failure Value} :
    ∀ e ∈ openedEvents answer, e.OfClient := by
  cases answer with
  | error f => exact fun _ he => nomatch he
  | ok remaining =>
    intro e he
    rw [List.mem_singleton.1 he]
    exact .entry _ _ rfl

theorem ofClient_of_acceptedEvents {target : Target} {answer : Except Failure Response} :
    ∀ e ∈ acceptedEvents target answer, e.OfClient := by
  intro e he
  cases answer with
  | error f => cases he
  | ok r =>
    unfold acceptedEvents at he
    dsimp only at he
    split at he
    · rw [List.mem_singleton.1 he]
      exact .entry _ _ rfl
    · cases he

end Client

theorem Trigger.ofClient_of_run (c : Client) (target : Target) (now : Timestamp) (n : Network) :
    ∀ e ∈ (run c target now n).events, e.OfClient := by
  intro e he
  cases h : n.rateLimit.1 with
  | error f =>
    rw [run_of_error h] at he
    rw [List.mem_singleton.1 he]
    exact .call _
  | ok remaining =>
    rw [run_of_ok h] at he
    simp only [List.cons_append, List.mem_cons, List.mem_append] at he
    rcases he with rfl | he | rfl | rfl | he
    · exact .call _
    · exact Client.ofClient_of_openedEvents e he
    · exact .entry _ _ rfl
    · exact .call _
    · exact Client.ofClient_of_acceptedEvents e he

namespace Run

theorem ofClient_of_calls (calls : List Call) : ∀ e ∈ calls.map Event.call, e.OfClient := by
  intro e he
  obtain ⟨c, _, rfl⟩ := List.mem_map.1 he
  exact .call c

theorem ofClient_of_session (c : Client) (target : Target) (now : Timestamp) (n : Network) :
    ∀ e ∈ (session c target now n).events, e.OfClient := by
  intro e he
  unfold session at he
  rw [Action.events_andFinally, Client.close_apply] at he
  rcases List.mem_append.1 he with he | he
  · exact Trigger.ofClient_of_run c target now n e he
  · exact ofClient_of_calls _ e he

theorem ofClient_of_dispatched {x : Settings} (hx : x.WellFormed) (now : Timestamp)
    (n : Network) : ∀ e ∈ (dispatched x now n).events, e.OfClient := by
  cases hs : Client.wholeTimeout x.timeout with
  | error f =>
    rw [dispatched_of_error hx hs]
    exact fun _ he => nomatch he
  | ok seconds =>
    rw [dispatched_of_ok hx hs, Trace.events_after]
    intro e he
    rcases List.mem_append.1 he with he | he
    · exact ofClient_of_calls [_] e he
    · exact ofClient_of_session _ _ _ _ e he

/-! ## The command line program -/

/-- The words about a rejection: a record, and the message as a line. -/
theorem conclude_of_isRejection {f : Failure} (h : f.reason.isRejection = true) (entry : Entry)
    (n : Network) :
    ∃ attributes, conclude entry (.error f) n =
      ⟨.ok (codeOfReason f.reason),
        [.log (errorEntry entry f.message attributes .absent), .print .err (f.message ++ "\n")],
        n⟩ := by
  unfold conclude Failure.message
  dsimp only
  cases hr : f.reason <;> simp [Reason.isRejection, hr] at h
  all_goals exact ⟨_, rfl⟩

theorem ofCommand_of_reject {entry : Entry} {attributes : Bindings Value}
    (h : attributes.names.find? Log.isTaken = none) (r : Reason) (code : Nat) (n : Network) :
    ∀ e ∈ (reject entry r attributes code n).events, e.OfCommand entry := by
  intro e he
  rw [reject_apply] at he
  rcases List.mem_cons.1 he with rfl | he
  · exact .entry _ _ _ h
  · rw [List.mem_singleton.1 he]
    exact .print _ _

theorem ofCommand_of_reportFailure (entry : Entry) (heading : String) (f : Failure)
    (n : Network) : ∀ e ∈ (reportFailure entry heading f n).events, e.OfCommand entry := by
  intro e he
  rw [List.mem_singleton.1 he]
  exact .entry _ _ _ rfl

theorem ofCommand_of_conclude (entry : Entry) (outcome : Except Failure Acceptance) (n : Network) :
    ∀ e ∈ (conclude entry outcome n).events, e.OfCommand entry := by
  cases outcome with
  | ok a =>
    intro e he
    rw [List.mem_singleton.1 he]
    exact .print _ _
  | error f =>
    unfold conclude
    dsimp only
    cases f.reason with
    | sessionRejected status => exact ofCommand_of_reject rfl _ _ _
    | credentialRejected repository status => exact ofCommand_of_reject rfl _ _ _
    | dispatchRejected target status text => exact ofCommand_of_reject rfl _ _ _
    | _ => exact ofCommand_of_reportFailure _ _ _ _

theorem event_of_perform {x : Settings} (hx : x.WellFormed) (entry : Entry)
    (c : CommandLine.Command) (dryRun : Bool) (now : Timestamp) (n : Network) :
    ∀ e ∈ (perform entry c dryRun now x n).events, e.OfClient ∨ e.OfCommand entry := by
  intro e he
  match c, dryRun, he with
  | .showTarget, _, he | .dispatch, true, he =>
    rw [List.mem_singleton.1 he]
    exact .inr (.print _ _)
  | .dispatch, false, he =>
    rcases List.mem_append.1 he with he | he
    · exact .inl (ofClient_of_dispatched hx now n e he)
    · exact .inr (ofCommand_of_conclude entry _ _ e he)

end Run
end WorkflowDispatch
