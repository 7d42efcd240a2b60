import WorkflowDispatch.Proofs.Run.Events
import WorkflowDispatch.Proofs.Run.Example
import WorkflowDispatch.Proofs.Run.ExitCode
/-!
The two programs keep in step.  From the same surroundings and with the same answers of the network
the example program does what a dispatch on the command line does, and its ending can be read off
the exit code of the other.
-/

namespace WorkflowDispatch
namespace Run

/-- What the records of one logger look like in the output, one for each. -/
def Report.recordsOf (r : Report) (now : Timestamp) (logger : String) : List Log.Loggers.Output :=
  (r.events.filter (Event.isLoggedBy logger)).map (outputOf now r.loggers)

namespace Example

/-- The run `r` of the example program is in step with the run `d` of a dispatch on the command
line. -/
structure InStep (now : Timestamp) (r d : Report) : Prop where
  calls : r.calls = d.calls
  records : r.recordsOf now Client.loggerName = d.recordsOf now Client.loggerName
  accepted : r.ending = .exit 0 ↔ d.ending = .exit 0
  rejected : r.ending = .exit 1 ↔ d.ending = .exit 3 ∨ d.ending = .exit 4
  /-- A rejection is the only text on the first stream of the one, and the last text on the second
  stream of the other. -/
  message : r.ending = .exit 1 → ∃ text, printsOf .out r.events = [text] ∧
    printsOf .err d.events = printsOf .err r.events ++ [text]
  failed : (¬ ∃ code, r.ending = .exit code) ↔
    d.ending = .exit 1 ∨ d.ending = .exit 2 ∨ ¬ ∃ code, d.ending = .exit code

/-! ## Outcomes -/

/-- The exit code for what is left of an outcome behind the display of rejections. -/
def codeShown : Except Nat Acceptance → Nat
  | .ok _ => 0
  | .error code => code

/-- The exit code of the example program for an outcome, if there is one. -/
def exitOf (outcome : Except Failure Acceptance) : Option Nat :=
  (shown outcome).toOption.map codeShown

theorem exitOf_of_isRejection {f : Failure} (h : f.reason.isRejection = true) :
    exitOf (.error f) = some 1 := by
  unfold exitOf shown
  simp only [h, if_true]
  rfl

theorem exitOf_of_not_rejection {f : Failure} (h : f.reason.isRejection = false) :
    exitOf (.error f) = none := by
  unfold exitOf shown
  simp only [h, Bool.false_eq_true, if_false]
  rfl

theorem codeOf_of_isRejection {f : Failure} (h : f.reason.isRejection = true) :
    codeOf (.error f) = exitAuthentication ∨ codeOf (.error f) = exitRejected := by
  unfold codeOf
  dsimp only
  cases hr : f.reason <;> simp [Reason.isRejection, hr] at h
  · exact .inl rfl
  · exact .inl rfl
  · exact .inr rfl

/-- An acceptance, a rejection or a failure, as both programs tell them apart. -/
theorem outcome_cases (outcome : Except Failure Acceptance) :
    (exitOf outcome = some 0 ∧ codeOf outcome = exitOk) ∨
      (∃ f, outcome = .error f ∧ f.reason.isRejection = true ∧ exitOf outcome = some 1 ∧
        (codeOf outcome = exitAuthentication ∨ codeOf outcome = exitRejected)) ∨
      (exitOf outcome = none ∧ codeOf outcome = exitFailure) := by
  cases outcome with
  | ok a => exact .inl ⟨rfl, rfl⟩
  | error f =>
    cases hf : f.reason.isRejection with
    | true => exact .inr (.inl ⟨f, rfl, hf, exitOf_of_isRejection hf, codeOf_of_isRejection hf⟩)
    | false =>
      exact .inr (.inr ⟨exitOf_of_not_rejection hf, codeOfReason_of_not_rejection hf⟩)

theorem exitOf_eq_zero_iff (outcome : Except Failure Acceptance) :
    exitOf outcome = some 0 ↔ codeOf outcome = exitOk := by
  rcases outcome_cases outcome with ⟨he, hc⟩ | ⟨f, -, -, he, hc | hc⟩ | ⟨he, hc⟩
  all_goals simp [he, hc, exitOk, exitAuthentication, exitRejected, exitFailure]

theorem exitOf_eq_one_iff (outcome : Except Failure Acceptance) :
    exitOf outcome = some 1 ↔
      codeOf outcome = exitAuthentication ∨ codeOf outcome = exitRejected := by
  rcases outcome_cases outcome with ⟨he, hc⟩ | ⟨f, -, -, he, hc | hc⟩ | ⟨he, hc⟩
  all_goals simp [he, hc, exitOk, exitAuthentication, exitRejected, exitFailure]

theorem not_exists_exitOf_iff (outcome : Except Failure Acceptance) :
    (¬ ∃ code, exitOf outcome = some code) ↔
      codeOf outcome = exitFailure ∨ codeOf outcome = exitUsage := by
  rcases outcome_cases outcome with ⟨he, hc⟩ | ⟨f, -, -, he, hc | hc⟩ | ⟨he, hc⟩
  all_goals simp [he, hc, exitOk, exitAuthentication, exitRejected, exitFailure, exitUsage]

theorem exists_of_exitOf_eq_one {outcome : Except Failure Acceptance}
    (h : exitOf outcome = some 1) :
    ∃ f, outcome = .error f ∧ f.reason.isRejection = true := by
  rcases outcome_cases outcome with ⟨he, -⟩ | ⟨f, hf, hrejection, -, -⟩ | ⟨he, -⟩
  · rw [he] at h
    cases h
  · exact ⟨f, hf, hrejection⟩
  · rw [he] at h
    cases h

theorem codeEnding_eq_exit_iff {result : Except Failure Nat} {code : Nat} :
    codeEnding result = .exit code ↔ result.toOption = some code := by
  cases result with
  | ok c => simp [codeEnding, Except.toOption]
  | error f => simp [codeEnding, Except.toOption]

/-! ## Sessions -/

/-- What the example program does with a client once it is there. -/
def shownSession (c : Client) (target : Target) (now : Timestamp) :
    Action (Except Nat Acceptance) :=
  (rejectionShown (Trigger.run c target now)).andFinally c.close

variable {n : Network}

theorem events_shownSession (c : Client) (target : Target) (now : Timestamp) (n : Network) :
    (shownSession c target now n).events =
      (Trigger.run c target now n).events ++
        (shownEvents (Trigger.run c target now n).result ++ (Client.closeCalls n).map .call) := by
  unfold shownSession
  rw [Action.events_andFinally, rejectionShown_apply, Client.close_apply, Trigger.closeCalls_run,
    List.append_assoc]

theorem events_session (c : Client) (target : Target) (now : Timestamp) (n : Network) :
    (session c target now n).events =
      (Trigger.run c target now n).events ++ (Client.closeCalls n).map .call := by
  unfold session
  rw [Action.events_andFinally, Client.close_apply, Trigger.closeCalls_run]

/-- A rejection that is shown counts as long as the connections close.  A failure to close them
takes its place here as it does on the command line. -/
theorem result_shownSession (hn : n.Genuine) (c : Client) (target : Target) (now : Timestamp) :
    (shownSession c target now n).result.toOption =
      (shown (session c target now n).result).toOption := by
  have hclose : ∀ m, (c.close m).result = Client.closed m := fun m => by rw [Client.close_apply]
  have hnetwork : Client.closed (rejectionShown (Trigger.run c target now) n).network =
      Client.closed n := by
    rw [rejectionShown_apply]
    exact Trigger.closed_run c target now n
  cases hc : Client.closed n with
  | ok _ =>
    rw [result_session_of_ok hc, ← Trigger.result_run]
    unfold shownSession
    rw [Action.result_andFinally_of_ok (by rw [hclose, hnetwork, hc]), rejectionShown_apply]
  | error f =>
    obtain ⟨g, hg, hgf⟩ := result_session_of_error hc c target now
    have hshown : shown (.error g) = .error g := by
      unfold shown
      simp only [hgf, hn.closed hc, Bool.false_eq_true, if_false]
    have hfailure : (c.close (rejectionShown (Trigger.run c target now) n).network).result =
        .error f := by rw [hclose, hnetwork, hc]
    obtain ⟨g', hg', _⟩ := Action.result_andFinally_of_error hfailure
    unfold shownSession
    rw [hg', hg, hshown]
    rfl

/-- The last words of the example program. -/
def reported : Except Nat Acceptance → Action Nat
  | .error code => return code
  | .ok acceptance => do
    Action.print .out (acceptanceText acceptance)
    return 0

theorem result_reported (outcome : Except Nat Acceptance) (n : Network) :
    (reported outcome n).result = .ok (codeShown outcome) := by
  cases outcome <;> rfl

theorem dispatch_of_ok {x : Settings} (hx : x.WellFormed) {seconds : Int}
    (hs : Client.wholeTimeout x.timeout = .ok seconds) (now : Timestamp) (n : Network) :
    dispatch x now n =
      ((shownSession (clientFor x) x.target now >>= reported) n).after
        [.call (.connect x.githubToken x.baseUrl seconds)] := by
  unfold dispatch
  rw [Action.bind_of_ok (build_parameters_of_ok hx hs n)]
  rfl

theorem dispatch_of_error {x : Settings} (hx : x.WellFormed) {f : Failure}
    (hs : Client.wholeTimeout x.timeout = .error f) (now : Timestamp) (n : Network) :
    dispatch x now n = ⟨.error f, [], n⟩ := by
  unfold dispatch
  rw [Action.bind_of_error (build_parameters_of_error hx hs n)]

/-- The exit code of the example program is that of the outcome of the dispatch. -/
theorem result_dispatch (hn : n.Genuine) {x : Settings} (hx : x.WellFormed) (now : Timestamp) :
    (dispatch x now n).result.toOption = exitOf (dispatched x now n).result := by
  cases hs : Client.wholeTimeout x.timeout with
  | error f =>
    have hf : f.reason.isRejection = false := by
      rcases Client.reason_of_wholeTimeout hs with hr | hr
      · rw [hr]; rfl
      · rw [hr]; rfl
    rw [dispatch_of_error hx hs, dispatched_of_error hx hs, exitOf_of_not_rejection hf]
    rfl
  | ok seconds =>
    have hresult := result_shownSession hn (clientFor x) x.target now
    rw [dispatch_of_ok hx hs, dispatched_of_ok hx hs, Trace.result_after, Trace.result_after,
      Action.result_bind_of_ok result_reported, exitOf, ← hresult]
    cases (shownSession (clientFor x) x.target now n).result <;> rfl

/-! ## Events -/

def reportedEvents : Except Failure (Except Nat Acceptance) → List Event
  | .ok (.ok acceptance) => [.print .out (acceptanceText acceptance)]
  | _ => []

theorem events_bind_reported (a : Action (Except Nat Acceptance)) (n : Network) :
    ((a >>= reported) n).events = (a n).events ++ reportedEvents (a n).result := by
  obtain ⟨result, es, m, ha⟩ : ∃ result es m, a n = ⟨result, es, m⟩ := ⟨_, _, _, rfl⟩
  cases result with
  | error f => rw [Action.bind_of_error ha, ha, reportedEvents, List.append_nil]; exact nofun
  | ok outcome =>
    rw [Action.bind_of_ok ha, ha]
    cases outcome <;> rfl

/-- The events of a dispatch with a rejection or an acceptance put in where it is shown. -/
theorem events_dispatch {x : Settings} (hx : x.WellFormed) {seconds : Int}
    (hs : Client.wholeTimeout x.timeout = .ok seconds) (now : Timestamp) (n : Network) :
    (dispatch x now n).events =
      .call (.connect x.githubToken x.baseUrl seconds) ::
        ((Trigger.run (clientFor x) x.target now n).events ++
          (shownEvents (Trigger.run (clientFor x) x.target now n).result ++
            (Client.closeCalls n).map .call)) ++
        reportedEvents (shownSession (clientFor x) x.target now n).result := by
  rw [dispatch_of_ok hx hs, Trace.events_after, events_bind_reported, events_shownSession]
  rfl

theorem events_dispatched {x : Settings} (hx : x.WellFormed) {seconds : Int}
    (hs : Client.wholeTimeout x.timeout = .ok seconds) (now : Timestamp) (n : Network) :
    (dispatched x now n).events =
      .call (.connect x.githubToken x.baseUrl seconds) ::
        ((Trigger.run (clientFor x) x.target now n).events ++ (Client.closeCalls n).map .call) := by
  rw [dispatched_of_ok hx hs, Trace.events_after, events_session]
  rfl

theorem filter_shownEvents (outcome : Except Failure Acceptance) (logger : String) :
    (shownEvents outcome).filter (Event.isLoggedBy logger) = [] := by
  cases outcome with
  | ok acceptance => rfl
  | error f =>
    unfold shownEvents
    dsimp only
    split <;> rfl

theorem filter_reportedEvents (result : Except Failure (Except Nat Acceptance))
    (logger : String) : (reportedEvents result).filter (Event.isLoggedBy logger) = [] := by
  unfold reportedEvents
  split <;> rfl

theorem callsOf_reportedEvents (result : Except Failure (Except Nat Acceptance)) :
    callsOf (reportedEvents result) = [] := by
  unfold reportedEvents
  split <;> rfl

variable {x : Settings}

theorem callsOf_dispatch_eq (hx : x.WellFormed) (now : Timestamp) (n : Network) :
    callsOf (dispatch x now n).events = callsOf (dispatched x now n).events := by
  cases hs : Client.wholeTimeout x.timeout with
  | error f => rw [dispatch_of_error hx hs, dispatched_of_error hx hs]
  | ok seconds =>
    rw [events_dispatch hx hs, events_dispatched hx hs]
    simp only [callsOf_append, callsOf_call, callsOf_shownEvents, callsOf_reportedEvents,
      List.nil_append, List.append_nil]

theorem filter_dispatch (hx : x.WellFormed) (now : Timestamp) (n : Network) (logger : String) :
    (dispatch x now n).events.filter (Event.isLoggedBy logger) =
      (dispatched x now n).events.filter (Event.isLoggedBy logger) := by
  cases hs : Client.wholeTimeout x.timeout with
  | error f => rw [dispatch_of_error hx hs, dispatched_of_error hx hs]
  | ok seconds =>
    rw [events_dispatch hx hs, events_dispatched hx hs, List.filter_append, filter_reportedEvents,
      List.append_nil, List.filter_cons, List.filter_cons, List.filter_append, List.filter_append,
      List.filter_append, filter_shownEvents, List.nil_append]

/-- Where a rejection is the outcome of a session, the connections have been closed. -/
theorem result_run_of_isRejection (hn : n.Genuine) {c : Client} {target : Target}
    {now : Timestamp} {f : Failure} (h : (session c target now n).result = .error f)
    (hf : f.reason.isRejection = true) : (Trigger.run c target now n).result = .error f := by
  cases hc : Client.closed n with
  | ok _ => rw [Trigger.result_run, ← result_session_of_ok hc, h]
  | error g =>
    obtain ⟨g', hg', hreason⟩ := result_session_of_error hc c target now
    rw [h] at hg'
    rw [Except.error.inj hg', hreason, hn.closed hc] at hf
    cases hf

theorem prints_dispatch_of_isRejection (hn : n.Genuine) (hx : x.WellFormed) {now : Timestamp}
    {f : Failure} (h : (dispatched x now n).result = .error f)
    (hf : f.reason.isRejection = true) :
    printsOf .out (dispatch x now n).events = [f.message ++ "\n"] ∧
      printsOf .err (dispatch x now n).events = [] := by
  cases hs : Client.wholeTimeout x.timeout with
  | error g =>
    rw [dispatched_of_error hx hs] at h
    rcases Client.reason_of_wholeTimeout hs with hr | hr
    · rw [← Except.error.inj h, hr] at hf
      cases hf
    · rw [← Except.error.inj h, hr] at hf
      cases hf
  | ok seconds =>
    have hsession : (session (clientFor x) x.target now n).result = .error f := by
      rw [dispatched_of_ok hx hs] at h
      exact h
    have hrun := result_run_of_isRejection hn hsession hf
    have hshown : (shownSession (clientFor x) x.target now n).result = .ok (.error 1) := by
      have hresult := result_shownSession hn (clientFor x) x.target now
      rw [hsession, shown, if_pos hf] at hresult
      cases hsh : (shownSession (clientFor x) x.target now n).result with
      | error g => rw [hsh] at hresult; cases hresult
      | ok outcome => rw [hsh] at hresult; exact congrArg Except.ok (Option.some.inj hresult)
    have hclient := printsOf_of_client (Trigger.ofClient_of_run (clientFor x) x.target now n)
    have hclose := printsOf_of_client (ofClient_of_calls (Client.closeCalls n))
    have hfirst : ∀ stream es, printsOf stream
        (.call (.connect x.githubToken x.baseUrl seconds) :: es) = printsOf stream es :=
      fun _ _ => rfl
    rw [events_dispatch hx hs, hrun, hshown, shownEvents, if_pos hf,
      show reportedEvents (.ok (.error 1)) = [] from rfl, List.append_nil]
    simp only [hfirst, printsOf_append, hclient, hclose, List.nil_append, List.append_nil]
    exact ⟨rfl, rfl⟩

/-! ## Whole runs -/

/-- What comes first in both runs does not get them out of step, if it is neither a record of the
client nor a text on the first stream. -/
theorem InStep.behind {now : Timestamp} {r d : Report} (h : InStep now r d) {es : List Event}
    (hout : printsOf .out es = []) (hlog : es.filter (Event.isLoggedBy Client.loggerName) = []) :
    InStep now { r with events := es ++ r.events } { d with events := es ++ d.events } where
  calls := by
    have hcalls := h.calls
    unfold Report.calls at hcalls ⊢
    rw [callsOf_append, callsOf_append, hcalls]
  records := by
    have hrecords := h.records
    unfold Report.recordsOf at hrecords ⊢
    dsimp only
    rw [List.filter_append, List.filter_append, hlog, List.nil_append, List.nil_append, hrecords]
  accepted := h.accepted
  rejected := h.rejected
  message := by
    intro hr
    obtain ⟨text, hr, hd⟩ := h.message hr
    refine ⟨text, ?_, ?_⟩
    · rw [printsOf_append, hout, hr, List.nil_append]
    · rw [printsOf_append, printsOf_append, hd, List.append_assoc]
  failed := h.failed

theorem inStep_of_refused (now : Timestamp) (complaints : List Settings.Complaint)
    (entry : Entry) (n : Network) :
    InStep now (runChecked now (.error complaints) n)
      (Run.runChecked entry .dispatch false now (.error complaints) n) where
  calls := rfl
  records := rfl
  accepted := by simp [runChecked, Run.runChecked, exitUsage]
  rejected := by simp [runChecked, Run.runChecked, exitUsage]
  message := nofun
  failed := by simp [runChecked, Run.runChecked, exitUsage]

/-- Both programs show the message of a rejection, each on its own stream. -/
theorem message_of_rejection (hn : n.Genuine) (hx : x.WellFormed) {now : Timestamp} (entry : Entry)
    {f : Failure} (hf : (dispatched x now n).result = .error f)
    (hrejection : f.reason.isRejection = true) :
    ∃ text, printsOf .out (dispatch x now n).events = [text] ∧
      printsOf .err (dispatchCommand entry x now n).events =
        printsOf .err (dispatch x now n).events ++ [text] := by
  obtain ⟨hout, herr⟩ := prints_dispatch_of_isRejection hn hx hf hrejection
  obtain ⟨attributes, hconclude⟩ :=
    conclude_of_isRejection hrejection entry (dispatched x now n).network
  refine ⟨f.message ++ "\n", hout, ?_⟩
  rw [dispatchCommand_apply, Trace.events_after, printsOf_append,
    printsOf_of_client (ofClient_of_dispatched hx now n), hf, hconclude, herr]
  rfl

/-- With settings, the two programs tell the same outcomes apart. -/
theorem inStep_of_settings (hn : n.Genuine) (hx : x.WellFormed) (now : Timestamp) (entry : Entry) :
    InStep now (runChecked now (.ok x) n)
      (Run.runChecked entry .dispatch false now (.ok x) n) := by
  have hending : ∀ code, (runChecked now (.ok x) n).ending = .exit code ↔
      exitOf (dispatched x now n).result = some code := fun code => by
    rw [← result_dispatch hn hx]
    exact codeEnding_eq_exit_iff
  have hcode : (Run.runChecked entry .dispatch false now (.ok x) n).ending =
      .exit (codeOf (dispatched x now n).result) := by
    show codeEnding (dispatchCommand entry x now n).result = _
    rw [result_dispatchCommand]
    rfl
  exact
    { calls := (callsOf_dispatch_eq hx now n).trans (callsOf_dispatchCommand entry x now n).symm
      records := by
        show ((dispatch x now n).events.filter _).map _ =
          ((dispatchCommand entry x now n).events.filter _).map _
        rw [filter_dispatch hx, dispatchCommand_apply, Trace.events_after, List.filter_append,
          filter_isLoggedBy_of_command (ofCommand_of_conclude entry _ _), List.append_nil]
        rfl
      accepted := by
        rw [hending, hcode, exitOf_eq_zero_iff, Ending.exit.injEq]
        rfl
      rejected := by
        rw [hending, hcode, exitOf_eq_one_iff, Ending.exit.injEq, Ending.exit.injEq]
        rfl
      message := by
        intro hr
        obtain ⟨f, hf, hrejection⟩ := exists_of_exitOf_eq_one ((hending 1).1 hr)
        exact message_of_rejection hn hx entry hf hrejection
      failed := by
        simp only [hending, not_exists_exitOf_iff, hcode]
        simp [exitFailure, exitUsage] }

theorem printsOf_out_warningEvents (c : EnvFile.Content) :
    printsOf .out (warningEvents c) = [] := by
  unfold warningEvents
  split <;> rfl

theorem filter_warningEvents (c : EnvFile.Content) (logger : String) :
    (warningEvents c).filter (Event.isLoggedBy logger) = [] := by
  unfold warningEvents
  split <;> rfl

/-- The example program is in step with a dispatch on the command line, whatever the surroundings
are and whatever the network does to the requests and to the closing. -/
theorem program_inStep (hn : n.Genuine) (s : Surroundings) (entry : Entry) :
    InStep s.now (program s n) (command entry ["dispatch"] s n) := by
  have hcommand : command entry ["dispatch"] s n =
      withSettings s n (Run.runChecked entry .dispatch false s.now) := by
    unfold command
    rw [read_dispatch]
  rw [hcommand, program]
  cases hc : s.content with
  | error fault =>
    unfold withSettings
    rw [hc]
    exact ⟨rfl, rfl, by simp, by simp, nofun, by simp⟩
  | ok content =>
    rw [withSettings_of_content hc, withSettings_of_content hc]
    refine InStep.behind ?_ (printsOf_out_warningEvents content)
      (filter_warningEvents content _)
    cases hl : Settings.load (sources [] s content) with
    | error complaints => exact inStep_of_refused s.now complaints entry n
    | ok x => exact inStep_of_settings hn (Settings.wellFormed_of_load hl) s.now entry

/-- The credential of the dispatch is refused: one program exits with 3, the other one with 1. -/
theorem program_inStep_of_forbidden :
    forbidden.Genuine ∧
      InStep ⟨0⟩ (program bareSurroundings forbidden)
        (command .installed ["dispatch"] bareSurroundings forbidden) ∧
      (program bareSurroundings forbidden).ending = .exit 1 := by
  have hinStep := program_inStep genuine_forbidden bareSurroundings .installed
  refine ⟨genuine_forbidden, hinStep, hinStep.rejected.2 (.inl ?_)⟩
  rw [ending_of_loads loads_bareSurroundings, codeOf_dispatched_of_built
    loads_bareSurroundings.wellFormed (build_bareSettings forbidden) rfl rfl]
  exact congrArg Ending.exit (codeOf_ended_of_rejectsCredential
    ⟨403, ⟨.int 12, rfl, .inr ⟨_, "boom", "no", rfl, rfl⟩⟩, .inr rfl⟩ _ _ _)

end Example
end Run
end WorkflowDispatch
