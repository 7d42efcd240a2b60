import WorkflowDispatch.Proofs.Exchange
import WorkflowDispatch.Proofs.Settings.Loaded
import WorkflowDispatch.Run.Command
/-!
A dispatch from the settings to the exit code.  The settings come first: they describe a client, a
session runs with it, and the code is read off what the session ended in.
-/

namespace WorkflowDispatch
namespace Run

/-! ## Surroundings -/

/-- The settings file can be read, or there is none. -/
def Surroundings.Readable (s : Surroundings) : Prop :=
  ∀ bytes, s.file = some bytes → ∃ text, Text.decodeUtf8 bytes = .ok text

/-- The settings that a program without keywords finds. -/
def Surroundings.Loads (s : Surroundings) (x : Settings) : Prop :=
  ∃ c, s.content = .ok c ∧ Settings.load (sources [] s c) = .ok x

theorem Surroundings.Readable.exists_content {s : Surroundings} (h : s.Readable) :
    ∃ c, s.content = .ok c := by
  unfold content
  cases hf : s.file with
  | none => exact ⟨_, rfl⟩
  | some bytes =>
    obtain ⟨text, ht⟩ := h bytes hf
    dsimp only
    rw [EnvFile.Content.ofBytes, ht]
    exact ⟨_, rfl⟩

/-- Surroundings that hold the two credentials and nothing else. -/
def bareSurroundings : Surroundings :=
  { environment := [("GH_TOKEN", "ambient"), ("TARGET_REPO_PAT", "scoped")]
    file := none
    now := ⟨0⟩ }

/-- The settings for bare surroundings: everything but the credentials is a default. -/
def bareSettings : Settings :=
  { githubToken := "ambient"
    targetToken := "scoped"
    baseUrl := Settings.defaultBaseUrl
    target :=
      { owner := ⟨Target.defaultOwner, by decide, by decide⟩
        repository := ⟨Target.defaultRepository, by decide, by decide⟩
        workflowFile := ⟨Target.defaultWorkflowFile, by decide, by decide⟩
        ref := ⟨Target.defaultRef, by decide⟩ }
    timeout := Settings.defaultTimeout
    logLevel := Settings.defaultLogLevel }

theorem loads_bareSurroundings : bareSurroundings.Loads bareSettings :=
  ⟨.empty, rfl, by decide⟩

/-- The network whose answers are the usual ones. -/
def usualNetwork : Network :=
  { rateLimits := []
    posts := []
    sessionClose := none
    serviceClose := none }

theorem Surroundings.Loads.wellFormed {s : Surroundings} {x : Settings} (h : s.Loads x) :
    x.WellFormed := by
  obtain ⟨_, _, hload⟩ := h
  exact Settings.wellFormed_of_load hload

theorem withSettings_of_content {s : Surroundings} {c : EnvFile.Content} (h : s.content = .ok c)
    (n : Network) (k : Settings.Checked Settings → Network → Report) :
    withSettings s n k =
      { k (Settings.load (sources [] s c)) n with
        events := warningEvents c ++ (k (Settings.load (sources [] s c)) n).events } := by
  unfold withSettings
  rw [h]

theorem callsOf_warningEvents (c : EnvFile.Content) : callsOf (warningEvents c) = [] := by
  unfold warningEvents
  split <;> rfl

/-! ## The session -/

/-- The client that settings describe. -/
def clientFor (x : Settings) : Client := ⟨x.targetToken, x.baseUrl, x.timeout⟩

theorem build_parameters_of_ok {x : Settings} (h : x.WellFormed) {seconds : Int}
    (hs : Client.wholeTimeout x.timeout = .ok seconds) (n : Network) :
    Client.build (parameters x) n =
      ⟨.ok (clientFor x), [.call (.connect x.githubToken x.baseUrl seconds)], n⟩ := by
  have hb := Client.build_of_ok (p := parameters x) (Text.ne_empty_of_not_blank h.githubToken)
    (Text.ne_empty_of_not_blank h.targetToken) rfl hs n
  rw [hb]
  simp only [parameters, h.baseUrl, clientFor]

theorem build_parameters_of_error {x : Settings} (h : x.WellFormed) {f : Failure}
    (hs : Client.wholeTimeout x.timeout = .error f) (n : Network) :
    Client.build (parameters x) n = ⟨.error f, [], n⟩ :=
  Client.build_of_error (p := parameters x) (Text.ne_empty_of_not_blank h.githubToken)
    (Text.ne_empty_of_not_blank h.targetToken) rfl hs n

theorem build_bareSettings (n : Network) :
    (Client.build (parameters bareSettings) n).result = .ok (clientFor bareSettings) := by
  have hthirty : Client.wholeTimeout bareSettings.timeout = .ok 30 := by decide
  rw [build_parameters_of_ok loads_bareSurroundings.wellFormed hthirty]

/-- What is done with a client once it is there. -/
def session (c : Client) (target : Target) (now : Timestamp) : Action Acceptance :=
  (Trigger.run c target now).andFinally c.close

theorem dispatched_of_ok {x : Settings} (h : x.WellFormed) {seconds : Int}
    (hs : Client.wholeTimeout x.timeout = .ok seconds) (now : Timestamp) (n : Network) :
    dispatched x now n =
      (session (clientFor x) x.target now n).after
        [.call (.connect x.githubToken x.baseUrl seconds)] := by
  unfold dispatched
  rw [Action.bind_of_ok (build_parameters_of_ok h hs n)]
  rfl

theorem dispatched_of_error {x : Settings} (h : x.WellFormed) {f : Failure}
    (hs : Client.wholeTimeout x.timeout = .error f) (now : Timestamp) (n : Network) :
    dispatched x now n = ⟨.error f, [], n⟩ := by
  unfold dispatched
  rw [Action.bind_of_error (build_parameters_of_error h hs n)]

theorem result_session_of_ok {n : Network} (h : Client.closed n = .ok ()) (c : Client)
    (target : Target) (now : Timestamp) :
    (session c target now n).result = Trigger.ended c target now n := by
  have hclose : (c.close (Trigger.run c target now n).network).result = .ok () := by
    rw [Client.close_apply, Trigger.closed_run]
    exact h
  exact (Action.result_andFinally_of_ok hclose).trans (Trigger.result_run c target now n)

/-- A connection that cannot be closed decides the result of the session. -/
theorem result_session_of_error {n : Network} {f : Failure} (h : Client.closed n = .error f)
    (c : Client) (target : Target) (now : Timestamp) :
    ∃ g, (session c target now n).result = .error g ∧ g.reason = f.reason := by
  refine Action.result_andFinally_of_error ?_
  rw [Client.close_apply, Trigger.closed_run]
  exact h

theorem callsOf_map_call (cs : List Call) : callsOf (cs.map .call) = cs := by
  induction cs with
  | nil => rfl
  | cons c cs ih => rw [List.map_cons, callsOf_call, ih]

theorem callsOf_session (c : Client) (target : Target) (now : Timestamp) (n : Network) :
    callsOf (session c target now n).events = Trigger.calls c target n ++ Client.closeCalls n := by
  unfold session
  rw [Action.events_andFinally, callsOf_append, Trigger.callsOf_run, Client.close_apply,
    Trigger.closeCalls_run, callsOf_map_call]

/-! ## The exit code -/

def codeOfReason : Reason → Nat
  | .sessionRejected _ => exitAuthentication
  | .credentialRejected _ _ => exitAuthentication
  | .dispatchRejected _ _ _ => exitRejected
  | _ => exitFailure

def codeOf : Except Failure Acceptance → Nat
  | .ok _ => exitOk
  | .error f => codeOfReason f.reason

theorem reject_apply (entry : Entry) (r : Reason) (attributes : Bindings Value) (code : Nat)
    (n : Network) :
    reject entry r attributes code n =
      ⟨.ok code,
        [.log (errorEntry entry r.message attributes .absent), .print .err (r.message ++ "\n")],
        n⟩ := rfl

theorem reportFailure_apply (entry : Entry) (heading : String) (f : Failure) (n : Network) :
    reportFailure entry heading f n =
      ⟨.ok exitFailure, [.log (errorEntry entry heading [] (.report f.report))], n⟩ := rfl

/-- The last words of a dispatch make no call and cannot fail. -/
theorem conclude_apply (entry : Entry) (outcome : Except Failure Acceptance) (n : Network) :
    ∃ es, conclude entry outcome n = ⟨.ok (codeOf outcome), es, n⟩ ∧ callsOf es = [] := by
  cases outcome with
  | ok a => exact ⟨_, rfl, rfl⟩
  | error f =>
    unfold conclude codeOf
    cases hr : f.reason <;> simp [codeOfReason, reject_apply, reportFailure_apply, hr]

theorem dispatchCommand_apply (entry : Entry) (x : Settings) (now : Timestamp) (n : Network) :
    dispatchCommand entry x now n =
      (conclude entry (dispatched x now n).result (dispatched x now n).network).after
        (dispatched x now n).events := rfl

theorem result_dispatchCommand (entry : Entry) (x : Settings) (now : Timestamp) (n : Network) :
    (dispatchCommand entry x now n).result = .ok (codeOf (dispatched x now n).result) := by
  obtain ⟨es, hc, _⟩ :=
    conclude_apply entry (dispatched x now n).result (dispatched x now n).network
  rw [dispatchCommand_apply, hc, Trace.result_after]

theorem callsOf_dispatchCommand (entry : Entry) (x : Settings) (now : Timestamp) (n : Network) :
    callsOf (dispatchCommand entry x now n).events = callsOf (dispatched x now n).events := by
  obtain ⟨es, hc, hes⟩ :=
    conclude_apply entry (dispatched x now n).result (dispatched x now n).network
  rw [dispatchCommand_apply, hc, Trace.events_after, callsOf_append, hes, List.append_nil]

/-! ## The command -/

theorem read_dispatch : CommandLine.read ["dispatch"] = .run .dispatch false := by decide

/-- The whole run, once the settings are there. -/
theorem command_of_content {s : Surroundings} {content : EnvFile.Content}
    (hc : s.content = .ok content) {x : Settings}
    (hload : Settings.load (sources [] s content) = .ok x) {arguments : List String}
    {c : CommandLine.Command} {dryRun : Bool} (hr : CommandLine.read arguments = .run c dryRun)
    (entry : Entry) (n : Network) :
    command entry arguments s n =
      ⟨codeEnding (perform entry c dryRun s.now x n).result,
        warningEvents content ++ (perform entry c dryRun s.now x n).events,
        loggersFor x.logLevel, (perform entry c dryRun s.now x n).network⟩ := by
  unfold command
  rw [hr]
  dsimp only
  rw [withSettings_of_content hc, hload]
  rfl

theorem command_of_loads {s : Surroundings} {x : Settings} (h : s.Loads x) {arguments : List String}
    {c : CommandLine.Command} {dryRun : Bool} (hr : CommandLine.read arguments = .run c dryRun)
    (entry : Entry) (n : Network) :
    ∃ content, command entry arguments s n =
      ⟨codeEnding (perform entry c dryRun s.now x n).result,
        warningEvents content ++ (perform entry c dryRun s.now x n).events,
        loggersFor x.logLevel, (perform entry c dryRun s.now x n).network⟩ := by
  obtain ⟨content, hc, hload⟩ := h
  exact ⟨content, command_of_content hc hload hr entry n⟩

/-- The whole run, once the settings are refused. -/
theorem command_of_refused {s : Surroundings} {content : EnvFile.Content}
    (hc : s.content = .ok content) {complaints : List Settings.Complaint}
    (hload : Settings.load (sources [] s content) = .error complaints) {arguments : List String}
    {c : CommandLine.Command} {dryRun : Bool} (hr : CommandLine.read arguments = .run c dryRun)
    (entry : Entry) (n : Network) :
    command entry arguments s n =
      ⟨.exit exitUsage, warningEvents content ++ [.print .err (refusalText complaints)], .initial,
        n⟩ := by
  unfold command
  rw [hr]
  dsimp only
  rw [withSettings_of_content hc, hload]
  rfl

theorem ending_of_refused {s : Surroundings} {content : EnvFile.Content}
    (hc : s.content = .ok content) {complaints : List Settings.Complaint}
    (hload : Settings.load (sources [] s content) = .error complaints) {arguments : List String}
    {c : CommandLine.Command} {dryRun : Bool} (hr : CommandLine.read arguments = .run c dryRun)
    (entry : Entry) (n : Network) :
    (command entry arguments s n).ending = .exit exitUsage := by
  rw [command_of_refused hc hload hr]

theorem ending_of_loads {s : Surroundings} {x : Settings} (h : s.Loads x) (entry : Entry)
    (n : Network) :
    (command entry ["dispatch"] s n).ending = .exit (codeOf (dispatched x s.now n).result) := by
  obtain ⟨content, hcommand⟩ := command_of_loads h read_dispatch entry n
  rw [hcommand]
  show codeEnding (dispatchCommand entry x s.now n).result = _
  rw [result_dispatchCommand]
  rfl

end Run
end WorkflowDispatch
