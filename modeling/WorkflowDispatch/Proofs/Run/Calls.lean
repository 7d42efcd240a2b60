import WorkflowDispatch.Proofs.Address
import WorkflowDispatch.Proofs.Run.Dispatch
/-!
The calls that a run makes.  A run that calls at all connects, asks for the rate limit, posts the
dispatch if that was granted, and closes.
-/

namespace WorkflowDispatch
namespace Run

/-- The dispatch is posted once the session is open, and never otherwise. -/
def postCalls (x : Settings) (n : Network) : List Call :=
  match n.rateLimit.1 with
  | .ok _ => [.post x.dispatchUrl [("ref", x.target.ref.text)] x.timeout]
  | .error _ => []

/-- The calls of a whole dispatch, in their order. -/
def exchange (x : Settings) (seconds : Int) (n : Network) : List Call :=
  .connect x.githubToken x.baseUrl seconds :: .rateLimit :: (postCalls x n ++ Client.closeCalls n)

theorem postCall_clientFor (x : Settings) :
    (clientFor x).postCall x.target =
      .post x.dispatchUrl [("ref", x.target.ref.text)] x.timeout := by
  unfold Client.postCall
  rw [Client.apiUrl_path]
  rfl

theorem calls_clientFor (x : Settings) (n : Network) :
    Trigger.calls (clientFor x) x.target n = .rateLimit :: postCalls x n := by
  unfold Trigger.calls postCalls
  rw [postCall_clientFor]
  cases n.rateLimit.1 <;> rfl

/-- A dispatch calls nothing at all when its client cannot be built. -/
theorem callsOf_dispatched {x : Settings} (hx : x.WellFormed) (now : Timestamp) (n : Network) :
    callsOf (dispatched x now n).events = [] ∨
      ∃ seconds, callsOf (dispatched x now n).events = exchange x seconds n := by
  cases hs : Client.wholeTimeout x.timeout with
  | error f =>
    left
    rw [dispatched_of_error hx hs]
    rfl
  | ok seconds =>
    right
    refine ⟨seconds, ?_⟩
    rw [dispatched_of_ok hx hs, Trace.events_after, callsOf_append, callsOf_session,
      calls_clientFor]
    rfl

theorem callsOf_perform {x : Settings} (hx : x.WellFormed) (entry : Entry)
    (c : CommandLine.Command) (dryRun : Bool) (now : Timestamp) (n : Network) :
    callsOf (perform entry c dryRun now x n).events = [] ∨
      ∃ seconds, callsOf (perform entry c dryRun now x n).events = exchange x seconds n := by
  cases c with
  | showTarget => exact .inl rfl
  | dispatch =>
    cases dryRun with
    | true => exact .inl rfl
    | false =>
      show callsOf (dispatchCommand entry x now n).events = [] ∨
        ∃ seconds, callsOf (dispatchCommand entry x now n).events = exchange x seconds n
      rw [callsOf_dispatchCommand]
      exact callsOf_dispatched hx now n

/-- What a program calls once it has its settings is all that it calls. -/
theorem calls_withSettings {s : Surroundings} {n : Network}
    {k : Settings.Checked Settings → Network → Report}
    (herror : ∀ complaints, (k (.error complaints) n).calls = [])
    (hok : ∀ x : Settings, x.WellFormed →
      (k (.ok x) n).calls = [] ∨ ∃ seconds, (k (.ok x) n).calls = exchange x seconds n) :
    (withSettings s n k).calls = [] ∨
      ∃ x seconds, s.Loads x ∧ (withSettings s n k).calls = exchange x seconds n := by
  cases hc : s.content with
  | error fault =>
    left
    unfold withSettings
    rw [hc]
    rfl
  | ok content =>
    have hcalls : (withSettings s n k).calls =
        (k (Settings.load (sources [] s content)) n).calls := by
      unfold Report.calls
      rw [withSettings_of_content hc, callsOf_append, callsOf_warningEvents, List.nil_append]
    rw [hcalls]
    cases hload : Settings.load (sources [] s content) with
    | error complaints => exact .inl (herror complaints)
    | ok x =>
      rcases hok x (Settings.wellFormed_of_load hload) with hnone | ⟨seconds, hexchange⟩
      · exact .inl hnone
      · exact .inr ⟨x, seconds, ⟨content, hc, hload⟩, hexchange⟩

/-- A run whose settings cannot be had makes no call. -/
theorem calls_of_not_loads {s : Surroundings} (h : ¬ ∃ x, s.Loads x) (entry : Entry)
    (arguments : List String) (n : Network) : (command entry arguments s n).calls = [] := by
  unfold command
  split
  · rfl
  · rfl
  · rfl
  · cases hc : s.content with
    | error fault => unfold withSettings; rw [hc]; rfl
    | ok content =>
      rw [withSettings_of_content hc]
      cases hl : Settings.load (sources [] s content) with
      | ok x => exact absurd ⟨x, content, hc, hl⟩ h
      | error complaints =>
        unfold Report.calls
        rw [callsOf_append, callsOf_warningEvents]
        rfl

/-- Every run keeps to the protocol: no call at all, or one connection, one question for the rate
limit, the dispatch of the loaded settings exactly when that question was answered, and then only
the closing of the connections. -/
theorem calls_command (entry : Entry) (arguments : List String) (s : Surroundings) (n : Network) :
    (command entry arguments s n).calls = [] ∨
      ∃ x seconds, s.Loads x ∧
        (command entry arguments s n).calls =
          .connect x.githubToken x.baseUrl seconds :: .rateLimit ::
            ((match n.rateLimit.1 with
              | .ok _ => [.post x.dispatchUrl [("ref", x.target.ref.text)] x.timeout]
              | .error _ => []) ++
            (match n.sessionClose with
              | some _ => [.closeSession]
              | none => [.closeSession, .closeService])) := by
  by_cases h : ∃ x, s.Loads x
  · obtain ⟨x, hx⟩ := h
    cases hr : CommandLine.read arguments with
    | help scope => left; unfold command; rw [hr]; rfl
    | version => left; unfold command; rw [hr]; rfl
    | misuse scope m => left; unfold command; rw [hr]; rfl
    | run c dryRun =>
      obtain ⟨content, hcommand⟩ := command_of_loads hx hr entry n
      unfold Report.calls
      rw [hcommand]
      dsimp only
      rw [callsOf_append, callsOf_warningEvents, List.nil_append]
      rcases callsOf_perform hx.wellFormed entry c dryRun s.now n with hnone | ⟨seconds, hcalls⟩
      · exact .inl hnone
      · exact .inr ⟨x, seconds, hx, hcalls⟩
  · exact .inl (calls_of_not_loads h entry arguments n)

end Run
end WorkflowDispatch
