import WorkflowDispatch.Proofs.EnvFile.References
import WorkflowDispatch.Proofs.Run.Dispatch
import WorkflowDispatch.Proofs.Settings.Credentials
/-!
No credential can be learned from a run.  Two runs that start alike, but for the credentials, end
alike: the only thing in which they differ is the credential that a connection is opened with.
-/

namespace WorkflowDispatch

/-! ## What can be seen -/

/-- The call without the credential that it hands over. -/
def Call.masked : Call → Call
  | .connect _ baseUrl seconds => .connect "" baseUrl seconds
  | c => c

def Event.masked : Event → Event
  | .call c => .call c.masked
  | e => e

theorem callsOf_map_masked (es : List Event) :
    callsOf (es.map Event.masked) = (callsOf es).map Call.masked := by
  induction es with
  | nil => rfl
  | cons e es ih =>
    cases e with
    | call c =>
      rw [List.map_cons]
      show c.masked :: callsOf (es.map Event.masked) = _
      rw [ih]
      rfl
    | log entry => exact ih
    | print stream text => exact ih

/-- Two traces that can only be told apart by a credential. -/
structure Trace.Alike {α : Type} (t t' : Trace α) : Prop where
  result : t.result = t'.result
  events : t.events.map Event.masked = t'.events.map Event.masked
  network : t.network = t'.network

theorem Trace.Alike.refl {α : Type} (t : Trace α) : t.Alike t := ⟨rfl, rfl, rfl⟩

namespace Run

open Settings (isCredentialName EntryAlike)

/-- No call is part of the output. -/
theorem render_map_masked (now : Timestamp) (loggers : Log.Loggers) (es : List Event) :
    render now loggers (es.map Event.masked) = render now loggers es := by
  have hmasked : ∀ e, outputOf now loggers e.masked = outputOf now loggers e := by
    intro e
    cases e <;> rfl
  unfold render
  rw [List.map_map]
  simp only [Function.comp_def, hmasked]

/-! ## The commands -/

variable {x x' : Settings}

/-- A session does not show the credential that it sends with the dispatch. -/
theorem session_congr (t t' url : String) (timeout : Binary64) (target : Target)
    (now : Timestamp) : session ⟨t, url, timeout⟩ target now = session ⟨t', url, timeout⟩ target now :=
  rfl

theorem dispatched_alike (h : x.Alike x') (hx : x.WellFormed) (hx' : x'.WellFormed)
    (now : Timestamp) (n : Network) : (dispatched x now n).Alike (dispatched x' now n) := by
  obtain ⟨githubToken, targetToken, rfl⟩ := h
  -- Both runs get a client or neither does: no credential of loaded settings is empty.
  cases hs : Client.wholeTimeout x.timeout with
  | error f =>
    rw [dispatched_of_error hx hs, dispatched_of_error hx' hs]
    exact .refl _
  | ok seconds =>
    rw [dispatched_of_ok hx hs, dispatched_of_ok hx' hs]
    have hsession : session (clientFor { x with githubToken, targetToken }) x.target now =
        session (clientFor x) x.target now := session_congr _ _ _ _ _ _
    dsimp only
    rw [hsession]
    exact ⟨rfl, rfl, rfl⟩

theorem dispatchCommand_alike (h : x.Alike x') (hx : x.WellFormed) (hx' : x'.WellFormed)
    (entry : Entry) (now : Timestamp) (n : Network) :
    (dispatchCommand entry x now n).Alike (dispatchCommand entry x' now n) := by
  have hd := dispatched_alike h hx hx' now n
  rw [dispatchCommand_apply, dispatchCommand_apply, hd.result, hd.network]
  refine ⟨rfl, ?_, rfl⟩
  rw [Trace.events_after, Trace.events_after, List.map_append, List.map_append, hd.events]

theorem perform_alike (h : x.Alike x') (hx : x.WellFormed) (hx' : x'.WellFormed) (entry : Entry)
    (c : CommandLine.Command) (dryRun : Bool) (now : Timestamp) (n : Network) :
    (perform entry c dryRun now x n).Alike (perform entry c dryRun now x' n) := by
  cases c with
  | showTarget =>
    obtain ⟨_, _, rfl⟩ := h
    exact .refl _
  | dispatch =>
    cases dryRun with
    | true =>
      obtain ⟨_, _, rfl⟩ := h
      exact .refl _
    | false => exact dispatchCommand_alike h hx hx' entry now n

/-! ## Whole runs -/

/-- The names that the settings file refers to. -/
def Surroundings.references (s : Surroundings) : List String :=
  match s.file with
  | some bytes => EnvFile.fileReferences bytes
  | none => []

/-- Surroundings that differ in nothing but the credentials in the environment. -/
structure Surroundings.Alike (s s' : Surroundings) : Prop where
  environment : List.Forall₂ EntryAlike s.environment s'.environment
  file : s.file = s'.file
  now : s.now = s'.now

variable {s s' : Surroundings}

theorem Surroundings.Alike.content (h : s.Alike s')
    (hr : ∀ name ∈ s.references, isCredentialName name = false) : s.content = s'.content := by
  unfold Surroundings.content
  unfold Surroundings.references at hr
  rw [← h.file]
  cases hf : s.file with
  | none => rfl
  | some bytes =>
    rw [hf] at hr
    exact EnvFile.Content.ofBytes_congr fun name hname =>
      Settings.get?_congr h.environment (hr name hname)

/-- Two reports that can only be told apart by a credential. -/
structure Report.Alike (r r' : Report) : Prop where
  ending : r.ending = r'.ending
  events : r.events.map Event.masked = r'.events.map Event.masked
  loggers : r.loggers = r'.loggers

theorem Report.Alike.refl (r : Report) : r.Alike r := ⟨rfl, rfl, rfl⟩

theorem Report.Alike.behind {r r' : Report} (h : r.Alike r') (es : List Event) :
    Report.Alike { r with events := es ++ r.events } { r' with events := es ++ r'.events } := by
  refine ⟨h.ending, ?_, h.loggers⟩
  dsimp only
  rw [List.map_append, List.map_append, h.events]

theorem runChecked_alike (h : x.Alike x') (hx : x.WellFormed) (hx' : x'.WellFormed) (entry : Entry)
    (c : CommandLine.Command) (dryRun : Bool) (now : Timestamp) (n : Network) :
    (runChecked entry c dryRun now (.ok x) n).Alike (runChecked entry c dryRun now (.ok x') n) := by
  have hp := perform_alike h hx hx' entry c dryRun now n
  have hlevel : x.logLevel = x'.logLevel := by
    obtain ⟨_, _, rfl⟩ := h
    rfl
  exact ⟨congrArg codeEnding hp.result, hp.events, congrArg loggersFor hlevel⟩

theorem command_alike (h : s.Alike s') (hr : ∀ name ∈ s.references, isCredentialName name = false)
    (entry : Entry) (arguments : List String) (n : Network) :
    (command entry arguments s n).Alike (command entry arguments s' n) := by
  unfold command
  cases CommandLine.read arguments with
  | help scope => exact .refl _
  | version => exact .refl _
  | misuse scope m => exact .refl _
  | run c dryRun =>
    dsimp only
    rw [← h.now]
    have hcontent := h.content hr
    cases hc : s.content with
    | error fault =>
      unfold withSettings
      rw [← hcontent, hc]
      exact .refl _
    | ok content =>
      rw [withSettings_of_content hc, withSettings_of_content (hcontent ▸ hc)]
      have hload : Settings.Checked.Rel Settings.Alike (Settings.load (sources [] s content))
          (Settings.load (sources [] s' content)) :=
        Settings.Sources.Alike.load ⟨rfl, h.environment, rfl⟩
      refine Report.Alike.behind ?_ (warningEvents content)
      generalize hl : Settings.load (sources [] s content) = a at hload
      generalize hl' : Settings.load (sources [] s' content) = a' at hload
      -- Either both runs show the same complaints or both go on with settings.
      cases hload with
      | error complaints => exact .refl _
      | ok hx =>
        exact runChecked_alike hx (Settings.wellFormed_of_load hl) (Settings.wellFormed_of_load hl')
          entry c dryRun s.now n

/-- Credentials do not reach any output.  Where the settings file does not refer to a credential,
two runs whose environments differ in credentials only end in the same way, leave the same text on
both streams and make the same calls, but for the credential that the connection is opened with. -/
theorem command_confidential (h : s.Alike s')
    (hr : ∀ name ∈ s.references, isCredentialName name = false) (entry : Entry)
    (arguments : List String) (n : Network) :
    (command entry arguments s n).ending = (command entry arguments s' n).ending ∧
      (command entry arguments s n).output s.now = (command entry arguments s' n).output s'.now ∧
      (command entry arguments s n).calls.map Call.masked =
        (command entry arguments s' n).calls.map Call.masked := by
  have hcommand := command_alike h hr entry arguments n
  refine ⟨hcommand.ending, ?_, ?_⟩
  · unfold Report.output
    rw [← render_map_masked, hcommand.events, hcommand.loggers, h.now, render_map_masked]
  · unfold Report.calls
    rw [← callsOf_map_masked, hcommand.events, callsOf_map_masked]

/-- Surroundings with credentials and a file that takes the ref from another variable. -/
def borrowingSurroundings (githubToken targetToken : String) : Surroundings :=
  { environment :=
      [("GH_TOKEN", githubToken), ("BRANCH", "release"), ("TARGET_REPO_PAT", targetToken)]
    file := some ("DISPATCH_REF=$\x7bBRANCH\x7d\n".toList.map (fun c => UInt8.ofNat c.toNat))
    now := ⟨0⟩ }

theorem alike_borrowingSurroundings :
    (borrowingSurroundings "ambient" "narrow").Alike (borrowingSurroundings "other" "wide") := by
  refine ⟨.cons ⟨rfl, by decide, ?_⟩ (.cons ⟨rfl, by decide, fun _ => rfl⟩
    (.cons ⟨rfl, by decide, ?_⟩ .nil)), rfl, rfl⟩
  · intro h
    exact absurd h (by decide)
  · intro h
    exact absurd h (by decide)

theorem references_borrowingSurroundings :
    (borrowingSurroundings "ambient" "narrow").references = ["BRANCH"] := by
  decide +kernel

theorem command_confidential_of_borrowing :
    (command .installed ["dispatch"] (borrowingSurroundings "ambient" "narrow")
          usualNetwork).ending =
        (command .installed ["dispatch"] (borrowingSurroundings "other" "wide")
          usualNetwork).ending ∧
      (command .installed ["dispatch"] (borrowingSurroundings "ambient" "narrow")
          usualNetwork).output ⟨0⟩ =
        (command .installed ["dispatch"] (borrowingSurroundings "other" "wide")
          usualNetwork).output ⟨0⟩ ∧
      (command .installed ["dispatch"] (borrowingSurroundings "ambient" "narrow")
          usualNetwork).calls.map Call.masked =
        (command .installed ["dispatch"] (borrowingSurroundings "other" "wide")
          usualNetwork).calls.map Call.masked := by
  refine command_confidential alike_borrowingSurroundings ?_ .installed ["dispatch"] usualNetwork
  rw [references_borrowingSurroundings]
  decide

end Run
end WorkflowDispatch
