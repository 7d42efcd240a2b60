import WorkflowDispatch.Proofs.CommandLine.Reading
import WorkflowDispatch.Proofs.Run.Ending
/-!
What a run owes to its command line.  The network is called for no command line but the bare
dispatch, and a command line that asks for no command is answered in the same way wherever the
program is run.
-/

namespace WorkflowDispatch

namespace CommandLine

def Invocation.isMisuse : Invocation → Bool
  | .misuse _ _ => true
  | _ => false

end CommandLine

namespace Run

variable {s : Surroundings} {n : Network} {arguments : List String}

theorem calls_withSettings_of_silent {k : Settings.Checked Settings → Network → Report}
    (h : ∀ settings, (k settings n).calls = []) : (withSettings s n k).calls = [] := by
  cases hc : s.content with
  | error fault =>
    unfold withSettings
    rw [hc]
    rfl
  | ok content =>
    rw [withSettings_of_content hc]
    unfold Report.calls
    rw [callsOf_append, callsOf_warningEvents]
    exact h _

/-- Showing a request calls nothing. -/
theorem calls_of_shown {c : CommandLine.Command} {dryRun : Bool}
    (h : ¬ (c = .dispatch ∧ dryRun = false)) (entry : Entry)
    (hr : CommandLine.read arguments = .run c dryRun) :
    (command entry arguments s n).calls = [] := by
  unfold command
  rw [hr]
  refine calls_withSettings_of_silent fun settings => ?_
  match settings, c, dryRun, h with
  | .error complaints, _, _, _ => rfl
  | .ok x, .showTarget, _, _ => rfl
  | .ok x, .dispatch, true, _ => rfl
  | .ok x, .dispatch, false, h => exact absurd ⟨rfl, rfl⟩ h

/-- The words of the command line settle what is answered to it, unless they ask for a command. -/
theorem command_of_not_asks (h : ¬ AsksForCommand arguments) (entry : Entry) :
    ∃ stream text, ∀ s n, command entry arguments s n =
      ⟨.exit (if (CommandLine.read arguments).isMisuse then exitUsage else exitOk),
        [.print stream text], .initial, n⟩ := by
  cases hr : CommandLine.read arguments with
  | help scope => exact ⟨.out, CommandLine.helpText scope, fun s n => by rw [command, hr]; rfl⟩
  | version => exact ⟨.out, CommandLine.versionText, fun s n => by rw [command, hr]; rfl⟩
  | misuse scope m =>
    exact ⟨.err, CommandLine.misuseText scope m, fun s n => by rw [command, hr]; rfl⟩
  | run c dryRun => exact absurd ⟨c, dryRun, hr⟩ h

theorem arguments_of_calls_ne_nil {entry : Entry}
    (hcalls : (command entry arguments s n).calls ≠ []) : arguments = ["dispatch"] := by
  have hasks : AsksForCommand arguments := by
    by_contra h
    obtain ⟨stream, text, hcommand⟩ := command_of_not_asks h entry
    rw [hcommand s n] at hcalls
    exact hcalls rfl
  obtain ⟨c, dryRun, hr⟩ := hasks
  have hdispatch : c = .dispatch ∧ dryRun = false := by
    by_contra h
    exact hcalls (calls_of_shown h entry hr)
  obtain ⟨rfl, rfl⟩ := hdispatch
  obtain ⟨behind, rfl, _, hempty⟩ := CommandLine.read_eq_run_iff.1 hr
  have hnil : behind = [] := List.isEmpty_iff.1 (by rwa [eq_comm, Bool.not_eq_false'] at hempty)
  rw [hnil]
  rfl

/-- Only the bare dispatch calls the network.  The command lines that ask for a command are the bare
commands and the dispatch with spellings of the dry run behind it; every other one is a misuse with
the code two or asks for help or the version with the code zero, and its output is the same in all
surroundings. -/
theorem calls_of_arguments (entry : Entry) (arguments : List String) :
    (∀ s n, (command entry arguments s n).calls ≠ [] → arguments = ["dispatch"]) ∧
      (AsksForCommand arguments ↔
        ∃ c dryRun behind, CommandLine.Understood c dryRun arguments behind) ∧
      (¬ AsksForCommand arguments → ∃ code output,
        code = (if (CommandLine.read arguments).isMisuse then 2 else 0) ∧
        ∀ s n, (command entry arguments s n).ending = .exit code ∧
          (command entry arguments s n).output s.now = output) := by
  refine ⟨fun s n hcalls => arguments_of_calls_ne_nil hcalls, ?_, fun h => ?_⟩
  · exact exists_congr fun c => exists_congr fun dryRun => CommandLine.read_eq_run_iff
  · obtain ⟨stream, text, hcommand⟩ := command_of_not_asks h entry
    refine ⟨_, render ⟨0⟩ .initial [.print stream text], rfl, fun s n => ?_⟩
    rw [hcommand s n]
    refine ⟨rfl, ?_⟩
    cases stream <;> rfl

end Run
end WorkflowDispatch
