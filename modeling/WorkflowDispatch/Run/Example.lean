import WorkflowDispatch.Run.Basic
/-!
The example program: the parts of the library put together without a command line.  It reports
rejections and leaves every other failure to whoever started it.
-/

namespace WorkflowDispatch
namespace Run
namespace Example

/-- The exit code for a rejection, which is shown, or the acceptance. -/
def rejectionShown (a : Action Acceptance) : Action (Except Nat Acceptance) := do
  match ← a.attempt with
  | .ok acceptance => return .ok acceptance
  | .error f =>
    if f.reason.isRejection then
      Action.print .out (f.message ++ "\n")
      return .error 1
    else Action.fail f

def acceptanceText (a : Acceptance) : String :=
  "Dispatched " ++ a.target.workflowFile.text ++ " on " ++ a.target.ref.text ++ "\n"
    ++ "Accepted at: " ++ a.time.text ++ "\n"

def dispatch (s : Settings) (now : Timestamp) : Action Nat := do
  let client ← Client.build (parameters s)
  let outcome ← (rejectionShown (Trigger.run client s.target now)).andFinally client.close
  match outcome with
  | .error code => return code
  | .ok acceptance =>
    Action.print .out (acceptanceText acceptance)
    return 0

def runChecked (now : Timestamp) (settings : Settings.Checked Settings) (n : Network) : Report :=
  match settings with
  | .error complaints => ⟨.settingsRefused complaints, [], .initial, n⟩
  | .ok s =>
    let t := dispatch s now n
    ⟨codeEnding t.result, t.events, loggersFor s.logLevel, t.network⟩

def program (s : Surroundings) (n : Network) : Report := withSettings s n (runChecked s.now)

end Example
end Run
end WorkflowDispatch
