import WorkflowDispatch.CommandLine.Invocation
import WorkflowDispatch.Run.Basic
/-!
The command line program.  Its exit code tells how a dispatch ended.
-/

namespace WorkflowDispatch
namespace Run

/-- The program may be started as a script, and then its logger has another name. -/
inductive Entry where
  | installed
  | script
  deriving DecidableEq, Repr

def Entry.loggerName : Entry → String
  | .installed => "docs_changelog_trigger.trigger.main"
  | .script => "__main__"

def exitOk : Nat := 0

def exitFailure : Nat := 1

def exitUsage : Nat := 2

def exitAuthentication : Nat := 3

def exitRejected : Nat := 4

/-- How much of the text of an answer goes into the log. -/
def responseLimit : Nat := 500

/-! ## Showing the request -/

def bodyDocument (t : Target) : Json := .object (t.payload.map (fun m => (m.1, .text m.2)))

def requestDocument (s : Settings) : Json :=
  .object
    [("method", .text "POST"), ("url", .text s.dispatchUrl), ("path", .text s.target.path),
      ("body", bodyDocument s.target)]

def showTargetText (s : Settings) : String := (requestDocument s).writeIndented 0 ++ "\n"

def dryRunText (s : Settings) : String :=
  "POST " ++ s.dispatchUrl ++ "\n" ++ (bodyDocument s.target).write .ascii ++ "\n"

/-! ## Dispatching -/

def errorEntry (entry : Entry) (message : String) (attributes : Bindings Value)
    (incident : Log.Incident) : Log.Entry :=
  { logger := entry.loggerName, level := Log.Level.error.number, message := .text message
    attributes, incident }

def statusValue : Option Int → Value
  | some n => .int n
  | none => .none

/-- Builds a client, runs the trigger and closes the client whatever became of the run. -/
def dispatched (s : Settings) (now : Timestamp) : Action Acceptance := do
  let client ← Client.build (parameters s)
  (Trigger.run client s.target now).andFinally client.close

/-- Logs a rejection and shows it. -/
def reject (entry : Entry) (r : Reason) (attributes : Bindings Value) (code : Nat) :
    Action Nat := do
  Action.log (errorEntry entry r.message attributes .absent)
  Action.print .err (r.message ++ "\n")
  return code

def reportFailure (entry : Entry) (heading : String) (f : Failure) : Action Nat := do
  Action.log (errorEntry entry heading [] (.report f.report))
  return exitFailure

def acceptanceText (a : Acceptance) : String :=
  "Dispatched " ++ a.target.workflowFile.text ++ " on " ++ a.target.fullName ++ "@"
    ++ a.target.ref.text ++ " (HTTP " ++ Text.decimal a.status ++ ")\n"

/-- The exit code for the outcome of a dispatch, with the words that go with it. -/
def conclude (entry : Entry) : Except Failure Acceptance → Action Nat
  | .ok a => do
    Action.print .out (acceptanceText a)
    return exitOk
  | .error f =>
    match f.reason with
    | .sessionRejected status =>
      reject entry f.reason [("status_code", statusValue status)] exitAuthentication
    | .credentialRejected _ status =>
      reject entry f.reason [("status_code", .int status)] exitAuthentication
    | .dispatchRejected _ status text =>
      reject entry f.reason
        [("status_code", .int status),
          ("response", .text (String.ofList (text.toList.take responseLimit)))]
        exitRejected
    | .request _ _ _ => reportFailure entry "Request to GitHub failed" f
    | _ => reportFailure entry "Dispatch failed" f

def dispatchCommand (entry : Entry) (s : Settings) (now : Timestamp) : Action Nat := do
  let outcome ← (dispatched s now).attempt
  conclude entry outcome

/-! ## The program -/

def refusalText (complaints : List Settings.Complaint) : String :=
  "Configuration error (check your environment or .env):\n"
    ++ Settings.complaintText complaints ++ "\n"

/-- What a command does once the settings are there. -/
def perform (entry : Entry) (command : CommandLine.Command) (dryRun : Bool) (now : Timestamp)
    (s : Settings) : Action Nat :=
  match command, dryRun with
  | .showTarget, _ => do
    Action.print .out (showTargetText s)
    return exitOk
  | .dispatch, true => do
    Action.print .out (dryRunText s)
    return exitOk
  | .dispatch, false => dispatchCommand entry s now

/-- Runs a command with settings that may have been refused. -/
def runChecked (entry : Entry) (command : CommandLine.Command) (dryRun : Bool) (now : Timestamp)
    (settings : Settings.Checked Settings) (n : Network) : Report :=
  match settings with
  | .error complaints =>
    ⟨.exit exitUsage, [.print .err (refusalText complaints)], .initial, n⟩
  | .ok s =>
    let t := perform entry command dryRun now s n
    ⟨codeEnding t.result, t.events, loggersFor s.logLevel, t.network⟩

/-- The run for a command line.  Help and misuse are answered without a look at the settings. -/
def command (entry : Entry) (arguments : List String) (s : Surroundings) (n : Network) : Report :=
  match CommandLine.read arguments with
  | .help scope => ⟨.exit exitOk, [.print .out (CommandLine.helpText scope)], .initial, n⟩
  | .version => ⟨.exit exitOk, [.print .out CommandLine.versionText], .initial, n⟩
  | .misuse scope m =>
    ⟨.exit exitUsage, [.print .err (CommandLine.misuseText scope m)], .initial, n⟩
  | .run command dryRun => withSettings s n (runChecked entry command dryRun s.now)

end Run
end WorkflowDispatch
