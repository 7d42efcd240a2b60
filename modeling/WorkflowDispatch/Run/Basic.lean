import WorkflowDispatch.EnvFile.Read
import WorkflowDispatch.Settings.Load
import WorkflowDispatch.Trigger
/-!
What a run of a program starts from and what can be seen of it.
-/

namespace WorkflowDispatch
namespace Run

/-- The environment, the settings file in the working directory if there is one, and the time.  The
clock stands still during a run. -/
structure Surroundings where
  environment : Bindings String
  file : Option (List UInt8)
  now : Timestamp

/-- How a run ends: with an exit code, or with something that nobody dealt with. -/
inductive Ending where
  | exit (code : Nat)
  | fileUnreadable (fault : Text.Utf8.Fault)
  | settingsRefused (complaints : List Settings.Complaint)
  | failed (failure : Failure)

/-- An action that ends in an exit code, or in a failure. -/
def codeEnding : Except Failure Nat → Ending
  | .ok code => .exit code
  | .error f => .failed f

/-- The loggers are those that the events of the run were given to. -/
structure Report where
  ending : Ending
  events : List Event
  loggers : Log.Loggers
  network : Network

/-! ## Settings -/

def Surroundings.content (s : Surroundings) : Except Text.Utf8.Fault EnvFile.Content :=
  match s.file with
  | some bytes => EnvFile.Content.ofBytes s.environment bytes
  | none => .ok .empty

/-- The sources of the settings, with the keywords of a caller. -/
def sources (keywords : Bindings Value) (s : Surroundings) (c : EnvFile.Content) :
    Settings.Sources :=
  ⟨keywords, s.environment, c.values⟩

/-- The warnings about a file come before everything else. -/
def warningEvents (c : EnvFile.Content) : List Event :=
  if c.faults.isEmpty then [] else [.print .err c.warnings]

/-- Reads the settings and goes on with them.  If the file cannot be read the run ends at once. -/
def withSettings (s : Surroundings) (n : Network)
    (k : Settings.Checked Settings → Network → Report) : Report :=
  match s.content with
  | .error fault => ⟨.fileUnreadable fault, [], .initial, n⟩
  | .ok content =>
    let r := k (Settings.load (sources [] s content)) n
    { r with events := warningEvents content ++ r.events }

/-- The loggers that a level asks for. -/
def loggersFor (level : Log.Level) : Log.Loggers :=
  Log.Loggers.initial.withLines.setThreshold level

/-- What the client is built from. -/
def parameters (s : Settings) : Client.Parameters :=
  { token := s.githubToken, dispatchToken := s.targetToken, baseUrl := s.baseUrl
    timeout := s.timeout, injected := false }

/-! ## Output -/

def outputOf (now : Timestamp) (loggers : Log.Loggers) : Event → Log.Loggers.Output
  | .call _ => .empty
  | .log e => (loggers.emit now.value e).toOption.getD .empty
  | .print .out text => ⟨text, ""⟩
  | .print .err text => ⟨"", text⟩

/-- The text that events leave on the two streams. -/
def render (now : Timestamp) (loggers : Log.Loggers) (events : List Event) : Log.Loggers.Output :=
  let outputs := events.map (outputOf now loggers)
  ⟨String.join (outputs.map (·.out)), String.join (outputs.map (·.err))⟩

def Report.output (r : Report) (now : Timestamp) : Log.Loggers.Output :=
  render now r.loggers r.events

def Report.calls (r : Report) : List Call := callsOf r.events

end Run
end WorkflowDispatch
