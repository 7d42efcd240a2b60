import Std.Time.DateTime.Timestamp
import WorkflowDispatch.Run.Command
/-!
The command line.  It gathers the surroundings of a run, lets `Run.command` decide everything, and
writes what that leaves on the two streams.  There is no transport behind it, so a run that gets
as far as the network finds it unreachable.
-/

namespace WorkflowDispatch
namespace CommandLine

/-- One entry of the environment, split at its first equals sign. -/
def environmentEntry? (bytes : List UInt8) : Option (String × String) :=
  match Text.decodeUtf8 bytes with
  | .ok text =>
    match splitValue text with
    | (name, some value) => some (name, value)
    | (_, none) => none
  | .error _ => none

/-- The environment in the form in which the system keeps it: entries between zero bytes. -/
def environmentOf (bytes : List UInt8) : Bindings String :=
  Bindings.ofPairs ((bytes.splitOn 0).filterMap environmentEntry?)

/-- Every question for the rate limit fails. -/
def unreachable : Network :=
  { rateLimits := [.error (.alone (.request .connection "Network is unreachable" none))]
    posts := []
    sessionClose := none
    serviceClose := none }

/-- The exit code, and what is said about an ending that has none. -/
def exitCode : Run.Ending → Nat × String
  | .exit code => (code, "")
  | .fileUnreadable fault => (Run.exitFailure, fault.message ++ "\n")
  | .settingsRefused complaints => (Run.exitFailure, Settings.complaintText complaints ++ "\n")
  | .failed failure => (Run.exitFailure, failure.report ++ "\n")

/-- The texts for the two streams and the exit code. -/
def answer (arguments : List String) (s : Run.Surroundings) : Log.Loggers.Output × Nat :=
  let report := Run.command .installed arguments s unreachable
  let output := report.output s.now
  let (code, complaint) := exitCode report.ending
  (⟨output.out, output.err ++ complaint⟩, code)

/-- Reads the surroundings from the system.  Two of its failures are left out: a settings file that
is there but cannot be opened counts as absent and does not end the run, and an entry of the
environment that is no UTF-8 is dropped, with the bytes that could be kept of it. -/
def surroundings : IO Run.Surroundings := do
  let environment ← IO.FS.readBinFile "/proc/self/environ"
  let file ← (IO.FS.readBinFile ".env").toBaseIO
  let time ← Std.Time.Timestamp.now
  return {
    environment := environmentOf environment.toList
    file := file.toOption.map (·.toList)
    now := ⟨time.toNanosecondsSinceUnixEpoch.val / 1000⟩ }

end CommandLine
end WorkflowDispatch

def main (arguments : List String) : IO UInt32 := do
  let (output, code) := WorkflowDispatch.CommandLine.answer arguments
    (← WorkflowDispatch.CommandLine.surroundings)
  (← IO.getStdout).putStr output.out
  (← IO.getStderr).putStr output.err
  return code.toUInt32
