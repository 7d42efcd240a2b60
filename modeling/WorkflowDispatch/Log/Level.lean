import WorkflowDispatch.Text.Case
import WorkflowDispatch.Text.Numeral
/-!
The levels of log records.  A record has a number; some numbers have names, and two of them have a
second name that is accepted but not shown.
-/

namespace WorkflowDispatch
namespace Log

inductive Level where
  | critical
  | fatal
  | error
  | warning
  | warn
  | info
  | debug
  | unset
  deriving DecidableEq, Repr

namespace Level

def all : List Level := [.critical, .fatal, .error, .warning, .warn, .info, .debug, .unset]

def name : Level → String
  | .critical => "CRITICAL"
  | .fatal => "FATAL"
  | .error => "ERROR"
  | .warning => "WARNING"
  | .warn => "WARN"
  | .info => "INFO"
  | .debug => "DEBUG"
  | .unset => "NOTSET"

def number : Level → Int
  | .critical => 50
  | .fatal => 50
  | .error => 40
  | .warning => 30
  | .warn => 30
  | .info => 20
  | .debug => 10
  | .unset => 0

/-- The level with exactly this name. -/
def ofName? (name : String) : Option Level := all.find? (·.name == name)

/-- What is shown for a number.  Of two names for a number it is the first in `all`. -/
def shown (number : Int) : String :=
  match all.find? (·.number == number) with
  | some level => level.name
  | none => "Level " ++ Text.decimal number

theorem ofName?_name (l : Level) : ofName? l.name = some l := by
  cases l <;> decide

end Level
end Log
end WorkflowDispatch
