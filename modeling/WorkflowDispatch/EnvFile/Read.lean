import WorkflowDispatch.EnvFile.Reference
import WorkflowDispatch.EnvFile.Statement
import WorkflowDispatch.Text.Utf8
/-!
Reading a settings file from its bytes.
-/

namespace WorkflowDispatch
namespace EnvFile

/-- What a file says: its values and the lines of malformed statements. -/
structure Content where
  values : Bindings (Option String)
  faults : List Nat

def Content.empty : Content := ⟨[], []⟩

/-- A carriage return ends a line, alone or before a line feed. -/
def unifyLineBreaks : List Char → List Char
  | '\r' :: '\n' :: rest => '\n' :: unifyLineBreaks rest
  | '\r' :: rest => '\n' :: unifyLineBreaks rest
  | c :: rest => c :: unifyLineBreaks rest
  | [] => []

def byteOrderMark : Char := Char.ofNat 0xFEFF

def withoutMark : List Char → List Char
  | c :: rest => if c = byteOrderMark then rest else c :: rest
  | [] => []

def Content.ofText (environment : Bindings String) (text : String) : Content :=
  let (assignments, faults) := statements text
  ⟨resolve environment assignments, faults⟩

/-- The content of a file in UTF-8.  A byte order mark at the beginning does not count. -/
def Content.ofBytes (environment : Bindings String) (bytes : List UInt8) :
    Except Text.Utf8.Fault Content :=
  (Text.decodeUtf8 bytes).map fun text =>
    .ofText environment (String.ofList (withoutMark (unifyLineBreaks text.toList)))

/-- The warning for a malformed statement, as a line. -/
def warning (line : Nat) : String :=
  "python-dotenv could not parse statement starting at line " ++ Text.decimal line ++ "\n"

def Content.warnings (c : Content) : String := String.join (c.faults.map warning)

end EnvFile
end WorkflowDispatch
