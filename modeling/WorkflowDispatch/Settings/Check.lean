import WorkflowDispatch.Binary64.Reader
import WorkflowDispatch.Settings.Basic
import WorkflowDispatch.Settings.Field
import WorkflowDispatch.Text.Utf8
/-!
What is demanded of a single setting.  Every check looks at one value only.
-/

namespace WorkflowDispatch
namespace Settings

/-- Why a value is refused. -/
inductive Cause where
  | notText
  | notUnicode
  | notNumber
  | unreadableNumber
  | notPositive
  | credentialMissing (field : Field)
  | baseUrlEmpty
  | targetFieldBlank
  | unknownLogLevel (value : String)
  | target (error : Target.Error)
  deriving DecidableEq, Repr

/-- The variables that a complaint about a missing credential names. -/
def credentialVariables (f : Field) : String :=
  match f.otherVariables with
  | [] => f.mainVariable
  | others => f.mainVariable ++ " (or " ++ ", ".intercalate others ++ ")"

/-- What is wrong, for the causes that are rules of these settings. -/
def Cause.ruleText : Cause → Option String
  | .credentialMissing f => some (credentialVariables f ++ " is required")
  | .baseUrlEmpty => some "GITHUB_BASE_URL must not be empty"
  | .targetFieldBlank => some "dispatch target fields must not be blank"
  | .unknownLogLevel value => some ("Unknown LOG_LEVEL: " ++ Text.quote value)
  | .target e => some e.message
  | _ => none

def Cause.message (c : Cause) : String :=
  match c with
  | .notText => "Input should be a valid string"
  | .notUnicode =>
    "Input should be a valid string, unable to parse raw data as a unicode string"
  | .notNumber => "Input should be a valid number"
  | .unreadableNumber =>
    "Input should be a valid number, unable to parse string as a number"
  | .notPositive => "Input should be greater than 0"
  | _ => "Value error, " ++ c.ruleText.getD ""

/-- The short name of the cause. -/
def Cause.label : Cause → String
  | .notText => "string_type"
  | .notUnicode => "string_unicode"
  | .notNumber => "float_type"
  | .unreadableNumber => "float_parsing"
  | .notPositive => "greater_than"
  | _ => "value_error"

/-! ## Checks -/

/-- A text may also be given as its bytes. -/
def checkText (v : Value) : Except Cause String :=
  match v with
  | .text s => .ok s
  | .bytes b => (Text.decodeUtf8 b).mapError (fun _ => .notUnicode)
  | _ => .error .notText

/-- A credential may be given as a text or as a secret.  Anything else is refused for the same
cause. -/
def checkCredential (f : Field) (v : Value) : Except Cause String := do
  let s ← match v with
    | .secret s => .ok s
    | v => (checkText v).mapError (fun _ => Cause.notText)
  if Text.isBlankText s then .error (.credentialMissing f) else .ok s

/-- An address without blanks around it and without slashes at its end. -/
def trimmedUrl (s : String) : String := Text.stripRight '/' (Text.strip s)

def checkBaseUrl (v : Value) : Except Cause String := do
  let url := trimmedUrl (← checkText v)
  if url.isEmpty then .error .baseUrlEmpty else .ok url

/-- A field of the target, without blanks around it. -/
def checkTargetField (v : Value) : Except Cause String := do
  let s := Text.strip (← checkText v)
  if s.isEmpty then .error .targetFieldBlank else .ok s

def checkNumeral (s : String) : Except Cause Binary64 :=
  match Binary64.ofText? s with
  | some x => .ok x
  | none => .error .unreadableNumber

/-- A number may also be given as a numeral, or as the bytes of one. -/
def checkNumber (v : Value) : Except Cause Binary64 :=
  match v with
  | .float x => .ok x
  | .bool b => .ok (.ofBool b)
  | .int i =>
    match Binary64.ofInt? i with
    | some x => .ok x
    | none => .error .notNumber
  | .text s => checkNumeral s
  | .bytes b =>
    match Text.decodeUtf8 b with
    | .ok s => checkNumeral s
    | .error _ => .error .unreadableNumber
  | _ => .error .notNumber

def checkTimeout (v : Value) : Except Cause Binary64 := do
  let x ← checkNumber v
  if x.isPositive then .ok x else .error .notPositive

/-- The name of a level in letters of any case. -/
def checkLogLevel (v : Value) : Except Cause Log.Level := do
  let s ← checkText v
  match Log.Level.ofName? (Text.upper (Text.strip s)) with
  | some level => .ok level
  | none => .error (.unknownLogLevel s)

end Settings
end WorkflowDispatch
