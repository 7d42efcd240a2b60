import WorkflowDispatch.Settings.Check
import WorkflowDispatch.Settings.Source
/-!
Loading settings from their sources.  All settings are checked, and the complaints about them stand
in the order of the settings.  Whether the fields of the target fit together is asked only when
there is no complaint.
-/

namespace WorkflowDispatch
namespace Settings

/-- A value was refused.  The location is the name under which the value was filed; a complaint
about the settings as a whole has none. -/
structure Complaint where
  location : Option String
  cause : Cause
  deriving DecidableEq, Repr

/-- A result, or everything that stands against it. -/
abbrev Checked (α : Type) := Except (List Complaint) α

/-- Both results, or the complaints about both. -/
def Checked.both {α β : Type} : Checked α → Checked β → Checked (α × β)
  | .ok a, .ok b => .ok (a, b)
  | .ok _, .error e => .error e
  | .error e, .ok _ => .error e
  | .error e, .error e' => .error (e ++ e')

/-- The value for a setting, checked, or its default. -/
def Sources.setting {α : Type} (s : Sources) (f : Field) (check : Value → Except Cause α)
    (default : α) : Checked α :=
  match s.raw? f with
  | none => .ok default
  | some filed =>
    match check filed.value with
    | .ok a => .ok a
    | .error cause => .error [⟨some filed.name, cause⟩]

/-- A credential has no default.  A complaint that it is missing stands at the name of the
setting. -/
def Sources.credential (s : Sources) (f : Field) : Checked String :=
  match s.raw? f with
  | none => .error [⟨some f.name, .credentialMissing f⟩]
  | some filed =>
    match checkCredential f filed.value with
    | .ok a => .ok a
    | .error cause => .error [⟨some filed.name, cause⟩]

/-- The settings before their target has been checked. -/
structure Draft where
  githubToken : String
  targetToken : String
  baseUrl : String
  owner : String
  repository : String
  workflowFile : String
  ref : String
  timeout : Binary64
  logLevel : Log.Level

def Sources.draft (s : Sources) : Checked Draft :=
  (s.credential .githubToken
    |>.both (s.credential .targetToken)
    |>.both (s.setting .baseUrl checkBaseUrl defaultBaseUrl)
    |>.both (s.setting .owner checkTargetField Target.defaultOwner)
    |>.both (s.setting .repository checkTargetField Target.defaultRepository)
    |>.both (s.setting .workflowFile checkTargetField Target.defaultWorkflowFile)
    |>.both (s.setting .ref checkTargetField Target.defaultRef)
    |>.both (s.setting .timeout checkTimeout defaultTimeout)
    |>.both (s.setting .logLevel checkLogLevel defaultLogLevel)).map
  fun ((((((((githubToken, targetToken), baseUrl), owner), repository), workflowFile), ref),
      timeout), logLevel) =>
    { githubToken, targetToken, baseUrl, owner, repository, workflowFile, ref, timeout, logLevel }

def Draft.complete (d : Draft) : Checked Settings :=
  match Target.make (some d.owner) (some d.repository) (some d.workflowFile) (some d.ref) with
  | .error e => .error [⟨none, .target e⟩]
  | .ok target => .ok ⟨d.githubToken, d.targetToken, d.baseUrl, target, d.timeout, d.logLevel⟩

def load (s : Sources) : Checked Settings := do
  let draft ← s.draft
  draft.complete

/-! ## Complaints as text -/

/-- What stands before the colon of a complaint. -/
def Complaint.place (c : Complaint) : String :=
  match c.location with
  | some name => name
  | none => "settings"

def Complaint.line (c : Complaint) : String := "  " ++ c.place ++ ": " ++ c.cause.message

/-- The complaints one to a line, without a line break at the end. -/
def complaintText (complaints : List Complaint) : String :=
  "\n".intercalate (complaints.map Complaint.line)

end Settings
end WorkflowDispatch
