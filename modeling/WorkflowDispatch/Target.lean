import WorkflowDispatch.Text.Blank
import WorkflowDispatch.Text.Quoted
/-!
The workflow that a dispatch starts: a repository, a workflow file in it and the ref to run it on.
The first three become segments of the path of the request, so none of them holds a slash, and the
path tells them apart.
-/

namespace WorkflowDispatch

namespace Target

/-- A text that can stand between two slashes. -/
structure Segment where
  text : String
  not_blank : Text.isBlankText text = false
  no_slash : '/' ∉ text.toList
  deriving DecidableEq

/-- A branch, a tag or a commit.  It travels in the body of the request and may hold slashes. -/
structure Ref where
  text : String
  not_blank : Text.isBlankText text = false
  deriving DecidableEq

inductive Field where
  | owner
  | repository
  | workflowFile
  | ref
  deriving DecidableEq, Repr

def Field.name : Field → String
  | .owner => "owner"
  | .repository => "repository"
  | .workflowFile => "workflow_file"
  | .ref => "ref"

inductive Error where
  | required (field : Field)
  | slash (field : Field) (value : String)
  deriving DecidableEq, Repr

def Error.message : Error → String
  | .required field => field.name ++ " is required"
  | .slash field value => field.name ++ " must not contain '/': " ++ Text.quote value

/-- A blank text is reported as missing before a slash is looked for. -/
def Segment.check (field : Field) (value : String) : Except Error Segment :=
  if hb : Text.isBlankText value = false then
    if hs : '/' ∉ value.toList then .ok ⟨value, hb, hs⟩ else .error (.slash field value)
  else .error (.required field)

def Ref.check (value : String) : Except Error Ref :=
  if hb : Text.isBlankText value = false then .ok ⟨value, hb⟩ else .error (.required .ref)

end Target

structure Target where
  owner : Target.Segment
  repository : Target.Segment
  workflowFile : Target.Segment
  ref : Target.Ref
  deriving DecidableEq

namespace Target

def defaultOwner : String := "r-nacos"

def defaultRepository : String := "docs"

def defaultWorkflowFile : String := "update_change_log.yaml"

def defaultRef : String := "master"

/-- The target with the given fields, where `none` is a field that is missing.  The first field at
fault is the one that is reported. -/
def make (owner repository workflowFile ref : Option String) : Except Error Target := do
  let owner ← Segment.check .owner (owner.getD "")
  let repository ← Segment.check .repository (repository.getD "")
  let workflowFile ← Segment.check .workflowFile (workflowFile.getD "")
  let ref ← Ref.check (ref.getD "")
  return ⟨owner, repository, workflowFile, ref⟩

/-- The name of the repository with its owner. -/
def fullName (t : Target) : String := t.owner.text ++ "/" ++ t.repository.text

/-- The path of the request, below the base URL. -/
def path (t : Target) : String :=
  "/repos/" ++ t.fullName ++ "/actions/workflows/" ++ t.workflowFile.text ++ "/dispatches"

/-- The members of the body of the request. -/
def payload (t : Target) : List (String × String) := [("ref", t.ref.text)]

/-- The target with its fields by name, as it is shown in listings of settings. -/
def listing (t : Target) : String :=
  "DispatchTarget(owner=" ++ Text.quote t.owner.text
    ++ ", repository=" ++ Text.quote t.repository.text
    ++ ", workflow_file=" ++ Text.quote t.workflowFile.text
    ++ ", ref=" ++ Text.quote t.ref.text ++ ")"

end Target
end WorkflowDispatch
