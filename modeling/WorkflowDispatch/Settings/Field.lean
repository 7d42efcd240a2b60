/-!
The settings and the names under which values for them are looked up.
-/

namespace WorkflowDispatch
namespace Settings

inductive Field where
  | githubToken
  | targetToken
  | baseUrl
  | owner
  | repository
  | workflowFile
  | ref
  | timeout
  | logLevel
  deriving DecidableEq, Repr

namespace Field

def all : List Field :=
  [.githubToken, .targetToken, .baseUrl, .owner, .repository, .workflowFile, .ref, .timeout,
    .logLevel]

/-- The name of the setting itself. -/
def name : Field → String
  | .githubToken => "github_token"
  | .targetToken => "target_repo_pat"
  | .baseUrl => "github_base_url"
  | .owner => "target_owner"
  | .repository => "target_repository"
  | .workflowFile => "workflow_file"
  | .ref => "ref"
  | .timeout => "request_timeout_seconds"
  | .logLevel => "log_level"

/-- The variable that is meant for the setting. -/
def mainVariable : Field → String
  | .githubToken => "GH_TOKEN"
  | .targetToken => "TARGET_REPO_PAT"
  | .baseUrl => "GITHUB_BASE_URL"
  | .owner => "DISPATCH_TARGET_OWNER"
  | .repository => "DISPATCH_TARGET_REPOSITORY"
  | .workflowFile => "DISPATCH_WORKFLOW_FILE"
  | .ref => "DISPATCH_REF"
  | .timeout => "DISPATCH_TIMEOUT_SECONDS"
  | .logLevel => "LOG_LEVEL"

/-- Further variables that are accepted in its place. -/
def otherVariables : Field → List String
  | .githubToken => ["GITHUB_TOKEN"]
  | _ => []

/-- All names of a setting, the first one that has a value counts. -/
def names (f : Field) : List String := f.mainVariable :: f.otherVariables ++ [f.name]

end Field
end Settings
end WorkflowDispatch
