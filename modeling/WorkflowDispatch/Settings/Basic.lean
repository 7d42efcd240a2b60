import WorkflowDispatch.Binary64.Shortest
import WorkflowDispatch.Log.Level
import WorkflowDispatch.Target
import WorkflowDispatch.Value.Text
/-!
The settings of a dispatch: two credentials, the address of the service, the target, the time limit
of a request and the level of the log.
-/

namespace WorkflowDispatch

/-- The first credential opens the session, the second one is sent with the dispatch itself. -/
structure Settings where
  githubToken : String
  targetToken : String
  baseUrl : String
  target : Target
  timeout : Binary64
  logLevel : Log.Level
  deriving DecidableEq

namespace Settings

def defaultBaseUrl : String := "https://api.github.com"

/-- Thirty seconds. -/
def defaultTimeout : Binary64 := .ofRatio false 30 1 Nat.one_pos

def defaultLogLevel : Log.Level := .info

/-- Where the dispatch is sent. -/
def dispatchUrl (s : Settings) : String := s.baseUrl ++ s.target.path

/-- The settings by name, with the credentials masked. -/
def listing (s : Settings) : String :=
  "TriggerSettings(github_token=" ++ (Value.secret s.githubToken).quoted .printable
    ++ ", target_repo_pat=" ++ (Value.secret s.targetToken).quoted .printable
    ++ ", github_base_url=" ++ Text.quote s.baseUrl
    ++ ", target_owner=" ++ Text.quote s.target.owner.text
    ++ ", target_repository=" ++ Text.quote s.target.repository.text
    ++ ", workflow_file=" ++ Text.quote s.target.workflowFile.text
    ++ ", ref=" ++ Text.quote s.target.ref.text
    ++ ", request_timeout_seconds=" ++ s.timeout.text
    ++ ", log_level=" ++ Text.quote s.logLevel.name ++ ")"

end Settings
end WorkflowDispatch
