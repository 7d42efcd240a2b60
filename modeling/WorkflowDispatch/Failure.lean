import WorkflowDispatch.Json.Writer
import WorkflowDispatch.Target
/-!
What can go wrong in a run, and the report of a failure together with the failures behind it.
-/

namespace WorkflowDispatch

/-- An answer of the service to a request. -/
structure Response where
  status : Int
  text : String
  deriving DecidableEq, Repr

/-- How the service refused to open a session. -/
inductive RefusalKind where
  | general
  | badCredentials
  | rateLimitExceeded
  | unknownObject
  deriving DecidableEq, Repr

/-- How a request failed. -/
inductive RequestKind where
  | badStatus
  | general
  | connection
  | timeout
  | readTimeout
  | tooManyRedirects
  | invalidUrl
  deriving DecidableEq, Repr

/-- Failures of the system underneath. -/
inductive FaultKind where
  | runtime
  | value
  | type
  | system
  deriving DecidableEq, Repr

inductive Reason where
  | refusal (kind : RefusalKind) (status : Option Int) (detail : Option String)
  | request (kind : RequestKind) (message : String) (response : Option Response)
  | fault (kind : FaultKind) (message : String)
  | githubTokenMissing
  | dispatchTokenMissing
  | timeoutInfinite
  | timeoutNotNumber
  | targetInvalid (error : Target.Error)
  | sessionRejected (status : Option Int)
  | credentialRejected (repository : String) (status : Int)
  | dispatchRejected (target : Target) (status : Int) (text : String)
  deriving DecidableEq

/-- A failure may have a cause, or may have happened while another failure was being dealt
with. -/
inductive Failure where
  | alone (reason : Reason)
  | causedBy (reason : Reason) (cause : Failure)
  | during (reason : Reason) (other : Failure)
  deriving DecidableEq

/-! ## Texts -/

def statusText : Option Int → String
  | some n => Text.decimal n
  | none => "None"

namespace Reason

def message : Reason → String
  | .refusal _ status none => statusText status
  | .refusal _ status (some detail) =>
    statusText status ++ " " ++ (Json.object [("message", .text detail)]).write .ascii
  | .request _ message _ => message
  | .fault _ message => message
  | .githubTokenMissing => "GitHub token is required"
  | .dispatchTokenMissing => "Dispatch token is required"
  | .timeoutInfinite => "cannot convert float infinity to integer"
  | .timeoutNotNumber => "cannot convert float NaN to integer"
  | .targetInvalid error => error.message
  | .sessionRejected status =>
    "GitHub rejected the session credential (HTTP " ++ statusText status ++ ")"
  | .credentialRejected repository status =>
    "GitHub rejected the dispatch credential for " ++ repository ++ " (HTTP "
      ++ Text.decimal status ++ ")"
  | .dispatchRejected target status _ =>
    "Dispatch of " ++ target.workflowFile.text ++ " in " ++ target.fullName ++ " rejected (HTTP "
      ++ Text.decimal status ++ ")"

/-- The full name of the kind of failure, as reports give it. -/
def label : Reason → String
  | .refusal .general _ _ => "github.GithubException.GithubException"
  | .refusal .badCredentials _ _ => "github.GithubException.BadCredentialsException"
  | .refusal .rateLimitExceeded _ _ => "github.GithubException.RateLimitExceededException"
  | .refusal .unknownObject _ _ => "github.GithubException.UnknownObjectException"
  | .request .badStatus _ _ => "requests.exceptions.HTTPError"
  | .request .general _ _ => "requests.exceptions.RequestException"
  | .request .connection _ _ => "requests.exceptions.ConnectionError"
  | .request .timeout _ _ => "requests.exceptions.Timeout"
  | .request .readTimeout _ _ => "requests.exceptions.ReadTimeout"
  | .request .tooManyRedirects _ _ => "requests.exceptions.TooManyRedirects"
  | .request .invalidUrl _ _ => "requests.exceptions.InvalidURL"
  | .fault .runtime _ => "RuntimeError"
  | .fault .value _ => "ValueError"
  | .fault .type _ => "TypeError"
  | .fault .system _ => "OSError"
  | .githubTokenMissing => "ValueError"
  | .dispatchTokenMissing => "ValueError"
  | .timeoutInfinite => "OverflowError"
  | .timeoutNotNumber => "ValueError"
  | .targetInvalid _ => "ValueError"
  | .sessionRejected _ => "docs_changelog_trigger.trigger.dispatch.AuthenticationFailed"
  | .credentialRejected _ _ => "docs_changelog_trigger.trigger.dispatch.AuthenticationFailed"
  | .dispatchRejected _ _ _ => "docs_changelog_trigger.trigger.dispatch.DispatchRejected"

/-- The line of a report for one failure.  An empty message is left out with its colon. -/
def line (r : Reason) : String :=
  if r.message.isEmpty then r.label else r.label ++ ": " ++ r.message

/-- The dispatch was refused by the service, because of a credential or otherwise. -/
def isRejection : Reason → Bool
  | .sessionRejected _ => true
  | .credentialRejected _ _ => true
  | .dispatchRejected _ _ _ => true
  | _ => false

/-- A request failed, as opposed to having been answered with a refusal. -/
def isRequest : Reason → Bool
  | .request _ _ _ => true
  | _ => false

end Reason

namespace Failure

def reason : Failure → Reason
  | .alone r => r
  | .causedBy r _ => r
  | .during r _ => r

def message (f : Failure) : String := f.reason.message

def cause? : Failure → Option Failure
  | .causedBy _ cause => some cause
  | _ => none

/-- The failure, now known to have happened while `other` was being dealt with.  A failure that has
a cause stays explained by its cause. -/
def whileHandling (f other : Failure) : Failure :=
  match f with
  | .alone r => .during r other
  | .during r _ => .during r other
  | .causedBy r cause => .causedBy r cause

def causeHeading : String :=
  "\n\nThe above exception was the direct cause of the following exception:\n\n"

def contextHeading : String :=
  "\n\nDuring handling of the above exception, another exception occurred:\n\n"

/-- The report of a failure: the failures behind it first, the oldest at the top. -/
def report : Failure → String
  | .alone r => r.line
  | .causedBy r cause => cause.report ++ causeHeading ++ r.line
  | .during r other => other.report ++ contextHeading ++ r.line

end Failure
end WorkflowDispatch
