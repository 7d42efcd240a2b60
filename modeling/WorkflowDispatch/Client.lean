import WorkflowDispatch.Action
/-!
A client of the service.  It opens a session with one credential, sends dispatches with another,
and keeps nothing between two operations.
-/

namespace WorkflowDispatch

/-- A client that has been built.  The first credential has been handed over by then and is not
kept. -/
structure Client where
  dispatchToken : String
  baseUrl : String
  timeout : Binary64

namespace Client

def loggerName : String := "docs_changelog_trigger.trigger.github.client"

def programName : String := "docs-changelog-trigger"

def programVersion : String := "0.1.0"

def serviceVersion : String := "2022-11-28"

/-- The headers that every dispatch carries, by name. -/
def headers (c : Client) : List (String × String) :=
  [("Accept", "application/vnd.github+json"),
    ("Authorization", "Bearer " ++ c.dispatchToken),
    ("User-Agent", programName ++ "/" ++ programVersion),
    ("X-GitHub-Api-Version", serviceVersion)]

/-- The address for a path, with one slash between the two. -/
def apiUrl (c : Client) (path : String) : String := c.baseUrl ++ "/" ++ Text.stripLeft '/' path

/-! ## Building -/

/-- The time limit in whole seconds that the session is opened with: at least one. -/
def wholeTimeout (timeout : Binary64) : Except Failure Int :=
  match timeout with
  | .nan => .error (.alone .timeoutNotNumber)
  | .infinite _ => .error (.alone .timeoutInfinite)
  | .finite .. => .ok (max 1 (timeout.ceil?.getD 1))

/-- What a client is built from.  An injected session stands in for one that would have to be
opened. -/
structure Parameters where
  token : String
  dispatchToken : String
  baseUrl : String
  timeout : Binary64
  injected : Bool

def debugEntry (message : String) : Log.Entry :=
  { logger := loggerName, level := Log.Level.debug.number, message := .text message }

def infoEntry (message : String) (attributes : Bindings Value) : Log.Entry :=
  { logger := loggerName, level := Log.Level.info.number, message := .text message, attributes }

def openSession (p : Parameters) (baseUrl : String) : Action Unit :=
  match wholeTimeout p.timeout with
  | .error f => .fail f
  | .ok seconds => .connect p.token baseUrl seconds

def build (p : Parameters) : Action Client := do
  if p.token.isEmpty then Action.fail (.alone .githubTokenMissing)
  if p.dispatchToken.isEmpty then Action.fail (.alone .dispatchTokenMissing)
  let baseUrl := Text.stripRight '/' p.baseUrl
  if p.injected then Action.log (debugEntry "Using injected Github instance")
  else openSession p baseUrl
  return ⟨p.dispatchToken, baseUrl, p.timeout⟩

/-! ## Operations -/

/-- Asks for the rate limit, which the service grants to every valid credential. -/
def authenticate (_c : Client) : Action Unit := do
  let remaining ← Action.askRateLimit
  Action.log (infoEntry "Authenticated with GitHub" [("rate_limit_remaining", remaining)])

def isAccepted (status : Int) : Bool := 200 ≤ status && status < 300

/-- An answer that is no acceptance, as a failure of the request. -/
def badStatus (url : String) (response : Response) : Failure :=
  .alone (.request .badStatus
    ("Workflow dispatch failed (HTTP " ++ Text.decimal response.status ++ ") for url: " ++ url)
    (some response))

/-- Sends the dispatch and gives the status of its acceptance. -/
def dispatch (c : Client) (target : Target) : Action Int := do
  let url := c.apiUrl target.path
  Action.log (infoEntry "Dispatching workflow"
    [("repo", .text target.fullName), ("workflow", .text target.workflowFile.text),
      ("ref", .text target.ref.text)])
  let response ← Action.post url target.payload c.timeout
  if !isAccepted response.status then Action.fail (badStatus url response)
  Action.log (infoEntry "Workflow dispatch accepted"
    [("repo", .text target.fullName), ("status_code", .int response.status)])
  return response.status

/-- Closes both connections.  The second one is left open when closing the first one fails. -/
def close (_c : Client) : Action Unit := do
  Action.closeSession
  Action.closeService

end Client
end WorkflowDispatch
