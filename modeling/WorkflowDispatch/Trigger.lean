import WorkflowDispatch.Client
/-!
One run of a dispatch: the session is opened, one request is sent, and each failure is final.
Answers of the service that refuse the run become rejections, all other failures stay as they are.
-/

namespace WorkflowDispatch

/-- A dispatch that was accepted. -/
structure Acceptance where
  target : Target
  status : Int
  time : Timestamp

namespace Trigger

/-- The statuses with which the service refuses a credential. -/
def isCredentialStatus (status : Int) : Bool := status == 401 || status == 403

/-- A refusal to open the session is a rejection of its credential. -/
def sessionFailure (f : Failure) : Failure :=
  match f.reason with
  | .refusal _ status _ => .causedBy (.sessionRejected status) f
  | _ => f

/-- An answer to the dispatch that is no acceptance is a rejection, of its credential or of the
dispatch itself. -/
def dispatchFailure (target : Target) (f : Failure) : Failure :=
  match f.reason with
  | .request .badStatus _ (some response) =>
    if isCredentialStatus response.status then
      .causedBy (.credentialRejected target.fullName response.status) f
    else .causedBy (.dispatchRejected target response.status response.text) f
  | _ => f

/-- The action with its failure put into other words. -/
def rewording {α : Type} (words : Failure → Failure) (a : Action α) : Action α := do
  match ← a.attempt with
  | .ok x => return x
  | .error f => Action.fail (words f)

def run (client : Client) (target : Target) (now : Timestamp) : Action Acceptance := do
  rewording sessionFailure client.authenticate
  let status ← rewording (dispatchFailure target) (client.dispatch target)
  return ⟨target, status, now⟩

end Trigger
end WorkflowDispatch
