import WorkflowDispatch.Failure
import WorkflowDispatch.Value.Basic
/-!
The network as a dispatch meets it: the answers that are still to come, in their order.  Answers
that are not listed are the usual ones.
-/

namespace WorkflowDispatch

/-- The answers to the questions for the rate limit and to the posted requests, and what closing
the two connections ends in. -/
structure Network where
  rateLimits : List (Except Failure Value)
  posts : List (Except Failure Response)
  sessionClose : Option Failure
  serviceClose : Option Failure

namespace Network

/-- How many requests the service still grants, unless it says otherwise. -/
def usualRateLimit : Value := .int 4999

def usualResponse : Response := ⟨204, ""⟩

def rateLimit (n : Network) : Except Failure Value × Network :=
  match n.rateLimits with
  | [] => (.ok usualRateLimit, n)
  | answer :: rest => (answer, { n with rateLimits := rest })

def post (n : Network) : Except Failure Response × Network :=
  match n.posts with
  | [] => (.ok usualResponse, n)
  | answer :: rest => (answer, { n with posts := rest })

end Network
end WorkflowDispatch
