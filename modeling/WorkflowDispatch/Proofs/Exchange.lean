import WorkflowDispatch.Proofs.Action
import WorkflowDispatch.Trigger
/-!
What the operations of a client leave behind, as functions of the answers that the network still
holds.  Every operation has one equation for its trace, and nothing below opens an operation again.
-/

namespace WorkflowDispatch

namespace Network

@[simp] theorem post_rateLimit (n : Network) : n.rateLimit.2.post.1 = n.post.1 := by
  obtain ⟨rateLimits, posts, _, _⟩ := n
  cases rateLimits <;> cases posts <;> rfl

@[simp] theorem sessionClose_rateLimit (n : Network) :
    n.rateLimit.2.sessionClose = n.sessionClose := by
  unfold rateLimit
  split <;> rfl

@[simp] theorem serviceClose_rateLimit (n : Network) :
    n.rateLimit.2.serviceClose = n.serviceClose := by
  unfold rateLimit
  split <;> rfl

@[simp] theorem sessionClose_post (n : Network) : n.post.2.sessionClose = n.sessionClose := by
  unfold post
  split <;> rfl

@[simp] theorem serviceClose_post (n : Network) : n.post.2.serviceClose = n.serviceClose := by
  unfold post
  split <;> rfl

end Network

namespace Client

/-! ## Building -/

theorem build_of_ok {p : Parameters} {seconds : Int} (ht : p.token ≠ "")
    (hd : p.dispatchToken ≠ "") (hi : p.injected = false)
    (hs : wholeTimeout p.timeout = .ok seconds) (n : Network) :
    build p n =
      ⟨.ok ⟨p.dispatchToken, Text.stripRight '/' p.baseUrl, p.timeout⟩,
        [.call (.connect p.token (Text.stripRight '/' p.baseUrl) seconds)], n⟩ := by
  unfold build
  simp only [String.isEmpty_iff, ht, hd, hi, if_false, Bool.false_eq_true, openSession, hs]
  rfl

/-- Without a time limit in whole seconds no session is opened. -/
theorem build_of_error {p : Parameters} {f : Failure} (ht : p.token ≠ "")
    (hd : p.dispatchToken ≠ "") (hi : p.injected = false)
    (hs : wholeTimeout p.timeout = .error f) (n : Network) :
    build p n = ⟨.error f, [], n⟩ := by
  unfold build
  simp only [String.isEmpty_iff, ht, hd, hi, if_false, Bool.false_eq_true, openSession, hs]
  rfl

theorem build_of_injected {p : Parameters} (ht : p.token ≠ "") (hd : p.dispatchToken ≠ "")
    (hi : p.injected = true) (n : Network) :
    build p n =
      ⟨.ok ⟨p.dispatchToken, Text.stripRight '/' p.baseUrl, p.timeout⟩,
        [.log (debugEntry "Using injected Github instance")], n⟩ := by
  unfold build
  simp only [String.isEmpty_iff, ht, hd, hi, if_false, if_true]
  rfl

theorem reason_of_wholeTimeout {timeout : Binary64} {f : Failure}
    (h : wholeTimeout timeout = .error f) :
    f.reason = .timeoutNotNumber ∨ f.reason = .timeoutInfinite := by
  unfold wholeTimeout at h
  split at h
  · exact .inl (Except.error.inj h ▸ rfl)
  · exact .inr (Except.error.inj h ▸ rfl)
  · cases h

/-- Where both credentials are given, nothing but the time limit keeps a client from being built. -/
theorem reason_of_build {p : Parameters} (ht : p.token ≠ "") (hd : p.dispatchToken ≠ "")
    {n : Network} {f : Failure} (h : (build p n).result = .error f) :
    f.reason = .timeoutNotNumber ∨ f.reason = .timeoutInfinite := by
  cases hi : p.injected with
  | true =>
    rw [build_of_injected ht hd hi] at h
    cases h
  | false =>
    cases hs : wholeTimeout p.timeout with
    | ok seconds =>
      rw [build_of_ok ht hd hi hs] at h
      cases h
    | error g =>
      rw [build_of_error ht hd hi hs] at h
      exact Except.error.inj h ▸ reason_of_wholeTimeout hs

/-! ## Operations -/

def openedEvents : Except Failure Value → List Event
  | .ok remaining =>
    [.log (infoEntry "Authenticated with GitHub" [("rate_limit_remaining", remaining)])]
  | .error _ => []

theorem authenticate_apply (c : Client) (n : Network) :
    c.authenticate n =
      ⟨n.rateLimit.1.map (fun _ => ()), .call .rateLimit :: openedEvents n.rateLimit.1,
        n.rateLimit.2⟩ := by
  have hask := Action.askRateLimit_apply n
  unfold authenticate
  cases h : n.rateLimit.1 with
  | ok remaining =>
    rw [h] at hask
    rw [Action.bind_of_ok hask]
    rfl
  | error f =>
    rw [h] at hask
    rw [Action.bind_of_error hask]
    rfl

/-- What a dispatch ends in when its request has got `answer`. -/
def sent (c : Client) (target : Target) (answer : Except Failure Response) : Except Failure Int :=
  match answer with
  | .ok r =>
    if isAccepted r.status then .ok r.status else .error (badStatus (c.apiUrl target.path) r)
  | .error f => .error f

def acceptedEvents (target : Target) : Except Failure Response → List Event
  | .ok r =>
    if isAccepted r.status then
      [.log (infoEntry "Workflow dispatch accepted"
        [("repo", .text target.fullName), ("status_code", .int r.status)])]
    else []
  | .error _ => []

def sendingEvent (target : Target) : Event :=
  .log (infoEntry "Dispatching workflow"
    [("repo", .text target.fullName), ("workflow", .text target.workflowFile.text),
      ("ref", .text target.ref.text)])

def postCall (c : Client) (target : Target) : Call :=
  .post (c.apiUrl target.path) target.payload c.timeout

theorem dispatch_apply (c : Client) (target : Target) (n : Network) :
    c.dispatch target n =
      ⟨c.sent target n.post.1,
        sendingEvent target :: .call (c.postCall target) :: acceptedEvents target n.post.1,
        n.post.2⟩ := by
  have hpost := Action.post_apply (c.apiUrl target.path) target.payload c.timeout n
  unfold dispatch
  dsimp only
  rw [Action.log_bind]
  cases h : n.post.1 with
  | error f =>
    rw [h] at hpost
    rw [Action.bind_of_error hpost]
    rfl
  | ok r =>
    rw [h] at hpost
    rw [Action.bind_of_ok hpost]
    by_cases ha : isAccepted r.status = true
    · simp only [ha, Bool.not_true, Bool.false_eq_true, if_false, sent, acceptedEvents, if_true]
      rfl
    · simp only [ha, Bool.not_false, if_true, sent, acceptedEvents]
      rfl

/-- Closing the first connection decides whether the second one is closed. -/
def closed (n : Network) : Except Failure Unit :=
  match n.sessionClose with
  | some f => .error f
  | none => Action.closing n.serviceClose

def closeCalls (n : Network) : List Call :=
  match n.sessionClose with
  | some _ => [.closeSession]
  | none => [.closeSession, .closeService]

theorem close_apply (c : Client) (n : Network) :
    c.close n = ⟨closed n, (closeCalls n).map .call, n⟩ := by
  have hclose : Action.closeSession n =
      ⟨Action.closing n.sessionClose, [.call .closeSession], n⟩ := rfl
  unfold close closed closeCalls
  cases h : n.sessionClose with
  | some f =>
    rw [h] at hclose
    rw [Action.bind_of_error hclose]
    rfl
  | none =>
    rw [h] at hclose
    rw [Action.bind_of_ok hclose]
    rfl

end Client

namespace Trigger

theorem rewording_apply {α : Type} (words : Failure → Failure) (a : Action α) (n : Network) :
    rewording words a n = ⟨(a n).result.mapError words, (a n).events, (a n).network⟩ := by
  unfold rewording
  rw [Action.attempt_bind]
  cases h : (a n).result with
  | ok x =>
    simp only [Action.pure_apply, Trace.after, List.append_nil]
    rfl
  | error f =>
    simp only [Action.fail, Trace.after, List.append_nil]
    rfl

/-- What a run ends in, by the answers to its two requests. -/
def ended (c : Client) (target : Target) (now : Timestamp) (n : Network) :
    Except Failure Acceptance :=
  match n.rateLimit.1 with
  | .ok _ => ((c.sent target n.post.1).mapError (dispatchFailure target)).map (⟨target, ·, now⟩)
  | .error f => .error (sessionFailure f)

/-- A session that is refused ends the run. -/
theorem run_of_error {n : Network} {f : Failure} (h : n.rateLimit.1 = .error f) (c : Client)
    (target : Target) (now : Timestamp) :
    run c target now n = ⟨.error (sessionFailure f), [.call .rateLimit], n.rateLimit.2⟩ := by
  have hauth : rewording sessionFailure c.authenticate n =
      ⟨.error (sessionFailure f), [.call .rateLimit], n.rateLimit.2⟩ := by
    rw [rewording_apply, Client.authenticate_apply, h]
    rfl
  unfold run
  rw [Action.bind_of_error hauth]

theorem run_of_ok {n : Network} {remaining : Value} (h : n.rateLimit.1 = .ok remaining)
    (c : Client) (target : Target) (now : Timestamp) :
    run c target now n =
      ⟨((c.sent target n.post.1).mapError (dispatchFailure target)).map (⟨target, ·, now⟩),
        .call .rateLimit :: Client.openedEvents (.ok remaining) ++
          Client.sendingEvent target :: .call (c.postCall target) ::
            Client.acceptedEvents target n.post.1,
        n.rateLimit.2.post.2⟩ := by
  have hauth : rewording sessionFailure c.authenticate n =
      ⟨.ok (), .call .rateLimit :: Client.openedEvents (.ok remaining), n.rateLimit.2⟩ := by
    rw [rewording_apply, Client.authenticate_apply, h]
    rfl
  have hsend := rewording_apply (dispatchFailure target) (c.dispatch target) n.rateLimit.2
  rw [Client.dispatch_apply, Network.post_rateLimit] at hsend
  unfold run
  rw [Action.bind_of_ok hauth]
  cases hs : c.sent target n.post.1 with
  | error f =>
    rw [hs] at hsend
    rw [Action.bind_of_error hsend]
    rfl
  | ok status =>
    rw [hs] at hsend
    rw [Action.bind_of_ok hsend, Trace.after_after]
    simp only [Action.pure_apply, Trace.after, List.append_nil]
    rfl

theorem result_run (c : Client) (target : Target) (now : Timestamp) (n : Network) :
    (run c target now n).result = ended c target now n := by
  unfold ended
  cases h : n.rateLimit.1 with
  | ok remaining => rw [run_of_ok h]
  | error f => rw [run_of_error h]

/-- The calls of a run: the dispatch is sent when the session has been opened, and then once. -/
def calls (c : Client) (target : Target) (n : Network) : List Call :=
  match n.rateLimit.1 with
  | .ok _ => [.rateLimit, c.postCall target]
  | .error _ => [.rateLimit]

theorem callsOf_run (c : Client) (target : Target) (now : Timestamp) (n : Network) :
    callsOf (run c target now n).events = calls c target n := by
  unfold calls
  cases h : n.rateLimit.1 with
  | error f => rw [run_of_error h]; rfl
  | ok remaining =>
    rw [run_of_ok h]
    cases n.post.1 with
    | error f => rfl
    | ok r =>
      by_cases ha : Client.isAccepted r.status = true <;>
        simp [Client.openedEvents, Client.sendingEvent, Client.acceptedEvents, ha]

/-- What closing ends in is not touched by a run. -/
theorem closed_run (c : Client) (target : Target) (now : Timestamp) (n : Network) :
    Client.closed (run c target now n).network = Client.closed n := by
  cases h : n.rateLimit.1 with
  | ok remaining => rw [run_of_ok h]; simp [Client.closed]
  | error f => rw [run_of_error h]; simp [Client.closed]

theorem closeCalls_run (c : Client) (target : Target) (now : Timestamp) (n : Network) :
    Client.closeCalls (run c target now n).network = Client.closeCalls n := by
  cases h : n.rateLimit.1 with
  | ok remaining => rw [run_of_ok h]; simp [Client.closeCalls]
  | error f => rw [run_of_error h]; simp [Client.closeCalls]

end Trigger
end WorkflowDispatch
