import WorkflowDispatch.Proofs.Client.Operation
import WorkflowDispatch.Proofs.Run.Confidentiality
/-!
The two credentials of a client go separate ways.  The first one is handed over when the session is
opened and nowhere else, and the second one stands in one header of the dispatch and nowhere else.
Two clients that were built alike but for the credentials cannot be told apart by what they do.
-/

namespace WorkflowDispatch
namespace Client

/-! ## Building -/

/-- Parameters that differ in the credentials only. -/
structure Parameters.Alike (p p' : Parameters) : Prop where
  baseUrl : p.baseUrl = p'.baseUrl
  timeout : p.timeout = p'.timeout
  injected : p.injected = p'.injected

structure Parameters.HasCredentials (p : Parameters) : Prop where
  token : p.token ≠ ""
  dispatchToken : p.dispatchToken ≠ ""

/-- Clients that differ in the credential only. -/
structure Alike (c c' : Client) : Prop where
  baseUrl : c.baseUrl = c'.baseUrl
  timeout : c.timeout = c'.timeout

/-- The client that parameters describe. -/
def Parameters.client (p : Parameters) : Client :=
  ⟨p.dispatchToken, Text.stripRight '/' p.baseUrl, p.timeout⟩

/-- What becomes of building a client whose credentials are there. -/
def Parameters.built (p : Parameters) : Except Failure Client :=
  if p.injected then .ok p.client
  else (wholeTimeout p.timeout).map fun _ => p.client

def Parameters.builtEvents (p : Parameters) : List Event :=
  if p.injected then [.log (debugEntry "Using injected Github instance")]
  else
    match wholeTimeout p.timeout with
    | .ok seconds => [.call (.connect p.token (Text.stripRight '/' p.baseUrl) seconds)]
    | .error _ => []

variable {p p' : Parameters}

theorem build_apply (h : p.HasCredentials) (n : Network) :
    build p n = ⟨p.built, p.builtEvents, n⟩ := by
  unfold Parameters.built Parameters.builtEvents
  cases hi : p.injected with
  | true => exact build_of_injected h.token h.dispatchToken hi n
  | false =>
    cases hs : wholeTimeout p.timeout with
    | error f => exact build_of_error h.token h.dispatchToken hi hs n
    | ok seconds => exact build_of_ok h.token h.dispatchToken hi hs n

theorem Parameters.Alike.client (h : p.Alike p') :
    p.client.Alike p'.client :=
  ⟨congrArg (Text.stripRight '/') h.baseUrl, h.timeout⟩

/-- The credential that the session is opened with is all that shows of the credentials. -/
theorem Parameters.Alike.builtEvents (h : p.Alike p') :
    p.builtEvents.map Event.masked = p'.builtEvents.map Event.masked := by
  unfold Parameters.builtEvents
  rw [← h.injected, ← h.timeout, ← h.baseUrl]
  cases p.injected with
  | true => rfl
  | false => cases wholeTimeout p.timeout <;> rfl

theorem token_of_connect_mem {token url : String} {seconds : Int}
    (h : .connect token url seconds ∈ callsOf p.builtEvents) : token = p.token := by
  unfold Parameters.builtEvents at h
  split at h
  · cases h
  · split at h
    · cases List.mem_singleton.1 h
      rfl
    · cases h

/-- Clients are built alike, or none is. -/
theorem Parameters.Alike.built (h : p.Alike p') :
    (∃ f, p.built = .error f ∧ p'.built = .error f) ∨
      (p.built = .ok p.client ∧ p'.built = .ok p'.client) := by
  unfold Parameters.built
  rw [← h.injected, ← h.timeout]
  cases p.injected with
  | true => exact .inr ⟨rfl, rfl⟩
  | false =>
    cases wholeTimeout p.timeout with
    | error f => exact .inl ⟨f, rfl, rfl⟩
    | ok seconds => exact .inr ⟨rfl, rfl⟩

/-! ## Headers -/

def authorization : String := "Authorization"

/-- Two headers that are the same unless they hand over a credential. -/
def HeaderAlike (h h' : String × String) : Prop :=
  h.1 = h'.1 ∧ (h.1 ≠ authorization → h.2 = h'.2)

theorem headers_alike (c c' : Client) : List.Forall₂ HeaderAlike c.headers c'.headers :=
  .cons ⟨rfl, fun _ => rfl⟩ (.cons ⟨rfl, fun h => absurd rfl h⟩
    (.cons ⟨rfl, fun _ => rfl⟩ (.cons ⟨rfl, fun _ => rfl⟩ .nil)))

theorem lookup_headers (c : Client) :
    c.headers.lookup authorization = some ("Bearer " ++ c.dispatchToken) := rfl

/-! ## Operations -/

variable {c c' : Client}

theorem Alike.apiUrl (h : c.Alike c') (path : String) : c.apiUrl path = c'.apiUrl path := by
  unfold Client.apiUrl
  rw [h.baseUrl]

theorem Alike.dispatch (h : c.Alike c') (target : Target) (n : Network) :
    c.dispatch target n = c'.dispatch target n := by
  rw [dispatch_apply, dispatch_apply]
  unfold sent postCall
  rw [h.apiUrl, h.timeout]

theorem Alike.run (h : c.Alike c') (target : Target) (now : Timestamp) (n : Network) :
    Trigger.run c target now n = Trigger.run c' target now n := by
  have hdispatch : c.dispatch target = c'.dispatch target := funext (h.dispatch target)
  have hauthenticate : c.authenticate = c'.authenticate :=
    funext fun n => (authenticate_apply c n).trans (authenticate_apply c' n).symm
  unfold Trigger.run
  rw [hdispatch, hauthenticate]

theorem perform_dispatch_invalid (c : Client) (now : Timestamp) (e : Target.Error) (n : Network) :
    (Operation.dispatch (.error e)).perform c now n = ⟨.error (.alone (.targetInvalid e)), [], n⟩ :=
  rfl

theorem perform_run_invalid (c : Client) (now : Timestamp) (e : Target.Error) (n : Network) :
    (Operation.run (.error e)).perform c now n = ⟨.error (.alone (.targetInvalid e)), [], n⟩ :=
  rfl

theorem perform_apiUrl (c : Client) (now : Timestamp) (path : String) (n : Network) :
    (Operation.apiUrl path).perform c now n = ⟨.ok (.url (c.apiUrl path)), [], n⟩ := rfl

/-- No operation looks at the credential of its client. -/
theorem Alike.perform (h : c.Alike c') (now : Timestamp) (operation : Operation) (n : Network) :
    operation.perform c now n = operation.perform c' now n := by
  match operation with
  | .authenticate =>
    rw [perform_authenticate, perform_authenticate, authenticate_apply, authenticate_apply]
  | .dispatch (.error e) => rw [perform_dispatch_invalid, perform_dispatch_invalid]
  | .dispatch (.ok target) => rw [perform_dispatch, perform_dispatch, h.dispatch]
  | .run (.error e) => rw [perform_run_invalid, perform_run_invalid]
  | .run (.ok target) => rw [perform_run, perform_run, h.run]
  | .apiUrl path => rw [perform_apiUrl, perform_apiUrl, h.apiUrl]
  | .close => rw [perform_close, perform_close, close_apply, close_apply]

theorem Alike.performAll (h : c.Alike c') (now : Timestamp) (operations : List Operation)
    (n : Network) : c.performAll now operations n = c'.performAll now operations n := by
  induction operations generalizing n with
  | nil => rfl
  | cons operation rest ih =>
    unfold Client.performAll
    dsimp only
    rw [h.perform now operation n, ih]

/-! ## Two clients -/

/-- The credentials of two clients that were built alike make no difference to any operation: all
of them end in the same way and leave the same calls and records.  Building the clients differs in
the credential that the connection is opened with, which is the first one, and the headers differ in
the one that hands over the second one. -/
theorem traces_of_alike (h : p.Alike p') (hp : p.HasCredentials) (hp' : p'.HasCredentials)
    (now : Timestamp) (operations : List Operation) (n : Network) :
    traces p now operations n = traces p' now operations n ∧
    (build p n).events.map Event.masked = (build p' n).events.map Event.masked ∧
    (∀ token url seconds, .connect token url seconds ∈ callsOf (build p n).events →
      token = p.token) ∧
    (∀ loggers, Run.render now loggers (build p n).events =
      Run.render now loggers (build p' n).events) ∧
    ∀ c, (build p n).result = .ok c → ∃ c', (build p' n).result = .ok c' ∧ c.Alike c' ∧
      List.Forall₂ HeaderAlike c.headers c'.headers ∧
      c.headers.lookup authorization = some ("Bearer " ++ p.dispatchToken) ∧
      c'.headers.lookup authorization = some ("Bearer " ++ p'.dispatchToken) := by
  rw [traces, traces, build_apply hp, build_apply hp']
  dsimp only
  refine ⟨?_, h.builtEvents, fun _ _ _ => token_of_connect_mem, fun loggers => ?_, ?_⟩
  · rcases h.built with ⟨f, hf, hf'⟩ | ⟨hc, hc'⟩
    · rw [hf, hf']
    · rw [hc, hc']
      exact congrArg Except.ok (h.client.performAll now operations n)
  · rw [← Run.render_map_masked, h.builtEvents, Run.render_map_masked]
  · intro c hbuilt
    rcases h.built with ⟨f, hf, _⟩ | ⟨hc, hc'⟩
    · cases hbuilt.symm.trans hf
    · cases hbuilt.symm.trans hc
      exact ⟨_, hc', h.client, headers_alike _ _, lookup_headers _, lookup_headers _⟩

/-- Parameters that open a session with given credentials. -/
def openingParameters (token dispatchToken : String) : Parameters :=
  { token
    dispatchToken
    baseUrl := "https://api.github.com/"
    timeout := .ofRatio false 15 1 Nat.one_pos
    injected := false }

theorem alike_openingParameters (token dispatchToken token' dispatchToken' : String) :
    (openingParameters token dispatchToken).Alike (openingParameters token' dispatchToken') :=
  ⟨rfl, rfl, rfl⟩

/-- Two clients go through a refused session, an accepted dispatch, a refused one and a failed
close. -/
theorem traces_of_strangers :
    traces (openingParameters "ambient" "scoped") ⟨0⟩
        [.run defaultTarget, .dispatch defaultTarget, .run defaultTarget, .close] moody =
      traces (openingParameters "other" "wide") ⟨0⟩
        [.run defaultTarget, .dispatch defaultTarget, .run defaultTarget, .close] moody ∧
    callsOf (build (openingParameters "ambient" "scoped") moody).events =
      [.connect "ambient" "https://api.github.com" 15] ∧
    ∀ token url seconds, .connect token url seconds ∈
      callsOf (build (openingParameters "ambient" "scoped") moody).events → token = "ambient" := by
  obtain ⟨htraces, _, htoken, _⟩ := traces_of_alike
    (alike_openingParameters "ambient" "scoped" "other" "wide") ⟨by decide, by decide⟩
    ⟨by decide, by decide⟩ ⟨0⟩
    [.run defaultTarget, .dispatch defaultTarget, .run defaultTarget, .close] moody
  exact ⟨htraces, by decide +kernel, htoken⟩

end Client
end WorkflowDispatch
