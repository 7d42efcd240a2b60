import Mathlib.Data.List.Forall2
import WorkflowDispatch.Client.Operation
import WorkflowDispatch.Proofs.Exchange
import WorkflowDispatch.Proofs.Result
/-!
Operations on one client do not depend on each other.  All that an operation takes from those before
it is the place in the two lists of answers, and that place is the number of questions and of
requests so far, whatever became of them.
-/

namespace WorkflowDispatch

def Call.isPost : Call → Bool
  | .post .. => true
  | _ => false

namespace Network

/-- The answer to the question for the rate limit that has `k` others before it. -/
def rateLimitAt (n : Network) (k : Nat) : Except Failure Value :=
  n.rateLimits[k]?.getD (.ok usualRateLimit)

/-- The answer to the request that has `k` others before it. -/
def postAt (n : Network) (k : Nat) : Except Failure Response :=
  n.posts[k]?.getD (.ok usualResponse)

/-- What is left when so many questions and so many requests have been answered. -/
def past (n : Network) (asked posted : Nat) : Network :=
  { n with rateLimits := n.rateLimits.drop asked, posts := n.posts.drop posted }

/-- The network that has two answers only, those behind so many others. -/
def only (n : Network) (asked posted : Nat) : Network :=
  { n with rateLimits := [n.rateLimitAt asked], posts := [n.postAt posted] }

theorem past_past (n : Network) (i j k l : Nat) :
    (n.past i j).past k l = n.past (i + k) (j + l) := by
  simp only [past, List.drop_drop]

theorem rateLimitAt_past (n : Network) (i j k : Nat) :
    (n.past i j).rateLimitAt k = n.rateLimitAt (i + k) := by
  simp only [rateLimitAt, past, List.getElem?_drop]

theorem postAt_past (n : Network) (i j k : Nat) : (n.past i j).postAt k = n.postAt (j + k) := by
  simp only [postAt, past, List.getElem?_drop]

/-- A question takes the first answer that is left. -/
theorem rateLimit_eq (n : Network) : n.rateLimit = (n.rateLimitAt 0, n.past 1 0) := by
  obtain ⟨rateLimits, posts, sessionClose, serviceClose⟩ := n
  cases rateLimits <;> rfl

theorem post_eq (n : Network) : n.post = (n.postAt 0, n.past 0 1) := by
  obtain ⟨rateLimits, posts, sessionClose, serviceClose⟩ := n
  cases posts <;> rfl

end Network

namespace Client

namespace Operation

def isAuthenticate : Operation → Bool
  | .authenticate => true
  | _ => false

/-- A dispatch whose target is one. -/
def isDispatch : Operation → Bool
  | .dispatch (.ok _) => true
  | _ => false

/-- A run whose target is one. -/
def isRun : Operation → Bool
  | .run (.ok _) => true
  | _ => false

def target? : Operation → Option Target
  | .dispatch (.ok target) => some target
  | .run (.ok target) => some target
  | _ => none

/-- How many questions for the rate limit an operation asks. -/
def questions (operation : Operation) : Nat :=
  if operation.isAuthenticate || operation.isRun then 1 else 0

/-- How many requests an operation posts, by the answer to its question. -/
def requests (operation : Operation) (answer : Except Failure Value) : Nat :=
  if operation.isDispatch || (operation.isRun && answer.isOk) then 1 else 0

theorem questions_eq (operation : Operation) :
    operation.questions =
      (if operation.isAuthenticate then 1 else 0) + (if operation.isRun then 1 else 0) := by
  match operation with
  | .run (.ok _) | .run (.error _) | .authenticate | .dispatch _ | .apiUrl _ | .close => rfl

theorem requests_eq (operation : Operation) (answer : Except Failure Value) :
    operation.requests answer =
      (if operation.isDispatch then 1 else 0) +
        (if operation.isRun && answer.isOk then 1 else 0) := by
  match operation with
  | .run (.ok _) => exact (Nat.zero_add _).symm
  | .run (.error _) | .authenticate | .dispatch (.ok _) | .dispatch (.error _) | .apiUrl _
  | .close => rfl

end Operation

/-! ## One operation -/

variable (c : Client) (now : Timestamp)

theorem perform_authenticate (n : Network) :
    Operation.authenticate.perform c now n = (c.authenticate n).map fun _ => .done :=
  Action.bind_pure_apply c.authenticate _ n

theorem perform_dispatch (target : Target) (n : Network) :
    (Operation.dispatch (.ok target)).perform c now n = (c.dispatch target n).map .status :=
  Action.bind_pure_apply (c.dispatch target) _ n

theorem perform_run (target : Target) (n : Network) :
    (Operation.run (.ok target)).perform c now n = (Trigger.run c target now n).map .accepted :=
  Action.bind_pure_apply (Trigger.run c target now) _ n

theorem perform_close (n : Network) :
    Operation.close.perform c now n = (c.close n).map fun _ => .done :=
  Action.bind_pure_apply c.close _ n

/-- An operation moves on in the two lists of answers, and only there. -/
theorem network_perform (operation : Operation) (n : Network) :
    (operation.perform c now n).network =
      n.past operation.questions (operation.requests (n.rateLimitAt 0)) := by
  match operation with
  | .authenticate => rw [perform_authenticate, authenticate_apply, n.rateLimit_eq]; rfl
  | .dispatch (.error e) => rfl
  | .dispatch (.ok target) => rw [perform_dispatch, dispatch_apply, n.post_eq]; rfl
  | .run (.error e) => rfl
  | .run (.ok target) =>
    rw [perform_run, Trace.network_map]
    cases h : n.rateLimitAt 0 with
    | error f =>
      rw [Trigger.run_of_error (by rw [n.rateLimit_eq, h]), n.rateLimit_eq]
      rfl
    | ok remaining =>
      rw [Trigger.run_of_ok (by rw [n.rateLimit_eq, h])]
      show n.rateLimit.2.post.2 = n.past 1 1
      rw [n.rateLimit_eq, Network.post_eq]
      rfl
  | .apiUrl path => rfl
  | .close => rw [perform_close, close_apply]; rfl

/-- Of a network an operation sees the first answers in the two lists, and what closing ends in. -/
theorem perform_congr (operation : Operation) {n m : Network}
    (hrate : n.rateLimitAt 0 = m.rateLimitAt 0) (hpost : n.postAt 0 = m.postAt 0)
    (hsession : n.sessionClose = m.sessionClose) (hservice : n.serviceClose = m.serviceClose) :
    (operation.perform c now n).result = (operation.perform c now m).result ∧
      (operation.perform c now n).events = (operation.perform c now m).events := by
  match operation with
  | .authenticate =>
    rw [perform_authenticate, perform_authenticate, authenticate_apply, authenticate_apply,
      n.rateLimit_eq, m.rateLimit_eq, hrate]
    exact ⟨rfl, rfl⟩
  | .dispatch (.error e) => exact ⟨rfl, rfl⟩
  | .dispatch (.ok target) =>
    rw [perform_dispatch, perform_dispatch, dispatch_apply, dispatch_apply, n.post_eq, m.post_eq,
      hpost]
    exact ⟨rfl, rfl⟩
  | .run (.error e) => exact ⟨rfl, rfl⟩
  | .run (.ok target) =>
    rw [perform_run, perform_run]
    cases h : n.rateLimitAt 0 with
    | error f =>
      rw [Trigger.run_of_error (n := n) (by rw [n.rateLimit_eq, h]),
        Trigger.run_of_error (n := m) (by rw [m.rateLimit_eq, ← hrate, h])]
      exact ⟨rfl, rfl⟩
    | ok remaining =>
      rw [Trigger.run_of_ok (n := n) (by rw [n.rateLimit_eq, h]),
        Trigger.run_of_ok (n := m) (by rw [m.rateLimit_eq, ← hrate, h]), n.post_eq, m.post_eq,
        hpost]
      exact ⟨rfl, rfl⟩
  | .apiUrl path => exact ⟨rfl, rfl⟩
  | .close =>
    rw [perform_close, perform_close, close_apply, close_apply]
    unfold closed closeCalls
    rw [hsession, hservice]
    exact ⟨rfl, rfl⟩

theorem callsOf_dispatch (target : Target) (n : Network) :
    callsOf (c.dispatch target n).events = [c.postCall target] := by
  rw [dispatch_apply]
  show c.postCall target :: callsOf (acceptedEvents target n.post.1) = _
  cases n.post.1 with
  | error f => rfl
  | ok r =>
    unfold acceptedEvents
    dsimp only
    split <;> rfl

/-- The questions for the rate limit among calls. -/
def asked (calls : List Call) : Nat := calls.count .rateLimit

/-- The requests among calls. -/
def posted (calls : List Call) : Nat := calls.countP Call.isPost

theorem asked_append (cs ds : List Call) : asked (cs ++ ds) = asked cs + asked ds :=
  List.count_append

theorem posted_append (cs ds : List Call) : posted (cs ++ ds) = posted cs + posted ds :=
  List.countP_append

/-- An operation posts the dispatch of its own target, if it posts at all. -/
theorem posts_perform (operation : Operation) (n : Network) :
    (callsOf (operation.perform c now n).events).filter Call.isPost =
      (operation.target?.map c.postCall).toList.take (operation.requests (n.rateLimitAt 0)) := by
  match operation with
  | .authenticate =>
    rw [perform_authenticate, authenticate_apply]
    cases n.rateLimit.1 <;> rfl
  | .dispatch (.error e) => rfl
  | .dispatch (.ok target) => rw [perform_dispatch, Trace.events_map, callsOf_dispatch]; rfl
  | .run (.error e) => rfl
  | .run (.ok target) =>
    rw [perform_run, Trace.events_map, Trigger.callsOf_run, Trigger.calls, n.rateLimit_eq]
    cases n.rateLimitAt 0 <;> rfl
  | .apiUrl path => rfl
  | .close =>
    rw [perform_close, Trace.events_map, close_apply]
    unfold closeCalls
    cases n.sessionClose <;> rfl

theorem posted_perform (operation : Operation) (n : Network) :
    posted (callsOf (operation.perform c now n).events) =
      operation.requests (n.rateLimitAt 0) := by
  rw [posted, List.countP_eq_length_filter, posts_perform]
  match operation with
  | .run (.ok target) => cases n.rateLimitAt 0 <;> rfl
  | .authenticate | .dispatch (.error _) | .dispatch (.ok _) | .run (.error _) | .apiUrl _
  | .close => rfl

theorem asked_perform (operation : Operation) (n : Network) :
    asked (callsOf (operation.perform c now n).events) = operation.questions := by
  match operation with
  | .authenticate =>
    rw [perform_authenticate, authenticate_apply]
    cases n.rateLimit.1 <;> rfl
  | .dispatch (.error e) => rfl
  | .dispatch (.ok target) => rw [perform_dispatch, Trace.events_map, callsOf_dispatch]; rfl
  | .run (.error e) => rfl
  | .run (.ok target) =>
    rw [perform_run, Trace.events_map, Trigger.callsOf_run, Trigger.calls]
    cases n.rateLimit.1 <;> rfl
  | .apiUrl path => rfl
  | .close =>
    rw [perform_close, Trace.events_map, close_apply]
    unfold closeCalls
    cases n.sessionClose <;> rfl

/-- The place in the lists of answers moves on by the calls that were made. -/
theorem network_perform_calls (operation : Operation) (n : Network) :
    (operation.perform c now n).network =
      n.past (asked (callsOf (operation.perform c now n).events))
        (posted (callsOf (operation.perform c now n).events)) := by
  rw [network_perform, asked_perform, posted_perform]

/-! ## Operations in a row -/

/-- The calls of several traces. -/
def callsIn {α : Type} (ts : List (Trace α)) : List Call := ts.flatMap fun t => callsOf t.events

theorem callsIn_cons {α : Type} (t : Trace α) (ts : List (Trace α)) :
    callsIn (t :: ts) = callsOf t.events ++ callsIn ts := List.flatMap_cons

/-- The operations behind others find the answers that those have left. -/
theorem performAll_append (front back : List Operation) (n : Network) :
    performAll c now (front ++ back) n =
      performAll c now front n ++
        performAll c now back
          (n.past (asked (callsIn (performAll c now front n)))
            (posted (callsIn (performAll c now front n)))) := by
  induction front generalizing n with
  | nil => rfl
  | cons operation rest ih =>
    rw [List.cons_append, performAll, performAll, List.cons_append, ih, callsIn_cons,
      asked_append, posted_append, ← Network.past_past, ← network_perform_calls]

/-- Every operation that asks asks once, whatever the answers are. -/
theorem asked_performAll (operations : List Operation) (n : Network) :
    asked (callsIn (performAll c now operations n)) =
      operations.countP Operation.isAuthenticate + operations.countP Operation.isRun := by
  induction operations generalizing n with
  | nil => rfl
  | cons operation rest ih =>
    rw [performAll, callsIn_cons, asked_append, asked_perform, ih, List.countP_cons,
      List.countP_cons, operation.questions_eq]
    omega

/-- The runs among operations whose session is opened, where `k` questions have been asked
before. -/
def openedRuns (n : Network) : Nat → List Operation → Nat
  | _, [] => 0
  | k, operation :: rest =>
    (if operation.isRun && (n.rateLimitAt k).isOk then 1 else 0) +
      openedRuns n (k + operation.questions) rest

theorem posted_performAll (operations : List Operation) (n : Network) (i j : Nat) :
    posted (callsIn (performAll c now operations (n.past i j))) =
      operations.countP Operation.isDispatch + openedRuns n i operations := by
  induction operations generalizing i j with
  | nil => rfl
  | cons operation rest ih =>
    rw [performAll, callsIn_cons, posted_append, posted_perform, network_perform,
      Network.past_past, ih, Network.rateLimitAt_past, List.countP_cons, openedRuns,
      operation.requests_eq, Nat.add_zero]
    omega

theorem posts_performAll (operations : List Operation) (n : Network) :
    List.Forall₂ (fun operation (t : Trace Answer) => ∀ call ∈ callsOf t.events,
        call.isPost = true → ∃ target, operation.target? = some target ∧ call = c.postCall target)
      operations (performAll c now operations n) := by
  induction operations generalizing n with
  | nil => exact .nil
  | cons operation rest ih =>
    refine .cons ?_ (ih _)
    intro call hcall hpost
    have hmem := List.mem_filter.2 ⟨hcall, hpost⟩
    rw [posts_perform] at hmem
    obtain ⟨target, htarget, rfl⟩ :=
      Option.map_eq_some_iff.1 (Option.mem_toList.1 (List.mem_of_mem_take hmem))
    exact ⟨target, htarget, rfl⟩

/-! ## A new client -/

/-- The traces of the operations of a new client, if there is one. -/
def traces (p : Parameters) (now : Timestamp) (operations : List Operation) (n : Network) :
    Except Failure (List (Trace Answer)) :=
  (build p n).result.map fun c => performAll c now operations (build p n).network

/-- Building a client asks nothing of the network, so it can be repeated anywhere. -/
theorem build_congr {p : Parameters} {n : Network} {c : Client} (h : (build p n).result = .ok c)
    (m : Network) : (build p m).result = .ok c ∧ (build p m).network = m := by
  by_cases ht : p.token = ""
  · simp [build, ht, Action.fail, Bind.bind, Action.bind] at h
  by_cases hd : p.dispatchToken = ""
  · simp [build, ht, hd, Action.fail, Bind.bind, Action.bind, Pure.pure] at h
  cases hi : p.injected with
  | true =>
    rw [build_of_injected ht hd hi] at h ⊢
    exact ⟨h, rfl⟩
  | false =>
    cases hs : wholeTimeout p.timeout with
    | error f =>
      rw [build_of_error ht hd hi hs] at h
      cases h
    | ok seconds =>
      rw [build_of_ok ht hd hi hs] at h ⊢
      exact ⟨h, rfl⟩

theorem traces_of_build {p : Parameters} {n : Network} {c : Client}
    (h : (build p n).result = .ok c) (now : Timestamp) (operations : List Operation)
    (m : Network) : traces p now operations m = .ok (performAll c now operations m) := by
  obtain ⟨hresult, hnetwork⟩ := build_congr h m
  rw [traces, hresult, hnetwork]
  rfl

/-- The operations of a client are independent of each other.  Those behind others do what they
would do at a new client with the answers that are left, where every question and every request
takes one answer, the one at its own place in the list.  The number of calls follows from the
operations and from the answers to the questions of runs, and what is posted follows from the
target. -/
theorem traces_append {p : Parameters} {now : Timestamp} {front back : List Operation}
    {n : Network} {ts : List (Trace Answer)} (h : traces p now (front ++ back) n = .ok ts) :
    ∃ first second, ts = first ++ second ∧
      traces p now front n = .ok first ∧
      traces p now back (n.past (asked (callsIn first)) (posted (callsIn first))) = .ok second ∧
      (∀ operation rest, back = operation :: rest → ∃ t t' others, second = t :: others ∧
        traces p now [operation] (n.only (asked (callsIn first)) (posted (callsIn first))) =
          .ok [t'] ∧
        t.result = t'.result ∧ t.events = t'.events) ∧
      asked (callsIn first) =
        front.countP Operation.isAuthenticate + front.countP Operation.isRun ∧
      posted (callsIn first) = front.countP Operation.isDispatch + openedRuns n 0 front ∧
      ∃ post : Target → Call,
        List.Forall₂ (fun operation (t : Trace Answer) => ∀ call ∈ callsOf t.events,
            call.isPost = true → ∃ target, operation.target? = some target ∧ call = post target)
          (front ++ back) ts := by
  obtain ⟨c, hc, rfl⟩ := exists_of_map_ok h
  have htraces := traces_of_build hc now
  rw [(build_congr hc n).2]
  refine ⟨_, _, performAll_append c now front back n, htraces front n, htraces back _, ?_,
    asked_performAll c now front n, posted_performAll c now front n 0 0, c.postCall,
    posts_performAll c now _ n⟩
  rintro operation rest rfl
  refine ⟨_, _, _, rfl, htraces [operation] _, ?_⟩
  exact perform_congr c now operation (Network.rateLimitAt_past n _ _ 0)
    (Network.postAt_past n _ _ 0) rfl rfl

/-- The service refuses the first question, accepts the first dispatch, refuses the second one, and
the session cannot be closed. -/
def moody : Network :=
  { rateLimits := [.error (.alone (.refusal .badCredentials (some 401) none)), .ok (.int 7)]
    posts := [.ok ⟨204, ""⟩, .ok ⟨403, "no"⟩]
    sessionClose := some (.alone (.fault .runtime "boom"))
    serviceClose := none }

def injectedParameters : Parameters :=
  ⟨"ambient", "scoped", "https://api.github.com/", .ofRatio false 15 1 Nat.one_pos, true⟩

def defaultTarget : Except Target.Error Target :=
  Target.make (some Target.defaultOwner) (some Target.defaultRepository)
    (some Target.defaultWorkflowFile) (some Target.defaultRef)

/-- Behind a refused session, a failed close, a target that is none and an accepted dispatch, a run
takes the second answers. -/
theorem traces_append_of_moody :
    ∃ ts first second, traces injectedParameters ⟨0⟩ ([.run defaultTarget, .close,
        .run (.error (.required .ref)), .dispatch defaultTarget] ++ [.run defaultTarget]) moody =
          .ok ts ∧
      ts = first ++ second ∧ asked (callsIn first) = 1 ∧ posted (callsIn first) = 1 ∧
      traces injectedParameters ⟨0⟩ [.run defaultTarget] (moody.past 1 1) = .ok second := by
  have htraces : traces injectedParameters ⟨0⟩ ([.run defaultTarget, .close,
      .run (.error (.required .ref)), .dispatch defaultTarget] ++ [.run defaultTarget]) moody =
        .ok _ := rfl
  obtain ⟨first, second, hts, -, hsecond, -, hasked, hposted, -⟩ := traces_append htraces
  have hone : asked (callsIn first) = 1 := hasked.trans (by decide +kernel)
  have hother : posted (callsIn first) = 1 := hposted.trans (by decide +kernel)
  rw [hone, hother] at hsecond
  exact ⟨_, first, second, htraces, hts, hone, hother, hsecond⟩

end Client
end WorkflowDispatch
