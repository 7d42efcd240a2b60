import WorkflowDispatch.Proofs.Run.Dispatch
/-!
What the exit code of a dispatch says about the answers of the network.
-/

namespace WorkflowDispatch

/-! ## Answers -/

namespace Reason

def isRefusal : Reason → Bool
  | .refusal _ _ _ => true
  | _ => false

end Reason

namespace Network

/-- Rejections are what this program makes of failures.  The libraries behind the network do not
know of them, so none of its failures is one. -/
structure Genuine (n : Network) : Prop where
  rateLimits : ∀ f, .error f ∈ n.rateLimits → f.reason.isRejection = false
  posts : ∀ f, .error f ∈ n.posts → f.reason.isRejection = false
  sessionClose : ∀ f, n.sessionClose = some f → f.reason.isRejection = false
  serviceClose : ∀ f, n.serviceClose = some f → f.reason.isRejection = false

def Accepts (n : Network) : Prop :=
  ∃ remaining r, n.rateLimit.1 = .ok remaining ∧ n.post.1 = .ok r ∧
    200 ≤ r.status ∧ r.status < 300

def RefusesSession (n : Network) : Prop :=
  ∃ f, n.rateLimit.1 = .error f ∧ f.reason.isRefusal = true

/-- The session is opened, and the dispatch ends with a bad status: the request is answered with a
status that is no acceptance, or it fails with an error that carries an answer of any status. -/
def EndsWithStatus (n : Network) (status : Int) : Prop :=
  ∃ remaining, n.rateLimit.1 = .ok remaining ∧
    ((∃ text, n.post.1 = .ok ⟨status, text⟩ ∧ ¬ (200 ≤ status ∧ status < 300)) ∨
      ∃ f message text, n.post.1 = .error f ∧
        f.reason = .request .badStatus message (some ⟨status, text⟩))

def RejectsCredential (n : Network) : Prop :=
  ∃ status, n.EndsWithStatus status ∧ (status = 401 ∨ status = 403)

def RejectsDispatch (n : Network) : Prop :=
  ∃ status, n.EndsWithStatus status ∧ ¬ (status = 401 ∨ status = 403)

/-- The exit codes that the answers of the network can account for. -/
inductive Explains (n : Network) : Nat → Prop
  | acceptance (h : n.Accepts) : Explains n 0
  | session (h : n.RefusesSession) : Explains n 3
  | credential (h : n.RejectsCredential) : Explains n 3
  | dispatch (h : n.RejectsDispatch) : Explains n 4
  | failure : Explains n 1

theorem Genuine.rateLimit {n : Network} (h : n.Genuine) {f : Failure}
    (hf : n.rateLimit.1 = .error f) : f.reason.isRejection = false := by
  unfold Network.rateLimit at hf
  split at hf
  · simp at hf
  · next answer rest hl =>
    refine h.rateLimits f ?_
    rw [hl, ← show answer = .error f from hf]
    exact List.mem_cons_self

theorem Genuine.post {n : Network} (h : n.Genuine) {f : Failure}
    (hf : n.post.1 = .error f) : f.reason.isRejection = false := by
  unfold Network.post at hf
  split at hf
  · simp at hf
  · next answer rest hl =>
    refine h.posts f ?_
    rw [hl, ← show answer = .error f from hf]
    exact List.mem_cons_self

theorem Genuine.closed {n : Network} (h : n.Genuine) {f : Failure}
    (hf : Client.closed n = .error f) : f.reason.isRejection = false := by
  unfold Client.closed at hf
  cases hs : n.sessionClose with
  | some g =>
    rw [hs] at hf
    exact Except.error.inj hf ▸ h.sessionClose g hs
  | none =>
    rw [hs] at hf
    cases hv : n.serviceClose with
    | some g =>
      rw [hv] at hf
      exact Except.error.inj hf ▸ h.serviceClose g hv
    | none =>
      rw [hv] at hf
      simp [Action.closing] at hf

end Network

namespace Run

/-! ## What the run of the trigger ends in -/

theorem codeOfReason_of_not_rejection {r : Reason} (h : r.isRejection = false) :
    codeOfReason r = exitFailure := by
  cases r <;> simp_all [Reason.isRejection, codeOfReason]

theorem isAccepted_iff (status : Int) :
    Client.isAccepted status = true ↔ 200 ≤ status ∧ status < 300 := by
  simp [Client.isAccepted]

theorem isCredentialStatus_iff (status : Int) :
    Trigger.isCredentialStatus status = true ↔ status = 401 ∨ status = 403 := by
  simp [Trigger.isCredentialStatus]

variable {n : Network}

theorem codeOf_ended_of_accepts (h : n.Accepts) (c : Client) (target : Target) (now : Timestamp) :
    codeOf (Trigger.ended c target now n) = exitOk := by
  obtain ⟨remaining, r, hr, hp, hstatus⟩ := h
  unfold Trigger.ended
  rw [hr, hp]
  simp only [Client.sent, (isAccepted_iff r.status).2 hstatus, if_true]
  rfl

theorem codeOf_ended_of_refusesSession (h : n.RefusesSession) (c : Client) (target : Target)
    (now : Timestamp) : codeOf (Trigger.ended c target now n) = exitAuthentication := by
  obtain ⟨f, hf, href⟩ := h
  unfold Trigger.ended
  rw [hf]
  simp only [Trigger.sessionFailure]
  cases hr : f.reason <;> simp_all [Reason.isRefusal]
  rfl

/-- The failure that a bad status turns into. -/
theorem codeOf_dispatchFailure {f : Failure} {message : String} {r : Response}
    (h : f.reason = .request .badStatus message (some r)) (target : Target) :
    codeOfReason (Trigger.dispatchFailure target f).reason =
      if Trigger.isCredentialStatus r.status then exitAuthentication else exitRejected := by
  unfold Trigger.dispatchFailure
  rw [h]
  dsimp only
  split <;> rfl

theorem codeOf_ended_of_status {status : Int} (h : n.EndsWithStatus status) (c : Client)
    (target : Target) (now : Timestamp) :
    codeOf (Trigger.ended c target now n) =
      if Trigger.isCredentialStatus status then exitAuthentication else exitRejected := by
  obtain ⟨remaining, hr, ⟨text, hp, hstatus⟩ | ⟨f, message, text, hp, hf⟩⟩ := h
  · unfold Trigger.ended
    rw [hr, hp]
    have ha : ¬ Client.isAccepted status = true := fun h => hstatus ((isAccepted_iff status).1 h)
    simp only [Client.sent, ha]
    exact codeOf_dispatchFailure (r := ⟨status, text⟩) rfl target
  · unfold Trigger.ended
    rw [hr, hp]
    exact codeOf_dispatchFailure (r := ⟨status, text⟩) hf target

theorem sessionFailure_of_not_refusal {f : Failure} (h : f.reason.isRefusal = false) :
    Trigger.sessionFailure f = f := by
  unfold Trigger.sessionFailure
  split
  · next hr => rw [hr] at h; simp [Reason.isRefusal] at h
  · rfl

theorem dispatchFailure_of_ne {f : Failure}
    (h : ∀ message r, f.reason ≠ .request .badStatus message (some r)) (target : Target) :
    Trigger.dispatchFailure target f = f := by
  unfold Trigger.dispatchFailure
  split
  · next hr => exact absurd hr (h _ _)
  · rfl

/-- Every other outcome is a failure of no special kind. -/
theorem codeOf_ended_otherwise (hn : n.Genuine) (ha : ¬ n.Accepts) (hr : ¬ n.RefusesSession)
    (hc : ¬ n.RejectsCredential) (hd : ¬ n.RejectsDispatch) (c : Client) (target : Target)
    (now : Timestamp) : codeOf (Trigger.ended c target now n) = exitFailure := by
  -- With a status the dispatch would have been rejected one way or the other.
  have hs : ∀ status, ¬ n.EndsWithStatus status := by
    intro status h
    by_cases hcredential : status = 401 ∨ status = 403
    · exact hc ⟨status, h, hcredential⟩
    · exact hd ⟨status, h, hcredential⟩
  unfold Trigger.ended
  cases hl : n.rateLimit.1 with
  | error f =>
    have hf : f.reason.isRefusal = false := Bool.eq_false_iff.2 fun h => hr ⟨f, hl, h⟩
    dsimp only
    rw [sessionFailure_of_not_refusal hf]
    exact codeOfReason_of_not_rejection (hn.rateLimit hl)
  | ok remaining =>
    dsimp only
    cases hp : n.post.1 with
    | error f =>
      have hf : ∀ message r, f.reason ≠ .request .badStatus message (some r) := fun message r h =>
        hs r.status ⟨remaining, hl, .inr ⟨f, message, r.text, hp, h⟩⟩
      show codeOfReason (Trigger.dispatchFailure target f).reason = exitFailure
      rw [dispatchFailure_of_ne hf]
      exact codeOfReason_of_not_rejection (hn.post hp)
    | ok r =>
      by_cases hstatus : 200 ≤ r.status ∧ r.status < 300
      · exact absurd ⟨remaining, r, hl, hp, hstatus⟩ ha
      · exact absurd ⟨remaining, hl, .inl ⟨r.text, hp, hstatus⟩⟩ (hs r.status)

theorem codeOf_ended_of_rejectsCredential (h : n.RejectsCredential) (c : Client) (target : Target)
    (now : Timestamp) : codeOf (Trigger.ended c target now n) = exitAuthentication := by
  obtain ⟨status, hs, hcredential⟩ := h
  rw [codeOf_ended_of_status hs, if_pos ((isCredentialStatus_iff status).2 hcredential)]

theorem codeOf_ended_of_rejectsDispatch (h : n.RejectsDispatch) (c : Client) (target : Target)
    (now : Timestamp) : codeOf (Trigger.ended c target now n) = exitRejected := by
  obtain ⟨status, hs, hcredential⟩ := h
  rw [codeOf_ended_of_status hs, if_neg fun h => hcredential ((isCredentialStatus_iff status).1 h)]

theorem explains_ended (hn : n.Genuine) (c : Client) (target : Target) (now : Timestamp) :
    n.Explains (codeOf (Trigger.ended c target now n)) := by
  by_cases ha : n.Accepts
  · rw [codeOf_ended_of_accepts ha]
    exact .acceptance ha
  by_cases hr : n.RefusesSession
  · rw [codeOf_ended_of_refusesSession hr]
    exact .session hr
  by_cases hc : n.RejectsCredential
  · rw [codeOf_ended_of_rejectsCredential hc]
    exact .credential hc
  by_cases hd : n.RejectsDispatch
  · rw [codeOf_ended_of_rejectsDispatch hd]
    exact .dispatch hd
  rw [codeOf_ended_otherwise hn ha hr hc hd]
  exact .failure

/-! ## What the dispatch ends in -/

/-- A dispatch without a client is a failure of no special kind. -/
theorem codeOf_dispatched_of_not_built {x : Settings} (hx : x.WellFormed) {f : Failure}
    (h : Client.wholeTimeout x.timeout = .error f) (now : Timestamp) (n : Network) :
    codeOf (dispatched x now n).result = exitFailure := by
  rw [dispatched_of_error hx h]
  have hf : f.reason.isRejection = false := by
    rcases Client.reason_of_wholeTimeout h with hr | hr
    · rw [hr]
      rfl
    · rw [hr]
      rfl
  exact codeOfReason_of_not_rejection hf

/-- A dispatch whose client cannot be closed is one as well, whatever came of it before. -/
theorem codeOf_dispatched_of_not_closed (hn : n.Genuine) {x : Settings} (hx : x.WellFormed)
    {f : Failure} (h : Client.closed n = .error f) (now : Timestamp) :
    codeOf (dispatched x now n).result = exitFailure := by
  cases hs : Client.wholeTimeout x.timeout with
  | error g => exact codeOf_dispatched_of_not_built hx hs now n
  | ok seconds =>
    obtain ⟨g, hg, hgf⟩ := result_session_of_error h (clientFor x) x.target now
    rw [dispatched_of_ok hx hs, Trace.result_after, hg, codeOf, hgf]
    exact codeOfReason_of_not_rejection (hn.closed h)

theorem explains_dispatched (hn : n.Genuine) {x : Settings} (hx : x.WellFormed)
    (now : Timestamp) : n.Explains (codeOf (dispatched x now n).result) := by
  cases hs : Client.wholeTimeout x.timeout with
  | error f =>
    rw [codeOf_dispatched_of_not_built hx hs]
    exact .failure
  | ok seconds =>
    cases hc : Client.closed n with
    | ok _ =>
      rw [dispatched_of_ok hx hs, Trace.result_after, result_session_of_ok hc]
      exact explains_ended hn _ _ _
    | error f =>
      rw [codeOf_dispatched_of_not_closed hn hx hc]
      exact .failure

theorem codeOf_dispatched_of_built {x : Settings} (hx : x.WellFormed) {client : Client}
    (hb : (Client.build (parameters x) n).result = .ok client) (hc : n.sessionClose = none)
    (hv : n.serviceClose = none) (now : Timestamp) :
    codeOf (dispatched x now n).result =
      codeOf (Trigger.ended (clientFor x) x.target now n) := by
  have hclosed : Client.closed n = .ok () := by
    unfold Client.closed
    rw [hc, hv]
    rfl
  cases hs : Client.wholeTimeout x.timeout with
  | error f =>
    rw [build_parameters_of_error hx hs] at hb
    simp at hb
  | ok seconds =>
    rw [dispatched_of_ok hx hs, Trace.result_after, result_session_of_ok hclosed]

/-- The codes of a dispatch, both ways: each special code has its reason in the answers of the
network, and when the client can be built and closed each such answer leads to its code. -/
theorem dispatch_exit_code {s : Surroundings} (hs : s.Readable) (hn : n.Genuine)
    (entry : Entry) :
    ((command entry ["dispatch"] s n).ending = .exit 2 ↔ ¬ ∃ x, s.Loads x) ∧
    ∀ x, s.Loads x →
      ((command entry ["dispatch"] s n).ending = .exit 0 → n.Accepts) ∧
      ((command entry ["dispatch"] s n).ending = .exit 3 →
        n.RefusesSession ∨ n.RejectsCredential) ∧
      ((command entry ["dispatch"] s n).ending = .exit 4 → n.RejectsDispatch) ∧
      ∀ client, (Client.build (parameters x) n).result = .ok client →
        n.sessionClose = none → n.serviceClose = none →
        (n.Accepts → (command entry ["dispatch"] s n).ending = .exit 0) ∧
        (n.RefusesSession ∨ n.RejectsCredential →
          (command entry ["dispatch"] s n).ending = .exit 3) ∧
        (n.RejectsDispatch → (command entry ["dispatch"] s n).ending = .exit 4) ∧
        (¬ n.Accepts → ¬ (n.RefusesSession ∨ n.RejectsCredential) → ¬ n.RejectsDispatch →
          (command entry ["dispatch"] s n).ending = .exit 1) := by
  refine ⟨⟨?_, ?_⟩, ?_⟩
  · rintro hexit ⟨x, hx⟩
    have hcode := explains_dispatched hn hx.wellFormed s.now
    rw [ending_of_loads hx] at hexit
    rw [Ending.exit.inj hexit] at hcode
    cases hcode
  · intro hnone
    obtain ⟨content, hc⟩ := hs.exists_content
    cases hl : Settings.load (sources [] s content) with
    | ok x => exact absurd ⟨x, content, hc, hl⟩ hnone
    | error complaints => exact ending_of_refused hc hl read_dispatch entry n
  · intro x hx
    have hcode := explains_dispatched hn hx.wellFormed s.now
    rw [ending_of_loads hx]
    refine ⟨fun hexit => ?_, fun hexit => ?_, fun hexit => ?_, fun client hb hc hv => ?_⟩
    · rw [Ending.exit.inj hexit] at hcode
      cases hcode with
      | acceptance h => exact h
    · rw [Ending.exit.inj hexit] at hcode
      cases hcode with
      | session h => exact .inl h
      | credential h => exact .inr h
    · rw [Ending.exit.inj hexit] at hcode
      cases hcode with
      | dispatch h => exact h
    · rw [codeOf_dispatched_of_built hx.wellFormed hb hc hv]
      refine ⟨fun h => ?_, fun h => ?_, fun h => ?_, fun ha hr hd => ?_⟩
      · rw [codeOf_ended_of_accepts h]
        rfl
      · rcases h with h | h
        · rw [codeOf_ended_of_refusesSession h]
          rfl
        · rw [codeOf_ended_of_rejectsCredential h]
          rfl
      · rw [codeOf_ended_of_rejectsDispatch h]
        rfl
      · have hsession : ¬ n.RefusesSession := fun h => hr (.inl h)
        have hcredential : ¬ n.RejectsCredential := fun h => hr (.inr h)
        rw [codeOf_ended_otherwise hn ha hsession hcredential hd]
        rfl

/-- The session opens, and then the request fails with an error that carries a refusal. -/
def forbidden : Network :=
  { rateLimits := [.ok (.int 12)]
    posts := [.error (.alone (.request .badStatus "boom" (some ⟨403, "no"⟩)))]
    sessionClose := none
    serviceClose := none }

theorem genuine_forbidden : forbidden.Genuine where
  rateLimits := by
    intro f hf
    simp [forbidden] at hf
  posts := by
    intro f hf
    have hf : f = .alone (.request .badStatus "boom" (some ⟨403, "no"⟩)) := by
      simpa [forbidden] using hf
    rw [hf]
    rfl
  sessionClose := by
    intro f hf
    simp [forbidden] at hf
  serviceClose := by
    intro f hf
    simp [forbidden] at hf

theorem dispatch_exit_code_of_forbidden :
    bareSurroundings.Readable ∧ forbidden.Genuine ∧ bareSurroundings.Loads bareSettings ∧
      (command .installed ["dispatch"] bareSurroundings forbidden).ending = .exit 3 := by
  have hs : bareSurroundings.Readable := by
    intro bytes hbytes
    simp [bareSurroundings] at hbytes
  obtain ⟨_, hcodes⟩ := dispatch_exit_code hs genuine_forbidden .installed
  obtain ⟨_, _, _, hbuilt⟩ := hcodes bareSettings loads_bareSurroundings
  have hrejects : forbidden.RejectsCredential :=
    ⟨403, ⟨.int 12, rfl, .inr ⟨_, "boom", "no", rfl, rfl⟩⟩, .inr rfl⟩
  exact ⟨hs, genuine_forbidden, loads_bareSurroundings,
    (hbuilt _ (build_bareSettings forbidden) rfl rfl).2.1 (.inr hrejects)⟩

end Run
end WorkflowDispatch
