import WorkflowDispatch.Proofs.Run.ExitCode
/-!
What a run of the trigger ends in: an acceptance, a rejection that keeps the failure behind it, or a
failure that has been let through as it was.  Main statement: these are all the ways, each for its
own answers of the network, and nothing that the service has said is lost on the way.
-/

namespace WorkflowDispatch

theorem Failure.causedBy_ne (r : Reason) (f : Failure) : .causedBy r f ≠ f := by
  intro h
  cases h

theorem Reason.exists_of_isRefusal {r : Reason} (h : r.isRefusal = true) :
    ∃ kind status detail, r = .refusal kind status detail := by
  cases r with
  | refusal kind status detail => exact ⟨kind, status, detail, rfl⟩
  | _ => cases h

/-! ## Parts of texts -/

theorem infix_append_left {part : List Char} {a : String} (h : part <:+: a.toList) (b : String) :
    part <:+: (a ++ b).toList := by
  rw [String.toList_append]
  exact h.trans (List.prefix_append _ _).isInfix

theorem infix_append_right (a b : String) : b.toList <:+: (a ++ b).toList := by
  rw [String.toList_append]
  exact (List.suffix_append _ _).isInfix

/-- The message about a rejected dispatch names the workflow, the repository and the status. -/
theorem Reason.infix_message_dispatchRejected (target : Target) (status : Int) (text : String) :
    target.workflowFile.text.toList <:+: (dispatchRejected target status text).message.toList ∧
      target.fullName.toList <:+: (dispatchRejected target status text).message.toList ∧
      (Text.decimal status).toList <:+: (dispatchRejected target status text).message.toList := by
  unfold message
  refine ⟨?_, ?_, ?_⟩
  · iterate 5 refine infix_append_left ?_ _
    exact infix_append_right _ _
  · iterate 3 refine infix_append_left ?_ _
    exact infix_append_right _ _
  · exact infix_append_left (infix_append_right _ _) _

/-- The message about a bad status holds the status and the address. -/
theorem Client.infix_message_badStatus (url : String) (r : Response) :
    (Text.decimal r.status).toList <:+: (badStatus url r).message.toList ∧
      url.toList <:+: (badStatus url r).message.toList :=
  ⟨infix_append_left (infix_append_left (infix_append_right _ _) _) _, infix_append_right _ _⟩

namespace Trigger

/-! ## Ends of a run -/

/-- What keeps a dispatch from having been sent: the request fails, or it is answered with a status
that is no acceptance. -/
inductive FailsToSend (c : Client) (target : Target) (n : Network) : Failure → Prop
  | raised {f : Failure} (h : n.post.1 = .error f) : FailsToSend c target n f
  | answered {r : Response} (h : n.post.1 = .ok r) (hstatus : ¬ (200 ≤ r.status ∧ r.status < 300)) :
      FailsToSend c target n (Client.badStatus (c.apiUrl target.path) r)

/-- The ways in which a run can end. -/
inductive EndsIn (c : Client) (target : Target) (now : Timestamp) (n : Network) :
    Except Failure Acceptance → Prop
  | accepted {remaining : Value} {r : Response} (hsession : n.rateLimit.1 = .ok remaining)
      (hpost : n.post.1 = .ok r) (hstatus : 200 ≤ r.status ∧ r.status < 300) :
      EndsIn c target now n (.ok ⟨target, r.status, now⟩)
  | sessionRejected {f : Failure} {kind : RefusalKind} {status : Option Int}
      {detail : Option String} (hsession : n.rateLimit.1 = .error f)
      (hf : f.reason = .refusal kind status detail) :
      EndsIn c target now n (.error (.causedBy (.sessionRejected status) f))
  | credentialRejected {remaining : Value} {f : Failure} {message : String} {r : Response}
      (hsession : n.rateLimit.1 = .ok remaining) (hsend : FailsToSend c target n f)
      (hf : f.reason = .request .badStatus message (some r))
      (hstatus : r.status = 401 ∨ r.status = 403) :
      EndsIn c target now n (.error (.causedBy (.credentialRejected target.fullName r.status) f))
  | dispatchRejected {remaining : Value} {f : Failure} {message : String} {r : Response}
      (hsession : n.rateLimit.1 = .ok remaining) (hsend : FailsToSend c target n f)
      (hf : f.reason = .request .badStatus message (some r))
      (hstatus : ¬ (r.status = 401 ∨ r.status = 403)) :
      EndsIn c target now n (.error (.causedBy (.dispatchRejected target r.status r.text) f))
  | notOpened {f : Failure} (hsession : n.rateLimit.1 = .error f)
      (hf : f.reason.isRefusal = false) : EndsIn c target now n (.error f)
  | notSent {remaining : Value} {f : Failure} (hsession : n.rateLimit.1 = .ok remaining)
      (hpost : n.post.1 = .error f)
      (hf : ∀ message r, f.reason ≠ .request .badStatus message (some r)) :
      EndsIn c target now n (.error f)

variable {c : Client} {target : Target} {now : Timestamp} {n : Network}

theorem sessionFailure_of_refusal {f : Failure} {kind : RefusalKind} {status : Option Int}
    {detail : Option String} (h : f.reason = .refusal kind status detail) :
    sessionFailure f = .causedBy (.sessionRejected status) f := by
  unfold sessionFailure
  rw [h]

theorem dispatchFailure_of_badStatus {f : Failure} {message : String} {r : Response}
    (h : f.reason = .request .badStatus message (some r)) (target : Target) :
    dispatchFailure target f =
      if isCredentialStatus r.status then
        .causedBy (.credentialRejected target.fullName r.status) f
      else .causedBy (.dispatchRejected target r.status r.text) f := by
  unfold dispatchFailure
  rw [h]

theorem ended_of_error {f : Failure} (h : n.rateLimit.1 = .error f) :
    ended c target now n = .error (sessionFailure f) := by
  unfold ended
  rw [h]

theorem ended_of_accepted {remaining : Value} {r : Response} (h : n.rateLimit.1 = .ok remaining)
    (hpost : n.post.1 = .ok r) (hstatus : 200 ≤ r.status ∧ r.status < 300) :
    ended c target now n = .ok ⟨target, r.status, now⟩ := by
  unfold ended Client.sent
  rw [h, hpost]
  dsimp only
  rw [if_pos ((Run.isAccepted_iff r.status).2 hstatus)]
  rfl

theorem ended_of_failsToSend {remaining : Value} {f : Failure}
    (h : n.rateLimit.1 = .ok remaining) (hsend : FailsToSend c target n f) :
    ended c target now n = .error (dispatchFailure target f) := by
  unfold ended Client.sent
  rw [h]
  cases hsend with
  | raised hpost =>
    rw [hpost]
    rfl
  | answered hpost hstatus =>
    rw [hpost]
    dsimp only
    rw [if_neg fun ha => hstatus ((Run.isAccepted_iff _).1 ha)]
    rfl

/-- A run with an open session ends well, or something kept the dispatch from having been sent. -/
theorem accepted_or_failsToSend (c : Client) (target : Target) (n : Network) :
    (∃ r, n.post.1 = .ok r ∧ 200 ≤ r.status ∧ r.status < 300) ∨
      ∃ f, FailsToSend c target n f := by
  cases hpost : n.post.1 with
  | error f => exact .inr ⟨f, .raised hpost⟩
  | ok r =>
    by_cases hstatus : 200 ≤ r.status ∧ r.status < 300
    · exact .inl ⟨r, rfl, hstatus⟩
    · exact .inr ⟨_, .answered hpost hstatus⟩

theorem endsIn_ended (c : Client) (target : Target) (now : Timestamp) (n : Network) :
    EndsIn c target now n (ended c target now n) := by
  cases hsession : n.rateLimit.1 with
  | error f =>
    rw [ended_of_error hsession]
    cases hf : f.reason.isRefusal with
    | true =>
      obtain ⟨kind, status, detail, hf⟩ := Reason.exists_of_isRefusal hf
      rw [sessionFailure_of_refusal hf]
      exact .sessionRejected hsession hf
    | false =>
      rw [Run.sessionFailure_of_not_refusal hf]
      exact .notOpened hsession hf
  | ok remaining =>
    rcases accepted_or_failsToSend c target n with ⟨r, hpost, hstatus⟩ | ⟨f, hsend⟩
    · rw [ended_of_accepted hsession hpost hstatus]
      exact .accepted hsession hpost hstatus
    · rw [ended_of_failsToSend hsession hsend]
      by_cases hf : ∃ message r, f.reason = .request .badStatus message (some r)
      · obtain ⟨message, r, hf⟩ := hf
        rw [dispatchFailure_of_badStatus hf]
        split
        · next hr =>
          exact .credentialRejected hsession hsend hf ((Run.isCredentialStatus_iff _).1 hr)
        · next hr =>
          exact .dispatchRejected hsession hsend hf fun h =>
            hr ((Run.isCredentialStatus_iff _).2 h)
      · push Not at hf
        rw [Run.dispatchFailure_of_ne hf]
        cases hsend with
        | raised hpost => exact .notSent hsession hpost hf
        | answered hpost hstatus => exact absurd rfl (hf _ _)

theorem ended_of_endsIn {result : Except Failure Acceptance} (h : EndsIn c target now n result) :
    ended c target now n = result := by
  cases h with
  | accepted hsession hpost hstatus => exact ended_of_accepted hsession hpost hstatus
  | sessionRejected hsession hf => rw [ended_of_error hsession, sessionFailure_of_refusal hf]
  | credentialRejected hsession hsend hf hstatus =>
    rw [ended_of_failsToSend hsession hsend, dispatchFailure_of_badStatus hf,
      if_pos ((Run.isCredentialStatus_iff _).2 hstatus)]
  | dispatchRejected hsession hsend hf hstatus =>
    rw [ended_of_failsToSend hsession hsend, dispatchFailure_of_badStatus hf,
      if_neg fun h => hstatus ((Run.isCredentialStatus_iff _).1 h)]
  | notOpened hsession hf =>
    rw [ended_of_error hsession, Run.sessionFailure_of_not_refusal hf]
  | notSent hsession hpost hf =>
    rw [ended_of_failsToSend hsession (.raised hpost), Run.dispatchFailure_of_ne hf]

/-! ## Failures that are let through -/

theorem sessionFailure_eq_self_iff {f : Failure} :
    sessionFailure f = f ↔ f.reason.isRefusal = false := by
  refine ⟨fun h => Bool.eq_false_iff.2 fun hf => ?_, Run.sessionFailure_of_not_refusal⟩
  obtain ⟨kind, status, detail, hf⟩ := Reason.exists_of_isRefusal hf
  rw [sessionFailure_of_refusal hf] at h
  exact Failure.causedBy_ne _ _ h

theorem dispatchFailure_eq_self_iff {f : Failure} :
    dispatchFailure target f = f ↔
      ∀ message r, f.reason ≠ .request .badStatus message (some r) := by
  refine ⟨fun h message r hf => ?_, fun h => Run.dispatchFailure_of_ne h target⟩
  rw [dispatchFailure_of_badStatus hf] at h
  split at h
  · exact Failure.causedBy_ne _ _ h
  · exact Failure.causedBy_ne _ _ h

/-- An answer with a status that is no acceptance becomes a rejection, and the failure behind it
holds the status and the address that the dispatch was sent to. -/
theorem exists_cause_of_status {remaining : Value} {r : Response}
    (hsession : n.rateLimit.1 = .ok remaining) (hpost : n.post.1 = .ok r)
    (hstatus : ¬ (200 ≤ r.status ∧ r.status < 300)) (now : Timestamp) :
    ∃ g f url body timeout, (run c target now n).result = .error g ∧ g.cause? = some f ∧
      .post url body timeout ∈ callsOf (run c target now n).events ∧
      (Text.decimal r.status).toList <:+: f.message.toList ∧ url.toList <:+: f.message.toList := by
  have hcalls : c.postCall target ∈ callsOf (run c target now n).events := by
    rw [callsOf_run, calls, hsession]
    exact List.mem_cons_of_mem _ List.mem_cons_self
  have hparts := Client.infix_message_badStatus (c.apiUrl target.path) r
  have hcause : ∃ g, dispatchFailure target (Client.badStatus (c.apiUrl target.path) r) = g ∧
      g.cause? = some (Client.badStatus (c.apiUrl target.path) r) := by
    refine ⟨_, dispatchFailure_of_badStatus rfl target, ?_⟩
    split <;> rfl
  obtain ⟨g, hg, hcause⟩ := hcause
  refine ⟨g, _, c.apiUrl target.path, target.payload, c.timeout, ?_, hcause, hcalls, hparts⟩
  rw [result_run, ended_of_failsToSend hsession (.answered hpost hstatus), hg]

/-- A run ends in exactly one of the ways listed.  A failure is let through as it was exactly if the
session fails with what is no refusal, or the request does with what carries no answer.  A
rejection of the dispatch names the workflow, the repository and the status, and the failure behind
an answer of a bad status names the status and the address. -/
theorem result_run_eq_iff (c : Client) (target : Target) (now : Timestamp) (n : Network) :
    (∀ result, (run c target now n).result = result ↔ EndsIn c target now n result) ∧
    (∀ f, n.rateLimit.1 = .error f →
      ((run c target now n).result = .error f ↔ f.reason.isRefusal = false)) ∧
    (∀ remaining f, n.rateLimit.1 = .ok remaining → n.post.1 = .error f →
      ((run c target now n).result = .error f ↔
        ∀ message r, f.reason ≠ .request .badStatus message (some r))) ∧
    (∀ status text, target.workflowFile.text.toList <:+:
          (Reason.dispatchRejected target status text).message.toList ∧
        target.fullName.toList <:+: (Reason.dispatchRejected target status text).message.toList ∧
        (Text.decimal status).toList <:+:
          (Reason.dispatchRejected target status text).message.toList) ∧
    ∀ remaining r, n.rateLimit.1 = .ok remaining → n.post.1 = .ok r →
      ¬ (200 ≤ r.status ∧ r.status < 300) →
        ∃ g f url body timeout, (run c target now n).result = .error g ∧ g.cause? = some f ∧
          .post url body timeout ∈ callsOf (run c target now n).events ∧
          (Text.decimal r.status).toList <:+: f.message.toList ∧
          url.toList <:+: f.message.toList := by
  refine ⟨fun result => ?_, fun f hsession => ?_, fun remaining f hsession hpost => ?_,
    Reason.infix_message_dispatchRejected target,
    fun remaining r hsession hpost hstatus => exists_cause_of_status hsession hpost hstatus now⟩
  · rw [result_run]
    exact ⟨fun h => h ▸ endsIn_ended c target now n, ended_of_endsIn⟩
  · rw [result_run, ended_of_error hsession, Except.error.injEq, sessionFailure_eq_self_iff]
  · rw [result_run, ended_of_failsToSend hsession (.raised hpost), Except.error.injEq,
      dispatchFailure_eq_self_iff]

/-- A failure of the request that carries an answer with a status of acceptance. -/
def contradiction : Failure := .alone (.request .badStatus "odd" (some ⟨204, "done"⟩))

def contradicting : Network := { Run.usualNetwork with posts := [.error contradiction] }

/-- The service does not know the workflow. -/
def unknowing : Network := { Run.usualNetwork with posts := [.ok ⟨404, "Not Found"⟩] }

/-- The run with the settings that need no more than the credentials. -/
def bareRun (n : Network) : Trace Acceptance :=
  run (Run.clientFor Run.bareSettings) Run.bareSettings.target ⟨0⟩ n

theorem result_run_of_contradicting_and_unknowing :
    (bareRun contradicting).result =
        .error (.causedBy (.dispatchRejected Run.bareSettings.target 204 "done") contradiction) ∧
      ∃ g f url body timeout, (bareRun unknowing).result = .error g ∧ g.cause? = some f ∧
        .post url body timeout ∈ callsOf (bareRun unknowing).events ∧
        (Text.decimal 404).toList <:+: f.message.toList ∧ url.toList <:+: f.message.toList := by
  have hstatus : ¬ ((204 : Int) = 401 ∨ (204 : Int) = 403) := by decide
  have hbad : ¬ (200 ≤ (404 : Int) ∧ (404 : Int) < 300) := by decide
  constructor
  · exact ((result_run_eq_iff _ _ _ contradicting).1 _).2
      (.dispatchRejected (r := ⟨204, "done"⟩) rfl (.raised rfl) rfl hstatus)
  · exact (result_run_eq_iff _ _ _ unknowing).2.2.2.2 _ ⟨404, "Not Found"⟩ rfl rfl hbad

end Trigger
end WorkflowDispatch
