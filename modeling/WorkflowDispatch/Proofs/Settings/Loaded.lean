import WorkflowDispatch.Proofs.Result
import WorkflowDispatch.Proofs.Text.Trim
import WorkflowDispatch.Settings.Load
/-!
What is known of settings that have been loaded.
-/

namespace WorkflowDispatch
namespace Settings

/-! ## Loading taken apart -/

theorem Checked.of_both {α β : Type} {a : Checked α} {b : Checked β} {p : α × β}
    (h : a.both b = .ok p) : a = .ok p.1 ∧ b = .ok p.2 := by
  cases a <;> cases b <;> simp_all [Checked.both]
  exact ⟨congrArg Prod.fst h, congrArg Prod.snd h⟩

/-- Every field of a draft has passed its own check. -/
structure Sources.Gives (s : Sources) (d : Draft) : Prop where
  githubToken : s.credential .githubToken = .ok d.githubToken
  targetToken : s.credential .targetToken = .ok d.targetToken
  baseUrl : s.setting .baseUrl checkBaseUrl defaultBaseUrl = .ok d.baseUrl
  owner : s.setting .owner checkTargetField Target.defaultOwner = .ok d.owner
  repository : s.setting .repository checkTargetField Target.defaultRepository = .ok d.repository
  workflowFile :
    s.setting .workflowFile checkTargetField Target.defaultWorkflowFile = .ok d.workflowFile
  ref : s.setting .ref checkTargetField Target.defaultRef = .ok d.ref
  timeout : s.setting .timeout checkTimeout defaultTimeout = .ok d.timeout
  logLevel : s.setting .logLevel checkLogLevel defaultLogLevel = .ok d.logLevel

theorem Sources.gives_of_draft {s : Sources} {d : Draft} (h : s.draft = .ok d) : s.Gives d := by
  unfold draft at h
  obtain ⟨p, hp, rfl⟩ := exists_of_map_ok h
  obtain ⟨hp, hlog⟩ := Checked.of_both hp
  obtain ⟨hp, htimeout⟩ := Checked.of_both hp
  obtain ⟨hp, href⟩ := Checked.of_both hp
  obtain ⟨hp, hworkflow⟩ := Checked.of_both hp
  obtain ⟨hp, hrepository⟩ := Checked.of_both hp
  obtain ⟨hp, howner⟩ := Checked.of_both hp
  obtain ⟨hp, hurl⟩ := Checked.of_both hp
  obtain ⟨hgithub, htarget⟩ := Checked.of_both hp
  exact ⟨hgithub, htarget, hurl, howner, hrepository, hworkflow, href, htimeout, hlog⟩

/-- The fields that a draft hands on as they are. -/
theorem Draft.of_complete {d : Draft} {x : Settings} (h : d.complete = .ok x) :
    ∃ target, x = ⟨d.githubToken, d.targetToken, d.baseUrl, target, d.timeout, d.logLevel⟩ := by
  unfold complete at h
  split at h
  · simp at h
  · exact ⟨_, (Except.ok.inj h).symm⟩

theorem of_load {s : Sources} {x : Settings} (h : load s = .ok x) :
    ∃ d, s.Gives d ∧ d.complete = .ok x := by
  obtain ⟨d, hd, hx⟩ := exists_of_bind_ok h
  exact ⟨d, Sources.gives_of_draft hd, hx⟩

/-! ## Single settings -/

/-- A setting is its default, or the value that is there for it has passed the check. -/
theorem Sources.cases_of_setting {α : Type} {s : Sources} {f : Field}
    {check : Value → Except Cause α} {default x : α} (h : s.setting f check default = .ok x) :
    (s.raw? f = none ∧ default = x) ∨
      ∃ filed, s.raw? f = some filed ∧ check filed.value = .ok x := by
  unfold setting at h
  split at h
  · next hraw => exact .inl ⟨hraw, Except.ok.inj h⟩
  · next filed hraw =>
    split at h
    · next hcheck => exact .inr ⟨filed, hraw, Except.ok.inj h ▸ hcheck⟩
    · cases h

/-- What holds of the default and of every value that passes the check holds of the setting. -/
theorem Sources.setting_induction {α : Type} {P : α → Prop} {s : Sources} {f : Field}
    {check : Value → Except Cause α} {default x : α} (hd : P default)
    (hc : ∀ v y, check v = .ok y → P y) (h : s.setting f check default = .ok x) : P x := by
  obtain ⟨-, rfl⟩ | ⟨filed, -, hcheck⟩ := cases_of_setting h
  · exact hd
  · exact hc _ _ hcheck

/-- The text that is offered as a credential. -/
def credentialText : Value → Except Cause String
  | .secret s => .ok s
  | v => (checkText v).mapError (fun _ => .notText)

theorem checkCredential_eq (f : Field) (v : Value) :
    checkCredential f v =
      credentialText v >>= fun s =>
        if Text.isBlankText s then .error (.credentialMissing f) else .ok s := by
  cases v <;> rfl

theorem not_blank_of_checkCredential {f : Field} {v : Value} {t : String}
    (h : checkCredential f v = .ok t) : Text.isBlankText t = false := by
  rw [checkCredential_eq] at h
  obtain ⟨s, _, hs⟩ := exists_of_bind_ok h
  by_cases hb : Text.isBlankText s = true
  · rw [if_pos hb] at hs
    simp at hs
  · rw [if_neg hb] at hs
    rw [← Except.ok.inj hs]
    exact Bool.eq_false_iff.2 hb

theorem Sources.not_blank_of_credential {s : Sources} {f : Field} {t : String}
    (h : s.credential f = .ok t) : Text.isBlankText t = false := by
  unfold credential at h
  split at h
  · simp at h
  · split at h
    · next hc => exact Except.ok.inj h ▸ not_blank_of_checkCredential hc
    · simp at h

theorem exists_of_checkBaseUrl {v : Value} {url : String} (h : checkBaseUrl v = .ok url) :
    ∃ text, checkText v = .ok text ∧ trimmedUrl text = url ∧ url ≠ "" := by
  obtain ⟨text, htext, hs⟩ := exists_of_bind_ok h
  dsimp only at hs
  split at hs
  · cases hs
  · next hne =>
    obtain rfl := Except.ok.inj hs
    exact ⟨text, htext, rfl, fun hempty => hne (String.isEmpty_iff.2 hempty)⟩

theorem stripRight_of_checkBaseUrl {v : Value} {url : String} (h : checkBaseUrl v = .ok url) :
    Text.stripRight '/' url = url := by
  obtain ⟨text, _, rfl, _⟩ := exists_of_checkBaseUrl h
  exact Text.stripRight_stripRight _ _

/-! ## Settings as a whole -/

/-- The invariants of settings: no credential is blank and the address does not end in a slash. -/
structure WellFormed (x : Settings) : Prop where
  githubToken : Text.isBlankText x.githubToken = false
  targetToken : Text.isBlankText x.targetToken = false
  baseUrl : Text.stripRight '/' x.baseUrl = x.baseUrl

theorem wellFormed_of_load {s : Sources} {x : Settings} (h : load s = .ok x) : x.WellFormed := by
  obtain ⟨d, hd, hx⟩ := of_load h
  obtain ⟨target, rfl⟩ := Draft.of_complete hx
  refine ⟨Sources.not_blank_of_credential hd.githubToken,
    Sources.not_blank_of_credential hd.targetToken, ?_⟩
  exact Sources.setting_induction (P := fun url => Text.stripRight '/' url = url) (by decide)
    (fun _ _ => stripRight_of_checkBaseUrl) hd.baseUrl

end Settings
end WorkflowDispatch
