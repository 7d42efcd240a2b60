import WorkflowDispatch.Proofs.Settings.Invariant
import WorkflowDispatch.Proofs.Settings.Place
/-!
What stands against settings that do not load.  Every setting is checked, whatever the checks of the
others say, so the complaints are those of the single checks in the order of the settings.  Only
when there is none of them is a slash in the target looked for, and the first one found is the only
complaint.
-/

namespace WorkflowDispatch

namespace Settings

/-! ## All complaints -/

namespace Checked

variable {α β : Type}

/-- What stands against a result, which is nothing when the result is there. -/
def complaints : Checked α → List Complaint
  | .ok _ => []
  | .error e => e

theorem complaints_both (a : Checked α) (b : Checked β) :
    (a.both b).complaints = a.complaints ++ b.complaints := by
  cases a with
  | ok x =>
    cases b with
    | ok y => rfl
    | error e => rfl
  | error e =>
    cases b with
    | ok y => exact (List.append_nil e).symm
    | error e' => rfl

theorem complaints_map (g : α → β) (a : Checked α) :
    complaints (a.map g) = a.complaints := by
  cases a <;> rfl

/-- A result is missing only where something stands against it. -/
def IsFounded (a : Checked α) : Prop := a.complaints = [] → ∃ x, a = .ok x

theorem IsFounded.both {a : Checked α} {b : Checked β} (ha : a.IsFounded) (hb : b.IsFounded) :
    (a.both b).IsFounded := by
  intro h
  rw [complaints_both, List.append_eq_nil_iff] at h
  obtain ⟨x, rfl⟩ := ha h.1
  obtain ⟨y, rfl⟩ := hb h.2
  exact ⟨(x, y), rfl⟩

theorem IsFounded.map {a : Checked α} (h : a.IsFounded) (g : α → β) :
    IsFounded (a.map g) := by
  intro hnil
  rw [complaints_map] at hnil
  obtain ⟨x, rfl⟩ := h hnil
  exact ⟨g x, rfl⟩

theorem eq_error_of_complaints {a : Checked α} (h : a.complaints ≠ []) :
    a = .error a.complaints := by
  cases a with
  | ok x => exact absurd rfl h
  | error e => rfl

end Checked

namespace Sources

open Checked

variable {s : Sources} {f : Field}

theorem complaints_setting {α : Type} {check : Value → Except Cause α}
    (hf : f.isCredential = false) (hcheck : ∀ v, f.refuses? v = refusal? (check v)) (default : α) :
    (s.setting f check default).complaints = (s.complaint? f).toList := by
  unfold setting complaint? offered?
  rw [hf]
  cases hraw : s.raw? f with
  | none => rfl
  | some filed =>
    rw [place_of_raw? hraw]
    dsimp only [Option.map_some, Option.some_or, Option.bind_some]
    rw [hcheck]
    cases check filed.value with
    | ok a => rfl
    | error cause => rfl

theorem complaints_credential (hf : f.isCredential = true)
    (hcheck : ∀ v, f.refuses? v = refusal? (checkCredential f v)) :
    (s.credential f).complaints = (s.complaint? f).toList := by
  unfold credential complaint? offered?
  rw [hf]
  cases hraw : s.raw? f with
  | none =>
    rw [place_of_raw?_eq_none hraw]
    rw [Option.map_none, Option.none_or, if_pos rfl, Option.bind_some, hcheck]
    rfl
  | some filed =>
    rw [place_of_raw? hraw]
    dsimp only [Option.map_some, Option.some_or, Option.bind_some]
    rw [hcheck]
    cases checkCredential f filed.value with
    | ok a => rfl
    | error cause => rfl

theorem isFounded_setting {α : Type} (s : Sources) (f : Field) (check : Value → Except Cause α)
    (default : α) : (s.setting f check default).IsFounded := by
  unfold setting
  intro h
  split at h
  · exact ⟨_, rfl⟩
  · split at h
    · exact ⟨_, rfl⟩
    · cases h

theorem isFounded_credential (s : Sources) (f : Field) : (s.credential f).IsFounded := by
  unfold credential
  intro h
  split at h
  · cases h
  · split at h
    · exact ⟨_, rfl⟩
    · cases h

/-- The complaints of a draft are those about its fields, in the order of the settings. -/
theorem complaints_draft (s : Sources) :
    s.draft.complaints = Field.all.filterMap s.complaint? := by
  unfold draft
  rw [complaints_map]
  simp only [complaints_both]
  rw [complaints_credential rfl fun _ => rfl, complaints_credential rfl fun _ => rfl,
    complaints_setting rfl fun _ => rfl, complaints_setting rfl fun _ => rfl,
    complaints_setting rfl fun _ => rfl, complaints_setting rfl fun _ => rfl,
    complaints_setting rfl fun _ => rfl, complaints_setting rfl fun _ => rfl,
    complaints_setting rfl fun _ => rfl, List.filterMap_eq_flatMap_toList]
  simp only [Field.all, List.flatMap_cons, List.flatMap_nil, List.append_assoc, List.append_nil]

theorem isFounded_draft (s : Sources) : s.draft.IsFounded := by
  unfold draft
  refine .map ?_ _
  exact (isFounded_credential s _).both (isFounded_credential s _)
    |>.both (isFounded_setting s _ _ _) |>.both (isFounded_setting s _ _ _)
    |>.both (isFounded_setting s _ _ _) |>.both (isFounded_setting s _ _ _)
    |>.both (isFounded_setting s _ _ _) |>.both (isFounded_setting s _ _ _)
    |>.both (isFounded_setting s _ _ _)

theorem draft_of_gives {d : Draft} (h : s.Gives d) : s.draft = .ok d := by
  unfold draft
  rw [h.githubToken, h.targetToken, h.baseUrl, h.owner, h.repository, h.workflowFile, h.ref,
    h.timeout, h.logLevel]
  rfl

theorem gives_of_no_complaint (h : Field.all.filterMap s.complaint? = []) : ∃ d, s.Gives d := by
  rw [← complaints_draft] at h
  obtain ⟨d, hd⟩ := s.isFounded_draft h
  exact ⟨d, gives_of_draft hd⟩

theorem load_of_complaint (h : Field.all.filterMap s.complaint? ≠ []) :
    load s = .error (Field.all.filterMap s.complaint?) := by
  rw [← complaints_draft] at h ⊢
  unfold load
  rw [eq_error_of_complaints h]
  rfl

end Sources

/-- The complaints are those about the settings. -/
theorem Sources.mem_complaints {s : Sources} {c : Complaint} :
    c ∈ Field.all.filterMap s.complaint? ↔ ∃ f, s.complaint? f = some c := by
  rw [List.mem_filterMap]
  exact exists_congr fun f => and_iff_right f.mem_all

theorem Sources.complaints_eq_nil_iff {s : Sources} :
    Field.all.filterMap s.complaint? = [] ↔ ∀ f, s.complaint? f = none := by
  rw [List.filterMap_eq_nil_iff]
  exact forall_congr' fun f => forall_prop_of_true f.mem_all

/-! ## The target -/

theorem not_blank_of_isTrimmed {s : String} (h : IsTrimmed s) : Text.isBlankText s = false := by
  refine Bool.eq_false_iff.2 fun hb => h.1 ?_
  have hall : Text.trim Text.isBlank s.toList = [] := Text.trim_of_all (List.all_eq_true.1 hb)
  rw [← h.2, Text.strip, hall]

namespace Draft

/-- The fields that become segments of the path, in their order. -/
def segments (d : Draft) : List (Target.Field × String) :=
  [(.owner, d.owner), (.repository, d.repository), (.workflowFile, d.workflowFile)]

/-- The first of them that holds a slash. -/
def slashed? (d : Draft) : Option (Target.Field × String) :=
  d.segments.find? (fun p => p.2.toList.contains '/')

/-- No field of the target is blank. -/
structure IsFilled (d : Draft) : Prop where
  owner : Text.isBlankText d.owner = false
  repository : Text.isBlankText d.repository = false
  workflowFile : Text.isBlankText d.workflowFile = false
  ref : Text.isBlankText d.ref = false

theorem isFilled_of_gives {s : Sources} {d : Draft} (h : s.Gives d) : d.IsFilled where
  owner := not_blank_of_isTrimmed (Sources.setting_isTrimmed ⟨by decide, by decide⟩ h.owner)
  repository :=
    not_blank_of_isTrimmed (Sources.setting_isTrimmed ⟨by decide, by decide⟩ h.repository)
  workflowFile :=
    not_blank_of_isTrimmed (Sources.setting_isTrimmed ⟨by decide, by decide⟩ h.workflowFile)
  ref := not_blank_of_isTrimmed (Sources.setting_isTrimmed ⟨by decide, by decide⟩ h.ref)

theorem mem_of_slashed? {d : Draft} {p : Target.Field × String} (h : d.slashed? = some p) :
    p ∈ d.segments ∧ '/' ∈ p.2.toList := by
  obtain ⟨hp, before, after, hsegments, -⟩ := List.find?_eq_some_iff_append.1 h
  exact ⟨hsegments ▸ List.mem_append_right before List.mem_cons_self, List.contains_iff_mem.1 hp⟩

/-- The segments come first when the target is made, and the ref behind them. -/
theorem offered_eq (d : Draft) :
    Target.offered (some d.owner) (some d.repository) (some d.workflowFile) (some d.ref) =
      d.segments.map (fun q => (q.1, some q.2)) ++ [(.ref, some d.ref)] := rfl

theorem IsFilled.of_mem_segments {d : Draft} (h : d.IsFilled) :
    ∀ q ∈ d.segments, Target.IsGiven (some q.2) ∧ q.1 ≠ .ref := by
  simp only [segments, List.forall_mem_cons, Target.isGiven_iff]
  exact ⟨⟨h.owner, by decide⟩, ⟨h.repository, by decide⟩, ⟨h.workflowFile, by decide⟩, nofun⟩

theorem IsFilled.admits_segment {d : Draft} (h : d.IsFilled) {q : Target.Field × String}
    (hq : q ∈ d.segments) (hs : '/' ∉ q.2.toList) : q.1.Admits (some q.2) := by
  refine ⟨(h.of_mem_segments q hq).1, ?_⟩
  rintro s ⟨⟩ -
  exact hs

theorem make_of_slashed {d : Draft} (h : d.IsFilled) {p : Target.Field × String}
    (hp : d.slashed? = some p) :
    Target.make (some d.owner) (some d.repository) (some d.workflowFile) (some d.ref) =
      .error (.slash p.1 p.2) := by
  obtain ⟨hmem, hs⟩ := mem_of_slashed? hp
  obtain ⟨hgiven, href⟩ := h.of_mem_segments p hmem
  obtain ⟨-, before, after, hsegments, hbefore⟩ := List.find?_eq_some_iff_append.1 hp
  have hoffered := offered_eq d
  rw [hsegments, List.map_append, List.map_cons, List.append_assoc, List.cons_append] at hoffered
  refine Target.make_eq_error_iff.2 ⟨_, _, _, hoffered, ?_, .slash hgiven href hs⟩
  · refine List.forall_mem_map.2 fun q hq => h.admits_segment ?_ ?_
    · exact hsegments ▸ List.mem_append_left _ hq
    · simpa using hbefore q hq

theorem make_of_not_slashed {d : Draft} (h : d.IsFilled) (hp : d.slashed? = none) :
    ∃ t, Target.make (some d.owner) (some d.repository) (some d.workflowFile) (some d.ref) =
      .ok t := by
  refine Target.exists_make_iff.2 ?_
  rw [offered_eq, List.forall_mem_append, List.forall_mem_map, List.forall_mem_singleton]
  refine ⟨fun q hq => h.admits_segment hq ?_, Target.isGiven_iff.2 h.ref, fun _ _ hne => ?_⟩
  · simpa using List.find?_eq_none.1 hp q hq
  · exact absurd rfl hne

theorem complete_of_slashed {d : Draft} (h : d.IsFilled) {p : Target.Field × String}
    (hp : d.slashed? = some p) : d.complete = .error [⟨none, .target (.slash p.1 p.2)⟩] := by
  unfold complete
  rw [make_of_slashed h hp]

theorem complete_of_not_slashed {d : Draft} (h : d.IsFilled) (hp : d.slashed? = none) :
    ∃ x, d.complete = .ok x := by
  obtain ⟨t, ht⟩ := make_of_not_slashed h hp
  unfold complete
  rw [ht]
  exact ⟨_, rfl⟩

theorem slashed?_of_segments {d : Draft} {before after : List (Target.Field × String)}
    {p : Target.Field × String} (h : d.segments = before ++ p :: after)
    (hbefore : ∀ q ∈ before, '/' ∉ q.2.toList) (hp : '/' ∈ p.2.toList) :
    d.slashed? = some p := by
  refine List.find?_eq_some_iff_append.2 ⟨List.contains_iff_mem.2 hp, before, after, h, ?_⟩
  intro q hq
  simpa using hbefore q hq

theorem exists_slashed? {d : Draft} {p : Target.Field × String} (hmem : p ∈ d.segments)
    (hp : '/' ∈ p.2.toList) : ∃ q, d.slashed? = some q :=
  Option.isSome_iff_exists.1 (List.find?_isSome.2 ⟨p, hmem, List.contains_iff_mem.2 hp⟩)

end Draft

/-! ## Loading -/

namespace Sources

variable {s : Sources} {f : Field}

theorem load_of_gives {d : Draft} (h : s.Gives d) : load s = d.complete := by
  unfold load
  rw [draft_of_gives h]
  rfl

theorem load_of_slashed {d : Draft} (h : s.Gives d) {p : Target.Field × String}
    (hp : d.slashed? = some p) : load s = .error [⟨none, .target (.slash p.1 p.2)⟩] := by
  rw [load_of_gives h]
  exact Draft.complete_of_slashed (Draft.isFilled_of_gives h) hp

/-- The two ways in which settings do not load. -/
theorem cases_of_load_error {e : List Complaint} (h : load s = .error e) :
    (e = Field.all.filterMap s.complaint? ∧ e ≠ []) ∨
      (Field.all.filterMap s.complaint? = [] ∧ ∃ d p, s.Gives d ∧ d.slashed? = some p ∧
        e = [⟨none, .target (.slash p.1 p.2)⟩]) := by
  by_cases hnil : Field.all.filterMap s.complaint? = []
  · obtain ⟨d, hd⟩ := gives_of_no_complaint hnil
    cases hp : d.slashed? with
    | none =>
      obtain ⟨x, hx⟩ := Draft.complete_of_not_slashed (Draft.isFilled_of_gives hd) hp
      rw [load_of_gives hd, hx] at h
      cases h
    | some p =>
      rw [load_of_slashed hd hp] at h
      exact .inr ⟨hnil, d, p, hd, hp, (Except.error.inj h).symm⟩
  · have he := Except.error.inj ((load_of_complaint hnil).symm.trans h)
    exact .inl ⟨he.symm, he ▸ hnil⟩

/-- Settings do not load exactly if the check of some setting refuses the value for it, or none does
and one of the three segments of the target holds a slash.  In the first case there is one complaint
for each setting that is refused, in the order of the settings, at the place of the setting, and it
depends on the filed value for that setting alone.  In the second case there is one complaint
without a place, about the first segment with a slash.  That a field of the target is blank is never
found out when the target is made. -/
theorem load_eq_error (s : Sources) :
    ((∃ e, load s = .error e) ↔
      (∃ f c, s.complaint? f = some c) ∨
        ((∀ f, s.complaint? f = none) ∧
          ∃ d, s.Gives d ∧ ∃ p ∈ d.segments, '/' ∈ p.2.toList)) ∧
    ((∃ f c, s.complaint? f = some c) →
      load s = .error (Field.all.filterMap s.complaint?)) ∧
    (∀ s' f, Sources.raw? s' f = s.raw? f → s'.complaint? f = s.complaint? f) ∧
    (∀ d, s.Gives d → ∀ before p after, d.segments = before ++ p :: after →
      (∀ q ∈ before, '/' ∉ q.2.toList) → '/' ∈ p.2.toList →
        load s = .error [⟨none, .target (.slash p.1 p.2)⟩]) ∧
    ∀ e, load s = .error e → ∀ c ∈ e, ∀ field, c.cause ≠ .target (.required field) := by
  have hsome : (∃ f c, s.complaint? f = some c) →
      load s = .error (Field.all.filterMap s.complaint?) := by
    rintro ⟨f, c, hc⟩
    exact load_of_complaint (List.ne_nil_of_mem (mem_complaints.2 ⟨f, hc⟩))
  refine ⟨⟨?_, ?_⟩, hsome, fun _ _ => complaint?_congr, ?_, ?_⟩
  · rintro ⟨e, he⟩
    rcases cases_of_load_error he with ⟨rfl, hne⟩ | ⟨hnil, d, p, hd, hp, rfl⟩
    · obtain ⟨c, hc⟩ := List.exists_mem_of_ne_nil _ hne
      obtain ⟨f, hf⟩ := mem_complaints.1 hc
      exact .inl ⟨f, c, hf⟩
    · exact .inr ⟨complaints_eq_nil_iff.1 hnil, d, hd, p, Draft.mem_of_slashed? hp⟩
  · rintro (h | ⟨-, d, hd, p, hmem, hp⟩)
    · exact ⟨_, hsome h⟩
    · obtain ⟨q, hq⟩ := Draft.exists_slashed? hmem hp
      exact ⟨_, load_of_slashed hd hq⟩
  · intro d hd before p after hsegments hbefore hp
    exact load_of_slashed hd (Draft.slashed?_of_segments hsegments hbefore hp)
  · intro e he c hc field hcause
    rcases cases_of_load_error he with ⟨rfl, -⟩ | ⟨-, d, p, -, -, rfl⟩
    · obtain ⟨f, hf⟩ := mem_complaints.1 hc
      rw [complaint?, Option.map_eq_some_iff] at hf
      obtain ⟨cause, hrefuses, rfl⟩ := hf
      obtain ⟨v, -, hv⟩ := Option.bind_eq_some_iff.1 hrefuses
      have hkind := Field.isOfTarget_of_refuses? hv
      rw [show cause = .target (.required field) from hcause] at hkind
      exact Bool.noConfusion hkind
    · rw [List.mem_singleton.1 hc] at hcause
      cases hcause

/-- Six settings are refused: a credential that is blank and one that is not there, a blank field of
the target in the file and one from a keyword in letters of another case, a timeout of zero, and a
level that is no text. -/
def refusedSources : Sources :=
  { keywords := [("Ref", .text " "), ("log_level", .int 5)]
    environment := [("GITHUB_TOKEN", ""), ("DISPATCH_TIMEOUT_SECONDS", "0")]
    file := [("target_owner", some "")] }

/-- Nothing is refused, but two segments of the target hold a slash. -/
def slashedSources : Sources :=
  { keywords := [("DISPATCH_WORKFLOW_FILE", .text "c/d")]
    environment :=
      [("GH_TOKEN", "ambient"), ("TARGET_REPO_PAT", "scoped"),
        ("DISPATCH_TARGET_REPOSITORY", " a/b"), ("DISPATCH_REF", "e/f")]
    file := [] }

def slashedDraft : Draft :=
  { githubToken := "ambient"
    targetToken := "scoped"
    baseUrl := defaultBaseUrl
    owner := Target.defaultOwner
    repository := "a/b"
    workflowFile := "c/d"
    ref := "e/f"
    timeout := defaultTimeout
    logLevel := .info }

theorem gives_slashedDraft : slashedSources.Gives slashedDraft := by
  constructor
  all_goals decide +kernel

theorem load_eq_error_of_refused_and_slashed :
    load refusedSources =
        .error [⟨some "GH_TOKEN", .credentialMissing .githubToken⟩,
          ⟨some "target_repo_pat", .credentialMissing .targetToken⟩,
          ⟨some "target_owner", .targetFieldBlank⟩, ⟨some "DISPATCH_REF", .targetFieldBlank⟩,
          ⟨some "DISPATCH_TIMEOUT_SECONDS", .notPositive⟩, ⟨some "log_level", .notText⟩] ∧
      load slashedSources = .error [⟨none, .target (.slash .repository "a/b")⟩] := by
  constructor
  · rw [(load_eq_error refusedSources).2.1 ⟨.ref, ⟨some "DISPATCH_REF", .targetFieldBlank⟩,
      by decide +kernel⟩]
    decide +kernel
  · exact (load_eq_error slashedSources).2.2.2.1 slashedDraft gives_slashedDraft
      [(.owner, Target.defaultOwner)] (.repository, "a/b") [(.workflowFile, "c/d")] rfl
      (by decide) (by decide)

/-- A refused value of a keyword does not always stand at the keyword of the caller: in letters of
another case than the name it stands at the main variable. -/
theorem not_place_of_keyword :
    ¬ ∀ (s : Sources) (f : Field) (keyword : String) (v : Value) (cause : Cause),
      s.keywords = [(keyword, v)] → f.isNamedBy keyword = true → f.refuses? v = some cause →
        ∃ e, load s = .error e ∧ ⟨some keyword, cause⟩ ∈ e := by
  intro h
  obtain ⟨e, he, hmem⟩ := h
    ⟨[("Ref", .text "")], [("GH_TOKEN", "ambient"), ("TARGET_REPO_PAT", "scoped")], []⟩ .ref "Ref"
    (.text "") .targetFieldBlank rfl (by decide +kernel) (by decide +kernel)
  have hload : load
      ⟨[("Ref", .text "")], [("GH_TOKEN", "ambient"), ("TARGET_REPO_PAT", "scoped")], []⟩ =
        .error [⟨some "DISPATCH_REF", .targetFieldBlank⟩] := by
    decide +kernel
  rw [hload] at he
  cases he
  exact absurd hmem (by decide)

end Sources

end Settings
end WorkflowDispatch
