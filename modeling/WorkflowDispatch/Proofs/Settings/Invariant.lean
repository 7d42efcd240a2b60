import WorkflowDispatch.Proofs.Binary64.Value
import WorkflowDispatch.Proofs.Exchange
import WorkflowDispatch.Proofs.Settings.Loaded
import WorkflowDispatch.Proofs.Target
/-!
What holds of all settings that load.  Behind the loading three parts of a run look at the settings
once more, and none of them finds anything to object to.
-/

namespace WorkflowDispatch

theorem Log.Level.mem_all (l : Log.Level) : l ∈ Log.Level.all := by
  cases l <;> decide

/-- The names of levels are written in capitals. -/
theorem Log.Level.upper_name (l : Log.Level) : Text.upper l.name = l.name := by
  cases l <;> decide

namespace Settings

/-! ## Single settings -/

/-- There is something in the text, and no blank at either end. -/
def IsTrimmed (s : String) : Prop := s ≠ "" ∧ Text.strip s = s

theorem isTrimmed_of_checkTargetField {v : Value} {t : String} (h : checkTargetField v = .ok t) :
    IsTrimmed t := by
  obtain ⟨s, _, hs⟩ := exists_of_bind_ok h
  dsimp only at hs
  split at hs
  · cases hs
  · next hne =>
    rw [← Except.ok.inj hs]
    exact ⟨fun hempty => hne (String.isEmpty_iff.2 hempty), Text.strip_strip s⟩

/-- There is something in the address, no blank in front of it and no slash behind it. -/
structure IsBase (url : String) : Prop where
  ne_empty : url ≠ ""
  head : ∀ c, url.toList.head? = some c → Text.isBlank c = false
  last : url.toList.getLast? ≠ some '/'

theorem toList_trimmedUrl (text : String) :
    (trimmedUrl text).toList = Text.trimRight (· == '/') (Text.trim Text.isBlank text.toList) := by
  unfold trimmedUrl Text.stripRight Text.strip
  rw [String.toList_ofList, String.toList_ofList]

theorem isBase_of_checkBaseUrl {v : Value} {url : String} (h : checkBaseUrl v = .ok url) :
    IsBase url := by
  obtain ⟨text, _, rfl, hne⟩ := exists_of_checkBaseUrl h
  refine ⟨hne, fun c hc => ?_, fun hc => ?_⟩
  · rw [toList_trimmedUrl] at hc
    exact Text.head_of_trim (Text.head_of_trimRight hc)
  · rw [toList_trimmedUrl] at hc
    exact absurd (Text.last_of_trimRight hc) (by decide)

theorem isPositive_of_checkTimeout {v : Value} {x : Binary64} (h : checkTimeout v = .ok x) :
    x.isPositive = true := by
  obtain ⟨y, _, hy⟩ := exists_of_bind_ok h
  split at hy
  · next hpositive =>
    cases hy
    exact hpositive
  · cases hy

/-! ## Settings as a whole -/

/-- The conditions that single settings are checked for, as far as they can be seen once the values
are there. -/
structure Invariant (x : Settings) : Prop where
  githubToken : ∃ c ∈ x.githubToken.toList, Text.isBlank c = false
  targetToken : ∃ c ∈ x.targetToken.toList, Text.isBlank c = false
  baseUrl : IsBase x.baseUrl
  owner : IsTrimmed x.target.owner.text ∧ '/' ∉ x.target.owner.text.toList
  repository : IsTrimmed x.target.repository.text ∧ '/' ∉ x.target.repository.text.toList
  workflowFile : IsTrimmed x.target.workflowFile.text ∧ '/' ∉ x.target.workflowFile.text.toList
  ref : IsTrimmed x.target.ref.text
  timeout : x.timeout ≠ .nan ∧
    (x.timeout = .infinite false ∨ ∃ q, x.timeout.toRat? = some q ∧ 0 < q)
  logLevel : x.logLevel.name ∈ Log.Level.all.map Log.Level.name ∧
    Text.upper x.logLevel.name = x.logLevel.name

theorem Draft.make_of_complete {d : Draft} {x : Settings} (h : d.complete = .ok x) :
    Target.make (some d.owner) (some d.repository) (some d.workflowFile) (some d.ref) =
      .ok x.target := by
  unfold complete at h
  split at h
  · cases h
  · next ht =>
    cases h
    exact ht

theorem Sources.setting_isTrimmed {s : Sources} {f : Field} {default t : String}
    (hd : IsTrimmed default) (h : s.setting f checkTargetField default = .ok t) : IsTrimmed t :=
  setting_induction hd (fun _ _ => isTrimmed_of_checkTargetField) h

/-- The default passes its own check. -/
theorem isBase_default : IsBase defaultBaseUrl :=
  isBase_of_checkBaseUrl (v := .text defaultBaseUrl) (by decide)

theorem invariant_of_load {s : Sources} {x : Settings} (h : load s = .ok x) : x.Invariant := by
  have hx := wellFormed_of_load h
  obtain ⟨d, hd, hcomplete⟩ := of_load h
  obtain ⟨howner, hrepository, hworkflow, href⟩ :=
    Target.some_text_of_make (Draft.make_of_complete hcomplete)
  obtain ⟨target, rfl⟩ := Draft.of_complete hcomplete
  simp only [Option.some.injEq] at howner hrepository hworkflow href
  have hpositive : d.timeout.isPositive = true :=
    Sources.setting_induction (P := fun y => y.isPositive = true) (by decide)
      (fun _ _ => isPositive_of_checkTimeout) hd.timeout
  exact
    { githubToken := Text.exists_of_not_blank hx.githubToken
      targetToken := Text.exists_of_not_blank hx.targetToken
      baseUrl := Sources.setting_induction isBase_default (fun _ _ => isBase_of_checkBaseUrl)
        hd.baseUrl
      owner := ⟨howner ▸ Sources.setting_isTrimmed ⟨by decide, by decide⟩ hd.owner,
        target.owner.no_slash⟩
      repository := ⟨hrepository ▸ Sources.setting_isTrimmed ⟨by decide, by decide⟩ hd.repository,
        target.repository.no_slash⟩
      workflowFile :=
        ⟨hworkflow ▸ Sources.setting_isTrimmed ⟨by decide, by decide⟩ hd.workflowFile,
          target.workflowFile.no_slash⟩
      ref := href ▸ Sources.setting_isTrimmed ⟨by decide, by decide⟩ hd.ref
      timeout := ⟨Binary64.ne_nan_of_isPositive hpositive, Binary64.isPositive_iff.1 hpositive⟩
      logLevel := ⟨List.mem_map_of_mem (Log.Level.mem_all _), Log.Level.upper_name _⟩ }

/-- What the parts of a run ask of settings behind the loading: the target is made of its four
fields, the address of it, the log is given the name of its level, and a client wants both
credentials. -/
structure PassesLaterChecks (x : Settings) : Prop where
  target : Target.make (some x.target.owner.text) (some x.target.repository.text)
    (some x.target.workflowFile.text) (some x.target.ref.text) = .ok x.target
  dispatchUrl : (Target.make (some x.target.owner.text) (some x.target.repository.text)
    (some x.target.workflowFile.text) (some x.target.ref.text)).map (fun t => x.baseUrl ++ t.path) =
      .ok x.dispatchUrl
  logging : ∀ l : Log.Loggers, (l.configure x.logLevel.name).2 = none
  credentials : ∀ p : Client.Parameters, p.token = x.githubToken →
    p.dispatchToken = x.targetToken → ∀ n f, (Client.build p n).result = .error f →
      f.reason ≠ .githubTokenMissing ∧ f.reason ≠ .dispatchTokenMissing

theorem configure_name (l : Log.Loggers) (level : Log.Level) :
    l.configure level.name = (l.withLines.setThreshold level, none) := by
  unfold Log.Loggers.configure
  rw [level.upper_name, level.ofName?_name]

theorem Invariant.passesLaterChecks {x : Settings} (h : x.Invariant) : x.PassesLaterChecks where
  target := x.target.make_text
  dispatchUrl := by
    rw [x.target.make_text]
    rfl
  logging l := by rw [configure_name]
  credentials := by
    intro p ht hd n f hf
    obtain ⟨c, hc, _⟩ := h.githubToken
    obtain ⟨d, hd', _⟩ := h.targetToken
    have htoken : p.token ≠ "" := by
      rintro hempty
      rw [← ht, hempty] at hc
      cases hc
    have hdispatch : p.dispatchToken ≠ "" := by
      rintro hempty
      rw [← hd, hempty] at hd'
      cases hd'
    rcases Client.reason_of_build htoken hdispatch hf with hr | hr
    · rw [hr]
      exact ⟨nofun, nofun⟩
    · rw [hr]
      exact ⟨nofun, nofun⟩

/-- Settings that load keep to the invariant, whatever the caller, the environment and the file say,
and so nothing that looks at them later refuses them. -/
theorem invariant_and_checks_of_load {s : Sources} {x : Settings} (h : load s = .ok x) :
    x.Invariant ∧ x.PassesLaterChecks :=
  ⟨invariant_of_load h, (invariant_of_load h).passesLaterChecks⟩

/-- Sources in which every value is at the edge of what is accepted: blanks of all kinds around the
texts, slashes behind the address, a number past all finite ones and a level with letters that
become capitals only in Unicode. -/
def raggedSources : Sources :=
  { keywords := [("Target_Owner", .text "\u2003octo\n"), ("ref", .bytes [0x61, 0x2F, 0x62])]
    environment :=
      [("github_token", " \u00A0ambient"), ("GITHUB_BASE_URL", "\x1Fhttps://host/api //"),
        ("DISPATCH_TIMEOUT_SECONDS", " 1e400 "), ("LOG_LEVEL", "\twarnıng")]
    file :=
      [("TARGET_REPO_PAT", some "/"), ("target_repository", some "\u3000."),
        ("DISPATCH_WORKFLOW_FILE", some "a b\u2028")] }

def raggedSettings : Settings :=
  { githubToken := " \u00A0ambient"
    targetToken := "/"
    baseUrl := "https://host/api "
    target :=
      { owner := ⟨"octo", by decide, by decide⟩
        repository := ⟨".", by decide, by decide⟩
        workflowFile := ⟨"a b", by decide, by decide⟩
        ref := ⟨"a/b", by decide⟩ }
    timeout := .infinite false
    logLevel := .warning }

theorem load_raggedSources : load raggedSources = .ok raggedSettings := by
  decide +kernel

theorem invariant_and_checks_of_ragged :
    load raggedSources = .ok raggedSettings ∧ raggedSettings.Invariant ∧
      raggedSettings.PassesLaterChecks :=
  ⟨load_raggedSources, invariant_and_checks_of_load load_raggedSources⟩

end Settings
end WorkflowDispatch
