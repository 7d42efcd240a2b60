import WorkflowDispatch.Proofs.Settings.Complaints
import WorkflowDispatch.Proofs.Settings.Variables
/-!
The address of the service as it is stored.  Blanks are taken away first and the slashes at the end
after them, each once, so a blank that stands in front of the last slashes is left at the end.  Such
an address is the one thing that keeps settings from being loaded again from their own values.
-/

namespace WorkflowDispatch
namespace Settings

/-! ## Trimming an address -/

/-- The last character is a blank. -/
def EndsBlank (url : String) : Prop := ∃ c, url.toList.getLast? = some c ∧ Text.isBlank c = true

/-- Behind a blank there are slashes, and nothing but blanks behind these. -/
def HasGap (text : String) : Prop :=
  ∃ before c slashes after, text.toList = before ++ c :: (slashes ++ after) ∧
    Text.isBlank c = true ∧ slashes ≠ [] ∧ (∀ d ∈ slashes, d = '/') ∧
    ∀ d ∈ after, Text.isBlank d = true

/-- There is nothing but slashes, and blanks around them. -/
def IsVoid (text : String) : Prop :=
  ∃ front slashes back, text.toList = front ++ (slashes ++ back) ∧
    (∀ c ∈ front, Text.isBlank c = true) ∧ (∀ c ∈ slashes, c = '/') ∧
    ∀ c ∈ back, Text.isBlank c = true

theorem isBlank_slash : Text.isBlank '/' = false := by decide

/-- What was taken away: blanks, then slashes, then blanks. -/
theorem exists_trimmedUrl (text : String) :
    ∃ front slashes back,
      text.toList = front ++ (((trimmedUrl text).toList ++ slashes) ++ back) ∧
      Text.trim Text.isBlank text.toList = (trimmedUrl text).toList ++ slashes ∧
      (∀ c ∈ front, Text.isBlank c = true) ∧ (∀ c ∈ slashes, c = '/') ∧
      ∀ c ∈ back, Text.isBlank c = true := by
  obtain ⟨front, back, htext, hfront, hback⟩ := Text.exists_trim Text.isBlank text.toList
  obtain ⟨slashes, hcore, hslashes⟩ :=
    Text.exists_trimRight (· == '/') (Text.trim Text.isBlank text.toList)
  rw [← toList_trimmedUrl] at hcore
  rw [hcore] at htext
  exact ⟨front, slashes, back, htext, hcore, hfront, fun c hc => beq_iff_eq.1 (hslashes c hc),
    hback⟩

theorem isBlank_of_slashes {slashes : List Char} (h : ∀ c ∈ slashes, c = '/') :
    ∀ c ∈ slashes, Text.isBlank c = false :=
  fun c hc => (h c hc).symm ▸ isBlank_slash

theorem trimmedUrl_eq_empty_iff (text : String) : trimmedUrl text = "" ↔ IsVoid text := by
  constructor
  · intro h
    obtain ⟨front, slashes, back, htext, _, hfront, hslashes, hback⟩ := exists_trimmedUrl text
    rw [h] at htext
    exact ⟨front, slashes, back, htext, hfront, hslashes, hback⟩
  · rintro ⟨front, slashes, back, htext, hfront, hslashes, hback⟩
    have hblank := isBlank_of_slashes hslashes
    have hcore : Text.trim Text.isBlank text.toList = slashes := by
      rw [htext]
      exact Text.trim_append hfront hback (fun c hc => hblank c (List.mem_of_head? hc))
        fun c hc => hblank c (List.mem_of_getLast? hc)
    have hnil : Text.trimRight (· == '/') ([] ++ slashes) = [] :=
      Text.trimRight_append (fun c hc => beq_iff_eq.2 (hslashes c hc)) []
    rw [← String.toList_eq_nil_iff, toList_trimmedUrl, hcore]
    exact hnil

/-- The blanks around a text with a gap are those in front of it and those behind the slashes. -/
theorem trim_of_gap {before slashes after : List Char} (c : Char) (hne : slashes ≠ [])
    (hslashes : ∀ d ∈ slashes, d = '/') (hafter : ∀ d ∈ after, Text.isBlank d = true) :
    Text.trim Text.isBlank (before ++ c :: (slashes ++ after)) =
      Text.trimLeft Text.isBlank (before ++ [c]) ++ slashes := by
  have hblank := isBlank_of_slashes hslashes
  have hhead : ∀ d, (slashes ++ after).head? = some d → Text.isBlank d = false := by
    intro d hd
    rw [List.head?_append_of_ne_nil _ hne] at hd
    exact hblank d (List.mem_of_head? hd)
  have hlast : ∀ d, (Text.trimLeft Text.isBlank (before ++ [c]) ++ slashes).getLast? = some d →
      Text.isBlank d = false := by
    intro d hd
    rw [List.getLast?_append_of_ne_nil _ hne] at hd
    exact hblank d (List.mem_of_getLast? hd)
  rw [List.append_cons, Text.trim, Text.trimLeft_append _ hhead, ← List.append_assoc,
    Text.trimRight_append hafter, Text.trimRight_of_last hlast]

theorem last_of_trimLeft_concat {before : List Char} {c d : Char}
    (h : (Text.trimLeft Text.isBlank (before ++ [c])).getLast? = some d) : c = d := by
  have hlast := Text.last_of_trimLeft h
  rw [List.getLast?_concat] at hlast
  exact Option.some.inj hlast

/-- The address that is left of a text with a gap: all up to the blank in front of the slashes,
without the blanks at the other end. -/
theorem toList_trimmedUrl_of_gap {text : String} {before slashes after : List Char} {c : Char}
    (htext : text.toList = before ++ c :: (slashes ++ after)) (hc : Text.isBlank c = true)
    (hne : slashes ≠ []) (hslashes : ∀ d ∈ slashes, d = '/')
    (hafter : ∀ d ∈ after, Text.isBlank d = true) :
    (trimmedUrl text).toList = Text.trimLeft Text.isBlank (before ++ [c]) := by
  have hslash : ∀ d, (Text.trimLeft Text.isBlank (before ++ [c])).getLast? = some d →
      (d == '/') = false := by
    intro d hd
    obtain rfl := last_of_trimLeft_concat hd
    refine beq_false_of_ne fun heq => ?_
    rw [heq, isBlank_slash] at hc
    cases hc
  rw [toList_trimmedUrl, htext, trim_of_gap c hne hslashes hafter,
    Text.trimRight_append fun d hd => beq_iff_eq.2 (hslashes d hd), Text.trimRight_of_last hslash]

theorem not_endsBlank_of_trim {text url : String}
    (h : Text.trim Text.isBlank text.toList = url.toList) : ¬ EndsBlank url := by
  rintro ⟨c, hlast, hc⟩
  rw [← h] at hlast
  rw [Text.last_of_trimRight hlast] at hc
  cases hc

theorem endsBlank_trimmedUrl_iff {text : String} (hne : trimmedUrl text ≠ "") :
    EndsBlank (trimmedUrl text) ↔ HasGap text := by
  constructor
  · intro hends
    obtain ⟨front, slashes, back, htext, hcore, _, hslashes, hback⟩ := exists_trimmedUrl text
    obtain ⟨c, hlast, hc⟩ := hends
    obtain ⟨rest, hrest⟩ := List.getLast?_eq_some_iff.1 hlast
    refine ⟨front ++ rest, c, slashes, back, ?_, hc, ?_, hslashes, hback⟩
    · rw [htext, hrest]
      simp only [List.append_assoc, List.cons_append, List.nil_append]
    · -- Without a slash behind it the blank would have been taken away as well.
      rintro rfl
      rw [List.append_nil] at hcore
      exact not_endsBlank_of_trim hcore ⟨c, hlast, hc⟩
  · rintro ⟨before, c, slashes, after, htext, hc, hslashes, hall, hafter⟩
    have hurl := toList_trimmedUrl_of_gap htext hc hslashes hall hafter
    have hnil : (trimmedUrl text).toList ≠ [] := fun h => hne (String.toList_eq_nil_iff.1 h)
    obtain ⟨d, hd⟩ : ∃ d, (trimmedUrl text).toList.getLast? = some d :=
      ⟨_, List.getLast?_eq_some_getLast hnil⟩
    refine ⟨d, hd, ?_⟩
    rw [hurl] at hd
    rw [← last_of_trimLeft_concat hd, hc]

/-- The addresses that trimming leaves as they are. -/
theorem trimmedUrl_eq_self_iff {url : String} (h : IsBase url) :
    trimmedUrl url = url ↔ ¬ EndsBlank url := by
  constructor
  · intro heq
    obtain ⟨front, slashes, back, htext, hcore, -⟩ := exists_trimmedUrl url
    rw [heq] at htext hcore
    -- Nothing was taken away, not even what stood behind the last character.
    have hlength := congrArg List.length htext
    simp only [List.length_append] at hlength
    have hslashes : slashes = [] := List.eq_nil_of_length_eq_zero (by omega)
    rw [hslashes, List.append_nil] at hcore
    exact not_endsBlank_of_trim hcore
  · intro hlast
    have hblank : ∀ c, url.toList.getLast? = some c → Text.isBlank c = false := by
      intro c hc
      exact Bool.eq_false_iff.2 fun hb => hlast ⟨c, hc, hb⟩
    have hcore : Text.trim Text.isBlank url.toList = url.toList := by
      rw [Text.trim, Text.trimLeft_of_head h.head, Text.trimRight_of_last hblank]
    have hslash : ∀ c, url.toList.getLast? = some c → (c == '/') = false := by
      intro c hc
      exact beq_false_of_ne fun heq => h.last (heq ▸ hc)
    rw [← String.toList_inj, toList_trimmedUrl, hcore, Text.trimRight_of_last hslash]

theorem checkBaseUrl_text (text : String) :
    checkBaseUrl (.text text) =
      if (trimmedUrl text).isEmpty then .error .baseUrlEmpty else .ok (trimmedUrl text) := by
  dsimp only [checkBaseUrl, checkText, bind, Except.bind]

theorem checkBaseUrl_text_eq_error_iff (text : String) :
    checkBaseUrl (.text text) = .error .baseUrlEmpty ↔ IsVoid text := by
  rw [← trimmedUrl_eq_empty_iff, checkBaseUrl_text, ← String.isEmpty_iff]
  split
  · next h => simp only [h]
  · next h => simp only [h, reduceCtorEq, Bool.false_eq_true]

theorem checkBaseUrl_eq_self_iff {url : String} (h : IsBase url) :
    checkBaseUrl (.text url) = .ok url ↔ ¬ EndsBlank url := by
  rw [← trimmedUrl_eq_self_iff h, checkBaseUrl_text]
  constructor
  · intro hok
    split at hok
    · cases hok
    · exact Except.ok.inj hok
  · intro heq
    rw [heq, if_neg fun hempty => h.ne_empty (String.isEmpty_iff.1 hempty)]

/-- A blank is left at the end of an address exactly if there was one in front of the slashes. -/
theorem endsBlank_baseUrl_iff {s : Sources} {x : Settings} (h : load s = .ok x) :
    EndsBlank x.baseUrl ↔ ∃ filed text, s.raw? .baseUrl = some filed ∧
      checkText filed.value = .ok text ∧ HasGap text := by
  obtain ⟨d, hd, hcomplete⟩ := of_load h
  obtain ⟨target, rfl⟩ := Draft.of_complete hcomplete
  obtain ⟨hraw, hdefault⟩ | ⟨filed, hraw, hcheck⟩ := Sources.cases_of_setting hd.baseUrl
  · have hkept : ¬ EndsBlank d.baseUrl := by
      rw [← hdefault, ← checkBaseUrl_eq_self_iff isBase_default]
      decide
    simp only [hkept, hraw, reduceCtorEq, false_and, exists_false]
  · obtain ⟨text, htext, htrimmed, hne⟩ := exists_of_checkBaseUrl hcheck
    rw [← htrimmed] at hne
    rw [← htrimmed, endsBlank_trimmedUrl_iff hne]
    constructor
    · intro hgap
      exact ⟨filed, text, hraw, htext, hgap⟩
    · rintro ⟨filed', text', hraw', htext', hgap⟩
      obtain rfl := Option.some.inj (hraw.symm.trans hraw')
      obtain rfl := Except.ok.inj (htext.symm.trans htext')
      exact hgap

/-! ## Settings as keywords -/

/-- The value of one setting as a caller would give it. -/
def ownValue (x : Settings) : Field → Value
  | .githubToken => .secret x.githubToken
  | .targetToken => .secret x.targetToken
  | .baseUrl => .text x.baseUrl
  | .owner => .text x.target.owner.text
  | .repository => .text x.target.repository.text
  | .workflowFile => .text x.target.workflowFile.text
  | .ref => .text x.target.ref.text
  | .timeout => .float x.timeout
  | .logLevel => .text x.logLevel.name

/-- All settings as keywords, each under its own name. -/
def ownValues (x : Settings) : Bindings Value := Field.all.map fun f => (f.name, x.ownValue f)

/-- Settings again, from the values of settings that are there, in any surroundings. -/
def Sources.ofSettings (x : Settings) (environment : Bindings String) (file : Source) : Sources :=
  ⟨x.ownValues, environment, file⟩

/-- A name in letters of any case is the name of one setting at most. -/
theorem Field.find?_name (f : Field) :
    (f.names.findSome? fun name => all.find? fun g => Text.lower g.name == Text.lower name) =
      some f := by
  have hall : ∀ f ∈ all, (f.names.findSome? fun name =>
      all.find? fun g => Text.lower g.name == Text.lower name) = some f := by
    decide +kernel
  exact hall f f.mem_all

theorem Field.find?_contains (f : Field) : f.names.find? (all.map name).contains = some f.name := by
  have hall : ∀ f ∈ all, f.names.find? (all.map name).contains = some f.name := by
    decide +kernel
  exact hall f f.mem_all

theorem keywordValue?_ownValues (x : Settings) :
    keywordValue? x.ownValues =
      Option.map x.ownValue ∘ fun name =>
        Field.all.find? fun g => Text.lower g.name == Text.lower name := by
  funext name
  unfold keywordValue? ownValues
  rw [List.find?_map, Option.map_map]
  rfl

theorem keyword?_ownValues (x : Settings) (f : Field) :
    keyword? x.ownValues f = some ⟨f.name, x.ownValue f⟩ := by
  have hnames : x.ownValues.names = Field.all.map Field.name := List.map_map
  have hvalue : f.names.findSome? (keywordValue? x.ownValues) = some (x.ownValue f) := by
    rw [keywordValue?_ownValues, ← List.map_findSome?, f.find?_name]
    rfl
  unfold keyword? keywordName
  rw [hvalue, hnames, f.find?_contains]
  rfl

section Reload

variable (x : Settings) (environment : Bindings String) (file : Source)

theorem raw?_ofSettings (f : Field) :
    (Sources.ofSettings x environment file).raw? f = some ⟨f.name, x.ownValue f⟩ := by
  unfold Sources.raw? Sources.ofSettings
  rw [keyword?_ownValues]

theorem setting_ofSettings {α : Type} (f : Field) (check : Value → Except Cause α) (default : α) :
    (Sources.ofSettings x environment file).setting f check default =
      (check (x.ownValue f)).mapError fun cause => [⟨some f.name, cause⟩] := by
  unfold Sources.setting
  rw [raw?_ofSettings]
  dsimp only
  cases check (x.ownValue f) <;> rfl

theorem credential_ofSettings (f : Field) :
    (Sources.ofSettings x environment file).credential f =
      (checkCredential f (x.ownValue f)).mapError fun cause => [⟨some f.name, cause⟩] := by
  unfold Sources.credential
  rw [raw?_ofSettings]
  dsimp only
  cases checkCredential f (x.ownValue f) <;> rfl

end Reload

/-! ### Checking a value again -/

theorem checkCredential_secret (f : Field) {t : String} (h : Text.isBlankText t = false) :
    checkCredential f (.secret t) = .ok t := by
  rw [checkCredential_eq]
  show (if Text.isBlankText t = true then _ else _) = _
  rw [if_neg (Bool.eq_false_iff.1 h)]

theorem checkTargetField_text {t : String} (h : IsTrimmed t) :
    checkTargetField (.text t) = .ok t := by
  dsimp only [checkTargetField, checkText, bind, Except.bind]
  rw [h.2, if_neg fun hempty => h.1 (String.isEmpty_iff.1 hempty)]

theorem checkTimeout_float {t : Binary64} (h : t.isPositive = true) :
    checkTimeout (.float t) = .ok t := by
  dsimp only [checkTimeout, checkNumber, bind, Except.bind]
  rw [if_pos h]

theorem checkLogLevel_name (l : Log.Level) : checkLogLevel (.text l.name) = .ok l := by
  cases l <;> decide +kernel

/-- Loaded from their own values, settings come out as they are, except that the address is checked
again. -/
theorem load_ofSettings {s : Sources} {x : Settings} (h : load s = .ok x)
    (environment : Bindings String) (file : Source) :
    load (.ofSettings x environment file) =
      ((checkBaseUrl (.text x.baseUrl)).mapError fun cause =>
        [⟨some Field.baseUrl.name, cause⟩]).map fun url => { x with baseUrl := url } := by
  have hformed := wellFormed_of_load h
  have hx := invariant_of_load h
  have hpositive : x.timeout.isPositive = true := Binary64.isPositive_iff.2 hx.timeout.2
  unfold load Sources.draft
  simp only [setting_ofSettings, credential_ofSettings, ownValue]
  rw [checkCredential_secret _ hformed.githubToken, checkCredential_secret _ hformed.targetToken,
    checkTargetField_text hx.owner.1, checkTargetField_text hx.repository.1,
    checkTargetField_text hx.workflowFile.1, checkTargetField_text hx.ref,
    checkTimeout_float hpositive, checkLogLevel_name]
  cases checkBaseUrl (.text x.baseUrl) with
  | error cause => rfl
  | ok url =>
    show Draft.complete ⟨x.githubToken, x.targetToken, url, x.target.owner.text,
      x.target.repository.text, x.target.workflowFile.text, x.target.ref.text, x.timeout,
      x.logLevel⟩ = _
    unfold Draft.complete
    dsimp only
    rw [x.target.make_text]
    rfl

theorem load_ofSettings_eq_self_iff {s : Sources} {x : Settings} (h : load s = .ok x)
    (environment : Bindings String) (file : Source) :
    load (.ofSettings x environment file) = .ok x ↔ ¬ EndsBlank x.baseUrl := by
  rw [load_ofSettings h, ← checkBaseUrl_eq_self_iff (invariant_of_load h).baseUrl]
  cases checkBaseUrl (.text x.baseUrl) with
  | error cause => exact ⟨nofun, nofun⟩
  | ok url =>
    constructor
    · intro hsame
      exact congrArg Except.ok (congrArg baseUrl (Except.ok.inj hsame))
    · intro hurl
      rw [Except.ok.inj hurl]
      rfl

/-- An address that loads has no blank in front and no slash behind it.  It ends in a blank exactly
if the given text has one in front of its last slashes, and just then loading the settings again
from their own values does not give them back.  What is refused as empty is a text of slashes with
blanks around them. -/
theorem baseUrl_of_load {s : Sources} {x : Settings} (h : load s = .ok x) :
    IsBase x.baseUrl ∧
    (EndsBlank x.baseUrl ↔ ∃ filed text, s.raw? .baseUrl = some filed ∧
      checkText filed.value = .ok text ∧ HasGap text) ∧
    (∀ environment file, load (.ofSettings x environment file) =
      ((checkBaseUrl (.text x.baseUrl)).mapError fun cause =>
        [⟨some Field.baseUrl.name, cause⟩]).map fun url => { x with baseUrl := url }) ∧
    (∀ environment file,
      load (.ofSettings x environment file) = .ok x ↔ ¬ EndsBlank x.baseUrl) ∧
    ∀ text, checkBaseUrl (.text text) = .error .baseUrlEmpty ↔ IsVoid text :=
  ⟨(invariant_of_load h).baseUrl, endsBlank_baseUrl_iff h, load_ofSettings h,
    load_ofSettings_eq_self_iff h, checkBaseUrl_text_eq_error_iff⟩

/-- The blank in front of the two slashes stays. -/
theorem baseUrl_of_ragged :
    load raggedSources = .ok raggedSettings ∧ EndsBlank raggedSettings.baseUrl ∧
      ∀ environment file, load (.ofSettings raggedSettings environment file) =
        .ok { raggedSettings with baseUrl := "https://host/api" } := by
  refine ⟨load_raggedSources, ⟨' ', by decide, by decide⟩, fun environment file => ?_⟩
  rw [(baseUrl_of_load load_raggedSources).2.2.1 environment file]
  decide +kernel

/-- The address is a blank between two slashes. -/
def gappedSources : Sources := .ofEnvironment (withCredentials [("GITHUB_BASE_URL", "/ /")])

def gappedSettings : Settings :=
  { githubToken := "ambient"
    targetToken := "scoped"
    baseUrl := "/ "
    target :=
      { owner := ⟨"r-nacos", by decide, by decide⟩
        repository := ⟨"docs", by decide, by decide⟩
        workflowFile := ⟨"update_change_log.yaml", by decide, by decide⟩
        ref := ⟨"master", by decide⟩ }
    timeout := defaultTimeout
    logLevel := .info }

theorem load_gappedSources : load gappedSources = .ok gappedSettings := by
  decide +kernel

/-- Not every address that loads is trimmed at its end, not all settings load again from their own
values, and not every text of slashes and blanks is refused as empty. -/
theorem not_baseUrl_of_gapped :
    (¬ ∀ (s : Sources) (x : Settings), load s = .ok x → ¬ EndsBlank x.baseUrl) ∧
    (¬ ∀ (s : Sources) (x : Settings), load s = .ok x → load (.ofSettings x [] []) = .ok x) ∧
    ¬ ∀ text : String, (∀ c ∈ text.toList, c = '/' ∨ Text.isBlank c = true) →
      checkBaseUrl (.text text) = .error .baseUrlEmpty := by
  refine ⟨fun hall => ?_, fun hall => ?_, fun hall => ?_⟩
  · exact hall gappedSources gappedSettings load_gappedSources ⟨' ', by decide, by decide⟩
  · have hload := hall gappedSources gappedSettings load_gappedSources
    revert hload
    decide +kernel
  · have htext : ∀ c ∈ ['/', ' ', '/'], c = '/' ∨ Text.isBlank c = true := by
      rw [List.forall_mem_cons, List.forall_mem_cons, List.forall_mem_singleton]
      exact ⟨.inl rfl, .inr (by decide), .inl rfl⟩
    have hrefused := hall "/ /" htext
    revert hrefused
    decide +kernel

end Settings
end WorkflowDispatch
