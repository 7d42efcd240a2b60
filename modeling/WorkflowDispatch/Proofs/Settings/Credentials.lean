import WorkflowDispatch.Proofs.Settings.Loaded
import WorkflowDispatch.Proofs.Settings.Source
/-!
Settings from environments that differ in their credentials only.  Of a credential nothing is used
but whether it is blank: the complaints are the same, and loaded settings differ in nothing but the
credentials themselves.
-/

namespace WorkflowDispatch
namespace Settings

/-- The names in small letters that credentials are found under. -/
def credentialNames : List String := ["gh_token", "github_token", "target_repo_pat"]

def isCredentialName (name : String) : Bool := credentialNames.contains (Text.lower name)

def Field.isCredential : Field → Bool
  | .githubToken => true
  | .targetToken => true
  | _ => false

theorem isCredentialName_of_mem_names (f : Field) :
    ∀ name ∈ f.names, isCredentialName name = f.isCredential := by
  cases f
  all_goals decide

/-! ## Entries -/

/-- Two texts that may differ if they are credentials, where both are blank or neither is. -/
structure TextAlike (secret : Bool) (v v' : String) : Prop where
  blank : Text.isBlankText v = Text.isBlankText v'
  value : secret = false → v = v'

/-- Two entries of an environment that differ in nothing but a credential. -/
structure EntryAlike (b b' : String × String) : Prop where
  name : b.1 = b'.1
  value : TextAlike (isCredentialName b.1) b.2 b'.2

theorem TextAlike.refl (secret : Bool) (v : String) : TextAlike secret v v := ⟨rfl, fun _ => rfl⟩

theorem get?_congr {e e' : Bindings String} (h : List.Forall₂ EntryAlike e e') {name : String}
    (hname : isCredentialName name = false) : e.get? name = e'.get? name := by
  induction h with
  | nil => rfl
  | @cons b b' _ _ hb _ ih =>
    rw [Bindings.get?, Bindings.get?, ← hb.name, ih]
    by_cases hn : b.1 = name
    · rw [if_pos hn, if_pos hn, hb.value.value (hn ▸ hname)]
    · rw [if_neg hn, if_neg hn]

/-! ## Sources -/

/-- Two sources that give alike values for every name. -/
def Source.Alike (source source' : Source) : Prop :=
  ∀ name, Option.Rel (TextAlike (isCredentialName name)) (source.value? name)
    (source'.value? name)

theorem Source.Alike.refl (source : Source) : source.Alike source := by
  intro name
  cases source.value? name with
  | none => exact .none
  | some v => exact .some (.refl _ v)

theorem forall₂_filter {e e' : Bindings String} (h : List.Forall₂ EntryAlike e e')
    (name : String) :
    List.Forall₂ (fun b b' => TextAlike (isCredentialName name) b.2 b'.2)
      (e.filter (fun b => Text.lower b.1 == Text.lower name))
      (e'.filter (fun b => Text.lower b.1 == Text.lower name)) := by
  induction h with
  | nil => exact .nil
  | @cons b b' _ _ hb _ ih =>
    rw [List.filter_cons, List.filter_cons, ← hb.name]
    by_cases hn : (Text.lower b.1 == Text.lower name) = true
    · -- An entry that is kept is a credential exactly when the name asked for is one.
      have hvalue := hb.value
      rw [isCredentialName, beq_iff_eq.1 hn] at hvalue
      rw [if_pos hn, if_pos hn]
      exact .cons hvalue ih
    · rw [if_neg hn, if_neg hn]
      exact ih

theorem Source.alike_ofEnvironment {e e' : Bindings String} (h : List.Forall₂ EntryAlike e e') :
    (Source.ofEnvironment e).Alike (.ofEnvironment e') := by
  intro name
  rw [Source.value?_ofEnvironment, Source.value?_ofEnvironment]
  exact rel_map (rel_getLast? (forall₂_filter h name)) fun _ _ hb => hb

/-- Two filed values with one name. -/
structure FiledAlike (secret : Bool) (a a' : Filed String) : Prop where
  name : a.name = a'.name
  value : TextAlike secret a.value a'.value

variable {f : Field}

theorem Source.Alike.filed? {source source' : Source} (h : source.Alike source') :
    Option.Rel (FiledAlike f.isCredential) (source.filed? f) (source'.filed? f) := by
  refine rel_findSome? (List.forall₂_same.2 fun name hname => ?_)
  refine rel_map (h name) fun v v' hv => ?_
  rw [isCredentialName_of_mem_names f name hname] at hv
  exact ⟨rfl, hv⟩

theorem rel_filter_name {a a' : Option (Filed String)} {secret : Bool}
    (h : Option.Rel (FiledAlike secret) a a') (name : String) :
    Option.Rel (FiledAlike secret) (a.filter (·.name == name)) (a'.filter (·.name == name)) := by
  cases h with
  | none => exact .none
  | @some b b' hb =>
    rw [Option.filter_some, Option.filter_some, ← hb.name]
    by_cases hn : (b.name == name) = true
    · rw [if_pos hn, if_pos hn]
      exact .some hb
    · rw [if_neg hn, if_neg hn]
      exact .none

theorem merged?_alike {first first' second second' : Source} (h : first.Alike first')
    (h' : second.Alike second') :
    Option.Rel (FiledAlike f.isCredential) (merged? first second f)
      (merged? first' second' f) := by
  refine rel_findSome? (List.forall₂_same.2 fun name _ => ?_)
  have hfirst := rel_filter_name (h.filed? (f := f)) name
  have hsecond := rel_filter_name (h'.filed? (f := f)) name
  exact rel_findSome? (.cons hfirst (.cons hsecond .nil))

/-- The sources of two runs with the same keywords and the same file. -/
structure Sources.Alike (s s' : Sources) : Prop where
  keywords : s.keywords = s'.keywords
  environment : List.Forall₂ EntryAlike s.environment s'.environment
  file : s.file = s'.file

/-- Values before they are checked: the same, or two texts that are alike. -/
inductive RawAlike (secret : Bool) : Filed Value → Filed Value → Prop where
  | same (a : Filed Value) : RawAlike secret a a
  | texts {a a' : Filed String} (h : FiledAlike secret a a') :
      RawAlike secret ⟨a.name, .text a.value⟩ ⟨a'.name, .text a'.value⟩

theorem RawAlike.eq {a a' : Filed Value} (h : RawAlike false a a') : a = a' := by
  cases h with
  | same => rfl
  | texts h => rw [h.name, h.value.value rfl]

theorem Sources.Alike.raw? {s s' : Sources} (h : s.Alike s') :
    Option.Rel (RawAlike f.isCredential) (s.raw? f) (s'.raw? f) := by
  unfold Sources.raw?
  rw [← h.keywords]
  cases keyword? s.keywords f with
  | some filed => exact .some (.same filed)
  | none =>
    rw [← h.file]
    refine rel_map ?_ fun a a' => RawAlike.texts
    exact merged?_alike (Source.alike_ofEnvironment h.environment) (.refl s.file)

/-! ## Checked results -/

/-- The same complaints, or related results. -/
inductive Checked.Rel {α : Type} (R : α → α → Prop) : Checked α → Checked α → Prop where
  | ok {a a' : α} (h : R a a') : Rel R (.ok a) (.ok a')
  | error (e : List Complaint) : Rel R (.error e) (.error e)

namespace Checked

variable {α β : Type} {R : α → α → Prop} {S : β → β → Prop} {a a' : Checked α} {b b' : Checked β}

theorem Rel.of_eq (h : a = a') : Rel Eq a a' := by
  rw [← h]
  cases a with
  | ok x => exact .ok rfl
  | error e => exact .error e

theorem Rel.both (ha : Rel R a a') (hb : Rel S b b') :
    Rel (fun p p' => R p.1 p'.1 ∧ S p.2 p'.2) (a.both b) (a'.both b') := by
  cases ha with
  | ok ha =>
    cases hb with
    | ok hb => exact .ok ⟨ha, hb⟩
    | error e => exact .error e
  | error e =>
    cases hb with
    | ok hb => exact .error e
    | error e' => exact .error (e ++ e')

theorem Rel.map {g : α → β} (ha : Rel R a a') (hg : ∀ x x', R x x' → S (g x) (g x')) :
    Rel S (Except.map g a) (Except.map g a') := by
  cases ha with
  | ok h => exact .ok (hg _ _ h)
  | error e => exact .error e

theorem Rel.bind {g : α → Checked β} (ha : Rel R a a') (hg : ∀ x x', R x x' → Rel S (g x) (g x')) :
    Rel S (a >>= g) (a' >>= g) := by
  cases ha with
  | ok h => exact hg _ _ h
  | error e => exact .error e

end Checked

/-! ## Loading -/

theorem Sources.Alike.setting {s s' : Sources} (h : s.Alike s') (hf : f.isCredential = false)
    {α : Type} (check : Value → Except Cause α) (default : α) :
    Checked.Rel Eq (s.setting f check default) (s'.setting f check default) := by
  have hraw := h.raw? (f := f)
  rw [hf] at hraw
  refine .of_eq ?_
  unfold Sources.setting
  generalize s.raw? f = a, s'.raw? f = a' at hraw
  cases hraw with
  | none => rfl
  | some ha => rw [ha.eq]

theorem checkCredential_text (v : String) :
    checkCredential f (.text v) =
      if Text.isBlankText v then .error (.credentialMissing f) else .ok v := rfl

/-- A credential is missed from both sources or from neither. -/
theorem Sources.Alike.credential {s s' : Sources} (h : s.Alike s') (f : Field) :
    Checked.Rel (fun _ _ => True) (s.credential f) (s'.credential f) := by
  have hraw := h.raw? (f := f)
  unfold Sources.credential
  generalize s.raw? f = a, s'.raw? f = a' at hraw
  cases hraw with
  | none => exact .error _
  | @some b _ hb =>
    cases hb with
    | same =>
      dsimp only
      cases checkCredential f b.value with
      | ok v => exact .ok trivial
      | error cause => exact .error _
    | @texts a a' ha =>
      dsimp only
      rw [checkCredential_text, checkCredential_text, ← ha.value.blank, ← ha.name]
      cases Text.isBlankText a.value with
      | true => exact .error _
      | false => exact .ok trivial

/-- Drafts that differ in nothing but their credentials. -/
def Draft.Alike (d d' : Draft) : Prop :=
  ∃ githubToken targetToken, d' = { d with githubToken, targetToken }

theorem Sources.Alike.draft {s s' : Sources} (h : s.Alike s') :
    Checked.Rel Draft.Alike s.draft s'.draft := by
  have hall := (h.credential .githubToken)
    |>.both (h.credential .targetToken)
    |>.both (h.setting (f := .baseUrl) rfl checkBaseUrl defaultBaseUrl)
    |>.both (h.setting (f := .owner) rfl checkTargetField Target.defaultOwner)
    |>.both (h.setting (f := .repository) rfl checkTargetField Target.defaultRepository)
    |>.both (h.setting (f := .workflowFile) rfl checkTargetField Target.defaultWorkflowFile)
    |>.both (h.setting (f := .ref) rfl checkTargetField Target.defaultRef)
    |>.both (h.setting (f := .timeout) rfl checkTimeout defaultTimeout)
    |>.both (h.setting (f := .logLevel) rfl checkLogLevel defaultLogLevel)
  refine hall.map ?_
  rintro ⟨⟨⟨⟨⟨⟨⟨⟨g, t⟩, url⟩, owner⟩, repository⟩, workflowFile⟩, ref⟩, timeout⟩, logLevel⟩ p' hp
  obtain ⟨⟨⟨⟨⟨⟨⟨⟨g', t'⟩, _⟩, _⟩, _⟩, _⟩, _⟩, _⟩, _⟩ := p'
  obtain ⟨⟨⟨⟨⟨⟨⟨-, rfl⟩, rfl⟩, rfl⟩, rfl⟩, rfl⟩, rfl⟩, rfl⟩ := hp
  exact ⟨g', t', rfl⟩

/-- Settings that differ in nothing but their credentials. -/
def Alike (x x' : Settings) : Prop :=
  ∃ githubToken targetToken, x' = { x with githubToken, targetToken }

theorem Draft.Alike.complete {d d' : Draft} (h : d.Alike d') :
    Checked.Rel Settings.Alike d.complete d'.complete := by
  obtain ⟨githubToken, targetToken, rfl⟩ := h
  unfold Draft.complete
  dsimp only
  cases Target.make (some d.owner) (some d.repository) (some d.workflowFile) (some d.ref) with
  | error e => exact .error _
  | ok target => exact .ok ⟨githubToken, targetToken, rfl⟩

theorem Sources.Alike.load {s s' : Sources} (h : s.Alike s') :
    Checked.Rel Settings.Alike (load s) (load s') :=
  h.draft.bind fun _ _ hd => hd.complete

end Settings
end WorkflowDispatch
