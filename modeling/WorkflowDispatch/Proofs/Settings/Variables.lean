import WorkflowDispatch.Proofs.Settings.Source
import WorkflowDispatch.Settings.Load
/-!
Which variables of the environment configure a run.  Besides the variables that are meant for a
setting its own name is read.  For four settings that is one of their variables in small letters, and
the other five have a further name that nobody meant to be a variable.
-/

namespace WorkflowDispatch
namespace Settings

variable {f : Field} {e e' : Bindings String}

/-- The settings that are found under a name that is none of their variables. -/
def bareFields : List Field := [.owner, .repository, .workflowFile, .ref, .timeout]

theorem otherVariables_of_mem_bareFields : ∀ f ∈ bareFields, f.otherVariables = [] := by decide

theorem lower_name_of_not_mem_bareFields (h : f ∉ bareFields) :
    ∃ name ∈ f.variableNames, Text.lower f.name = Text.lower name := by
  have hall : ∀ g ∈ Field.all, g ∉ bareFields →
      ∃ name ∈ g.variableNames, Text.lower g.name = Text.lower name := by
    decide +kernel
  exact hall f (by cases f <;> decide) h

/-! ## One environment alone -/

/-- The settings are taken from the environment and from nothing else. -/
def Sources.ofEnvironment (e : Bindings String) : Sources := ⟨[], e, []⟩

theorem raw?_ofEnvironment (e : Bindings String) (f : Field) :
    (Sources.ofEnvironment e).raw? f =
      ((Source.ofEnvironment e).filed? f).map fun filed => ⟨filed.name, .text filed.value⟩ := by
  have hkeyword : keyword? [] f = none := keyword?_eq_none_iff.2 fun _ hk => by cases hk
  have hfirst : Source.first? [] f.variableNames = none :=
    List.findSome?_eq_none_iff.2 fun _ _ => rfl
  have hname : Source.value? [] f.name = none := rfl
  unfold Sources.raw? Sources.ofEnvironment
  rw [hkeyword, merged?_eq, hfirst, hname, Option.or_none, Option.or_none, Source.filed?_eq]

theorem filed?_of_mem_bareFields (hf : f ∈ bareFields) (source : Source) :
    source.filed? f =
      ((source.value? f.mainVariable).map (⟨f.mainVariable, ·⟩)).or
        ((source.value? f.name).map (⟨f.name, ·⟩)) := by
  have hmain : source.first? f.variableNames = source.value? f.mainVariable := by
    unfold Source.first? Field.variableNames
    rw [otherVariables_of_mem_bareFields f hf, List.findSome?_singleton]
  rw [source.filed?_eq, hmain]

theorem filed?_of_not_mem_bareFields (hf : f ∉ bareFields) (source : Source) :
    source.filed? f = (source.first? f.variableNames).map (⟨f.mainVariable, ·⟩) := by
  obtain ⟨name, hmem, hlower⟩ := lower_name_of_not_mem_bareFields hf
  rw [source.filed?_eq]
  cases hfirst : source.first? f.variableNames with
  | some v => rfl
  | none =>
    have hname : source.value? name = none := List.findSome?_eq_none_iff.1 hfirst name hmem
    rw [source.value?_congr hlower, hname]
    rfl

/-! ## The variables that are read -/

/-- The same value for every variable of a setting. -/
def AgreeOnVariables (e e' : Bindings String) : Prop :=
  ∀ f : Field, ∀ name ∈ f.variableNames,
    (Source.ofEnvironment e).value? name = (Source.ofEnvironment e').value? name

/-- The same value for the name of every setting that has a further name, as long as there is none
for its variable. -/
def AgreeOnNames (e e' : Bindings String) : Prop :=
  ∀ f ∈ bareFields, (Source.ofEnvironment e).value? f.mainVariable = none →
    (Source.ofEnvironment e).value? f.name = (Source.ofEnvironment e').value? f.name

theorem filed?_congr (h : AgreeOnVariables e e') (hname : AgreeOnNames e e') (f : Field) :
    (Source.ofEnvironment e).filed? f = (Source.ofEnvironment e').filed? f := by
  by_cases hf : f ∈ bareFields
  · -- The further name counts only behind the variable, so agreement is needed only there.
    have hmain := h f f.mainVariable List.mem_cons_self
    rw [filed?_of_mem_bareFields hf, filed?_of_mem_bareFields hf, ← hmain]
    cases hvalue : (Source.ofEnvironment e).value? f.mainVariable with
    | some v => rfl
    | none => rw [hname f hf hvalue]
  · have hfirst : (Source.ofEnvironment e).first? f.variableNames =
        (Source.ofEnvironment e').first? f.variableNames := findSome?_congr (h f)
    rw [filed?_of_not_mem_bareFields hf, filed?_of_not_mem_bareFields hf, hfirst]

theorem load_congr {s s' : Sources} (h : ∀ f, s.raw? f = s'.raw? f) : load s = load s' := by
  have hsetting : ∀ (f : Field) (α : Type) (check : Value → Except Cause α) (default : α),
      s.setting f check default = s'.setting f check default := by
    intro f α check default
    unfold Sources.setting
    rw [h f]
  have hcredential : ∀ f, s.credential f = s'.credential f := by
    intro f
    unfold Sources.credential
    rw [h f]
  unfold load Sources.draft
  simp only [hsetting, hcredential]

/-- Nothing in the environment matters but the variables of the settings and five further names.
Such a name is read whenever the variable of its setting has no value. -/
theorem load_ofEnvironment (e e' : Bindings String) :
    (AgreeOnVariables e e' → AgreeOnNames e e' →
      load (.ofEnvironment e) = load (.ofEnvironment e')) ∧
    ∀ f ∈ bareFields, (Source.ofEnvironment e).value? f.mainVariable = none →
      (Sources.ofEnvironment e).raw? f =
        ((Source.ofEnvironment e).value? f.name).map fun v => ⟨f.name, .text v⟩ := by
  constructor
  · intro h hname
    refine load_congr fun f => ?_
    rw [raw?_ofEnvironment, raw?_ofEnvironment, filed?_congr h hname f]
  · intro f hf hmain
    rw [raw?_ofEnvironment, filed?_of_mem_bareFields hf, hmain, Option.map_none, Option.none_or,
      Option.map_map]
    rfl

/-- The two credentials and what else there is. -/
def withCredentials (rest : Bindings String) : Bindings String :=
  ("GH_TOKEN", "ambient") :: ("TARGET_REPO_PAT", "scoped") :: rest

theorem load_of_branch :
    load (.ofEnvironment (withCredentials [("DISPATCH_REF", "main")])) =
      load (.ofEnvironment (withCredentials [("ref", "other"), ("dispatch_ref", "main"),
        ("GITHUB_REF", "third")])) ∧
    (Sources.ofEnvironment (withCredentials [("REF", "other")])).raw? .ref =
      some ⟨"ref", .text "other"⟩ := by
  constructor
  · refine (load_ofEnvironment _ _).1 ?_ ?_
    · intro f
      cases f
      all_goals decide +kernel
    · unfold AgreeOnNames
      decide +kernel
  · have hvalue : (Source.ofEnvironment (withCredentials [("REF", "other")])).value? "ref" =
        some "other" := by decide +kernel
    have hraw := (load_ofEnvironment (withCredentials [("REF", "other")]) []).2 .ref (by decide)
      (by decide +kernel)
    exact hraw.trans (congrArg _ hvalue)

/-- Not every variable that can change the settings is meant for one of them. -/
theorem not_load_of_variables :
    ¬ ∀ e e' : Bindings String, AgreeOnVariables e e' →
      load (.ofEnvironment e) = load (.ofEnvironment e') := by
  intro hall
  have hagree : AgreeOnVariables (withCredentials []) (withCredentials [("REF", "other")]) := by
    intro f
    cases f
    all_goals decide +kernel
  have hload := hall _ _ hagree
  have hbranch := congrArg (fun x => x.toOption.map (·.target.ref.text)) hload
  revert hbranch
  decide +kernel

end Settings
end WorkflowDispatch
