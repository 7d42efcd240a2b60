import WorkflowDispatch.Proofs.EnvFile.Quoted
import WorkflowDispatch.Proofs.Run.Dispatch
import WorkflowDispatch.Proofs.Settings.Variables
/-!
A settings file stands for the environment that it describes.  Main statement: values for variables
of the settings come to the same settings or to the same complaints whether they stand in the
environment or, one line for each in single quotes, in the settings file.
-/

namespace WorkflowDispatch
namespace Settings

/-- The variables that are meant for settings. -/
def knownVariables : List String := Field.all.flatMap Field.variableNames

theorem isPlainName_of_mem_knownVariables {name : String} (h : name ∈ knownVariables) :
    EnvFile.IsPlainName name := by
  have hall : (knownVariables.all fun name => !name.toList.isEmpty &&
      name.toList.all EnvFile.isNameChar && name.toList.head? != some EnvFile.singleQuote &&
      name.toList.head? != some EnvFile.byteOrderMark) = true := by
    decide +kernel
  have hname := List.all_eq_true.1 hall name h
  simp only [Bool.and_eq_true, Bool.not_eq_true', List.isEmpty_eq_false_iff, List.all_eq_true,
    bne_iff_ne] at hname
  obtain ⟨⟨⟨hempty, hchars⟩, hquote⟩, hmark⟩ := hname
  exact ⟨hempty, hchars, hquote, hmark⟩

/-- The settings are taken from a settings file and from nothing else. -/
def Sources.ofFile (file : Source) : Sources := ⟨[], [], file⟩

theorem raw?_ofFile (e : Bindings String) (f : Field) :
    (Sources.ofFile (.ofEnvironment e)).raw? f = (Sources.ofEnvironment e).raw? f := by
  have hkeyword : keyword? [] f = none := keyword?_eq_none_iff.2 fun _ hk => by cases hk
  have hfirst : Source.first? (.ofEnvironment []) f.variableNames = none :=
    List.findSome?_eq_none_iff.2 fun _ _ => rfl
  have hname : Source.value? (.ofEnvironment []) f.name = none := rfl
  rw [raw?_ofEnvironment]
  unfold Sources.raw? Sources.ofFile
  rw [hkeyword, merged?_eq, hfirst, hname, Option.none_or, Option.none_or, Source.filed?_eq]

theorem load_ofFile (e : Bindings String) :
    load (.ofFile (.ofEnvironment e)) = load (.ofEnvironment e) :=
  load_congr (raw?_ofFile e)

end Settings

namespace Run

/-- Surroundings without variables, with a settings file that gives each name its value. -/
def writtenDown (pairs : List (String × String)) (lastBreak : Bool) (now : Timestamp) :
    Surroundings :=
  { environment := []
    file := some (EnvFile.quotedFile pairs lastBreak).toUTF8.data.toList
    now }

/-- Surroundings with these variables and without a settings file. -/
def exported (pairs : List (String × String)) (now : Timestamp) : Surroundings :=
  { environment := pairs, file := none, now }

/-- A settings file does what the environment does that it describes.  No two of the variables are
the same, and a value may be any text without a carriage return in which no dollar sign stands
before an opening brace. -/
theorem load_writtenDown {pairs : List (String × String)}
    (hvariables : ∀ p ∈ pairs, p.1 ∈ Settings.knownVariables) (hnames : (Bindings.names pairs).Nodup)
    (hreturn : ∀ p ∈ pairs, '\r' ∉ p.2.toList)
    (hliteral : ∀ p ∈ pairs, ¬ ['$', EnvFile.openingBrace] <:+: p.2.toList) (lastBreak : Bool)
    (now : Timestamp) :
    ∃ content, (writtenDown pairs lastBreak now).content = .ok content ∧
      content.faults = [] ∧
      (exported pairs now).content = .ok .empty ∧
      Settings.load (sources [] (writtenDown pairs lastBreak now) content) =
        Settings.load (sources [] (exported pairs now) .empty) ∧
      ∀ n k, withSettings (writtenDown pairs lastBreak now) n k =
        withSettings (exported pairs now) n k := by
  have hplain : ∀ p ∈ pairs, EnvFile.IsPlainName p.1 := fun p hp =>
    Settings.isPlainName_of_mem_knownVariables (hvariables p hp)
  have hcontent : (writtenDown pairs lastBreak now).content =
      .ok ⟨Settings.Source.ofEnvironment pairs, []⟩ :=
    EnvFile.Content.ofBytes_quotedFile hplain hnames hreturn hliteral [] lastBreak
  have hnone : (exported pairs now).content = .ok .empty := rfl
  have hload : Settings.load (sources [] (writtenDown pairs lastBreak now)
        ⟨Settings.Source.ofEnvironment pairs, []⟩) =
      Settings.load (sources [] (exported pairs now) .empty) := Settings.load_ofFile pairs
  refine ⟨_, hcontent, rfl, hnone, hload, fun n k => ?_⟩
  rw [withSettings_of_content hcontent, withSettings_of_content hnone, hload]
  rfl

/-- Values that end in a backslash, go over lines, and look like a quote, a comment and another
statement. -/
def hostilePairs : List (String × String) :=
  [("GITHUB_TOKEN", "am\\b'ient\\"),
    ("TARGET_REPO_PAT", "sco\nLOG_LEVEL=debug # \"ped\" $ '"),
    ("LOG_LEVEL", " warn")]

theorem load_writtenDown_of_hostile :
    ∃ content, (writtenDown hostilePairs true ⟨0⟩).content = .ok content ∧ content.faults = [] ∧
      Settings.load (sources [] (writtenDown hostilePairs true ⟨0⟩) content) =
        .ok { bareSettings with
          githubToken := "am\\b'ient\\"
          targetToken := "sco\nLOG_LEVEL=debug # \"ped\" $ '"
          logLevel := .warn } := by
  have hreturn : ∀ p ∈ hostilePairs, '\r' ∉ p.2.toList := by decide +kernel
  have hliteral : ∀ p ∈ hostilePairs, ¬ ['$', EnvFile.openingBrace] <:+: p.2.toList := by
    decide +kernel
  have hvariables : ∀ p ∈ hostilePairs, p.1 ∈ Settings.knownVariables := by decide
  obtain ⟨content, hcontent, hfaults, -, hload, -⟩ :=
    load_writtenDown hvariables (by decide) hreturn hliteral true ⟨0⟩
  refine ⟨content, hcontent, hfaults, hload.trans ?_⟩
  decide +kernel

end Run
end WorkflowDispatch
