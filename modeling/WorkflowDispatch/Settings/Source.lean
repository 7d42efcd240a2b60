import WorkflowDispatch.Bindings
import WorkflowDispatch.Settings.Field
import WorkflowDispatch.Text.Case
import WorkflowDispatch.Value.Basic
/-!
Where the value of a setting comes from.  The keywords of the caller come before the environment,
and the environment comes before the settings file.  Each source files its value for a setting
under a name, and between the two last sources the filed name decides before the source does.
-/

namespace WorkflowDispatch
namespace Settings

/-- A value and the name under which it was filed. -/
structure Filed (α : Type) where
  name : String
  value : α

/-- Names that may have no value. -/
abbrev Source := Bindings (Option String)

/-- The sources in the order of their rank. -/
structure Sources where
  keywords : Bindings Value
  environment : Bindings String
  file : Source

def Source.ofEnvironment (environment : Bindings String) : Source :=
  environment.map (fun b => (b.1, some b.2))

/-- The value of the last entry whose name is `name` in letters of any case.  An entry without a
value hides those before it. -/
def Source.value? (source : Source) (name : String) : Option String :=
  match (source.filter (fun b => Text.lower b.1 == Text.lower name)).getLast? with
  | some b => b.2
  | none => none

/-- A value that was found under any variable of a setting is filed under the first of them. -/
def filedName (f : Field) (name : String) : String :=
  if name = f.name then f.name else f.mainVariable

def Source.filed? (source : Source) (f : Field) : Option (Filed String) :=
  f.names.findSome? fun name => (source.value? name).map (⟨filedName f name, ·⟩)

/-- The values that two sources have filed for a setting: under the variable before under the name
of the setting, and for one name the first source before the second. -/
def merged? (first second : Source) (f : Field) : Option (Filed String) :=
  [f.mainVariable, f.name].findSome? fun name =>
    [first, second].findSome? fun source => (source.filed? f).filter (·.name == name)

/-- The value of the first keyword that is `name` in letters of any case. -/
def keywordValue? (keywords : Bindings Value) (name : String) : Option Value :=
  (keywords.find? (fun k => Text.lower k.1 == Text.lower name)).map (·.2)

/-- A keyword is filed under the name that the caller gave when that is exactly a name of the
setting, and under the first variable otherwise. -/
def keywordName (keywords : Bindings Value) (f : Field) : String :=
  (f.names.find? keywords.names.contains).getD f.mainVariable

def keyword? (keywords : Bindings Value) (f : Field) : Option (Filed Value) :=
  (f.names.findSome? (keywordValue? keywords)).map (⟨keywordName keywords f, ·⟩)

/-- The value for a setting before it is checked, if there is one. -/
def Sources.raw? (s : Sources) (f : Field) : Option (Filed Value) :=
  match keyword? s.keywords f with
  | some filed => some filed
  | none =>
    (merged? (.ofEnvironment s.environment) s.file f).map fun filed =>
      ⟨filed.name, .text filed.value⟩

end Settings
end WorkflowDispatch
