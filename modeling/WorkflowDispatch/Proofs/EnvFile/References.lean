import Mathlib.Data.List.Basic
import WorkflowDispatch.EnvFile.Read
/-!
What a settings file takes from the environment: the values of the names that it refers to.
-/

namespace WorkflowDispatch
namespace EnvFile

def Part.name? : Part → Option String
  | .character _ => none
  | .reference name _ => some name

/-- The names that a value refers to, in the order of the references. -/
def references (value : String) : List String := (parts value.toList).filterMap Part.name?

def assignmentReferences (assignments : List Assignment) : List String :=
  assignments.flatMap fun a => references (a.2.getD "")

/-- The names that the values of a file refer to.  A file that cannot be read refers to none. -/
def fileReferences (bytes : List UInt8) : List String :=
  match Text.decodeUtf8 bytes with
  | .ok text =>
    assignmentReferences
      (statements (String.ofList (withoutMark (unifyLineBreaks text.toList)))).1
  | .error _ => []

/-! ## The environment matters for these names only -/

theorem resolveText_congr {lookup lookup' : String → Option (Option String)} {value : String}
    (h : ∀ name ∈ references value, lookup name = lookup' name) :
    resolveText lookup value = resolveText lookup' value := by
  have hpart : ∀ p ∈ parts value.toList, p.resolve lookup = p.resolve lookup' := by
    intro p hp
    cases p with
    | character c => rfl
    | reference name default =>
      have hname : name ∈ references value := List.mem_filterMap.2 ⟨_, hp, rfl⟩
      simp only [Part.resolve, h name hname]
  unfold resolveText
  rw [List.map_congr_left hpart]

theorem visible_congr {e e' : Bindings String} {name : String}
    (h : e.get? name = e'.get? name) (values : Bindings (Option String)) :
    visible e values name = visible e' values name := by
  unfold visible
  rw [h]

theorem resolve_congr {e e' : Bindings String} {assignments : List Assignment}
    (h : ∀ name ∈ assignmentReferences assignments, e.get? name = e'.get? name) :
    resolve e assignments = resolve e' assignments := by
  unfold resolve
  -- Both sides have the same values above an assignment, so only the environment counts.
  refine List.foldl_ext _ _ _ ?_
  intro values a ha
  cases hvalue : a.2 with
  | none => rfl
  | some value =>
    have htext : resolveText (visible e values) value = resolveText (visible e' values) value := by
      refine resolveText_congr fun name hname => visible_congr (h name ?_) values
      refine List.mem_flatMap.2 ⟨a, ha, ?_⟩
      rw [hvalue]
      exact hname
    rw [Option.map_some, Option.map_some, htext]

theorem Content.ofText_congr {e e' : Bindings String} {text : String}
    (h : ∀ name ∈ assignmentReferences (statements text).1, e.get? name = e'.get? name) :
    Content.ofText e text = Content.ofText e' text := by
  show Content.mk (resolve e (statements text).1) _ = Content.mk (resolve e' (statements text).1) _
  rw [resolve_congr h]

theorem Content.ofBytes_congr {e e' : Bindings String} {bytes : List UInt8}
    (h : ∀ name ∈ fileReferences bytes, e.get? name = e'.get? name) :
    Content.ofBytes e bytes = Content.ofBytes e' bytes := by
  unfold ofBytes
  unfold fileReferences at h
  cases hdecode : Text.decodeUtf8 bytes with
  | error fault => rfl
  | ok text =>
    rw [hdecode] at h
    exact congrArg Except.ok (ofText_congr h)

end EnvFile
end WorkflowDispatch
