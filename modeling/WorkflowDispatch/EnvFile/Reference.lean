import WorkflowDispatch.Bindings
import WorkflowDispatch.Text.Blank
/-!
References inside the values of a settings file.  A reference names another variable, between a
dollar sign with an opening brace and a closing brace, and may give a default behind a colon and a
dash.
-/

namespace WorkflowDispatch
namespace EnvFile

inductive Part where
  | character (c : Char)
  | reference (name : String) (default : Option String)

def openingBrace : Char := Char.ofNat 0x7B

def closingBrace : Char := Char.ofNat 0x7D

/-- The reference whose opening brace has just been passed, and what follows it. -/
def readReference (cs : List Char) : Option (Part × List Char) :=
  let inName (c : Char) : Bool := c != closingBrace && c != ':'
  let name := String.ofList (cs.takeWhile inName)
  match cs.dropWhile inName with
  | ':' :: '-' :: rest =>
    match rest.dropWhile (· != closingBrace) with
    | _ :: tail =>
      some (.reference name (some (String.ofList (rest.takeWhile (· != closingBrace)))), tail)
    | [] => none
  | ':' :: _ => none
  | _ :: rest => some (.reference name none, rest)
  | [] => none

theorem length_of_readReference {cs rest : List Char} {part : Part}
    (h : readReference cs = some (part, rest)) : rest.length < cs.length := by
  have hd := Text.length_dropWhile_le (fun c => c != closingBrace && c != ':') cs
  unfold readReference at h
  dsimp only at h
  split at h
  · next tail heq =>
    rw [heq] at hd
    have ht := Text.length_dropWhile_le (· != closingBrace) tail
    split at h
    · next heq' =>
      rw [heq'] at ht
      obtain ⟨_, rfl⟩ := Prod.mk.inj (Option.some.inj h)
      simp only [List.length_cons] at hd ht
      omega
    · simp at h
  · simp at h
  · next heq =>
    rw [heq] at hd
    obtain ⟨_, rfl⟩ := Prod.mk.inj (Option.some.inj h)
    exact hd
  · simp at h

/-- A dollar sign that begins no reference stands for itself. -/
def parts : List Char → List Part
  | [] => []
  | c :: cs =>
    if c = '$' && cs.head? = some openingBrace then
      match _h : readReference (cs.drop 1) with
      | some (part, rest) => part :: parts rest
      | none => .character c :: parts cs
    else .character c :: parts cs
  termination_by cs => cs.length
  decreasing_by
    · have := length_of_readReference _h
      simp only [List.length_drop] at this
      simp only [List.length_cons]
      omega
    · simp
    · simp

/-- The text for a part.  A variable that has no value gives the default or else nothing, and a
name without a value gives nothing even if there is a default. -/
def Part.resolve (lookup : String → Option (Option String)) : Part → String
  | .character c => String.singleton c
  | .reference name default =>
    match lookup name with
    | some (some value) => value
    | some none => ""
    | none => default.getD ""

def resolveText (lookup : String → Option (Option String)) (value : String) : String :=
  String.join ((parts value.toList).map (·.resolve lookup))

/-- Variables of the file that come earlier are seen before those of the environment. -/
def visible (environment : Bindings String) (values : Bindings (Option String)) (name : String) :
    Option (Option String) :=
  match values.get? name with
  | some value => some value
  | none => (environment.get? name).map some

/-- The values of a file after its references have been replaced, each with the values that stand
above it.  A name that is given a value again keeps its place. -/
def resolve (environment : Bindings String) (assignments : List (String × Option String)) :
    Bindings (Option String) :=
  assignments.foldl
    (fun values a => values.set a.1 (a.2.map (resolveText (visible environment values)))) []

end EnvFile
end WorkflowDispatch
