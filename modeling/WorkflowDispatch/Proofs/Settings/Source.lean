import WorkflowDispatch.Proofs.Result
import WorkflowDispatch.Settings.Source
/-!
What the sources of a setting come to: the value that one source has for a name, the value that it
files, the merged value of the two last sources, and the value of the keywords.
-/

namespace WorkflowDispatch
namespace Settings

/-! ## Names -/

namespace Field

/-- All names of a setting but the last. -/
def variableNames (f : Field) : List String := f.mainVariable :: f.otherVariables

/-- The key is a name of the setting, in letters of any case. -/
def isNamedBy (f : Field) (key : String) : Bool :=
  f.names.any fun name => Text.lower key == Text.lower name

theorem names_eq (f : Field) : f.names = f.variableNames ++ [f.name] := rfl

theorem isNamedBy_iff {f : Field} {key : String} :
    f.isNamedBy key = true ↔ ∃ name ∈ f.names, Text.lower key = Text.lower name := by
  unfold isNamedBy
  rw [List.any_eq_true]
  simp only [beq_iff_eq]

end Field

variable {f : Field}

theorem filedName_of_mem_variableNames (f : Field) :
    ∀ name ∈ f.variableNames, filedName f name = f.mainVariable := by
  cases f
  all_goals decide

theorem filedName_name (f : Field) : filedName f f.name = f.name := if_pos rfl

theorem name_ne_mainVariable (f : Field) : f.name ≠ f.mainVariable := by
  cases f
  all_goals decide

/-! ## One source -/

namespace Source

theorem value?_congr (source : Source) {name name' : String}
    (h : Text.lower name = Text.lower name') : source.value? name = source.value? name' := by
  unfold value?
  rw [h]

theorem value?_of_last {name n : String} (hn : Text.lower n = Text.lower name) {behind : Source}
    (h : ∀ b ∈ behind, Text.lower b.1 ≠ Text.lower name) (before : Source) (v : Option String) :
    value? (before ++ (n, v) :: behind) name = v := by
  have hbehind : behind.filter (fun b => Text.lower b.1 == Text.lower name) = [] :=
    List.filter_eq_nil_iff.2 fun b hb => by simpa using h b hb
  unfold value?
  rw [List.filter_append, List.filter_cons, if_pos (beq_iff_eq.2 hn), hbehind,
    List.getLast?_concat]

theorem value?_ofEnvironment (e : Bindings String) (name : String) :
    (Source.ofEnvironment e).value? name =
      (e.filter (fun b => Text.lower b.1 == Text.lower name)).getLast?.map (·.2) := by
  unfold value? ofEnvironment
  rw [List.filter_map, List.getLast?_map]
  simp only [Function.comp_def]
  cases (e.filter (fun b => Text.lower b.1 == Text.lower name)).getLast? with
  | none => rfl
  | some b => rfl

/-- The value for the first of the names that has one. -/
def first? (source : Source) (names : List String) : Option String :=
  names.findSome? source.value?

theorem filed?_eq (source : Source) (f : Field) :
    source.filed? f =
      ((source.first? f.variableNames).map (⟨f.mainVariable, ·⟩)).or
        ((source.value? f.name).map (⟨f.name, ·⟩)) := by
  have hvariables : (f.variableNames.findSome? fun name =>
      (source.value? name).map (Filed.mk (filedName f name))) =
        (source.first? f.variableNames).map (Filed.mk f.mainVariable) := by
    unfold first?
    rw [List.map_findSome?]
    refine findSome?_congr fun name hname => ?_
    rw [filedName_of_mem_variableNames f name hname]
    rfl
  unfold filed?
  rw [f.names_eq, List.findSome?_append, hvariables, List.findSome?_singleton, filedName_name]

end Source

/-! ## Two sources -/

/-- What is found under a variable in either source comes before what is found under the name of
the setting. -/
theorem merged?_eq (first second : Source) (f : Field) :
    merged? first second f =
      (((first.first? f.variableNames).or (second.first? f.variableNames)).map
          (⟨f.mainVariable, ·⟩)).or
        (((first.value? f.name).or (second.value? f.name)).map (⟨f.name, ·⟩)) := by
  have hne := name_ne_mainVariable f
  unfold merged?
  simp only [findSome?_pair, Source.filed?_eq]
  generalize first.first? f.variableNames = a, second.first? f.variableNames = b
  generalize first.value? f.name = c, second.value? f.name = d
  cases a with
  | some v => simp
  | none =>
    cases b with
    | some w => cases c <;> simp [hne]
    | none => cases c <;> cases d <;> simp [hne]

/-! ## Keywords -/

theorem mem_of_keywordValue? {keywords : Bindings Value} {name : String} {v : Value}
    (h : keywordValue? keywords name = some v) :
    ∃ key, (key, v) ∈ keywords ∧ Text.lower key = Text.lower name := by
  obtain ⟨k, hk, rfl⟩ := Option.map_eq_some_iff.1 h
  have hlower : (Text.lower k.1 == Text.lower name) = true :=
    List.find?_some (p := fun k : String × Value => Text.lower k.1 == Text.lower name) hk
  exact ⟨k.1, List.mem_of_find?_eq_some hk, beq_iff_eq.1 hlower⟩

theorem mem_of_keyword? {keywords : Bindings Value} {filed : Filed Value}
    (h : keyword? keywords f = some filed) :
    ∃ key, (key, filed.value) ∈ keywords ∧ f.isNamedBy key = true := by
  obtain ⟨v, hv, rfl⟩ := Option.map_eq_some_iff.1 h
  obtain ⟨name, hname, hvalue⟩ := List.exists_of_findSome?_eq_some hv
  obtain ⟨key, hkey, hlower⟩ := mem_of_keywordValue? hvalue
  exact ⟨key, hkey, Field.isNamedBy_iff.2 ⟨name, hname, hlower⟩⟩

theorem keyword?_eq_none_iff {keywords : Bindings Value} :
    keyword? keywords f = none ↔ ∀ k ∈ keywords, f.isNamedBy k.1 = false := by
  constructor
  · intro h k hk
    have hvalues := List.findSome?_eq_none_iff.1 (Option.map_eq_none_iff.1 h)
    refine Bool.eq_false_iff.2 fun hnamed => ?_
    obtain ⟨name, hname, hlower⟩ := Field.isNamedBy_iff.1 hnamed
    have hfind := List.find?_eq_none.1 (Option.map_eq_none_iff.1 (hvalues name hname))
    exact hfind k hk (beq_iff_eq.2 hlower)
  · intro h
    cases hkeyword : keyword? keywords f with
    | none => rfl
    | some filed =>
      obtain ⟨key, hkey, hnamed⟩ := mem_of_keyword? hkeyword
      rw [h _ hkey] at hnamed
      cases hnamed

end Settings
end WorkflowDispatch
