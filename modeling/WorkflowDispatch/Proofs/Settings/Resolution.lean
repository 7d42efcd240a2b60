import WorkflowDispatch.Proofs.EnvFile.References
import WorkflowDispatch.Proofs.Settings.Source
import WorkflowDispatch.Settings.Load
/-!
Which of the values on offer for a setting is used.  That each source files one value and that the
filed values are merged comes down to one look-up, name by name, and for each name in the
environment before the file.  The one exception is a setting with a second variable: a value under
it is filed under the first one.
-/

namespace WorkflowDispatch
namespace Settings

variable {s : Sources} {f : Field}

/-! ## Name by name -/

/-- What the two last sources have for a name, the environment before the file. -/
def Sources.text? (s : Sources) (name : String) : Option String :=
  ((Source.ofEnvironment s.environment).value? name).or (s.file.value? name)

/-- The environment has no value but under another variable, and the file has one under the main
one. -/
structure Sources.Crosses (s : Sources) (f : Field) : Prop where
  main : (Source.ofEnvironment s.environment).value? f.mainVariable = none
  other : ((Source.ofEnvironment s.environment).first? f.otherVariables).isSome = true
  file : (s.file.value? f.mainVariable).isSome = true

theorem Field.otherVariables_eq (f : Field) :
    f.otherVariables = [] ∨ ∃ other, f.otherVariables = [other] := by
  cases f with
  | githubToken => exact .inr ⟨_, rfl⟩
  | _ => exact .inl rfl

theorem first?_or_of_not_crosses (h : ¬ s.Crosses f) :
    ((Source.ofEnvironment s.environment).first? f.variableNames).or
      (s.file.first? f.variableNames) = f.variableNames.findSome? s.text? := by
  unfold Source.first? Field.variableNames
  obtain hother | ⟨other, hother⟩ := f.otherVariables_eq
  · rw [hother, List.findSome?_singleton, List.findSome?_singleton, List.findSome?_singleton]
    rfl
  · rw [hother, findSome?_pair, findSome?_pair, findSome?_pair]
    cases hmain : (Source.ofEnvironment s.environment).value? f.mainVariable with
    | some v => simp [Sources.text?, hmain]
    | none =>
      cases hfile : s.file.value? f.mainVariable with
      | none => simp [Sources.text?, hmain, hfile]
      | some v =>
        -- The orders differ when the other variable has a value here, which is the crossing.
        have hnone : (Source.ofEnvironment s.environment).value? other = none := by
          refine Option.not_isSome_iff_eq_none.1 fun hsome => h ⟨hmain, ?_, ?_⟩
          · rw [hother, Source.first?, List.findSome?_singleton]
            exact hsome
          · rw [hfile]
            rfl
        simp [Sources.text?, hmain, hfile, hnone]

theorem Sources.Crosses.eq_githubToken (h : s.Crosses f) : f = .githubToken := by
  have hother := h.other
  cases f with
  | githubToken => rfl
  | _ => cases hother

theorem first?_or_of_crosses (h : s.Crosses .githubToken) :
    ∃ v, (Source.ofEnvironment s.environment).value? "GITHUB_TOKEN" = some v ∧
      ((Source.ofEnvironment s.environment).first? Field.githubToken.variableNames).or
        (s.file.first? Field.githubToken.variableNames) = some v := by
  obtain ⟨v, hv⟩ := Option.isSome_iff_exists.1 h.other
  have hother : (Source.ofEnvironment s.environment).value? "GITHUB_TOKEN" = some v := by
    rw [← hv]
    exact List.findSome?_singleton.symm
  have henvironment :
      (Source.ofEnvironment s.environment).first? Field.githubToken.variableNames = some v := by
    show ["GH_TOKEN", "GITHUB_TOKEN"].findSome? (Source.ofEnvironment s.environment).value? = some v
    rw [findSome?_pair, hother]
    exact congrArg (·.or (some v)) h.main
  refine ⟨v, hother, ?_⟩
  rw [henvironment]
  rfl

theorem Sources.value_raw? (h : ∀ k ∈ s.keywords, f.isNamedBy k.1 = false) :
    (s.raw? f).map (·.value) =
      ((((Source.ofEnvironment s.environment).first? f.variableNames).or
        (s.file.first? f.variableNames)).or (s.text? f.name)).map .text := by
  unfold Sources.raw?
  rw [keyword?_eq_none_iff.2 h, merged?_eq]
  dsimp only
  rw [Option.map_map, Option.map_or, Option.map_map, Option.map_map]
  exact Option.map_or.symm

theorem Sources.value_raw?_of_not_crosses (h : ∀ k ∈ s.keywords, f.isNamedBy k.1 = false)
    (hcross : ¬ s.Crosses f) :
    (s.raw? f).map (·.value) = (f.names.findSome? s.text?).map .text := by
  rw [value_raw? h, first?_or_of_not_crosses hcross, f.names_eq, List.findSome?_append,
    List.findSome?_singleton]

theorem Sources.value_raw?_of_crosses (h : ∀ k ∈ s.keywords, f.isNamedBy k.1 = false)
    (hcross : s.Crosses f) :
    f = .githubToken ∧ (s.raw? f).map (·.value) =
      ((Source.ofEnvironment s.environment).value? "GITHUB_TOKEN").map .text := by
  obtain rfl := hcross.eq_githubToken
  obtain ⟨v, hother, hfirst⟩ := first?_or_of_crosses hcross
  refine ⟨rfl, ?_⟩
  rw [value_raw? h, hfirst, hother]
  rfl

theorem Sources.raw?_eq_none (h : ∀ k ∈ s.keywords, f.isNamedBy k.1 = false)
    (hnone : ∀ name ∈ f.names, s.text? name = none) : s.raw? f = none := by
  have hcross : ¬ s.Crosses f := by
    intro hcross
    obtain ⟨v, hv⟩ := Option.isSome_iff_exists.1 hcross.file
    have hmain := hnone f.mainVariable List.mem_cons_self
    rw [Sources.text?, hcross.main, hv] at hmain
    cases hmain
  have hvalue := value_raw?_of_not_crosses h hcross
  rw [List.findSome?_eq_none_iff.2 hnone] at hvalue
  exact Option.map_eq_none_iff.1 hvalue

theorem Sources.raw?_of_named {k : String × Value} (hk : k ∈ s.keywords)
    (hnamed : f.isNamedBy k.1 = true) :
    ∃ filed, (∃ key, (key, filed.value) ∈ s.keywords ∧ f.isNamedBy key = true) ∧
      ∀ environment file, Sources.raw? ⟨s.keywords, environment, file⟩ f = some filed := by
  cases hkeyword : keyword? s.keywords f with
  | none =>
    have hno := keyword?_eq_none_iff.1 hkeyword k hk
    rw [hnamed] at hno
    cases hno
  | some filed =>
    refine ⟨filed, mem_of_keyword? hkeyword, fun environment file => ?_⟩
    unfold Sources.raw?
    rw [hkeyword]

/-! ## What has no influence -/

/-- The variables that can matter for a setting: its names, and what the file refers to. -/
def Field.mayUse (f : Field) (assignments : List EnvFile.Assignment) (name : String) : Bool :=
  f.isNamedBy name || (EnvFile.assignmentReferences assignments).contains name

/-- Of the entries to keep, both environments have the same ones for each name in letters of any
case, and in the same order.  Entries for different names may be mixed in any way. -/
def AgreeOn (keep : String → Bool) (e e' : Bindings String) : Prop :=
  ∀ name, (e.filter (fun b => keep b.1)).filter (fun b => Text.lower b.1 == Text.lower name) =
    (e'.filter (fun b => keep b.1)).filter (fun b => Text.lower b.1 == Text.lower name)

variable {e e' : Bindings String} {keep : String → Bool}

theorem AgreeOn.of_not_kept {a : String × String} (ha : keep a.1 = false) (e : Bindings String) :
    AgreeOn keep (a :: e) e := by
  intro name
  have hkeep : ¬ keep a.1 = true := by rw [ha]; decide
  rw [List.filter_cons, if_neg hkeep]

/-- Entries for different names may change places. -/
theorem AgreeOn.swap {a b : String × String} (hab : Text.lower a.1 ≠ Text.lower b.1)
    (e : Bindings String) : AgreeOn keep (a :: b :: e) (b :: a :: e) := by
  intro name
  rw [List.filter_filter, List.filter_filter]
  by_cases ha : Text.lower a.1 = Text.lower name
  · have hb : (Text.lower b.1 == Text.lower name) = false :=
      beq_false_of_ne fun hb => hab (ha.trans hb.symm)
    simp [List.filter_cons, hb]
  · simp [List.filter_cons, ha]

theorem AgreeOn.value? (h : AgreeOn keep e e') {name : String}
    (hkeep : ∀ n, Text.lower n = Text.lower name → keep n = true) :
    (Source.ofEnvironment e).value? name = (Source.ofEnvironment e').value? name := by
  have hall : ∀ b : Bindings String, (b.filter (fun p => keep p.1)).filter
      (fun p => Text.lower p.1 == Text.lower name) =
        b.filter (fun p => Text.lower p.1 == Text.lower name) := by
    intro b
    rw [List.filter_filter]
    refine List.filter_congr fun p _ => ?_
    by_cases hp : Text.lower p.1 = Text.lower name
    · rw [hkeep p.1 hp, Bool.and_true]
    · rw [beq_false_of_ne hp, Bool.false_and]
  rw [Source.value?_ofEnvironment, Source.value?_ofEnvironment, ← hall e, ← hall e', h name]

theorem AgreeOn.get? (h : AgreeOn keep e e') {name : String} (hkeep : keep name = true) :
    Bindings.get? name e = Bindings.get? name e' := by
  have hall : ∀ b : Bindings String, Bindings.get? name ((b.filter (fun p => keep p.1)).filter
      (fun p => Text.lower p.1 == Text.lower name)) = Bindings.get? name b := by
    intro b
    rw [Bindings.get?_filter fun _ => beq_self_eq_true _, Bindings.get?_filter fun _ => hkeep]
  rw [← hall e, ← hall e', h name]

theorem merged?_congr {first first' : Source}
    (h : ∀ name ∈ f.names, first.value? name = first'.value? name) (second : Source) :
    merged? first second f = merged? first' second f := by
  have hfirst : first.first? f.variableNames = first'.first? f.variableNames :=
    findSome?_congr fun name hname => h name (List.mem_append_left _ hname)
  have hname : first.value? f.name = first'.value? f.name :=
    h f.name (List.mem_append_right _ List.mem_cons_self)
  rw [merged?_eq, merged?_eq, hfirst, hname]

theorem AgreeOn.raw? {assignments : List EnvFile.Assignment}
    (h : AgreeOn (f.mayUse assignments) e e') (keywords : Bindings Value) :
    Sources.raw? ⟨keywords, e, EnvFile.resolve e assignments⟩ f =
      Sources.raw? ⟨keywords, e', EnvFile.resolve e' assignments⟩ f := by
  have hfile : EnvFile.resolve e assignments = EnvFile.resolve e' assignments :=
    EnvFile.resolve_congr fun name hname => h.get? (by
      rw [Field.mayUse, List.contains_iff_mem.2 hname, Bool.or_true])
  have hvalues : ∀ name ∈ f.names,
      (Source.ofEnvironment e).value? name = (Source.ofEnvironment e').value? name := by
    intro name hname
    refine h.value? fun n hn => ?_
    rw [Field.mayUse, Field.isNamedBy_iff.2 ⟨name, hname, hn⟩, Bool.true_or]
  unfold Sources.raw?
  rw [hfile]
  dsimp only
  rw [merged?_congr hvalues]

/-! ## The value for a setting -/

/-- A keyword for the setting is used whatever the other sources hold.  Without one the names of the
setting are tried in their order, each in the environment before the file, but an ambient credential
in the second variable of the environment comes before one in the first variable of the file.  When
no name has a value the default is used, which for a credential is empty and refused.  Of the
entries for a name the last one counts, even if it has no value.  Nothing else in the environment
matters. -/
theorem Sources.raw?_lookup (s : Sources) (f : Field) :
    (∀ k ∈ s.keywords, f.isNamedBy k.1 = true →
      ∃ filed, (∃ key, (key, filed.value) ∈ s.keywords ∧ f.isNamedBy key = true) ∧
        ∀ environment file, Sources.raw? ⟨s.keywords, environment, file⟩ f = some filed) ∧
    ((∀ k ∈ s.keywords, f.isNamedBy k.1 = false) →
      (¬ s.Crosses f → (s.raw? f).map (·.value) = (f.names.findSome? s.text?).map .text) ∧
      (s.Crosses f → f = .githubToken ∧ (s.raw? f).map (·.value) =
        ((Source.ofEnvironment s.environment).value? "GITHUB_TOKEN").map .text) ∧
      ((∀ name ∈ f.names, s.text? name = none) →
        (∀ (α : Type) (check : Value → Except Cause α) (default : α),
          s.setting f check default = .ok default) ∧
        s.credential f =
          (checkCredential f (.secret "")).mapError fun cause => [⟨some f.name, cause⟩])) ∧
    (∀ (source before behind : Source) (n name : String) (v : Option String),
      source = before ++ (n, v) :: behind → Text.lower n = Text.lower name →
        (∀ b ∈ behind, Text.lower b.1 ≠ Text.lower name) → source.value? name = v) ∧
    ∀ (assignments : List EnvFile.Assignment) (e e' : Bindings String),
      AgreeOn (f.mayUse assignments) e e' →
        Sources.raw? ⟨s.keywords, e, EnvFile.resolve e assignments⟩ f =
          Sources.raw? ⟨s.keywords, e', EnvFile.resolve e' assignments⟩ f := by
  refine ⟨fun k hk hnamed => raw?_of_named hk hnamed, fun h => ⟨?_, ?_, fun hnone => ⟨?_, ?_⟩⟩,
    ?_, fun assignments e e' hagree => hagree.raw? s.keywords⟩
  · exact value_raw?_of_not_crosses h
  · exact value_raw?_of_crosses h
  · intro α check default
    unfold Sources.setting
    rw [raw?_eq_none h hnone]
  · unfold Sources.credential
    rw [raw?_eq_none h hnone]
    rfl
  · intro source before behind n name v hsource hn hbehind
    rw [hsource]
    exact Source.value?_of_last hn hbehind before v

/-- Two variables for the ambient credential, one in each source, and a keyword for the branch. -/
def crossedSources : Sources :=
  ⟨[("Ref", .text "main")], [("GITHUB_TOKEN", "ambient"), ("target_owner", "first"),
    ("dispatch_target_owner", "second"), ("DISPATCH_TARGET_OWNER", "third")],
    [("GH_TOKEN", some "filed"), ("DISPATCH_TARGET_REPOSITORY", some "docs")]⟩

theorem crosses_crossedSources : crossedSources.Crosses .githubToken :=
  ⟨by decide +kernel, by decide +kernel, by decide +kernel⟩

theorem agreeOn_moved : AgreeOn (Field.owner.mayUse [("REF", some "main")])
    (("PATH", "bin") :: crossedSources.environment)
    [("target_owner", "first"), ("GITHUB_TOKEN", "ambient"), ("dispatch_target_owner", "second"),
      ("DISPATCH_TARGET_OWNER", "third")] := by
  have hdrop : AgreeOn (Field.owner.mayUse [("REF", some "main")])
      (("PATH", "bin") :: crossedSources.environment) crossedSources.environment :=
    .of_not_kept (by decide +kernel) _
  intro name
  exact (hdrop name).trans (AgreeOn.swap (by decide +kernel) _ name)

theorem raw?_of_crossedSources :
    (∃ filed, (∃ key, (key, filed.value) ∈ crossedSources.keywords ∧
        Field.ref.isNamedBy key = true) ∧
      Sources.raw? ⟨crossedSources.keywords, [("DISPATCH_REF", "other")], []⟩ .ref = some filed) ∧
    (crossedSources.raw? .githubToken).map (·.value) = some (.text "ambient") ∧
    (crossedSources.raw? .owner).map (·.value) = some (.text "third") ∧
    (crossedSources.raw? .repository).map (·.value) = some (.text "docs") ∧
    crossedSources.setting .timeout checkTimeout defaultTimeout = .ok defaultTimeout ∧
    crossedSources.credential .targetToken =
      .error [⟨some "target_repo_pat", .credentialMissing .targetToken⟩] ∧
    (Source.ofEnvironment crossedSources.environment).value? "dispatch_Target_Owner" =
      some "third" ∧
    Sources.raw? ⟨crossedSources.keywords, ("PATH", "bin") :: crossedSources.environment,
        EnvFile.resolve (("PATH", "bin") :: crossedSources.environment) [("REF", some "main")]⟩
        .owner =
      Sources.raw? ⟨crossedSources.keywords,
        [("target_owner", "first"), ("GITHUB_TOKEN", "ambient"),
          ("dispatch_target_owner", "second"), ("DISPATCH_TARGET_OWNER", "third")],
        EnvFile.resolve [("target_owner", "first"), ("GITHUB_TOKEN", "ambient"),
          ("dispatch_target_owner", "second"), ("DISPATCH_TARGET_OWNER", "third")]
          [("REF", some "main")]⟩ .owner := by
  have hlookup := Sources.raw?_lookup crossedSources
  obtain ⟨filed, hfiled, hkeyword⟩ := (hlookup .ref).1 ("Ref", .text "main") (.head _)
    (by decide +kernel)
  have hno : ∀ f ∈ [Field.githubToken, .targetToken, .owner, .repository, .timeout],
      ∀ k ∈ crossedSources.keywords, f.isNamedBy k.1 = false := by decide +kernel
  have hambient := ((hlookup .githubToken).2.1 (hno _ (by decide))).2.1 crosses_crossedSources
  have hother : ∀ f, f ≠ .githubToken → ¬ crossedSources.Crosses f :=
    fun f hf hcross => hf hcross.eq_githubToken
  have howner := ((hlookup .owner).2.1 (hno _ (by decide))).1 (hother _ (by decide))
  have hrepository := ((hlookup .repository).2.1 (hno _ (by decide))).1 (hother _ (by decide))
  have htimeout := ((hlookup .timeout).2.1 (hno _ (by decide))).2.2 (by decide +kernel)
  have htoken := ((hlookup .targetToken).2.1 (hno _ (by decide))).2.2 (by decide +kernel)
  refine ⟨⟨filed, hfiled, hkeyword _ _⟩, ?_, ?_, ?_, htimeout.1 _ _ _, htoken.2.trans rfl, ?_, ?_⟩
  · have hvalue : (Source.ofEnvironment crossedSources.environment).value? "GITHUB_TOKEN" =
        some "ambient" := by decide +kernel
    rw [hambient.2, hvalue]
    rfl
  · have hvalue : Field.owner.names.findSome? crossedSources.text? = some "third" := by
      decide +kernel
    rw [howner, hvalue]
    rfl
  · have hvalue : Field.repository.names.findSome? crossedSources.text? = some "docs" := by
      decide +kernel
    rw [hrepository, hvalue]
    rfl
  · exact (hlookup .owner).2.2.1 _ ((Source.ofEnvironment crossedSources.environment).dropLast) []
      "DISPATCH_TARGET_OWNER" _ (some "third") rfl (by decide +kernel) (by simp)
  · exact (hlookup .owner).2.2.2 [("REF", some "main")] _ _ agreeOn_moved

/-- For the ambient credential it is not so that the first variable comes before the second one in
whichever source it stands. -/
theorem not_raw?_by_name :
    ¬ ∀ (s : Sources) (f : Field), (∀ k ∈ s.keywords, f.isNamedBy k.1 = false) →
      (s.raw? f).map (·.value) = (f.names.findSome? s.text?).map .text := by
  intro hall
  have hvalue := hall crossedSources .githubToken (by decide +kernel)
  have hplain := congrArg (Option.map Value.plain) hvalue
  revert hplain
  decide +kernel

end Settings
end WorkflowDispatch
