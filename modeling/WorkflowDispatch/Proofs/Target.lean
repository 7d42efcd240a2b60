import WorkflowDispatch.Proofs.Result
import WorkflowDispatch.Target
/-!
Which fields a target can be made of, and what a target can be told by.  The first field at fault is
reported.  The path of a target falls apart at its slashes into words that are always the same and
the three fields that hold no slash, so the path and the payload together give the target back.
-/

namespace WorkflowDispatch
namespace Target

/-! ## Targets made of their own fields -/

theorem Segment.check_text (field : Field) (s : Segment) : check field s.text = .ok s := by
  unfold check
  rw [dif_pos s.not_blank, dif_pos s.no_slash]

theorem Ref.check_text (r : Ref) : check r.text = .ok r := by
  unfold check
  rw [dif_pos r.not_blank]

theorem make_text (t : Target) :
    make (some t.owner.text) (some t.repository.text) (some t.workflowFile.text)
      (some t.ref.text) = .ok t := by
  unfold make
  simp only [Option.getD_some, Segment.check_text, Ref.check_text]
  rfl

theorem Segment.text_of_check {field : Field} {value : String} {s : Segment}
    (h : check field value = .ok s) : s.text = value := by
  unfold check at h
  split at h
  · split at h
    · cases h
      rfl
    · cases h
  · cases h

theorem Ref.text_of_check {value : String} {r : Ref} (h : check value = .ok r) :
    r.text = value := by
  unfold check at h
  split at h
  · cases h
    rfl
  · cases h

variable {owner repository workflowFile ref : Option String} {t : Target}

/-- A text that is missing is blank, so the texts of a target that was made were all there. -/
theorem eq_some_of_not_blank {v : Option String} {text : String}
    (hblank : Text.isBlankText text = false) (h : text = v.getD "") : v = some text := by
  cases v with
  | none =>
    rw [h] at hblank
    cases hblank
  | some s => exact congrArg some h.symm

theorem some_text_of_make (h : make owner repository workflowFile ref = .ok t) :
    owner = some t.owner.text ∧ repository = some t.repository.text ∧
      workflowFile = some t.workflowFile.text ∧ ref = some t.ref.text := by
  obtain ⟨o, ho, h⟩ := exists_of_bind_ok h
  obtain ⟨r, hr, h⟩ := exists_of_bind_ok h
  obtain ⟨w, hw, h⟩ := exists_of_bind_ok h
  obtain ⟨b, hb, h⟩ := exists_of_bind_ok h
  cases h
  exact ⟨eq_some_of_not_blank o.not_blank (Segment.text_of_check ho),
    eq_some_of_not_blank r.not_blank (Segment.text_of_check hr),
    eq_some_of_not_blank w.not_blank (Segment.text_of_check hw),
    eq_some_of_not_blank b.not_blank (Ref.text_of_check hb)⟩

/-! ## Fields at fault -/

/-- There is a text, and something in it besides blanks. -/
def IsGiven (v : Option String) : Prop :=
  ∃ s, v = some s ∧ ∃ c ∈ s.toList, Text.isBlank c = false

theorem isGiven_iff {v : Option String} :
    IsGiven v ↔ Text.isBlankText (v.getD "") = false := by
  unfold IsGiven Text.isBlankText
  cases v with
  | none => simp
  | some s => simp

namespace Field

variable {f : Field} {v : Option String}

/-- The field may have this value.  Of the four fields only the ref may hold slashes. -/
def Admits (f : Field) (v : Option String) : Prop :=
  IsGiven v ∧ ∀ s, v = some s → f ≠ .ref → '/' ∉ s.toList

/-- What is wrong with a value for the field. -/
def fault? (f : Field) (v : Option String) : Option Error :=
  if Text.isBlankText (v.getD "") = false then
    if f ≠ .ref ∧ '/' ∈ (v.getD "").toList then some (.slash f (v.getD "")) else none
  else some (.required f)

theorem fault?_of_not_given (h : ¬ IsGiven v) (f : Field) : f.fault? v = some (.required f) :=
  if_neg (mt isGiven_iff.2 h)

theorem fault?_of_given (h : IsGiven v) (f : Field) :
    f.fault? v =
      if f ≠ .ref ∧ '/' ∈ (v.getD "").toList then some (.slash f (v.getD "")) else none :=
  if_pos (isGiven_iff.1 h)

/-- The error that a value for the field gives rise to.  A blank text holds no slash, so there is
never more than one. -/
inductive Offends (f : Field) : Option String → Error → Prop where
  | required {v : Option String} (h : ¬ IsGiven v) : Offends f v (.required f)
  | slash {s : String} (h : IsGiven (some s)) (hf : f ≠ .ref) (hs : '/' ∈ s.toList) :
      Offends f (some s) (.slash f s)

theorem fault?_eq_some_iff {e : Error} : f.fault? v = some e ↔ f.Offends v e := by
  constructor
  · intro h
    by_cases hv : IsGiven v
    · rw [fault?_of_given hv] at h
      obtain ⟨s, rfl⟩ : ∃ s, v = some s := hv.imp fun _ hs => hs.1
      split at h
      · next hs =>
        cases h
        exact .slash hv hs.1 hs.2
      · cases h
    · rw [fault?_of_not_given hv] at h
      cases h
      exact .required hv
  · intro h
    cases h with
    | required hv => exact fault?_of_not_given hv f
    | slash hv hf hs => exact (fault?_of_given hv f).trans (if_pos ⟨hf, hs⟩)

/-- The message of an error begins with the name of the field. -/
theorem name_prefix_message {e : Error} (h : f.Offends v e) :
    (f.name ++ " ").toList <+: e.message.toList := by
  cases h with
  | required => exact ⟨"is required".toList, by simp [Error.message]⟩
  | @slash s =>
    exact ⟨("must not contain '/': " ++ Text.quote s).toList, by simp [Error.message]⟩

theorem fault?_eq_none_iff : f.fault? v = none ↔ f.Admits v := by
  unfold Admits
  by_cases h : IsGiven v
  · rw [fault?_of_given h, and_iff_right h]
    obtain ⟨s, rfl, -⟩ := h
    simp
  · simp [fault?_of_not_given h, h]

end Field

/-- The result is missing exactly where there is a fault, and for that fault. -/
def Reports {α : Type} (fault : Option Error) (a : Except Error α) : Prop :=
  match fault with
  | some e => a = .error e
  | none => ∃ x, a = .ok x

/-- Of two faults the first one is reported. -/
theorem Reports.bind {α β : Type} {p q : Option Error} {a : Except Error α}
    {k : α → Except Error β} (h : Reports p a) (hk : ∀ x, Reports q (k x)) :
    Reports (p.or q) (a >>= k) := by
  cases p with
  | some e =>
    rw [show a = .error e from h]
    exact rfl
  | none =>
    obtain ⟨x, rfl⟩ := h
    exact hk x

theorem Segment.reports_check {f : Field} (hf : f ≠ .ref) (v : Option String) :
    Reports (f.fault? v) (check f (v.getD "")) := by
  unfold Field.fault? check
  split
  · by_cases hs : '/' ∈ (v.getD "").toList
    · rw [if_pos ⟨hf, hs⟩, dif_neg (not_not_intro hs)]
      exact rfl
    · rw [if_neg (fun h => hs h.2), dif_pos hs]
      exact ⟨_, rfl⟩
  · exact rfl

theorem Ref.reports_check (v : Option String) :
    Reports (Field.ref.fault? v) (check (v.getD "")) := by
  unfold Field.fault? check
  split
  · rw [if_neg (fun h => h.1 rfl)]
    exact ⟨_, rfl⟩
  · exact rfl

/-- The values on offer for the fields, in the order in which they are looked at. -/
def offered (owner repository workflowFile ref : Option String) : List (Field × Option String) :=
  [(.owner, owner), (.repository, repository), (.workflowFile, workflowFile), (.ref, ref)]

theorem reports_make (owner repository workflowFile ref : Option String) :
    Reports ((offered owner repository workflowFile ref).findSome? fun p => p.1.fault? p.2)
      (make owner repository workflowFile ref) := by
  unfold offered make
  simp only [findSome?_cons, List.findSome?_nil]
  exact (Segment.reports_check (by decide) owner).bind fun _ =>
    (Segment.reports_check (by decide) repository).bind fun _ =>
    (Segment.reports_check (by decide) workflowFile).bind fun _ =>
    (Ref.reports_check ref).bind fun _ => ⟨_, rfl⟩

theorem Reports.eq_error_iff {α : Type} {p : Option Error} {a : Except Error α}
    (h : Reports p a) {e : Error} : a = .error e ↔ p = some e := by
  cases p with
  | some f =>
    rw [show a = .error f from h, Except.error.injEq, Option.some.injEq]
  | none =>
    obtain ⟨x, rfl⟩ := h
    exact ⟨nofun, nofun⟩

theorem Reports.exists_ok_iff {α : Type} {p : Option Error} {a : Except Error α}
    (h : Reports p a) : (∃ x, a = .ok x) ↔ p = none := by
  cases p with
  | some f =>
    rw [show a = .error f from h]
    exact ⟨nofun, nofun⟩
  | none => exact ⟨fun _ => rfl, fun _ => h⟩

theorem exists_make_iff :
    (∃ t, make owner repository workflowFile ref = .ok t) ↔
      ∀ p ∈ offered owner repository workflowFile ref, p.1.Admits p.2 := by
  rw [(reports_make ..).exists_ok_iff, List.findSome?_eq_none_iff]
  exact forall₂_congr fun p _ => Field.fault?_eq_none_iff

/-- The first field that is not admitted is the one that is reported. -/
theorem make_eq_error_iff {e : Error} :
    make owner repository workflowFile ref = .error e ↔
      ∃ before p after, offered owner repository workflowFile ref = before ++ p :: after ∧
        (∀ q ∈ before, q.1.Admits q.2) ∧ p.1.Offends p.2 e := by
  rw [(reports_make ..).eq_error_iff, List.findSome?_eq_some_iff]
  simp only [Field.fault?_eq_some_iff, Field.fault?_eq_none_iff]
  refine exists_congr fun before => exists_congr fun p => exists_congr fun after => ?_
  exact and_congr_right fun _ => and_comm

/-! ## Paths -/

/-- The path between its slashes. -/
def steps (t : Target) : List String :=
  ["", "repos", t.owner.text, t.repository.text, "actions", "workflows", t.workflowFile.text,
    "dispatches"]

theorem slash_not_mem_steps (t : Target) : ∀ step ∈ t.steps, '/' ∉ step.toList := by
  simp only [steps, List.forall_mem_cons]
  exact ⟨by decide, by decide, t.owner.no_slash, t.repository.no_slash, by decide, by decide,
    t.workflowFile.no_slash, by decide, nofun⟩

theorem toList_path (t : Target) :
    t.path.toList = ['/'].intercalate (t.steps.map String.toList) := by
  simp [path, fullName, steps, List.intercalate]

theorem splitOn_path (t : Target) : t.path.toList.splitOn '/' = t.steps.map String.toList := by
  rw [toList_path]
  exact List.splitOn_intercalate '/' (List.forall_mem_map.2 t.slash_not_mem_steps) (by simp [steps])

theorem Segment.text_injective : Function.Injective Segment.text := by
  rintro ⟨s, _, _⟩ ⟨t, _, _⟩ h
  cases h
  rfl

theorem Ref.text_injective : Function.Injective Ref.text := by
  rintro ⟨s, _⟩ ⟨t, _⟩ h
  cases h
  rfl

/-- The path tells all fields but the ref, and the payload tells the ref. -/
theorem eq_of_path_of_payload {t u : Target} (hpath : t.path = u.path)
    (hpayload : t.payload = u.payload) : t = u := by
  have hsteps : t.steps.map String.toList = u.steps.map String.toList := by
    rw [← splitOn_path, ← splitOn_path, hpath]
  have hequal := List.map_injective_iff.2 (fun _ _ => String.toList_inj.1) hsteps
  simp only [steps, List.cons.injEq, true_and, and_true] at hequal
  simp only [payload, List.cons.injEq, Prod.mk.injEq, true_and, and_true] at hpayload
  obtain ⟨o, r, w, b⟩ := t
  obtain ⟨o', r', w', b'⟩ := u
  obtain ⟨howner, hrepository, hworkflow⟩ := hequal
  cases Segment.text_injective howner
  cases Segment.text_injective hrepository
  cases Segment.text_injective hworkflow
  cases Ref.text_injective hpayload
  rfl

/-- A target is made exactly if every field is admitted.  Otherwise the first field that is not is
at fault, and the message begins with its name.  The path of a target that was made has the given
fields between its slashes, and no two targets have one path and one payload. -/
theorem exists_make_iff_and_path_injective :
    (∀ owner repository workflowFile ref : Option String,
      ((∃ t, make owner repository workflowFile ref = .ok t) ↔
        ∀ p ∈ offered owner repository workflowFile ref, p.1.Admits p.2) ∧
      (∀ e, make owner repository workflowFile ref = .error e ↔
        ∃ before p after, offered owner repository workflowFile ref = before ++ p :: after ∧
          (∀ q ∈ before, q.1.Admits q.2) ∧ p.1.Offends p.2 e) ∧
      ∀ t, make owner repository workflowFile ref = .ok t →
        (t.path.toList.splitOn '/').map (fun cs => some (String.ofList cs)) =
          [some "", some "repos", owner, repository, some "actions", some "workflows",
            workflowFile, some "dispatches"]) ∧
    (∀ (f : Field) v e, f.Offends v e → (f.name ++ " ").toList <+: e.message.toList) ∧
    ∀ t u : Target, t.path = u.path → t.payload = u.payload → t = u := by
  refine ⟨fun owner repository workflowFile ref => ?_, fun _ _ _ => Field.name_prefix_message,
    fun _ _ => eq_of_path_of_payload⟩
  refine ⟨exists_make_iff, fun _ => make_eq_error_iff, fun t ht => ?_⟩
  obtain ⟨rfl, rfl, rfl, -⟩ := some_text_of_make ht
  rw [splitOn_path, List.map_map]
  simp [steps, Function.comp_def]

/-- A workflow on a branch with a slash in its name. -/
def branched (owner repository : Segment) : Target :=
  { owner, repository,
    workflowFile := ⟨"ci .yml", by decide, by decide⟩
    ref := ⟨"topic/a", by decide⟩ }

/-- The two repositories at the end differ in the place of the slash between owner and name only. -/
theorem make_and_path_of_branched :
    make (some "acme") (some "topic/a") none (some " ") = .error (.slash .repository "topic/a") ∧
      ((branched ⟨"acme", by decide, by decide⟩ ⟨"docs", by decide, by decide⟩).path.toList.splitOn
        '/').map (fun cs => some (String.ofList cs)) =
          [some "", some "repos", some "acme", some "docs", some "actions", some "workflows",
            some "ci .yml", some "dispatches"] ∧
      (branched ⟨"acm", by decide, by decide⟩ ⟨"edocs", by decide, by decide⟩).path ≠
        (branched ⟨"acme", by decide, by decide⟩ ⟨"docs", by decide, by decide⟩).path := by
  obtain ⟨hmake, -, hinjective⟩ := exists_make_iff_and_path_injective
  refine ⟨?_, ?_, fun hpath => ?_⟩
  · have howner : Field.owner.Admits (some "acme") :=
      Field.fault?_eq_none_iff.1 (by decide)
    refine ((hmake _ _ _ _).2.1 _).2 ⟨[(.owner, some "acme")], (.repository, some "topic/a"), _, rfl,
      List.forall_mem_singleton.2 howner,
      .slash (isGiven_iff.2 (by decide)) (by decide) (by decide)⟩
  · exact (hmake (some "acme") (some "docs") (some "ci .yml") (some "topic/a")).2.2 _ (by decide)
  · exact absurd (hinjective _ _ hpath rfl) (by decide)

end Target
end WorkflowDispatch
