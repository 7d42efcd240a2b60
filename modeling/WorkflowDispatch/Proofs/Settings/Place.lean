import WorkflowDispatch.Proofs.Settings.Credentials
import WorkflowDispatch.Proofs.Settings.Resolution
/-!
The complaint about one setting: which value is checked, what the check has against it, and where
the complaint stands.
-/

namespace WorkflowDispatch
namespace Settings

/-! ## The check of one setting -/

/-- Why a check refuses its value, if it does. -/
def refusal? {α : Type} : Except Cause α → Option Cause
  | .ok _ => none
  | .error cause => some cause

namespace Field

/-- What the check of the setting has against a value. -/
def refuses? (f : Field) (v : Value) : Option Cause :=
  match f with
  | .githubToken => refusal? (checkCredential .githubToken v)
  | .targetToken => refusal? (checkCredential .targetToken v)
  | .baseUrl => refusal? (checkBaseUrl v)
  | .owner => refusal? (checkTargetField v)
  | .repository => refusal? (checkTargetField v)
  | .workflowFile => refusal? (checkTargetField v)
  | .ref => refusal? (checkTargetField v)
  | .timeout => refusal? (checkTimeout v)
  | .logLevel => refusal? (checkLogLevel v)

theorem mem_all (f : Field) : f ∈ all := by
  cases f <;> decide

end Field

/-! ### Causes -/

/-- The cause is a rule about the target as a whole. -/
def Cause.isOfTarget : Cause → Bool
  | .target _ => true
  | _ => false

theorem isOfTarget_of_checkText {v : Value} {cause : Cause} (h : checkText v = .error cause) :
    cause.isOfTarget = false := by
  unfold checkText at h
  split at h
  · cases h
  · obtain ⟨_, _, rfl⟩ := exists_of_mapError_error h
    rfl
  · cases h
    rfl

theorem isOfTarget_of_checkCredential {f : Field} {v : Value} {cause : Cause}
    (h : checkCredential f v = .error cause) : cause.isOfTarget = false := by
  rw [checkCredential_eq] at h
  rcases error_of_bind h with h | ⟨s, _, h⟩
  · unfold credentialText at h
    split at h
    · cases h
    · obtain ⟨_, _, rfl⟩ := exists_of_mapError_error h
      rfl
  · split at h
    · cases h
      rfl
    · cases h

theorem isOfTarget_of_checkBaseUrl {v : Value} {cause : Cause}
    (h : checkBaseUrl v = .error cause) : cause.isOfTarget = false := by
  rcases error_of_bind h with h | ⟨s, _, h⟩
  · exact isOfTarget_of_checkText h
  · dsimp only at h
    split at h
    · cases h
      rfl
    · cases h

theorem isOfTarget_of_checkTargetField {v : Value} {cause : Cause}
    (h : checkTargetField v = .error cause) : cause.isOfTarget = false := by
  rcases error_of_bind h with h | ⟨s, _, h⟩
  · exact isOfTarget_of_checkText h
  · dsimp only at h
    split at h
    · cases h
      rfl
    · cases h

theorem isOfTarget_of_checkNumeral {s : String} {cause : Cause}
    (h : checkNumeral s = .error cause) : cause.isOfTarget = false := by
  unfold checkNumeral at h
  split at h
  · cases h
  · cases h
    rfl

theorem isOfTarget_of_checkNumber {v : Value} {cause : Cause} (h : checkNumber v = .error cause) :
    cause.isOfTarget = false := by
  unfold checkNumber at h
  split at h
  · cases h
  · cases h
  · split at h
    · cases h
    · cases h
      rfl
  · exact isOfTarget_of_checkNumeral h
  · split at h
    · exact isOfTarget_of_checkNumeral h
    · cases h
      rfl
  · cases h
    rfl

theorem isOfTarget_of_checkTimeout {v : Value} {cause : Cause}
    (h : checkTimeout v = .error cause) : cause.isOfTarget = false := by
  rcases error_of_bind h with h | ⟨x, _, h⟩
  · exact isOfTarget_of_checkNumber h
  · split at h
    · cases h
    · cases h
      rfl

theorem isOfTarget_of_checkLogLevel {v : Value} {cause : Cause}
    (h : checkLogLevel v = .error cause) : cause.isOfTarget = false := by
  rcases error_of_bind h with h | ⟨s, _, h⟩
  · exact isOfTarget_of_checkText h
  · split at h
    · cases h
    · cases h
      rfl

theorem eq_error_of_refusal? {α : Type} {a : Except Cause α} {cause : Cause}
    (h : refusal? a = some cause) : a = .error cause := by
  cases a with
  | ok x => cases h
  | error c => exact congrArg Except.error (Option.some.inj h)

/-- No check of a single setting looks at the target. -/
theorem Field.isOfTarget_of_refuses? {f : Field} {v : Value} {cause : Cause}
    (h : f.refuses? v = some cause) : cause.isOfTarget = false := by
  cases f with
  | githubToken | targetToken => exact isOfTarget_of_checkCredential (eq_error_of_refusal? h)
  | baseUrl => exact isOfTarget_of_checkBaseUrl (eq_error_of_refusal? h)
  | owner | repository | workflowFile | ref =>
    exact isOfTarget_of_checkTargetField (eq_error_of_refusal? h)
  | timeout => exact isOfTarget_of_checkTimeout (eq_error_of_refusal? h)
  | logLevel => exact isOfTarget_of_checkLogLevel (eq_error_of_refusal? h)

namespace Sources

variable {s : Sources} {f : Field}

/-- The value that is checked for a setting.  A credential that no source has is empty, and all
other defaults are taken as they are. -/
def offered? (s : Sources) (f : Field) : Option Value :=
  ((s.raw? f).map (·.value)).or (if f.isCredential then some (.secret "") else none)

/-- Where the value for a setting is filed.  A keyword is found in letters of any case, but it is
filed as the caller wrote it only if that is a name of the setting, and under the main variable
otherwise.  A value of another source is filed under the main variable when it was found under any
variable, and a value that is not there under the name of the setting. -/
def place (s : Sources) (f : Field) : String :=
  if s.keywords.any (fun k => f.isNamedBy k.1) then
    (f.names.find? s.keywords.names.contains).getD f.mainVariable
  else if f.variableNames.any (fun name => (s.text? name).isSome) then f.mainVariable
  else f.name

/-- What stands against the value for a setting, by itself. -/
def complaint? (s : Sources) (f : Field) : Option Complaint :=
  ((s.offered? f).bind f.refuses?).map (⟨some (s.place f), ·⟩)

/-! ## Places -/

theorem place_of_keyword? {filed : Filed Value} (h : keyword? s.keywords f = some filed) :
    s.place f = filed.name := by
  obtain ⟨key, hkey, hnamed⟩ := mem_of_keyword? h
  have hany : s.keywords.any (fun k => f.isNamedBy k.1) = true :=
    List.any_eq_true.2 ⟨_, hkey, hnamed⟩
  obtain ⟨_, _, rfl⟩ := Option.map_eq_some_iff.1 h
  unfold place
  rw [if_pos hany]
  rfl

theorem any_isNamedBy_of_keyword? (h : keyword? s.keywords f = none) :
    s.keywords.any (fun k => f.isNamedBy k.1) = false := by
  rw [List.any_eq_false]
  exact fun k hk => Bool.eq_false_iff.1 (keyword?_eq_none_iff.1 h k hk)

/-- Some variable has a value in one source or the other. -/
theorem any_text?_eq (s : Sources) (names : List String) :
    names.any (fun name => (s.text? name).isSome) =
      (((Source.ofEnvironment s.environment).first? names).or (s.file.first? names)).isSome := by
  unfold Source.first?
  induction names with
  | nil => rfl
  | cons name names ih =>
    rw [List.any_cons, ih, List.findSome?_cons, List.findSome?_cons, text?]
    cases (Source.ofEnvironment s.environment).value? name with
    | some v => rfl
    | none =>
      cases s.file.value? name with
      | some w => cases names.findSome? (Source.ofEnvironment s.environment).value? <;> rfl
      | none => rfl

theorem place_of_raw? {filed : Filed Value} (h : s.raw? f = some filed) :
    s.place f = filed.name := by
  unfold raw? at h
  cases hk : keyword? s.keywords f with
  | some found =>
    rw [hk] at h
    cases h
    exact place_of_keyword? hk
  | none =>
    rw [hk] at h
    obtain ⟨found, hfound, rfl⟩ := Option.map_eq_some_iff.1 h
    rw [merged?_eq] at hfound
    unfold place
    rw [any_isNamedBy_of_keyword? hk, any_text?_eq]
    cases hv : ((Source.ofEnvironment s.environment).first? f.variableNames).or
        (s.file.first? f.variableNames) with
    | some v =>
      rw [hv] at hfound
      cases hfound
      rfl
    | none =>
      rw [hv] at hfound
      obtain ⟨_, _, rfl⟩ := Option.map_eq_some_iff.1 hfound
      rfl

theorem place_of_raw?_eq_none (h : s.raw? f = none) : s.place f = f.name := by
  unfold raw? at h
  cases hk : keyword? s.keywords f with
  | some found =>
    rw [hk] at h
    cases h
  | none =>
    rw [hk] at h
    have hfound := Option.map_eq_none_iff.1 h
    rw [merged?_eq, Option.or_eq_none_iff, Option.map_eq_none_iff] at hfound
    unfold place
    rw [any_isNamedBy_of_keyword? hk, any_text?_eq, hfound.1]
    rfl

/-- What stands against a setting depends on the value that is on offer for it and on the name
under which that value is filed. -/
theorem complaint?_congr {s' : Sources} (h : s'.raw? f = s.raw? f) :
    s'.complaint? f = s.complaint? f := by
  have hplace : s'.place f = s.place f := by
    cases hraw : s.raw? f with
    | none => rw [place_of_raw?_eq_none hraw, place_of_raw?_eq_none (h.trans hraw)]
    | some filed => rw [place_of_raw? hraw, place_of_raw? (h.trans hraw)]
  unfold complaint? offered?
  rw [hplace, h]

/-- Without keywords a complaint stands at the main variable or at the name of the setting. -/
theorem place_of_no_keywords (h : s.keywords = []) (f : Field) :
    s.place f = f.mainVariable ∨ s.place f = f.name := by
  have hany : ¬ s.keywords.any (fun k => f.isNamedBy k.1) = true := by
    rw [h]
    exact Bool.false_ne_true
  unfold place
  rw [if_neg hany]
  split
  · exact .inl rfl
  · exact .inr rfl

end Sources

end Settings
end WorkflowDispatch
