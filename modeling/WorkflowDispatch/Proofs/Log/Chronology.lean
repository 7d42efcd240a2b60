import WorkflowDispatch.Proofs.Log.Content
import WorkflowDispatch.Proofs.Timestamp
/-!
The times of records in their lines.  A record whose time lies in the years 1 to 9999 is stamped
with a text from which the time is read again, and the stamps of two records stand in the order of
their times.
-/

namespace WorkflowDispatch
namespace Log
namespace Record

variable {r : Record} {v : Value} {t : Timestamp}

/-! ## Steps without an error of the time -/

/-- A step that fails for another reason than the time leaves the error of the time to the steps
behind it. -/
theorem exists_of_bind_error_time {ε α β : Type} {f : ε → LineError} {a : Except ε α}
    {k : α → Except LineError β} {e : Timestamp.Error} (h : a.mapError f >>= k = .error (.time e))
    (hf : ∀ e', f e' ≠ .time e) : ∃ x, k x = .error (.time e) := by
  rcases error_of_bind h with hstep | ⟨x, _, hrest⟩
  · obtain ⟨e', _, he⟩ := exists_of_mapError_error hstep
    exact absurd he (hf e')
  · exact ⟨x, hrest⟩

/-- Where the time has a text, no step of the line has an error of the time. -/
theorem line_ne_error_time (hcreated : r.created = some v) (htime : Timestamp.ofValue v = .ok t)
    (e : Timestamp.Error) : r.line ≠ .error (.time e) := by
  intro h
  have hd : r.document = .error (.time e) := error_of_map h
  unfold document at hd
  obtain ⟨created, hpart, hd⟩ := (error_of_bind hd).resolve_left (by rw [hcreated]; nofun)
  cases hcreated.symm.trans (eq_some_of_part hpart)
  obtain ⟨_, _, hd⟩ := (error_of_bind hd).resolve_left (by rw [htime]; nofun)
  obtain ⟨_, hd⟩ := exists_of_bind_error_time hd nofun
  obtain ⟨_, hd⟩ := exists_of_bind_error_time hd nofun
  obtain ⟨_, hd⟩ := exists_of_bind_error_time hd nofun
  obtain ⟨_, hd⟩ := exists_of_bind_error_time hd nofun
  obtain ⟨_, hd⟩ := exists_of_bind_error_time hd nofun
  obtain ⟨_, hd⟩ := exists_of_bind_error_time hd nofun
  obtain ⟨_, hd⟩ := exists_of_bind_error_time hd nofun
  obtain ⟨_, hd⟩ := exists_of_bind_error_time hd nofun
  obtain ⟨_, hd⟩ := exists_of_bind_error_time hd nofun
  cases hd

/-! ## Stamps -/

/-- A record is stamped with a text for a time, in microseconds from the beginning of 1970.  The
text is the first member of its line, if it has one; the time does not keep it from having one.
The text tells the time, and has a point only where there is a fraction. -/
structure IsStamped (r : Record) (stamp : String) (micros : Int) : Prop where
  timely : ∀ e, r.line ≠ .error (.time e)
  member : ∀ line, r.line = .ok line → ∃ members,
    line = (Json.object (("timestamp", .text stamp) :: members)).write .unicode
  read : Timestamp.read? stamp = some ⟨micros⟩
  point : '.' ∈ stamp.toList ↔ ¬ Timestamp.microsPerSecond ∣ micros

theorem isStamped_of_nearest (hcreated : r.created = some v) (hnearest : Timestamp.nearest v = .ok t)
    (ht : t.InYears) : r.IsStamped t.text t.microseconds where
  timely := line_ne_error_time hcreated (Timestamp.ofValue_of_nearest hnearest ht)
  member := by
    intro line hline
    obtain ⟨c, hyields, rfl⟩ := exists_yields_of_line hline
    obtain ⟨w, hw, htime⟩ := hyields.time
    cases hcreated.symm.trans hw
    cases (Timestamp.ofValue_of_nearest hnearest ht).symm.trans htime
    exact ⟨_, rfl⟩
  read := Timestamp.read?_text ht
  point := Timestamp.point_mem_text_iff t

/-- The stamps of records stand in the order of their times, whether they have a fraction or not,
and tell the times again. -/
theorem exists_ordered_stamps {r₁ r₂ : Record} {v₁ v₂ : Value} {t₁ t₂ : Timestamp}
    (hcreated₁ : r₁.created = some v₁) (hcreated₂ : r₂.created = some v₂)
    (hnearest₁ : Timestamp.nearest v₁ = .ok t₁) (hnearest₂ : Timestamp.nearest v₂ = .ok t₂)
    (ht₁ : t₁.InYears) (ht₂ : t₂.InYears) :
    ∃ s₁ s₂, r₁.IsStamped s₁ t₁.microseconds ∧ r₂.IsStamped s₂ t₂.microseconds ∧
      (s₁ < s₂ ↔ t₁.microseconds < t₂.microseconds) ∧
      (s₁ = s₂ ↔ t₁.microseconds = t₂.microseconds) := by
  have heq : t₁ = t₂ ↔ t₁.microseconds = t₂.microseconds := ⟨congrArg _, congrArg Timestamp.mk⟩
  refine ⟨t₁.text, t₂.text, isStamped_of_nearest hcreated₁ hnearest₁ ht₁,
    isStamped_of_nearest hcreated₂ hnearest₂ ht₂, ?_, ?_⟩
  · exact Timestamp.text_lt_iff ht₁ ht₂
  · exact (Timestamp.text_inj ht₁ ht₂).trans heq

/-- A record of a time in seconds. -/
def timed (created : Value) : Record :=
  make "n" Level.info.number (.text "m") [] created .absent

/-- A quarter of a second before the beginning of 1970. -/
def quarterBefore : Value := .float (.finite true 0x10000000000000 (-54) (by decide))

theorem exists_ordered_stamps_of_quarter :
    Timestamp.nearest quarterBefore = .ok ⟨-250000⟩ ∧ Timestamp.InYears ⟨-250000⟩ ∧
      ∃ s₁ s₂, (timed quarterBefore).IsStamped s₁ (-250000) ∧ (timed (.int 0)).IsStamped s₂ 0 ∧
        (s₁ < s₂ ↔ (-250000 : Int) < 0) ∧ (s₁ = s₂ ↔ (-250000 : Int) = 0) := by
  have hnearest : Timestamp.nearest quarterBefore = .ok ⟨-250000⟩ := by rfl
  have hyears : Timestamp.InYears ⟨-250000⟩ := by decide
  have hbefore : (timed quarterBefore).created = some quarterBefore := rfl
  refine ⟨hnearest, hyears, ?_⟩
  exact exists_ordered_stamps hbefore rfl hnearest rfl hyears (by decide)

end Record
end Log
end WorkflowDispatch
