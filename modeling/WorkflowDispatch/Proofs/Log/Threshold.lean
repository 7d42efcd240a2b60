import WorkflowDispatch.Log.Loggers
/-!
What the threshold of the root does to the loggers below it.  A logger that comes into use with no
known logger above it writes the records whose level reaches the threshold, and no other ones.
-/

namespace WorkflowDispatch
namespace Log

/-- A record needs the name for itself, so no attribute can have it. -/
def isTaken (name : String) : Bool := formattedNames.contains name || ownNames.contains name

namespace Loggers

theorem exists_record {e : Entry} (h : e.attributes.names.find? isTaken = none) (created : Value) :
    ∃ r, record created e = .ok r := by
  have hfind : e.attributes.names.find?
      (fun n => formattedNames.contains n || ownNames.contains n) = none := h
  rw [record, hfind]
  exact ⟨_, rfl⟩

/-! ## Lines -/

theorem lineOutput_of_line {r : Record} {line : String} (h : r.line = .ok line) :
    lineOutput r = ⟨line ++ "\n", ""⟩ := by
  rw [lineOutput, h]

theorem lineOutput_of_no_line {r : Record} (h : ∀ line, r.line ≠ .ok line) :
    lineOutput r = .empty := by
  cases hr : r.line with
  | ok line => exact absurd hr (h line)
  | error fault => rw [lineOutput, hr]

variable {l : Loggers} {name : String}

theorem rootLevel_use (l : Loggers) (name : String) : (l.use name).rootLevel = l.rootLevel := by
  unfold use
  split <;> rfl

theorem rootHandlers_use (l : Loggers) (name : String) :
    (l.use name).rootHandlers = l.rootHandlers := by
  unfold use
  split <;> rfl

/-- Where one handler writes lines and there is no other, the records that are let through are
written as lines. -/
theorem emit_of_lines (h : l.rootHandlers = [.own .lines]) (created : Value) (e : Entry) :
    l.emit created e =
      if (l.use e.logger).isEnabled e.logger e.level then (record created e).map lineOutput
      else .ok .empty := by
  have hhandle : (l.use e.logger).handle e = lineOutput := by
    funext r
    simp [handle, isHandled, rootHandlers_use, h, handlerOutput, Output.join]
  unfold emit
  dsimp only
  rw [hhandle]

/-! ## New loggers -/

/-- No logger is known under the name or above it. -/
structure IsNew (l : Loggers) (name : String) : Prop where
  below_root : isRoot name = false
  not_known : l.isKnown name = false
  none_above : ∀ n ∈ namesAbove name, l.isKnown n = false

theorem get?_use (h : l.IsNew name) : (l.use name).known.get? name = some ⟨0, none⟩ := by
  have habove : (namesAbove name).find? l.isKnown = none :=
    List.find?_eq_none.2 fun n hn => Bool.eq_false_iff.1 (h.none_above n hn)
  rw [use, h.below_root, h.not_known, Bool.or_self, if_neg Bool.false_ne_true]
  dsimp only
  rw [habove]
  exact Bindings.get?_set_self _ _ _

/-- A new logger has no level of its own and nobody to take one from but the root. -/
theorem effectiveLevel_use (h : l.IsNew name) :
    (l.use name).effectiveLevel name = l.rootLevel := by
  have hancestors : ∀ n, (l.use name).ancestors n name = [] := by
    intro n
    cases n with
    | zero => rfl
    | succ n => rw [ancestors, get?_use h]; rfl
  have hlevel : (l.use name).level name = 0 := by
    rw [level, h.below_root, get?_use h]
    rfl
  rw [effectiveLevel, lineage, hancestors, h.below_root, List.map_singleton, hlevel]
  exact rootLevel_use l name

/-- A record of a new logger is written as a line if its level reaches that of the root. -/
theorem emit_of_isNew {e : Entry} (h : l.IsNew e.logger) (hhandlers : l.rootHandlers = [.own .lines])
    (hlevel : 0 < e.level) (created : Value) :
    l.emit created e =
      if l.rootLevel ≤ e.level then (record created e).map lineOutput else .ok .empty := by
  have henabled :
      (l.use e.logger).isEnabled e.logger e.level = decide (l.rootLevel ≤ e.level) := by
    rw [isEnabled, effectiveLevel_use h, decide_eq_true hlevel, Bool.true_and]
  rw [emit_of_lines hhandlers, henabled]
  simp only [decide_eq_true_eq]

end Loggers
end Log
end WorkflowDispatch
