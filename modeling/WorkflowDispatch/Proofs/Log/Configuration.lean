import Mathlib.Data.List.Induction
import WorkflowDispatch.Proofs.Log.Content
import WorkflowDispatch.Proofs.Log.Threshold
/-!
Setting up the log again and again.  Whatever handlers and levels there were, a call leaves one
handler, even when it fails on the name of a level; the levels are those of the last call that did
not fail.  So every record is written once, and the loggers of the libraries write no debug records.
-/

namespace WorkflowDispatch
namespace Log

/-- The level that a name asks for, in letters of either case. -/
def Level.requested? (name : String) : Option Level := ofName? (Text.upper name)

namespace Loggers

variable {l : Loggers} {name other : String} {level : Level}

/-! ## Handlers -/

instance : ReflBEq RootHandler where
  rfl {h} := by
    cases h with
    | own h => exact BEq.refl h
    | foreign id write => exact BEq.refl id

/-- When every handler of a copy of the list has been taken away, none is left. -/
theorem foldl_removeHandler (l : Loggers) (hs : List RootHandler) :
    hs.foldl removeHandler { l with rootHandlers := hs } = { l with rootHandlers := [] } := by
  induction hs with
  | nil => rfl
  | cons h hs ih =>
    have hhead : removeHandler { l with rootHandlers := h :: hs } h =
        { l with rootHandlers := hs } := by
      unfold removeHandler
      rw [List.erase_cons, if_pos (BEq.refl h)]
    rw [List.foldl_cons, hhead, ih]

theorem withLines_eq (l : Loggers) : l.withLines = { l with rootHandlers := [.own .lines] } := by
  unfold withLines
  rw [foldl_removeHandler l l.rootHandlers]
  rfl

/-! ## Levels -/

/-- The level that was set for a name, where the loggers below the root are given. -/
def levelIn (known : Bindings Logger) (name : String) : Int :=
  ((known.get? name).map (·.level)).getD 0

theorem level_of_not_root (h : isRoot name = false) (l : Loggers) :
    l.level name = levelIn l.known name := by
  rw [level, h]
  rfl

theorem levelIn_set (known : Bindings Logger) (name other : String) (logger : Logger) :
    levelIn (known.set name logger) other =
      if other = name then logger.level else levelIn known other := by
  unfold levelIn
  by_cases h : other = name
  · rw [if_pos h, h, Bindings.get?_set_self]
    rfl
  · rw [if_neg h, Bindings.get?_set_of_ne (Ne.symm h)]

theorem levelIn_of_not_mem {known : Bindings Logger} (h : name ∉ known.names) :
    levelIn known name = 0 := by
  unfold levelIn
  cases hget : known.get? name with
  | none => rfl
  | some logger => exact absurd (List.mem_map_of_mem (Bindings.mem_of_get? hget)) h

/-- A new parent leaves a logger its level. -/
theorem levelIn_adopt (name : String) (known : Bindings Logger) (child other : String) :
    levelIn (adopt name known child) other = levelIn known other := by
  unfold adopt
  split
  · rfl
  · next logger hchild =>
    split
    · rfl
    · rw [levelIn_set]
      split
      · next h =>
        rw [h, levelIn, hchild]
        rfl
      · rfl

theorem levelIn_foldl_adopt (name : String) (waiting : List String) (known : Bindings Logger)
    (other : String) : levelIn (waiting.foldl (adopt name) known) other = levelIn known other := by
  induction waiting generalizing known with
  | nil => rfl
  | cons child waiting ih => rw [List.foldl_cons, ih, levelIn_adopt]

/-- A logger that comes into use has no level of its own, and the others keep theirs. -/
theorem level_use (l : Loggers) (name other : String) : (l.use name).level other = l.level other := by
  by_cases hother : isRoot other = true
  · rw [level, level, if_pos hother, if_pos hother, rootLevel_use]
  · rw [level_of_not_root (Bool.eq_false_iff.2 hother), level_of_not_root (Bool.eq_false_iff.2 hother)]
    unfold use
    by_cases hname : (isRoot name || l.isKnown name) = true
    · rw [if_pos hname]
    · rw [if_neg hname]
      dsimp only
      rw [levelIn_set, levelIn_foldl_adopt]
      split
      · next h =>
        have hnew : other ∉ l.known.names := by
          intro hmem
          rw [h] at hmem
          simp [isKnown, hmem] at hname
        exact (levelIn_of_not_mem hnew).symm
      · rfl

theorem rootLevel_setLevel (h : isRoot name = false) (l : Loggers) (n : Int) :
    (l.setLevel name n).rootLevel = l.rootLevel := by
  rw [setLevel, h]
  exact rootLevel_use l name

theorem rootHandlers_setLevel (l : Loggers) (name : String) (n : Int) :
    (l.setLevel name n).rootHandlers = l.rootHandlers := by
  unfold setLevel
  split
  · rfl
  · exact rootHandlers_use l name

/-- Setting a level leaves those of all other loggers as they are. -/
theorem level_setLevel (h : isRoot name = false) (l : Loggers) (n : Int) (other : String) :
    (l.setLevel name n).level other = if other = name then n else l.level other := by
  by_cases hother : isRoot other = true
  · have hne : other ≠ name := by
      rintro rfl
      rw [h] at hother
      cases hother
    rw [if_neg hne, level, level, if_pos hother, if_pos hother, rootLevel_setLevel h]
  · have hother := Bool.eq_false_iff.2 hother
    rw [← level_use l name other, level_of_not_root hother, level_of_not_root hother, setLevel, h]
    exact levelIn_set _ _ _ _

/-- Setting one level for several loggers. -/
theorem foldl_setLevel {names : List String} (h : ∀ name ∈ names, isRoot name = false)
    (l : Loggers) (n : Int) :
    (names.foldl (fun l name => l.setLevel name n) l).rootHandlers = l.rootHandlers ∧
      (names.foldl (fun l name => l.setLevel name n) l).rootLevel = l.rootLevel ∧
      ∀ other, (names.foldl (fun l name => l.setLevel name n) l).level other =
        if other ∈ names then n else l.level other := by
  induction names generalizing l with
  | nil => exact ⟨rfl, rfl, fun other => (if_neg List.not_mem_nil).symm⟩
  | cons name names ih =>
    obtain ⟨hname, hnames⟩ := List.forall_mem_cons.1 h
    obtain ⟨hhandlers, hroot, hlevel⟩ := ih hnames (l.setLevel name n)
    rw [List.foldl_cons, hhandlers, hroot, rootHandlers_setLevel, rootLevel_setLevel hname]
    refine ⟨rfl, rfl, fun other => ?_⟩
    rw [hlevel, level_setLevel hname]
    by_cases hmem : other ∈ names
    · rw [if_pos hmem, if_pos (List.mem_cons_of_mem _ hmem)]
    · simp [hmem]

/-! ## One call -/

theorem configure_of_requested (h : Level.requested? name = some level) :
    l.configure name = (l.withLines.setThreshold level, none) := by
  have hname : Level.ofName? (Text.upper name) = some level := h
  rw [configure, hname]

/-- A call that fails has set up the handler before. -/
theorem configure_of_not_requested (h : Level.requested? name = none) :
    l.configure name = (l.withLines, some ⟨Text.upper name⟩) := by
  have hname : Level.ofName? (Text.upper name) = none := h
  rw [configure, hname]

/-- The levels after a call for a level: the libraries stay above the debug records. -/
structure IsAt (l : Loggers) (level : Level) : Prop where
  root : l.rootLevel = level.number
  quiet : ∀ name ∈ quietNames, l.level name = max level.number Level.info.number

theorem isRoot_of_mem_quietNames : ∀ name ∈ quietNames, isRoot name = false := by decide

theorem setThreshold_spec (l : Loggers) (level : Level) :
    (l.setThreshold level).rootHandlers = l.rootHandlers ∧ (l.setThreshold level).IsAt level := by
  obtain ⟨hhandlers, hroot, hlevel⟩ := foldl_setLevel isRoot_of_mem_quietNames
    (l.setLevel rootName level.number) (max level.number Level.info.number)
  refine ⟨hhandlers.trans (rootHandlers_setLevel l rootName _), hroot, fun name hname => ?_⟩
  exact (hlevel name).trans (if_pos hname)

theorem isAt_withLines (h : l.IsAt level) : l.withLines.IsAt level := by
  rw [withLines_eq]
  exact ⟨h.root, h.quiet⟩

theorem rootHandlers_configure (l : Loggers) (name : String) :
    (l.configure name).1.rootHandlers = [.own .lines] := by
  cases h : Level.requested? name with
  | none => rw [configure_of_not_requested h, withLines_eq]
  | some level =>
    rw [configure_of_requested h]
    exact (setThreshold_spec l.withLines level).1.trans (by rw [withLines_eq])

/-! ## All calls -/

/-- The log after calls for levels, of which some may fail. -/
def configureAll (l : Loggers) (names : List String) : Loggers :=
  names.foldl (fun l name => (l.configure name).1) l

theorem configureAll_concat (l : Loggers) (names : List String) (name : String) :
    l.configureAll (names ++ [name]) = ((l.configureAll names).configure name).1 := by
  unfold configureAll
  rw [List.foldl_append]
  rfl

theorem rootHandlers_configureAll {names : List String} (h : names ≠ []) (l : Loggers) :
    (l.configureAll names).rootHandlers = [.own .lines] := by
  rw [← List.dropLast_concat_getLast h, configureAll_concat]
  exact rootHandlers_configure _ _

/-- The last call that did not fail decides about the levels. -/
theorem isAt_configureAll {names : List String}
    (h : (names.filterMap Level.requested?).getLast? = some level) (l : Loggers) :
    (l.configureAll names).IsAt level := by
  induction names using List.reverseRecOn with
  | nil => cases h
  | append_singleton names name ih =>
    rw [configureAll_concat]
    rw [List.filterMap_append] at h
    cases hname : Level.requested? name with
    | none =>
      rw [configure_of_not_requested hname]
      rw [List.filterMap_cons_none hname, List.filterMap_nil, List.append_nil] at h
      exact isAt_withLines (ih h)
    | some last =>
      rw [configure_of_requested hname]
      rw [List.filterMap_cons_some hname, List.filterMap_nil, List.getLast?_concat] at h
      obtain rfl := Option.some.inj h
      exact (setThreshold_spec _ last).2

/-! ## Writing -/

/-- The nearest level that was set may be the one of the logger itself. -/
theorem effectiveLevel_of_level (hname : isRoot name = false) (h : l.level name ≠ 0) :
    l.effectiveLevel name = l.level name := by
  rw [effectiveLevel, hname, lineage, List.map_cons, List.find?_cons_of_pos (by simpa using h)]
  rfl

/-- A record is written once or not at all: once if it has a line and a level which reaches the one
in force at its logger.  The level 0 and those below it are no levels of a record. -/
structure WritesOnce (l : Loggers) : Prop where
  handlers : l.rootHandlers = [.own .lines]
  written : ∀ created e r line, record created e = .ok r → r.line = .ok line → 0 < e.level →
    (l.use e.logger).effectiveLevel e.logger ≤ e.level →
    l.emit created e = .ok ⟨line ++ "\n", ""⟩
  silent : ∀ created e r, record created e = .ok r →
    e.level ≤ 0 ∨ e.level < (l.use e.logger).effectiveLevel e.logger ∨ (∀ line, r.line ≠ .ok line) →
    l.emit created e = .ok .empty

theorem writesOnce_of_lines (h : l.rootHandlers = [.own .lines]) : l.WritesOnce where
  handlers := h
  written := by
    intro created e r line hrecord hline hlevel hle
    have henabled : (l.use e.logger).isEnabled e.logger e.level = true := by
      simp [isEnabled, hlevel, hle]
    rw [emit_of_lines h, if_pos henabled, hrecord, ← lineOutput_of_line hline]
    rfl
  silent := by
    intro created e r hrecord hnot
    rw [emit_of_lines h, hrecord]
    split
    · next henabled =>
      simp only [isEnabled, Bool.and_eq_true, decide_eq_true_eq] at henabled
      have hline : ∀ line, r.line ≠ .ok line :=
        (hnot.resolve_left (by omega)).resolve_left (by omega)
      exact congrArg Except.ok (lineOutput_of_no_line hline)
    · rfl

/-- The loggers of the libraries let nothing through that is less severe than information. -/
theorem emit_of_quiet (h : l.IsAt level) {e : Entry} (hlogger : e.logger ∈ quietNames)
    (hlevel : e.level < Level.info.number) (created : Value) : l.emit created e = .ok .empty := by
  have hname := isRoot_of_mem_quietNames e.logger hlogger
  have hset : (l.use e.logger).level e.logger = max level.number Level.info.number :=
    (level_use l e.logger e.logger).trans (h.quiet e.logger hlogger)
  have hinfo : Level.info.number = 20 := rfl
  have heffective := effectiveLevel_of_level hname (l := l.use e.logger) (by omega)
  have henabled : (l.use e.logger).isEnabled e.logger e.level = false := by
    rw [isEnabled, heffective, hset, Bool.and_eq_false_iff]
    right
    simp only [decide_eq_false_iff_not]
    omega
  unfold emit
  dsimp only
  rw [henabled]
  rfl

/-- After calls for levels, of which some may fail, every record is written once or not at all, and
the levels are those of the last call that did not fail: the loggers of the libraries write nothing
that is less severe than information. -/
theorem configureAll_spec (l : Loggers) {names : List String} (h : names ≠ []) :
    (l.configureAll names).WritesOnce ∧
      (∀ k name, (configure k name).2 =
        if (Level.requested? name).isSome then none else some ⟨Text.upper name⟩) ∧
      ∀ level, (names.filterMap Level.requested?).getLast? = some level →
        (l.configureAll names).IsAt level ∧
        ∀ created e, e.logger ∈ quietNames → e.level < Level.info.number →
          (l.configureAll names).emit created e = .ok .empty := by
  refine ⟨writesOnce_of_lines (rootHandlers_configureAll h l), fun k name => ?_, ?_⟩
  · cases hname : Level.requested? name with
    | none => rw [configure_of_not_requested hname]; rfl
    | some level => rw [configure_of_requested hname]; rfl
  · intro level hlast
    have hlevel := isAt_configureAll hlast l
    exact ⟨hlevel, fun created e hlogger hless => emit_of_quiet hlevel hlogger hless created⟩

/-- Somebody else has set up handlers before. -/
def crowded : Loggers :=
  { initial with
    rootHandlers := [.own .silent, .foreign 0 fun _ => ⟨"", "record\n"⟩, .own .lines] }

/-- A call that fails comes after one for the debug level. -/
theorem configureAll_spec_of_crowded :
    (crowded.configureAll ["debug", "loud"]).WritesOnce ∧
      ((crowded.configureAll ["debug"]).configure "loud").2 = some ⟨"LOUD"⟩ ∧
      (crowded.configureAll ["debug", "loud"]).IsAt .debug := by
  obtain ⟨honce, hresult, hlast⟩ := configureAll_spec crowded (show ["debug", "loud"] ≠ [] by simp)
  refine ⟨honce, ?_, (hlast .debug (by rfl)).1⟩
  rw [hresult]
  rfl

/-- An entry for the root, with a template that takes no arguments. -/
def rootEntry (level : Int) (arguments : List Value) : Entry :=
  { logger := rootName
    level := level
    message := .text "m"
    arguments := arguments }

/-- A record with an argument that its template has no place for. -/
def surplusRecord : Record :=
  .make rootName Level.warning.number (.text "m") [.text "a"] (.int 0) .absent

theorem line_surplusRecord_ne (line : String) : surplusRecord.line ≠ .ok line := by
  intro h
  obtain ⟨c, hyields, _⟩ := Record.exists_yields_of_line h
  have hpieces : Template.pieces "m".toList = [.text ['m']] := by
    simp [Template.pieces, Template.readPieces]
  have hformat : Template.format "m" (.tuple [.text "a"]) = .error .tooManyValues := by
    rw [Template.format, hpieces]
    rfl
  have htext : surplusRecord.text =
      (Template.format "m" (.tuple [.text "a"])).mapError MessageError.template := rfl
  rw [hformat] at htext
  cases htext.symm.trans hyields.message

/-- Neither a line nor a level above 0 is enough for a record to be written: the threshold of the
root may be 0, and a template may not fit its arguments. -/
theorem not_written_of_reached :
    (¬ ∀ (l : Loggers) (names : List String), names ≠ [] →
      ∀ created e r line, record created e = .ok r → r.line = .ok line →
        ((l.configureAll names).use e.logger).effectiveLevel e.logger ≤ e.level →
        (l.configureAll names).emit created e = .ok ⟨line ++ "\n", ""⟩) ∧
    ¬ ∀ (l : Loggers) (names : List String), names ≠ [] →
      ∀ created e r, record created e = .ok r → 0 < e.level →
        ((l.configureAll names).use e.logger).effectiveLevel e.logger ≤ e.level →
        ∃ line, (l.configureAll names).emit created e = .ok ⟨line ++ "\n", ""⟩ := by
  have hnames : ["notset"] ≠ [] := by simp
  have hsilent := (writesOnce_of_lines (rootHandlers_configureAll hnames initial)).silent
  have hempty : ∀ line, (.ok .empty : Except Overwriting Output) ≠ .ok ⟨line ++ "\n", ""⟩ := by
    intro line h
    have hout : "" = line ++ "\n" := congrArg Output.out (Except.ok.inj h)
    exact absurd (String.append_eq_empty_iff.1 hout.symm).2 (by decide)
  constructor
  · intro hall
    have hwritten := hall initial ["notset"] hnames (.int 0) (rootEntry 0 []) _ _ rfl rfl (by decide)
    rw [hsilent (.int 0) (rootEntry 0 []) _ rfl (.inl (by decide))] at hwritten
    exact hempty _ hwritten
  · intro hall
    obtain ⟨line, hwritten⟩ := hall initial ["notset"] hnames (.int 0)
      (rootEntry Level.warning.number [.text "a"]) surplusRecord rfl (by decide) (by decide)
    rw [hsilent (.int 0) _ surplusRecord rfl (.inr (.inr line_surplusRecord_ne))] at hwritten
    exact hempty _ hwritten

end Loggers
end Log
end WorkflowDispatch
