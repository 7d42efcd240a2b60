import WorkflowDispatch.Proofs.Run.Events
import WorkflowDispatch.Proofs.Run.ExitCode
import WorkflowDispatch.Proofs.Settings.Invariant
/-!
What the log level of the settings can change.  Every run leaves the same events whatever the level
is, and the level decides only which of their records are written.
-/

namespace WorkflowDispatch

/-- A record of a level below the given one. -/
def Event.isBelow (level : Int) : Event → Bool
  | .log e => e.level < level
  | _ => false

theorem Event.isBelow_log (level : Int) (e : Log.Entry) :
    (Event.log e).isBelow level = true ↔ e.level < level := decide_eq_true_iff

namespace Run

open Log (Level Loggers)

/-! ## The loggers of a run -/

theorem loggersFor_eq_configure (level : Level) :
    loggersFor level = (Loggers.initial.configure level.name).1 := by
  rw [Settings.configure_name]
  rfl

theorem rootLevel_loggersFor (level : Level) : (loggersFor level).rootLevel = level.number := by
  cases level <;> rfl

theorem rootHandlers_loggersFor (level : Level) :
    (loggersFor level).rootHandlers = [.own .lines] := by
  cases level <;> rfl

/-- The loggers of the program are none of those that a level is set for. -/
theorem isNew_loggersFor (level : Level) {name : String}
    (h : name = Client.loggerName ∨ ∃ entry : Entry, name = entry.loggerName) :
    (loggersFor level).IsNew name := by
  have hknown : (loggersFor level).known.names = ["github", "urllib3", "requests"] := by
    cases level <;> rfl
  have hall : ∀ n, (loggersFor level).isKnown n = ["github", "urllib3", "requests"].contains n :=
    fun n => congrArg (·.contains n) hknown
  obtain rfl | ⟨_ | _, rfl⟩ := h
  all_goals
    exact ⟨by decide, (hall _).trans (by decide), fun n hn => (hall n).trans (by
      revert n
      decide)⟩

/-- What an event of a program asks of the log: its logger is one of the program, and it has a
record. -/
theorem outputOf_log {e : Log.Entry} {entry : Entry}
    (h : (Event.log e).OfClient ∨ (Event.log e).OfCommand entry) (now : Timestamp) :
    ∃ r, Loggers.record now.value e = .ok r ∧ ∀ level : Level,
      outputOf now (loggersFor level) (.log e) =
        if level.number ≤ e.level then Loggers.lineOutput r else .empty := by
  have hparts :
      (e.logger = Client.loggerName ∨ ∃ entry : Entry, e.logger = entry.loggerName) ∧
        0 < e.level ∧ e.attributes.names.find? Log.isTaken = none := by
    rcases h with h | h
    · cases h with
      | entry message attributes free =>
        have hlevel : 0 < Level.info.number := by decide
        exact ⟨.inl rfl, hlevel, free⟩
    · cases h with
      | entry message attributes incident free =>
        have hlevel : 0 < Level.error.number := by decide
        exact ⟨.inr ⟨entry, rfl⟩, hlevel, free⟩
  obtain ⟨hlogger, hlevel, hfree⟩ := hparts
  obtain ⟨r, hr⟩ := Loggers.exists_record hfree now.value
  refine ⟨r, hr, fun level => ?_⟩
  rw [outputOf, Loggers.emit_of_isNew (isNew_loggersFor level hlogger) (rootHandlers_loggersFor level)
    hlevel, rootLevel_loggersFor, hr]
  split <;> rfl

/-! ## The output -/

variable {entry : Entry}

theorem render_cons (now : Timestamp) (l : Loggers) (e : Event) (es : List Event) :
    render now l (e :: es) =
      ⟨(outputOf now l e).out ++ (render now l es).out,
        (outputOf now l e).err ++ (render now l es).err⟩ := by
  simp [render]

theorem err_lineOutput (r : Log.Record) : (Loggers.lineOutput r).err = "" := by
  unfold Loggers.lineOutput
  split <;> rfl

/-- What stands on the other stream has been printed there. -/
theorem err_render {es : List Event} (h : ∀ e ∈ es, e.OfClient ∨ e.OfCommand entry)
    (now : Timestamp) (level : Level) :
    (render now (loggersFor level) es).err = String.join (printsOf .err es) := by
  induction es with
  | nil => rfl
  | cons e es ih =>
    have ih := ih fun e he => h e (List.mem_cons_of_mem _ he)
    rw [render_cons, ih]
    match e, h e List.mem_cons_self with
    | .call c, _ => exact String.empty_append
    | .print .out text, _ => exact String.empty_append
    | .print .err text, _ => exact (String.join_cons ..).symm
    | .log e, he =>
      obtain ⟨r, _, houtput⟩ := outputOf_log he now
      rw [houtput]
      split
      · rw [err_lineOutput]
        exact String.empty_append
      · exact String.empty_append

/-- Raising the level silences the records below it and leaves every other event as it is. -/
theorem outputOf_of_le {level level' : Level} (hle : level.number ≤ level'.number) {e : Event}
    (h : e.OfClient ∨ e.OfCommand entry) (now : Timestamp) :
    outputOf now (loggersFor level') e =
      if e.isBelow level'.number then .empty else outputOf now (loggersFor level) e := by
  match e, h with
  | .call c, _ => rfl
  | .print .out text, _ => rfl
  | .print .err text, _ => rfl
  | .log e, h =>
    obtain ⟨r, _, houtput⟩ := outputOf_log h now
    rw [houtput, houtput]
    by_cases hbelow : e.level < level'.number
    · rw [if_neg (by omega), if_pos ((Event.isBelow_log ..).2 hbelow)]
    · rw [if_pos (by omega), if_neg (fun h => hbelow ((Event.isBelow_log ..).1 h)),
        if_pos (by omega)]

theorem render_of_le {level level' : Level} (hle : level.number ≤ level'.number) {es : List Event}
    (h : ∀ e ∈ es, e.OfClient ∨ e.OfCommand entry) (now : Timestamp) :
    render now (loggersFor level') es =
      render now (loggersFor level) (es.filter fun e => !e.isBelow level'.number) := by
  induction es with
  | nil => rfl
  | cons e es ih =>
    have ih := ih fun e he => h e (List.mem_cons_of_mem _ he)
    rw [render_cons, ih, outputOf_of_le hle (h e List.mem_cons_self)]
    by_cases hbelow : e.isBelow level'.number = true
    · rw [if_pos hbelow, List.filter_cons_of_neg (by simp [hbelow])]
      simp [Loggers.Output.empty]
    · rw [if_neg hbelow, List.filter_cons_of_pos (by simp [hbelow]), render_cons]

/-! ## Whole runs -/

/-- The settings file has the same malformed statements whatever the environment is. -/
theorem warningEvents_congr {s s' : Surroundings} (h : s.file = s'.file)
    {content content' : EnvFile.Content} (hc : s.content = .ok content)
    (hc' : s'.content = .ok content') : warningEvents content = warningEvents content' := by
  suffices hfaults : content.faults = content'.faults by
    unfold warningEvents EnvFile.Content.warnings
    rw [hfaults]
  unfold Surroundings.content at hc hc'
  rw [← h] at hc'
  cases hf : s.file with
  | none =>
    rw [hf] at hc hc'
    rw [← Except.ok.inj hc, ← Except.ok.inj hc']
  | some bytes =>
    rw [hf] at hc hc'
    obtain ⟨text, ht, rfl⟩ := exists_of_map_ok hc
    obtain ⟨text', ht', rfl⟩ := exists_of_map_ok hc'
    rw [ht] at ht'
    rw [Except.ok.inj ht']
    rfl

theorem ofCommand_of_mem_warningEvents {content : EnvFile.Content} {e : Event}
    (he : e ∈ warningEvents content) (entry : Entry) : e.OfCommand entry := by
  unfold warningEvents at he
  split at he
  · cases he
  · rw [List.mem_singleton.1 he]
    exact .print _ _

/-- A command does not look at the level. -/
theorem perform_logLevel (entry : Entry) (c : CommandLine.Command) (dryRun : Bool)
    (now : Timestamp) (x : Settings) (level : Level) (n : Network) :
    perform entry c dryRun now { x with logLevel := level } n = perform entry c dryRun now x n := by
  cases c with
  | showTarget => rfl
  | dispatch => cases dryRun <;> rfl

/-- The second run does what the first one does, and writes the same but for the records below its
level. -/
structure Report.Filters (now : Timestamp) (level level' : Level) (r r' : Report) : Prop where
  ending : r'.ending = r.ending
  calls : r'.calls = r.calls
  err : (r'.output now).err = (r.output now).err
  out : (r'.output now).out =
    (render now r.loggers (r.events.filter fun e => !e.isBelow level'.number)).out
  records : ∀ e, .log e ∈ r.events →
    r.loggers = (Loggers.initial.configure level.name).1 ∧
      r'.loggers = (Loggers.initial.configure level'.name).1 ∧
      ∃ record, Loggers.record now.value e = .ok record ∧
        outputOf now r.loggers (.log e) =
          if level.number ≤ e.level then Loggers.lineOutput record else .empty

/-- A run that writes one text and looks at no settings. -/
theorem Report.filters_print (now : Timestamp) (level level' : Level) (ending : Ending)
    (stream : Stream) (text : String) (n : Network) :
    Report.Filters now level level' ⟨ending, [.print stream text], .initial, n⟩
      ⟨ending, [.print stream text], .initial, n⟩ :=
  ⟨rfl, rfl, rfl, rfl, fun _ he => nomatch List.mem_singleton.1 he⟩

/-- Two runs that do the same at different levels. -/
theorem Report.filters_of_events {level level' : Level} (hle : level.number ≤ level'.number)
    {es : List Event} (h : ∀ e ∈ es, e.OfClient ∨ e.OfCommand entry) (now : Timestamp)
    (ending : Ending) (n : Network) :
    Report.Filters now level level' ⟨ending, es, loggersFor level, n⟩
      ⟨ending, es, loggersFor level', n⟩ where
  ending := rfl
  calls := rfl
  err := (err_render h _ _).trans (err_render h _ _).symm
  out := congrArg (·.out) (render_of_le hle h now)
  records := by
    intro e he
    obtain ⟨record, hrecord, houtput⟩ := outputOf_log (h _ he) now
    exact ⟨loggersFor_eq_configure _, loggersFor_eq_configure _, record, hrecord, houtput _⟩

/-- The log level only filters.  Two runs of a command line with settings that differ in the level
end in the same way with the same calls and the same errors, and from the output of the one whose
level is higher exactly the lines of the records below that level are missing. -/
theorem command_of_levels {s s' : Surroundings} {x x' : Settings} (h : s.Loads x)
    (h' : s'.Loads x') (hx : x' = { x with logLevel := x'.logLevel }) (hfile : s.file = s'.file)
    (hnow : s.now = s'.now) (hle : x.logLevel.number ≤ x'.logLevel.number) (entry : Entry)
    (arguments : List String) (n : Network) :
    Report.Filters s.now x.logLevel x'.logLevel (command entry arguments s n)
      (command entry arguments s' n) := by
  cases hr : CommandLine.read arguments with
  | help scope =>
    unfold command
    rw [hr]
    exact Report.filters_print ..
  | version =>
    unfold command
    rw [hr]
    exact Report.filters_print ..
  | misuse scope m =>
    unfold command
    rw [hr]
    exact Report.filters_print ..
  | run c dryRun =>
    have hwell := h.wellFormed
    obtain ⟨content, hc, hload⟩ := h
    obtain ⟨content', hc', hload'⟩ := h'
    have hperform : perform entry c dryRun s'.now x' n = perform entry c dryRun s.now x n := by
      rw [hx, perform_logLevel, hnow]
    rw [command_of_content hc hload hr, command_of_content hc' hload' hr, hperform,
      ← warningEvents_congr hfile hc hc']
    have hevents : ∀ e ∈ warningEvents content ++ (perform entry c dryRun s.now x n).events,
        e.OfClient ∨ e.OfCommand entry := by
      intro e he
      rcases List.mem_append.1 he with he | he
      · exact .inr (ofCommand_of_mem_warningEvents he entry)
      · exact event_of_perform hwell entry c dryRun s.now n e he
    exact Report.filters_of_events hle hevents s.now _ _

/-- Bare surroundings with a log level. -/
def leveledSurroundings (level : String) : Surroundings :=
  { bareSurroundings with environment := ("LOG_LEVEL", level) :: bareSurroundings.environment }

theorem loads_noisy :
    (leveledSurroundings "notset").Loads { bareSettings with logLevel := .unset } :=
  ⟨.empty, rfl, by decide +kernel⟩

theorem loads_quiet :
    (leveledSurroundings " FATAL ").Loads { bareSettings with logLevel := .fatal } :=
  ⟨.empty, rfl, by decide +kernel⟩

/-- The credential of the dispatch is refused, which one run logs and the other one does not. -/
theorem command_of_noisy_and_quiet :
    (leveledSurroundings "notset").Loads { bareSettings with logLevel := .unset } ∧
      (leveledSurroundings " FATAL ").Loads { bareSettings with logLevel := .fatal } ∧
      Report.Filters ⟨0⟩ .unset .fatal
        (command .installed ["dispatch"] (leveledSurroundings "notset") forbidden)
        (command .installed ["dispatch"] (leveledSurroundings " FATAL ") forbidden) :=
  ⟨loads_noisy, loads_quiet, command_of_levels loads_noisy loads_quiet rfl rfl rfl (by decide)
    .installed ["dispatch"] forbidden⟩

end Run
end WorkflowDispatch
