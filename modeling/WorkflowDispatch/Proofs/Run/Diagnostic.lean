import WorkflowDispatch.Proofs.Log.Content
import WorkflowDispatch.Proofs.Run.Ending
import WorkflowDispatch.Proofs.Run.Threshold
/-!
What a run that fails tells about it.  Misuse, refused settings and rejections are printed.  Every
other failure is told by a record alone, so nothing is told when the log does not let that record
through.
-/

namespace WorkflowDispatch

/-- The time has a text. -/
def Timestamp.IsWritable (t : Timestamp) : Prop := ∃ u, ofValue t.value = .ok u

namespace Log.Loggers

theorem Output.eq_empty_iff {o : Output} : o = .empty ↔ o.out = "" ∧ o.err = "" := by
  obtain ⟨out, err⟩ := o
  exact Output.mk.injEq .. ▸ Iff.rfl

theorem created_of_record {created : Value} {e : Log.Entry} {r : Record}
    (h : record created e = .ok r) : r.created = some created := by
  unfold record at h
  split at h
  · cases h
  · cases h
    rfl

/-- A record without a time that can be written is not written. -/
theorem lineOutput_of_not_time {created : Value} {e : Log.Entry} {r : Record}
    (h : record created e = .ok r) (htime : ¬ ∃ t, Timestamp.ofValue created = .ok t) :
    lineOutput r = .empty := by
  apply lineOutput_of_no_line
  intro line hline
  obtain ⟨c, hyields, _⟩ := Record.exists_yields_of_line hline
  obtain ⟨v, hv, ht⟩ := hyields.time
  cases hv.symm.trans (created_of_record h)
  exact htime ⟨_, ht⟩

end Log.Loggers

namespace Run

open Log (Level Loggers)

variable {entry : Entry} {s : Surroundings} {n : Network} {arguments : List String}

/-! ## Writing nothing -/

/-- A line has its break at least. -/
theorem line_ne_empty (text : String) : text ++ "\n" ≠ "" := fun h =>
  absurd (String.append_eq_empty_iff.1 h).2 (by decide)

theorem join_eq_empty_iff {texts : List String} :
    String.join texts = "" ↔ ∀ text ∈ texts, text = "" := by
  induction texts with
  | nil => simp
  | cons text texts ih =>
    rw [String.join_cons, String.append_eq_empty_iff, ih, List.forall_mem_cons]

theorem render_eq_empty_iff {now : Timestamp} {l : Loggers} {es : List Event} :
    render now l es = .empty ↔ ∀ e ∈ es, outputOf now l e = .empty := by
  simp only [render, Loggers.Output.eq_empty_iff, join_eq_empty_iff, List.forall_mem_map]
  exact forall₂_and.symm

theorem err_render_ne_empty {es : List Event} {text : String} (h : .print .err text ∈ es)
    (htext : text ≠ "") (now : Timestamp) (l : Loggers) : (render now l es).err ≠ "" := by
  intro hempty
  simp only [render, join_eq_empty_iff, List.forall_mem_map] at hempty
  exact htext (hempty _ h)

/-- There is a warning for every malformed statement. -/
theorem outputOf_warningEvents {content : EnvFile.Content} {now : Timestamp} {l : Loggers} :
    (∀ e ∈ warningEvents content, outputOf now l e = .empty) ↔ content.faults = [] := by
  obtain ⟨values, faults⟩ := content
  cases faults with
  | nil => exact iff_of_true (List.forall_mem_nil _) rfl
  | cons line lines =>
    refine iff_of_false (fun h => ?_) (List.cons_ne_nil _ _)
    have hwarnings := (Loggers.Output.eq_empty_iff.1 (h _ (List.mem_singleton_self _))).2
    exact line_ne_empty _ (join_eq_empty_iff.1 hwarnings _ List.mem_cons_self)

/-! ## The record of a failure -/

/-- The words about a failure that is no rejection. -/
def failureHeading (r : Reason) : String :=
  if r.isRequest then "Request to GitHub failed" else "Dispatch failed"

def failureEntry (entry : Entry) (f : Failure) : Log.Entry :=
  errorEntry entry (failureHeading f.reason) [] (.report f.report)

/-- The line for a failure, at a time. -/
def failureDocument (entry : Entry) (f : Failure) (time : Timestamp) : Json :=
  .object
    [("timestamp", .text time.text), ("level", .text Level.error.name),
      ("logger", .text entry.loggerName), ("message", .text (failureHeading f.reason)),
      ("exception", .text f.report)]

theorem conclude_of_not_isRejection {f : Failure} (h : f.reason.isRejection = false)
    (entry : Entry) (n : Network) :
    conclude entry (.error f) n = ⟨.ok exitFailure, [.log (failureEntry entry f)], n⟩ := by
  unfold conclude failureEntry failureHeading
  dsimp only
  cases hr : f.reason <;> simp [Reason.isRejection, hr] at h
  all_goals rfl

theorem ofCommand_failureEntry (entry : Entry) (f : Failure) :
    (Event.log (failureEntry entry f)).OfCommand entry := .entry _ _ _ rfl

/-- The record of a failure, as its logger makes it. -/
def failureRecord (created : Value) (entry : Entry) (f : Failure) : Log.Record :=
  .make entry.loggerName Level.error.number (.text (failureHeading f.reason)) [] created
    (.report f.report)

theorem record_failureEntry (created : Value) (entry : Entry) (f : Failure) :
    Loggers.record created (failureEntry entry f) = .ok (failureRecord created entry f) := by
  cases entry <;> rfl

theorem line_failureRecord {created : Value} {time : Timestamp}
    (h : Timestamp.ofValue created = .ok time) (entry : Entry) (f : Failure) :
    (failureRecord created entry f).line =
      .ok ((failureDocument entry f time).write .unicode) := by
  have hdocument : (failureRecord created entry f).document =
      (Timestamp.ofValue created).mapError Log.LineError.time >>= fun time =>
        .ok (failureDocument entry f time) := rfl
  rw [Log.Record.line, hdocument, h]
  rfl

/-- A record of a program is not written when its level is too low, nor when there is no time for
it. -/
theorem outputOf_of_not_written {e : Log.Entry} {now : Timestamp} {level : Level}
    (h : (Event.log e).OfClient ∨ (Event.log e).OfCommand entry)
    (hnot : e.level < level.number ∨ ¬ now.IsWritable) :
    outputOf now (loggersFor level) (.log e) = .empty := by
  obtain ⟨r, hr, houtput⟩ := outputOf_log h now
  rw [houtput]
  split
  · next hle =>
    rcases hnot with hlt | htime
    · omega
    · exact Loggers.lineOutput_of_not_time hr htime
  · rfl

/-- The line for a failure, where it is written. -/
theorem outputOf_failureEntry {now time : Timestamp} {level : Level} (entry : Entry) (f : Failure)
    (hlevel : level.number ≤ Level.error.number) (htime : Timestamp.ofValue now.value = .ok time) :
    outputOf now (loggersFor level) (.log (failureEntry entry f)) =
      ⟨(failureDocument entry f time).write .unicode ++ "\n", ""⟩ := by
  obtain ⟨r, hr, houtput⟩ := outputOf_log (.inr (ofCommand_failureEntry entry f)) now
  rw [record_failureEntry] at hr
  have hadmitted : level.number ≤ (failureEntry entry f).level := hlevel
  rw [houtput, if_pos hadmitted, ← Except.ok.inj hr,
    Loggers.lineOutput_of_line (line_failureRecord htime entry f)]

theorem outputOf_failureEntry_eq_empty_iff {now : Timestamp} {level : Level} (entry : Entry)
    (f : Failure) :
    outputOf now (loggersFor level) (.log (failureEntry entry f)) = .empty ↔
      Level.error.number < level.number ∨ ¬ now.IsWritable := by
  constructor
  · intro hempty
    by_contra hnot
    push Not at hnot
    obtain ⟨hlevel, time, htime⟩ := hnot
    rw [outputOf_failureEntry entry f hlevel htime, Loggers.Output.eq_empty_iff] at hempty
    exact line_ne_empty _ hempty.1
  · exact outputOf_of_not_written (.inr (ofCommand_failureEntry entry f))

/-! ## Failing runs -/

/-- A run of the dispatch that ends in a failure which is no rejection, with the settings that it
found.  All that it tells about the failure is a record. -/
structure LogsFailure (entry : Entry) (s : Surroundings) (n : Network) (r : Report)
    (content : EnvFile.Content) (x : Settings) (f : Failure) : Prop where
  content_eq : s.content = .ok content
  load_eq : Settings.load (sources [] s content) = .ok x
  result_eq : (dispatched x s.now n).result = .error f
  loggers_eq : r.loggers = loggersFor x.logLevel
  events_eq : r.events =
    warningEvents content ++ (dispatched x s.now n).events ++ [.log (failureEntry entry f)]

variable {r : Report} {content : EnvFile.Content} {x : Settings} {f : Failure}

/-- Such a run writes nothing when its record is not let through, since its other records are
less severe. -/
theorem LogsFailure.output_eq_empty_iff (h : LogsFailure entry s n r content x f) :
    r.output s.now = .empty ↔ content.faults = [] ∧
      (Level.error.number < x.logLevel.number ∨ ¬ s.now.IsWritable) := by
  rw [Report.output, h.loggers_eq, h.events_eq, render_eq_empty_iff, List.forall_mem_append,
    List.forall_mem_append, outputOf_warningEvents, List.forall_mem_singleton,
    outputOf_failureEntry_eq_empty_iff]
  constructor
  · rintro ⟨⟨hfaults, _⟩, hnot⟩
    exact ⟨hfaults, hnot⟩
  · rintro ⟨hfaults, hnot⟩
    refine ⟨⟨hfaults, fun e he => ?_⟩, hnot⟩
    have hclient := ofClient_of_dispatched (Settings.wellFormed_of_load h.load_eq) s.now n e he
    cases hclient with
    | call c => rfl
    | entry message attributes free =>
      have hof : (Event.log (Client.infoEntry message attributes)).OfClient ∨
          (Event.log (Client.infoEntry message attributes)).OfCommand entry :=
        .inl (.entry message attributes free)
      have hless : Level.info.number < Level.error.number := by decide
      exact outputOf_of_not_written hof (hnot.imp_left hless.trans)

/-- The last line of such a run tells the failure, if it is let through. -/
theorem LogsFailure.out_eq (h : LogsFailure entry s n r content x f) {time : Timestamp}
    (hlevel : x.logLevel.number ≤ Level.error.number)
    (htime : Timestamp.ofValue s.now.value = .ok time) :
    ∃ front, (r.output s.now).out =
      front ++ ((failureDocument entry f time).write .unicode ++ "\n") := by
  have houtput := outputOf_failureEntry entry f hlevel htime
  refine ⟨(render s.now r.loggers
    (warningEvents content ++ (dispatched x s.now n).events)).out, ?_⟩
  rw [Report.output, h.events_eq, h.loggers_eq]
  simp only [render, List.map_append, String.join_append, List.map_singleton, houtput,
    String.join_cons, String.join_nil, String.append_empty]

/-- How a run with the code tells that it failed: a text is printed as an error, or a failure of
the dispatch is logged. -/
inductive Tells (entry : Entry) (s : Surroundings) (n : Network) (r : Report) : Nat → Prop where
  | prints {code : Nat} {text : String} (hcode : code ≠ exitFailure) (htext : text ≠ "")
      (hmem : .print .err text ∈ r.events) : Tells entry s n r code
  | logs {content : EnvFile.Content} {x : Settings} {f : Failure}
      (h : LogsFailure entry s n r content x f) : Tells entry s n r exitFailure

theorem codeOfReason_of_isRejection {r : Reason} (h : r.isRejection = true) :
    codeOfReason r ≠ exitFailure := by
  cases r with
  | sessionRejected status => exact of_decide_eq_true rfl
  | credentialRejected repository status => exact of_decide_eq_true rfl
  | dispatchRejected target status text => exact of_decide_eq_true rfl
  | _ => cases h

/-- A dispatch whose outcome is no acceptance. -/
theorem tells_of_failure (hc : s.content = .ok content)
    (hl : Settings.load (sources [] s content) = .ok x)
    (hf : (dispatched x s.now n).result = .error f)
    (hr : CommandLine.read arguments = .run .dispatch false) (entry : Entry) :
    Tells entry s n (command entry arguments s n) (codeOfReason f.reason) := by
  have hcommand := command_of_content hc hl hr entry n
  have hevents : (command entry arguments s n).events =
      warningEvents content ++ ((dispatched x s.now n).events ++
        (conclude entry (.error f) (dispatched x s.now n).network).events) := by
    rw [hcommand, ← hf]
    rfl
  cases hrejection : f.reason.isRejection with
  | true =>
    obtain ⟨attributes, hconclude⟩ :=
      conclude_of_isRejection hrejection entry (dispatched x s.now n).network
    refine .prints (codeOfReason_of_isRejection hrejection) (line_ne_empty f.message) ?_
    rw [hevents, hconclude]
    simp
  | false =>
    rw [codeOfReason_of_not_rejection hrejection]
    refine .logs ⟨hc, hl, hf, by rw [hcommand], ?_⟩
    rw [hevents, conclude_of_not_isRejection hrejection, List.append_assoc]

theorem tells_of_exit (hs : s.Readable) {code : Nat}
    (hexit : (command entry arguments s n).ending = .exit code) (hcode : code ≠ exitOk) :
    Tells entry s n (command entry arguments s n) code := by
  cases hr : CommandLine.read arguments with
  | help scope =>
    rw [command, hr] at hexit
    exact absurd (Ending.exit.inj hexit).symm hcode
  | version =>
    rw [command, hr] at hexit
    exact absurd (Ending.exit.inj hexit).symm hcode
  | misuse scope m =>
    rw [command, hr] at hexit ⊢
    cases hexit
    have htext : CommandLine.misuseText scope m ≠ "" := line_ne_empty _
    exact .prints (by decide) htext List.mem_cons_self
  | run c dryRun =>
    obtain ⟨content, hc⟩ := hs.exists_content
    cases hl : Settings.load (sources [] s content) with
    | error complaints =>
      rw [ending_of_refused hc hl hr] at hexit
      cases hexit
      have htext : refusalText complaints ≠ "" := line_ne_empty _
      refine .prints (by decide) htext ?_
      rw [command, hr]
      dsimp only
      rw [withSettings_of_content hc, hl]
      exact List.mem_append_right _ List.mem_cons_self
    | ok x =>
      have hcommand := command_of_content hc hl hr entry n
      rw [hcommand] at hexit
      match c, dryRun, hr, hexit with
      | .showTarget, _, _, hexit => exact absurd (Ending.exit.inj hexit).symm hcode
      | .dispatch, true, _, hexit => exact absurd (Ending.exit.inj hexit).symm hcode
      | .dispatch, false, hr, hexit =>
        have hresult : codeEnding (dispatchCommand entry x s.now n).result = .exit code := hexit
        rw [result_dispatchCommand] at hresult
        cases hf : (dispatched x s.now n).result with
        | ok acceptance =>
          rw [hf] at hresult
          exact absurd (Ending.exit.inj hresult).symm hcode
        | error f =>
          rw [hf] at hresult
          rw [← Ending.exit.inj hresult]
          exact tells_of_failure hc hl hf hr entry

/-- What a run tells that ends with a code other than zero.  Unless the code is one, something is
printed as an error.  When it is one, the failure of the dispatch is told by the record behind
everything else: it is the last line if the level of the log is at most that of errors, and if
it is higher and the settings file has no malformed statements then nothing is written at all. -/
theorem output_of_exit (hs : s.Readable) {code : Nat}
    (hexit : (command entry arguments s n).ending = .exit code) (hcode : code ≠ 0) :
    (code ≠ 1 → ((command entry arguments s n).output s.now).err ≠ "") ∧
    (code = 1 → ∃ content x f,
      LogsFailure entry s n (command entry arguments s n) content x f ∧
      ((command entry arguments s n).output s.now = .empty ↔ content.faults = [] ∧
        (Level.error.number < x.logLevel.number ∨ ¬ s.now.IsWritable)) ∧
      (x.logLevel.number ≤ Level.error.number → ∀ time,
        Timestamp.ofValue s.now.value = .ok time → ∃ front,
          ((command entry arguments s n).output s.now).out =
            front ++ ((failureDocument entry f time).write .unicode ++ "\n"))) := by
  cases tells_of_exit hs hexit hcode with
  | prints hne htext hmem =>
    exact ⟨fun _ => err_render_ne_empty hmem htext _ _, fun h => absurd h hne⟩
  | logs h =>
    exact ⟨fun hne => absurd rfl hne, fun _ =>
      ⟨_, _, _, h, h.output_eq_empty_iff, fun hlevel time htime => h.out_eq hlevel htime⟩⟩

/-! ## A failure that nothing tells of -/

/-- The service breaks when it is asked for the rate limit. -/
def broken : Network :=
  { usualNetwork with rateLimits := [.error (.alone (.fault .runtime "boom"))] }

theorem loads_critical :
    (leveledSurroundings "CRITICAL").Loads { bareSettings with logLevel := .critical } :=
  ⟨.empty, rfl, by decide +kernel⟩

theorem readable_leveledSurroundings (level : String) : (leveledSurroundings level).Readable :=
  nofun

theorem isWritable_beginning : Timestamp.IsWritable ⟨0⟩ := by
  have hok : (Timestamp.ofValue (Timestamp.value ⟨0⟩)).isOk = true := by decide +kernel
  cases htime : Timestamp.ofValue (Timestamp.value ⟨0⟩) with
  | ok time => exact ⟨time, htime⟩
  | error fault =>
    rw [htime] at hok
    cases hok

theorem ending_broken :
    (command .installed ["dispatch"] (leveledSurroundings "CRITICAL") broken).ending =
      .exit exitFailure := by
  rw [ending_of_loads loads_critical]
  exact congrArg Ending.exit (by decide +kernel)

/-- The settings of such a run are the critical ones, and it has no file to warn about. -/
theorem LogsFailure.critical
    (h : LogsFailure entry (leveledSurroundings "CRITICAL") n r content x f) :
    content.faults = [] ∧ Level.error.number < x.logLevel.number := by
  obtain ⟨c, hc, hl⟩ := loads_critical
  cases hc.symm.trans h.content_eq
  cases hl.symm.trans h.load_eq
  cases hc
  exact ⟨rfl, by decide⟩

theorem output_of_broken :
    (leveledSurroundings "CRITICAL").Readable ∧
      (command .installed ["dispatch"] (leveledSurroundings "CRITICAL") broken).ending = .exit 1 ∧
      (command .installed ["dispatch"] (leveledSurroundings "CRITICAL") broken).output ⟨0⟩ =
        .empty := by
  have hs := readable_leveledSurroundings "CRITICAL"
  obtain ⟨content, x, f, hlogs, hempty, -⟩ := (output_of_exit hs ending_broken (by decide)).2 rfl
  obtain ⟨hfaults, hlevel⟩ := hlogs.critical
  exact ⟨hs, ending_broken, hempty.2 ⟨hfaults, .inl hlevel⟩⟩

/-- Not every failure is told. -/
theorem not_output_of_exit :
    ¬ ∀ entry arguments s n code, Surroundings.Readable s → s.now.IsWritable →
      (command entry arguments s n).ending = .exit code → code ≠ 0 →
        (command entry arguments s n).output s.now ≠ .empty := by
  intro hall
  have hs := readable_leveledSurroundings "CRITICAL"
  cases tells_of_exit hs ending_broken (by decide) with
  | prints hne _ _ => exact hne rfl
  | logs h =>
    obtain ⟨hfaults, hlevel⟩ := h.critical
    exact hall _ _ _ _ _ hs isWritable_beginning ending_broken (by decide)
      (h.output_eq_empty_iff.2 ⟨hfaults, .inl hlevel⟩)

end Run
end WorkflowDispatch
