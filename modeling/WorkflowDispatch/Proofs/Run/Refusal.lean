import WorkflowDispatch.Proofs.Run.Threshold
import WorkflowDispatch.Proofs.Settings.Complaints
import WorkflowDispatch.Proofs.Text.Lines
/-!
What is printed about settings that do not load: a heading and one line for each complaint.  A value
of the environment or of the settings file stands in such a line quoted only, so no value makes a
line of its own.
-/

namespace WorkflowDispatch

open Text (IsUnbroken isUnbroken_append isUnbroken_literal)

/-! ## Complaints -/

namespace Target

theorem Error.isUnbroken_message (e : Error) : IsUnbroken e.message.toList := by
  cases e with
  | required field => cases field <;> exact isUnbroken_literal (by decide +kernel)
  | slash field value =>
    refine isUnbroken_append ?_ (Text.isUnbroken_quote value)
    cases field <;> exact isUnbroken_literal (by decide +kernel)

end Target

namespace Settings

theorem Cause.isUnbroken_ruleText (c : Cause) : IsUnbroken (c.ruleText.getD "").toList := by
  cases c with
  | credentialMissing f => cases f <;> exact isUnbroken_literal (by decide +kernel)
  | baseUrlEmpty | targetFieldBlank => exact isUnbroken_literal (by decide +kernel)
  | unknownLogLevel value =>
    exact isUnbroken_append (isUnbroken_literal (by decide +kernel)) (Text.isUnbroken_quote value)
  | target e => exact e.isUnbroken_message
  | _ => exact nofun

theorem Cause.isUnbroken_message (c : Cause) : IsUnbroken c.message.toList := by
  cases c with
  | notText | notUnicode | notNumber | unreadableNumber | notPositive =>
    exact isUnbroken_literal (by decide +kernel)
  | _ => exact isUnbroken_append (isUnbroken_literal (by decide +kernel)) (isUnbroken_ruleText _)

theorem Complaint.isUnbroken_line {c : Complaint} (h : IsUnbroken c.place.toList) :
    IsUnbroken c.line.toList := by
  have hindent : IsUnbroken "  ".toList := isUnbroken_literal (by decide +kernel)
  have hcolon : IsUnbroken ": ".toList := isUnbroken_literal (by decide +kernel)
  exact isUnbroken_append (isUnbroken_append (isUnbroken_append hindent h) hcolon)
    c.cause.isUnbroken_message

theorem Field.isUnbroken_place {f : Field} {place : String}
    (h : place = f.mainVariable ∨ place = f.name) : IsUnbroken place.toList := by
  rcases h with rfl | rfl
  · cases f <;> exact isUnbroken_literal (by decide +kernel)
  · cases f <;> exact isUnbroken_literal (by decide +kernel)

/-- Without keywords every complaint fits on a line. -/
theorem isUnbroken_of_load_error {s : Sources} (hk : s.keywords = []) {complaints : List Complaint}
    (h : load s = .error complaints) : ∀ c ∈ complaints, IsUnbroken c.line.toList := by
  intro c hc
  refine c.isUnbroken_line ?_
  rcases Sources.cases_of_load_error h with ⟨rfl, -⟩ | ⟨-, d, p, -, -, rfl⟩
  · obtain ⟨f, hf⟩ := Sources.mem_complaints.1 hc
    obtain ⟨cause, -, rfl⟩ := Option.map_eq_some_iff.1 hf
    exact Field.isUnbroken_place (Sources.place_of_no_keywords hk f)
  · rw [List.mem_singleton.1 hc]
    exact isUnbroken_literal (s := "settings") (by decide)

theorem ne_nil_of_load_error {s : Sources} {complaints : List Complaint}
    (h : load s = .error complaints) : complaints ≠ [] := by
  rcases Sources.cases_of_load_error h with ⟨-, hne⟩ | ⟨-, d, p, -, -, rfl⟩
  · exact hne
  · exact List.cons_ne_nil _ _

end Settings

/-! ## Lines -/

namespace Run

/-- Texts put together with line feeds, and one behind the last: each of them ends in one. -/
theorem toList_intercalate_lineFeed {parts : List String} (h : parts ≠ []) :
    ("\n".intercalate parts ++ "\n").toList = parts.flatMap (·.toList ++ ['\n']) := by
  induction parts with
  | nil => exact absurd rfl h
  | cons part rest ih =>
    cases rest with
    | nil =>
      rw [String.intercalate_singleton, String.toList_append, List.flatMap_singleton]
      rfl
    | cons second rest =>
      rw [String.intercalate_cons_cons, String.append_assoc, String.toList_append,
        String.toList_append, ih (List.cons_ne_nil _ _), List.flatMap_cons]
      rfl

/-- The words above the complaints. -/
def refusalHeading : String := "Configuration error (check your environment or .env):"

theorem refusalText_eq (complaints : List Settings.Complaint) :
    refusalText complaints =
      refusalHeading ++ "\n" ++ (Settings.complaintText complaints ++ "\n") := by
  have hheading : refusalHeading ++ "\n" =
      "Configuration error (check your environment or .env):\n" := by
    decide
  rw [hheading, ← String.append_assoc]
  rfl

theorem splitLines_refusalText {complaints : List Settings.Complaint} (hne : complaints ≠ [])
    (h : ∀ c ∈ complaints, IsUnbroken c.line.toList) :
    Text.splitLines (refusalText complaints).toList =
      refusalHeading.toList :: complaints.map (·.line.toList) := by
  have hheading : IsUnbroken refusalHeading.toList := isUnbroken_literal (by decide +kernel)
  have hlines : ∀ line ∈ complaints.map (·.line.toList), IsUnbroken line :=
    List.forall_mem_map.2 h
  have hcomplaints : (Settings.complaintText complaints ++ "\n").toList =
      (complaints.map (·.line.toList)).flatMap (· ++ ['\n']) := by
    unfold Settings.complaintText
    rw [toList_intercalate_lineFeed (List.map_eq_nil_iff.not.2 hne), List.flatMap_map,
      List.flatMap_map]
  have hfeed : "\n".toList = ['\n'] := rfl
  rw [refusalText_eq, String.toList_append, String.toList_append, hcomplaints, hfeed,
    List.append_assoc, List.singleton_append, Text.splitLines_line hheading,
    Text.splitLines_flatMap hlines]

/-- On the stream for errors the warnings stand before all else. -/
theorem err_render_warningEvents (content : EnvFile.Content) (now : Timestamp) (l : Log.Loggers)
    (text : String) :
    (render now l (warningEvents content ++ [.print .err text])).err =
      content.warnings ++ text := by
  obtain ⟨values, faults⟩ := content
  cases faults with
  | nil => simp [render, warningEvents, outputOf, EnvFile.Content.warnings]
  | cons line rest => simp [render, warningEvents, outputOf, EnvFile.Content.warnings]

/-- Where the settings do not load, the text behind the warnings about the file has one line for the
heading and one for each complaint, in their order, that begins with its place.  Nothing else makes
a line: values of the environment and of the file are quoted, and a quoted text has no character
that ends a line. -/
theorem lines_of_refused {s : Surroundings} {content : EnvFile.Content}
    (hc : s.content = .ok content) {complaints : List Settings.Complaint}
    (hload : Settings.load (sources [] s content) = .error complaints) {arguments : List String}
    {c : CommandLine.Command} {dryRun : Bool} (hr : CommandLine.read arguments = .run c dryRun)
    (entry : Entry) (n : Network) :
    ∃ text, ((command entry arguments s n).output s.now).err = content.warnings ++ text ∧
      Text.splitLines text.toList =
        "Configuration error (check your environment or .env):".toList ::
          complaints.map (fun c => ("  " ++ c.place ++ ": " ++ c.cause.message).toList) ∧
      (Text.splitLines text.toList).length = complaints.length + 1 ∧
      ∀ value, ∀ c ∈ (Text.quote value).toList, Text.isLineBreak c = false := by
  have hlines := splitLines_refusalText (Settings.ne_nil_of_load_error hload)
    (Settings.isUnbroken_of_load_error rfl hload)
  refine ⟨refusalText complaints, ?_, hlines, ?_, Text.isUnbroken_quote⟩
  · rw [command_of_refused hc hload hr]
    exact err_render_warningEvents content s.now _ _
  · rw [hlines, List.length_cons, List.length_map]

/-- A level that would make lines of its own, and a ref of which nothing is left without blanks. -/
def forgingSurroundings : Surroundings :=
  { environment :=
      [("GH_TOKEN", "ambient"), ("TARGET_REPO_PAT", "scoped"), ("DISPATCH_REF", "\u2028"),
        ("LOG_LEVEL", "\r\n  ref: x\u2029\x1C")]
    file := none
    now := ⟨0⟩ }

theorem lines_of_forgingSurroundings :
    Text.splitLines
        ((command .installed ["dispatch"] forgingSurroundings usualNetwork).output ⟨0⟩).err.toList =
      ["Configuration error (check your environment or .env):".toList,
        "  DISPATCH_REF: Value error, dispatch target fields must not be blank".toList,
        "  LOG_LEVEL: Value error, Unknown LOG_LEVEL: '\\r\\n  ref: x\\u2029\\x1c'".toList] := by
  have hload : Settings.load (sources [] forgingSurroundings .empty) =
      .error [⟨some "DISPATCH_REF", .targetFieldBlank⟩,
        ⟨some "LOG_LEVEL", .unknownLogLevel "\r\n  ref: x\u2029\x1C"⟩] := by
    decide +kernel
  obtain ⟨text, herr, hlines, -⟩ :=
    lines_of_refused (s := forgingSurroundings) rfl hload read_dispatch .installed usualNetwork
  have htext :
      ((command .installed ["dispatch"] forgingSurroundings usualNetwork).output ⟨0⟩).err = text :=
    herr.trans String.empty_append
  rw [htext, hlines]
  decide +kernel

end Run
end WorkflowDispatch
