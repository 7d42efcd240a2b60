import WorkflowDispatch.Log.Loggers
import WorkflowDispatch.Proofs.Json.Depiction
import WorkflowDispatch.Proofs.Json.OneLine
import WorkflowDispatch.Proofs.Json.RoundTrip
import WorkflowDispatch.Proofs.Log.Redaction
/-!
A record is written as one line, and the line is read as one document.  Whatever texts the record
carries, they cannot end the line, and reading it gives back the message, the attributes and the
exception.
-/

namespace WorkflowDispatch
namespace Log

/-- An exception is told, or a value that is present stands in its place. -/
def Incident.isSet : Incident → Bool
  | .absent => false
  | .report _ => true
  | .value v => v.isPresent

namespace Record

/-! ## What is shown -/

/-- The attributes under names that are neither reserved nor private, with credentials redacted. -/
def extraAttributes (r : Record) : Bindings Value :=
  (r.attributes.bindings.filter (fun a => !reservedNames.contains a.1 && isShown a.1)).map
    (fun a => (a.1, redact a.1 a.2))

/-- The member for the attributes, which is there if there is one of them. -/
inductive ShowsExtra (r : Record) : List (String × Json) → Prop where
  | absent (h : ∀ a ∈ r.attributes.bindings, a.1 ∉ reservedNames → isShown a.1 = false) :
      ShowsExtra r []
  | present {a : String × Value} (ha : a ∈ r.attributes.bindings) (hname : a.1 ∉ reservedNames)
      (hshown : isShown a.1 = true) {j : Json} (hj : Json.Depicts j (namedMap r.extraAttributes)) :
      ShowsExtra r [("extra", j)]

/-- The member for the exception, which is there if one is told. -/
inductive ShowsException (r : Record) : List (String × Json) → Prop where
  | absent {incident : Incident} (h : r.incident = some incident) (hset : incident.isSet = false) :
      ShowsException r []
  | present {incident : Incident} (h : r.incident = some incident) (hset : incident.isSet = true)
      {text : String} (htext : incident.report? = .ok (some text)) :
      ShowsException r [("exception", .text text)]

variable {r : Record}

theorem not_mem_reservedNames {a : String × Value} (ha : a ∈ r.attributes.bindings) :
    a.1 ∉ reservedNames :=
  r.attributes.unreserved a.1 (List.mem_map_of_mem ha)

theorem shownAttributes_eq (r : Record) : r.shownAttributes = r.extraAttributes := by
  have hkept : r.attributes.bindings.filter (fun a => isShown a.1) =
      r.attributes.bindings.filter (fun a => !reservedNames.contains a.1 && isShown a.1) := by
    refine List.filter_congr fun a ha => ?_
    have hname : reservedNames.contains a.1 = false :=
      Bool.eq_false_iff.2 (mt List.contains_iff_mem.1 (not_mem_reservedNames ha))
    rw [hname]
    rfl
  rw [shownAttributes, extraAttributes, hkept]

theorem showsExtra_of_extraMember {extra : List (String × Json)}
    (hextra : extraMember r.shownAttributes = .ok extra) : r.ShowsExtra extra := by
  unfold extraMember at hextra
  split at hextra
  · next hempty =>
    cases hextra
    refine .absent fun a ha _ => Bool.eq_false_iff.2 fun hshown => ?_
    have hmem := mem_shownAttributes ha hshown
    rw [List.isEmpty_iff.1 hempty] at hmem
    cases hmem
  · next hempty =>
    obtain ⟨j, hj, rfl⟩ := exists_of_map_ok hextra
    obtain ⟨b, hb⟩ := List.exists_mem_of_ne_nil _ (mt List.isEmpty_iff.2 hempty)
    obtain ⟨a, ha, _⟩ := List.mem_map.1 hb
    obtain ⟨ha, hshown⟩ := List.mem_filter.1 ha
    rw [shownAttributes_eq] at hj
    exact .present ha (not_mem_reservedNames ha) hshown (Json.depicts_of_ofValue hj)

theorem showsException_of_report {incident : Incident} (h : r.incident = some incident)
    {exception : Option String} (hreport : incident.report? = .ok exception) :
    r.ShowsException (exceptionMember exception) := by
  cases incident with
  | absent =>
    cases hreport
    exact .absent h rfl
  | report text =>
    cases hreport
    exact .present h rfl rfl
  | value v =>
    have hreport' := hreport
    rw [Incident.report?] at hreport'
    split at hreport'
    · next hv =>
      obtain ⟨text, _, rfl⟩ := exists_of_map_ok hreport'
      exact .present h hv hreport
    · next hv =>
      cases hreport'
      exact .absent h (Bool.eq_false_iff.2 hv)

/-! ## The line -/

/-- The line of a record whose level and logger are texts has no control character, so it is one
line.  It is read as an object with the time, the level, the logger and the message, then the
attributes if any is to be shown, and then the exception if one is told. -/
theorem read_line {logger level : String} (hlogger : r.logger = some (.text logger))
    (hlevel : r.level = some (.text level)) {line : String} (hline : r.line = .ok line) :
    (∀ c ∈ line.toList, 0x20 ≤ c.toNat) ∧
    ∃ created time message extra exception,
      r.created = some created ∧ Timestamp.ofValue created = .ok time ∧
      r.text = .ok message ∧ r.ShowsExtra extra ∧ r.ShowsException exception ∧
      Json.read line = some (.object
        ([("timestamp", .text time.text), ("level", .text level), ("logger", .text logger),
          ("message", .text message)] ++ extra ++ exception)) := by
  obtain ⟨c, hc, rfl⟩ := exists_yields_of_line hline
  obtain ⟨created, hcreated, htime⟩ := hc.time
  obtain ⟨incident, hincident, hexception⟩ := hc.exception
  have hlevelText : c.level = .text level := by
    obtain ⟨v, hv, hj⟩ := hc.level
    cases hv.symm.trans hlevel
    exact (Except.ok.inj hj).symm
  have hloggerText : c.logger = .text logger := by
    obtain ⟨v, hv, hj⟩ := hc.logger
    cases hv.symm.trans hlogger
    exact (Except.ok.inj hj).symm
  refine ⟨Json.isOneLine_write .unicode _, created, c.time, c.message, c.extra,
    exceptionMember c.exception, hcreated, htime, hc.message, showsExtra_of_extraMember hc.extra,
    showsException_of_report hincident hexception, ?_⟩
  rw [Json.read_write .unicode, Content.members, hlevelText, hloggerText]

/-- Texts that would end the line, a text or a member if they were written as they are. -/
def hostileEntry : Entry :=
  { logger := "a\"b"
    level := Level.info.number
    message := .text "one\n%s"
    arguments := [.text "\r\n\", \"level\": \"DEBUG"]
    attributes :=
      [("ref", .text "main\n\x7b\"level\": \"ERROR\"\x7d"),
        ("_private", .text "\n"),
        ("nested\n", .list [.tuple [.float (.ofRatio false 1 10 (by decide)), .none],
          .map [(.bool true, .path "a\nb"), (.int (-1), .bytes [10, 34])]]),
        ("headers", .map [(.text "Authorization", .text "scoped"), (.none, .secret "s")])]
    incident := .report "E: \x08\x0c\x1f\\" }

def hostile : Record :=
  { make hostileEntry.logger hostileEntry.level hostileEntry.message hostileEntry.arguments (.int 0)
      hostileEntry.incident with
    attributes := .kept hostileEntry.attributes }

theorem read_line_of_hostile :
    Loggers.record (.int 0) hostileEntry = .ok hostile ∧
    ∃ line, hostile.line = .ok line ∧
      (∀ c ∈ line.toList, 0x20 ≤ c.toNat) ∧
      ∃ created time message extra exception,
        hostile.created = some created ∧ Timestamp.ofValue created = .ok time ∧
        hostile.text = .ok message ∧ hostile.ShowsExtra extra ∧
        hostile.ShowsException exception ∧
        Json.read line = some (.object
          ([("timestamp", .text time.text), ("level", .text "INFO"), ("logger", .text "a\"b"),
            ("message", .text message)] ++ extra ++ exception)) := by
  have hok : hostile.line.isOk = true := by decide +kernel
  cases hline : hostile.line with
  | error e =>
    rw [hline] at hok
    cases hok
  | ok line => exact ⟨rfl, line, rfl, read_line rfl rfl hline⟩

end Record
end Log
end WorkflowDispatch
