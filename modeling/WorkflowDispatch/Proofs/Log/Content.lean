import WorkflowDispatch.Log.Record
import WorkflowDispatch.Proofs.Result
/-!
What the line of a record is made of.  A record has a line only if it has all the parts that are
written, so a line tells what each of them is.
-/

namespace WorkflowDispatch
namespace Log

/-- The members of a line, each in the form in which it is written. -/
structure Content where
  time : Timestamp
  level : Json
  logger : Json
  message : String
  extra : List (String × Json)
  exception : Option String

def Content.members (c : Content) : List (String × Json) :=
  [("timestamp", .text c.time.text), ("level", c.level), ("logger", c.logger),
    ("message", .text c.message)] ++ c.extra ++ exceptionMember c.exception

namespace Record

/-- Every member comes from a part that the record has. -/
structure Yields (r : Record) (c : Content) : Prop where
  time : ∃ v, r.created = some v ∧ Timestamp.ofValue v = .ok c.time
  level : ∃ v, r.level = some v ∧ Json.ofValue v = .ok c.level
  logger : ∃ v, r.logger = some v ∧ Json.ofValue v = .ok c.logger
  message : r.text = .ok c.message
  extra : extraMember r.shownAttributes = .ok c.extra
  exception : ∃ incident, r.incident = some incident ∧ incident.report? = .ok c.exception

theorem eq_some_of_part {α : Type} {name : String} {v : Option α} {w : α}
    (h : (part name v).mapError LineError.missing = .ok w) : v = some w := by
  cases v with
  | none => cases h
  | some v => exact congrArg some (Except.ok.inj h)

theorem exists_yields_of_line {r : Record} {line : String} (h : r.line = .ok line) :
    ∃ c, r.Yields c ∧ line = (Json.object c.members).write .unicode := by
  obtain ⟨j, hj, rfl⟩ := exists_of_map_ok h
  obtain ⟨created, hcreated, hj⟩ := exists_of_bind_ok hj
  obtain ⟨time, htime, hj⟩ := exists_of_bind_ok hj
  obtain ⟨levelValue, hlevelValue, hj⟩ := exists_of_bind_ok hj
  obtain ⟨loggerValue, hloggerValue, hj⟩ := exists_of_bind_ok hj
  obtain ⟨message, hmessage, hj⟩ := exists_of_bind_ok hj
  obtain ⟨_, _, hj⟩ := exists_of_bind_ok hj
  obtain ⟨incident, hincident, hj⟩ := exists_of_bind_ok hj
  obtain ⟨exception, hexception, hj⟩ := exists_of_bind_ok hj
  obtain ⟨level, hlevel, hj⟩ := exists_of_bind_ok hj
  obtain ⟨logger, hlogger, hj⟩ := exists_of_bind_ok hj
  obtain ⟨extra, hextra, hj⟩ := exists_of_bind_ok hj
  cases hj
  refine ⟨⟨time, level, logger, message, extra, exception⟩, ?_, rfl⟩
  exact
    { time := ⟨created, eq_some_of_part hcreated, ok_of_mapError_ok htime⟩
      level := ⟨levelValue, eq_some_of_part hlevelValue, ok_of_mapError_ok hlevel⟩
      logger := ⟨loggerValue, eq_some_of_part hloggerValue, ok_of_mapError_ok hlogger⟩
      message := ok_of_mapError_ok hmessage
      extra := ok_of_mapError_ok hextra
      exception := ⟨incident, eq_some_of_part hincident, ok_of_mapError_ok hexception⟩ }

end Record
end Log
end WorkflowDispatch
