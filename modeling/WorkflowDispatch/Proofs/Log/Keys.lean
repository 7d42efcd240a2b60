import WorkflowDispatch.Proofs.Json.Keys
import WorkflowDispatch.Proofs.Log.Redaction
/-!
When a record has a line.  Redaction turns the keys of maps into texts, on the way through maps
only.  So a record whose other parts can be written is lost exactly if a map inside of a list or of
a tuple has a key without a notation and no name of a credential leads to it.
-/

namespace WorkflowDispatch
namespace Log

variable {k : Value}

/-- The key stands in the value where redaction leaves it as it is: in a list or a tuple, and no
name of a credential is met on the way there.  Of the entries of a map whose keys have one plain
text the last one counts. -/
inductive KeepsKey (k : Value) : Value → Prop where
  | list {items : List Value} (h : k.IsKeyIn (.list items)) : KeepsKey k (.list items)
  | tuple {items : List Value} (h : k.IsKeyIn (.tuple items)) : KeepsKey k (.tuple items)
  | entry {key v : Value} {before after : List (Value × Value)}
      (hkey : isSensitive key.plain = false) (hlast : ∀ e ∈ after, e.1.plain ≠ key.plain)
      (h : KeepsKey k v) : KeepsKey k (.map (before ++ (key, v) :: after))

/-! ## Named maps -/

/-- The names of a map are texts, so a key without a notation stands in one of the values. -/
theorem isKeyIn_namedMap_iff (hk : k.isNameable = false) {b : Bindings Value} :
    k.IsKeyIn (namedMap b) ↔ ∃ p ∈ b, k.IsKeyIn p.2 := by
  unfold namedMap
  constructor
  · intro h
    cases h with
    | key he =>
      obtain ⟨p, -, hp⟩ := List.mem_map.1 he
      obtain ⟨rfl, -⟩ := Prod.mk.inj hp
      cases hk
    | entry he h =>
      obtain ⟨p, hp, rfl⟩ := List.mem_map.1 he
      exact ⟨p, hp, h⟩
  · rintro ⟨p, hp, h⟩
    exact .entry (List.mem_map_of_mem hp) h

/-- What comes through the redaction of a map is the last entry for its name. -/
theorem exists_last_of_mem_redacted {entries : List (Value × Value)} {p : String × Value}
    (h : p ∈ Bindings.ofPairs (redactEntries entries)) :
    ∃ before key v after, entries = before ++ (key, v) :: after ∧
      p = (key.plain, redact key.plain v) ∧ ∀ e ∈ after, e.1.plain ≠ key.plain := by
  obtain ⟨front, back, heq, hlast⟩ := Bindings.exists_last_of_mem_ofPairs h
  rw [redactEntries_eq_map] at heq
  obtain ⟨before, rest, rfl, rfl, hrest⟩ := List.map_eq_append_iff.1 heq
  obtain ⟨⟨key, v⟩, after, rfl, rfl, rfl⟩ := List.map_eq_cons_iff.1 hrest
  exact ⟨before, key, v, after, rfl, rfl, fun e he => hlast _ (List.mem_map_of_mem he)⟩

/-! ## Redaction -/

theorem isKeyIn_redact_of_keepsKey (hk : k.isNameable = false) {v : Value} (h : KeepsKey k v)
    {name : String} (hname : isSensitive name = false) : k.IsKeyIn (redact name v) := by
  induction h generalizing name with
  | list h | tuple h =>
    rw [redact_of_ne_map hname (by simp)]
    exact h
  | entry hkey hlast _ ih =>
    rw [redact_map hname, isKeyIn_namedMap_iff hk]
    exact ⟨_, mem_redacted_of_last hlast, ih hkey⟩

theorem isSensitive_of_isKeyIn_redact {v : Value} {name : String}
    (h : k.IsKeyIn (redact name v)) : isSensitive name = false := by
  refine Bool.eq_false_iff.2 fun hname => ?_
  rw [redact_of_isSensitive hname] at h
  cases h

theorem keepsKey_of_redact_of_ne_map {v : Value} (hv : ∀ entries, v ≠ .map entries) {name : String}
    (h : k.IsKeyIn (redact name v)) : KeepsKey k v := by
  rw [redact_of_ne_map (isSensitive_of_isKeyIn_redact h) hv] at h
  cases h with
  | key | entry => exact absurd rfl (hv _)
  | item hmem h => exact .list (.item hmem h)
  | component hmem h => exact .tuple (.component hmem h)

/-- The step for a map, from the values of its entries. -/
theorem keepsKey_of_redact_map (hk : k.isNameable = false) {entries : List (Value × Value)}
    (ih : ∀ e ∈ entries, ∀ name, k.IsKeyIn (redact name e.2) → KeepsKey k e.2) {name : String}
    (h : k.IsKeyIn (redact name (.map entries))) : KeepsKey k (.map entries) := by
  rw [redact_map (isSensitive_of_isKeyIn_redact h), isKeyIn_namedMap_iff hk] at h
  obtain ⟨p, hp, h⟩ := h
  obtain ⟨before, key, v, after, rfl, rfl, hlast⟩ := exists_last_of_mem_redacted hp
  have hmem : (key, v) ∈ before ++ (key, v) :: after :=
    List.mem_append_right before List.mem_cons_self
  exact .entry (isSensitive_of_isKeyIn_redact h) hlast (ih _ hmem _ h)

mutual

theorem keepsKey_of_redact (hk : k.isNameable = false) : ∀ (v : Value) (name : String),
    k.IsKeyIn (redact name v) → KeepsKey k v
  | .map entries => fun _ => keepsKey_of_redact_map hk (keepsKey_of_mem_entries hk entries)
  | .none | .bool _ | .int _ | .float _ | .text _ | .list _ | .tuple _ | .secret _ | .path _
  | .bytes _ => fun _ => keepsKey_of_redact_of_ne_map (by simp)

theorem keepsKey_of_mem_entries (hk : k.isNameable = false) :
    ∀ (entries : List (Value × Value)), ∀ e ∈ entries, ∀ (name : String),
      k.IsKeyIn (redact name e.2) → KeepsKey k e.2
  | [], _, he => absurd he List.not_mem_nil
  | (_, v) :: rest, e, he => by
    rcases List.mem_cons.1 he with rfl | he
    · exact keepsKey_of_redact hk v
    · exact keepsKey_of_mem_entries hk rest e he

end

/-- A key without a notation comes through redaction exactly where it is kept. -/
theorem isKeyIn_redact_iff (hk : k.isNameable = false) {v : Value} {name : String} :
    k.IsKeyIn (redact name v) ↔ isSensitive name = false ∧ KeepsKey k v :=
  ⟨fun h => ⟨isSensitive_of_isKeyIn_redact h, keepsKey_of_redact hk v name h⟩,
    fun h => isKeyIn_redact_of_keepsKey hk h.2 h.1⟩

/-! ## The line of a record -/

theorem ofValue_of_extraMember_error {b : Bindings Value} {e : Json.KeyError}
    (h : extraMember b = .error e) : Json.ofValue (namedMap b) = .error e := by
  unfold extraMember at h
  split at h
  · cases h
  · exact error_of_map h

theorem exists_ofValue_of_extraMember {b : Bindings Value} {ms : List (String × Json)}
    (h : extraMember b = .ok ms) : ∃ j, Json.ofValue (namedMap b) = .ok j := by
  unfold extraMember at h
  split at h
  · next hempty =>
    rw [List.isEmpty_iff.1 hempty]
    exact ⟨_, rfl⟩
  · obtain ⟨j, hj, -⟩ := exists_of_map_ok h
    exact ⟨j, hj⟩

namespace Record

/-- All parts of the record that are written can be written, and every attribute stands under a
name.  What the attributes are is not asked, but for the one that would hide the message. -/
structure IsComplete (r : Record) : Prop where
  time : ∃ v t, r.created = some v ∧ Timestamp.ofValue v = .ok t
  level : ∃ v j, r.level = some v ∧ Json.ofValue v = .ok j
  logger : ∃ v j, r.logger = some v ∧ Json.ofValue v = .ok j
  message : ∃ text, r.text = .ok text
  names : r.foreign = none
  exception : ∃ incident text, r.incident = some incident ∧ incident.report? = .ok text

variable {r : Record}

/-- Of a complete record nothing but the attributes can keep the document from being made. -/
theorem document_of_isComplete (h : r.IsComplete) :
    ∃ front back, r.document = ((extraMember r.shownAttributes).mapError LineError.key).map
      (fun extra => .object (front ++ extra ++ back)) := by
  obtain ⟨created, time, hcreated, htime⟩ := h.time
  obtain ⟨level, levelDocument, hlevel, hlevelDocument⟩ := h.level
  obtain ⟨logger, loggerDocument, hlogger, hloggerDocument⟩ := h.logger
  obtain ⟨text, htext⟩ := h.message
  obtain ⟨incident, exception, hincident, hexception⟩ := h.exception
  refine ⟨[("timestamp", .text time.text), ("level", levelDocument), ("logger", loggerDocument),
    ("message", .text text)], exceptionMember exception, ?_⟩
  unfold document checkNames
  simp only [hcreated, hlevel, hlogger, hincident, h.names, part, htext, htime, hexception,
    hlevelDocument, hloggerDocument, Except.mapError, bind, Except.bind]
  cases extraMember r.shownAttributes with
  | ok extra => rfl
  | error e => rfl

/-- The key stands in an attribute that is shown, where redaction leaves it as it is. -/
def KeepsKey (r : Record) (k : Value) : Prop :=
  ∃ a ∈ r.attributes.bindings, isShown a.1 = true ∧ isSensitive a.1 = false ∧ Log.KeepsKey k a.2

theorem isKeyIn_shownAttributes_iff (hk : k.isNameable = false) :
    k.IsKeyIn (namedMap r.shownAttributes) ↔ r.KeepsKey k := by
  rw [isKeyIn_namedMap_iff hk]
  constructor
  · rintro ⟨p, hp, h⟩
    obtain ⟨a, ha, rfl⟩ := List.mem_map.1 hp
    obtain ⟨ha, hshown⟩ := List.mem_filter.1 ha
    exact ⟨a, ha, hshown, (isKeyIn_redact_iff hk).1 h⟩
  · rintro ⟨a, ha, hshown, h⟩
    exact ⟨_, mem_shownAttributes ha hshown, (isKeyIn_redact_iff hk).2 h⟩

/-- A record whose other parts can be written has a line exactly if every key that redaction leaves
in it has a notation.  Where it has no line, such a key without a notation is to blame. -/
theorem exists_line_iff (h : r.IsComplete) :
    ((∃ line, r.line = .ok line) ↔ ∀ k, r.KeepsKey k → k.isNameable = true) ∧
    ∀ e, r.line = .error e →
      ∃ k, r.KeepsKey k ∧ k.isNameable = false ∧ e = .key ⟨k.kind⟩ := by
  obtain ⟨front, back, hdocument⟩ := document_of_isComplete h
  have hline : r.line = (((extraMember r.shownAttributes).mapError LineError.key).map
      (fun extra => .object (front ++ extra ++ back))).map (Json.write .unicode) := by
    rw [line, hdocument]
  have hblame : ∀ e, r.line = .error e →
      ∃ k, r.KeepsKey k ∧ k.isNameable = false ∧ e = .key ⟨k.kind⟩ := by
    intro e he
    rw [hline] at he
    obtain ⟨e', hextra, rfl⟩ := exists_of_mapError_error (error_of_map (error_of_map he))
    obtain ⟨k, hkey, hk, rfl⟩ := Json.blames_of_ofValue (ofValue_of_extraMember_error hextra)
    exact ⟨k, (isKeyIn_shownAttributes_iff hk).1 hkey, hk, rfl⟩
  refine ⟨⟨?_, fun hall => ?_⟩, hblame⟩
  · rintro ⟨line, hok⟩ k hkey
    rw [hline] at hok
    obtain ⟨j, hj, -⟩ := exists_of_map_ok hok
    obtain ⟨ms, hms, -⟩ := exists_of_map_ok hj
    obtain ⟨i, hi⟩ := exists_ofValue_of_extraMember (ok_of_mapError_ok hms)
    cases hk : k.isNameable with
    | true => rfl
    | false =>
      have hname := Json.exists_ofValue_iff.1 ⟨i, hi⟩ k ((isKeyIn_shownAttributes_iff hk).2 hkey)
      exact hk.symm.trans hname
  · cases hl : r.line with
    | ok line => exact ⟨line, rfl⟩
    | error e =>
      obtain ⟨k, hkey, hk, -⟩ := hblame e hl
      rw [hall k hkey] at hk
      cases hk

/-- A record that a logger has made is complete if its message can be put together, its time has a
text and its exception can be told. -/
theorem isComplete_make {logger : String} {level : Int} {message : Value} {arguments : List Value}
    {created : Value} {incident : Incident} {attributes : Attributes} {time : Timestamp}
    {text : String} {exception : Option String} (htime : Timestamp.ofValue created = .ok time)
    (htext : { make logger level message arguments created incident with attributes }.text =
      .ok text)
    (hincident : incident.report? = .ok exception) :
    { make logger level message arguments created incident with attributes }.IsComplete where
  time := ⟨created, time, rfl, htime⟩
  level := ⟨_, _, rfl, rfl⟩
  logger := ⟨_, _, rfl, rfl⟩
  message := ⟨text, htext⟩
  names := rfl
  exception := ⟨incident, exception, rfl, hincident⟩

/-- A record with a tuple as a key, in a map inside of a map and in one inside of a list. -/
def withTupleKeys (inList : Value) : Record :=
  { make "n" Level.info.number (.text "m") [] (.int 0) .absent with
    attributes :=
      { bindings :=
          [("sizes", .map [(.text "by", .map [(.tuple [.int 1], .none)])]),
            ("retries", .list [.map [(inList, .none)]])]
        unreserved := by
          show ∀ name ∈ ["sizes", "retries"], name ∉ reservedNames
          decide } }

theorem isComplete_withTupleKeys (inList : Value) : (withTupleKeys inList).IsComplete :=
  isComplete_make rfl rfl rfl

theorem exists_line_of_withTupleKeys :
    (∀ k, (withTupleKeys (.int 1)).KeepsKey k → k.isNameable = true) ∧
      ∃ k, (withTupleKeys (.tuple [.int 1])).KeepsKey k ∧ k.isNameable = false ∧
        LineError.key ⟨"tuple"⟩ = .key ⟨k.kind⟩ :=
  ⟨(exists_line_iff (isComplete_withTupleKeys (.int 1))).1.1 ⟨_, rfl⟩,
    (exists_line_iff (isComplete_withTupleKeys (.tuple [.int 1]))).2 _ rfl⟩

/-- An attribute can keep a record from having a line, whose other parts can all be written. -/
theorem not_exists_line_of_attributes :
    ¬ ∀ r : Record, r.IsComplete → ∃ line, r.line = .ok line := by
  intro hall
  obtain ⟨line, hline⟩ := hall (withTupleKeys (.tuple [.int 1])) (isComplete_withTupleKeys _)
  cases hline

end Record
end Log
end WorkflowDispatch
