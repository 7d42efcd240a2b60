import Mathlib.Data.List.Forall2
import WorkflowDispatch.Proofs.Json.Occurrence
import WorkflowDispatch.Proofs.Log.Content
/-!
What redaction keeps from the log and what it lets through.  A value under the name of a credential
has no influence on the line of its record as long as the way to it leads through maps only.  What
a list or a tuple holds is written in full, whatever it stands under inside of it.
-/

namespace WorkflowDispatch
namespace Log

theorem redact_of_isSensitive {name : String} (h : isSensitive name = true) (v : Value) :
    redact name v = .text redactedMark := by
  cases v <;> simp [redact, h]

theorem redact_of_ne_map {name : String} (h : isSensitive name = false) {v : Value}
    (hv : ∀ entries, v ≠ .map entries) : redact name v = v := by
  cases v <;> simp_all [redact]

theorem redact_map {name : String} (h : isSensitive name = false)
    (entries : List (Value × Value)) :
    redact name (.map entries) = namedMap (Bindings.ofPairs (redactEntries entries)) := by
  rw [redact, h]
  rfl

theorem redactEntries_eq_map (entries : List (Value × Value)) :
    redactEntries entries = entries.map (fun e => (e.1.plain, redact e.1.plain e.2)) := by
  induction entries with
  | nil => rfl
  | cons e rest ih =>
    obtain ⟨k, v⟩ := e
    rw [redactEntries, ih, List.map_cons]

/-! ## Values that differ in credentials -/

mutual

/-- Two values that are the same but for what maps hold under names of credentials.  Maps may stand
inside maps, but lists and tuples are the same on both sides. -/
inductive ValueAlike : Value → Value → Prop where
  | refl (v : Value) : ValueAlike v v
  | map {es ds : List (Value × Value)} (h : EntriesAlike es ds) : ValueAlike (.map es) (.map ds)

inductive EntriesAlike : List (Value × Value) → List (Value × Value) → Prop where
  | nil : EntriesAlike [] []
  | credential {k : Value} (hk : isSensitive k.plain = true) (v w : Value)
      {es ds : List (Value × Value)} (h : EntriesAlike es ds) :
      EntriesAlike ((k, v) :: es) ((k, w) :: ds)
  | entry (k : Value) {v w : Value} (hv : ValueAlike v w) {es ds : List (Value × Value)}
      (h : EntriesAlike es ds) : EntriesAlike ((k, v) :: es) ((k, w) :: ds)

end

mutual

theorem redact_congr {v w : Value} (h : ValueAlike v w) (name : String) :
    redact name v = redact name w := by
  match h with
  | .refl _ => rfl
  | .map h => rw [redact, redact, redactEntries_congr h]

theorem redactEntries_congr {es ds : List (Value × Value)} (h : EntriesAlike es ds) :
    redactEntries es = redactEntries ds := by
  match h with
  | .nil => rfl
  | .credential hk v w h =>
    rw [redactEntries, redactEntries, redact_of_isSensitive hk, redact_of_isSensitive hk,
      redactEntries_congr h]
  | .entry k hv h =>
    rw [redactEntries, redactEntries, redact_congr hv, redactEntries_congr h]

end

theorem ValueAlike.kind {v w : Value} (h : ValueAlike v w) : v.kind = w.kind := by
  cases h with
  | refl => rfl
  | map => rfl

/-- Two attributes under one name.  If it is the name of a credential they may be any two values. -/
structure AttributeAlike (a b : String × Value) : Prop where
  name : a.1 = b.1
  value : isSensitive a.1 = false → ValueAlike a.2 b.2

theorem AttributeAlike.redact {a b : String × Value} (h : AttributeAlike a b) :
    redact a.1 a.2 = redact b.1 b.2 := by
  rw [← h.name]
  by_cases hs : isSensitive a.1 = true
  · rw [redact_of_isSensitive hs, redact_of_isSensitive hs]
  · exact redact_congr (h.value (Bool.eq_false_iff.2 hs)) a.1

theorem rel_get? {a b : Bindings Value} (h : List.Forall₂ AttributeAlike a b) {name : String}
    (hname : isSensitive name = false) :
    Option.Rel ValueAlike (a.get? name) (b.get? name) := by
  induction h with
  | nil => exact .none
  | @cons p q _ _ hpq _ ih =>
    rw [Bindings.get?, Bindings.get?, ← hpq.name]
    by_cases hp : p.1 = name
    · rw [if_pos hp, if_pos hp]
      exact .some (hpq.value (hp ▸ hname))
    · rw [if_neg hp, if_neg hp]
      exact ih

namespace Record

variable {r : Record} {attributes : Attributes}

theorem shownAttributes_congr
    (h : List.Forall₂ AttributeAlike r.attributes.bindings attributes.bindings) :
    { r with attributes }.shownAttributes = r.shownAttributes := by
  unfold shownAttributes
  dsimp only
  generalize r.attributes.bindings = own, attributes.bindings = others at h
  induction h with
  | nil => rfl
  | @cons p q _ _ hpq _ ih =>
    rw [List.filter_cons, List.filter_cons, ← hpq.name]
    by_cases hp : isShown p.1 = true
    · rw [if_pos hp, if_pos hp, List.map_cons, List.map_cons, ih, ← hpq.redact, ← hpq.name]
    · rw [if_neg hp, if_neg hp, ih]

theorem text_congr (h : List.Forall₂ AttributeAlike r.attributes.bindings attributes.bindings) :
    { r with attributes }.text = r.text := by
  have hrel : Option.Rel ValueAlike (r.attributes.bindings.get? messageName)
      (attributes.bindings.get? messageName) := rel_get? h (by decide)
  unfold text
  dsimp only
  generalize r.attributes.bindings.get? messageName = a,
    attributes.bindings.get? messageName = b at hrel
  cases hrel with
  | none => rfl
  | some hv =>
    dsimp only
    rw [hv.kind]

theorem line_congr (h : List.Forall₂ AttributeAlike r.attributes.bindings attributes.bindings) :
    { r with attributes }.line = r.line := by
  unfold line document
  rw [text_congr h, shownAttributes_congr h]
  rfl

end Record

/-! ## Values that are shown -/

/-- The text stands in the value, and no name of a credential is met on the way to it before the
first list or tuple.  Of the entries of a map whose keys have one plain text the last one counts. -/
inductive Exposes (s : String) : Value → Prop where
  | text : Exposes s (.text s)
  | list {items : List Value} (h : (Value.list items).Holds s) : Exposes s (.list items)
  | tuple {items : List Value} (h : (Value.tuple items).Holds s) : Exposes s (.tuple items)
  | entry {k v : Value} {before after : List (Value × Value)} (hk : isSensitive k.plain = false)
      (hlast : ∀ e ∈ after, e.1.plain ≠ k.plain) (h : Exposes s v) :
      Exposes s (.map (before ++ (k, v) :: after))

/-- The last entry for a name comes through the redaction of a map. -/
theorem mem_redacted_of_last {k v : Value} {before after : List (Value × Value)}
    (hlast : ∀ e ∈ after, e.1.plain ≠ k.plain) :
    (k.plain, redact k.plain v) ∈
      Bindings.ofPairs (redactEntries (before ++ (k, v) :: after)) := by
  rw [redactEntries_eq_map, List.map_append, List.map_cons]
  refine Bindings.mem_of_get? (Bindings.get?_ofPairs_of_last ?_ _ _)
  intro p hp
  obtain ⟨e, he, rfl⟩ := List.mem_map.1 hp
  exact hlast e he

theorem exists_of_mem_namedMap {entries : Bindings Value} {a : String × Value} (ha : a ∈ entries)
    {j : Json} (h : Json.ofValue (namedMap entries) = .ok j) :
    ∃ ms name k, j = .object ms ∧ (name, k) ∈ ms ∧ Json.ofValue a.2 = .ok k := by
  rw [namedMap, Json.ofValue] at h
  obtain ⟨ms, hms, rfl⟩ := exists_of_map_ok h
  obtain ⟨⟨name, k⟩, hm, hk⟩ := Json.exists_of_mem_ofEntries (List.mem_map_of_mem ha) hms
  exact ⟨ms, name, k, rfl, hm, hk⟩

theorem writeText_infix_of_exposes {s : String} {v : Value} (h : Exposes s v) {name : String}
    (hname : isSensitive name = false) {j : Json} (hj : Json.ofValue (redact name v) = .ok j) :
    (Json.writeText .unicode s).toList <:+: (j.write .unicode).toList := by
  induction h generalizing name j with
  | text =>
    rw [redact_of_ne_map hname (by simp)] at hj
    exact Json.writeText_infix_of_holds .unicode .text hj
  | list h | tuple h =>
    rw [redact_of_ne_map hname (by simp)] at hj
    exact Json.writeText_infix_of_holds .unicode h hj
  | entry hk hlast _ ih =>
    rw [redact_map hname] at hj
    obtain ⟨ms, _, i, rfl, hm, hi⟩ := exists_of_mem_namedMap (mem_redacted_of_last hlast) hj
    exact (ih hk hi).trans (Json.infix_write_member .unicode hm)

namespace Record

theorem mem_shownAttributes {r : Record} {name : String} {v : Value}
    (h : (name, v) ∈ r.attributes.bindings) (hshown : isShown name = true) :
    (name, redact name v) ∈ r.shownAttributes :=
  List.mem_map_of_mem (f := fun a => (a.1, redact a.1 a.2)) (List.mem_filter.2 ⟨h, hshown⟩)

theorem line_infix_of_exposes {r : Record} {name s line : String} {v : Value}
    (h : (name, v) ∈ r.attributes.bindings) (hshown : isShown name = true)
    (hname : isSensitive name = false) (hv : Exposes s v) (hline : r.line = .ok line) :
    (Json.writeText .unicode s).toList <:+: line.toList := by
  obtain ⟨c, hc, rfl⟩ := exists_yields_of_line hline
  have ha := mem_shownAttributes h hshown
  have hextra := hc.extra
  unfold extraMember at hextra
  rw [if_neg (fun hempty => by rw [List.isEmpty_iff.1 hempty] at ha; cases ha)] at hextra
  obtain ⟨j, hj, hextra⟩ := exists_of_map_ok hextra
  obtain ⟨ms, _, i, rfl, hm, hi⟩ := exists_of_mem_namedMap ha hj
  have hattribute := (writeText_infix_of_exposes hv hname hi).trans
    (Json.infix_write_member .unicode hm)
  have hmember : ("extra", Json.object ms) ∈ c.members := by
    rw [Content.members, ← hextra]
    exact List.mem_append_left _ (List.mem_append_right _ (List.mem_singleton.2 rfl))
  exact hattribute.trans (Json.infix_write_member .unicode hmember)

/-- What stands under the name of a credential, as the name of an attribute or of an entry of a map
inside of maps, has no influence on the line.  Every text that can be reached without such a name,
and every text inside of a list or a tuple that can be reached so, stands in the line. -/
theorem line_of_credentials (r : Record) :
    (∀ attributes : Attributes,
      List.Forall₂ AttributeAlike r.attributes.bindings attributes.bindings →
        { r with attributes }.line = r.line) ∧
    ∀ name v s line, (name, v) ∈ r.attributes.bindings → isShown name = true →
      isSensitive name = false → Exposes s v → r.line = .ok line →
        (Json.writeText .unicode s).toList <:+: line.toList :=
  ⟨fun _ h => line_congr h, fun _ _ _ _ h hshown hname hv hline =>
    line_infix_of_exposes h hshown hname hv hline⟩

/-- A record whose attributes hold a credential in a map and another one in a list. -/
def withHeaders (inMap inList : String) : Record :=
  { make "n" Level.info.number (.text "m") [] (.int 0) .absent with
    attributes :=
      { bindings :=
          [("headers", .map [(.text "Authorization", .text inMap), (.text "Accept", .text "json")]),
            ("retries", .list [.map [(.text "Authorization", .text inList)]])]
        unreserved := by
          show ∀ name ∈ ["headers", "retries"], name ∉ reservedNames
          decide } }

theorem alike_withHeaders (inMap inMap' inList : String) :
    List.Forall₂ AttributeAlike (withHeaders inMap inList).attributes.bindings
      (withHeaders inMap' inList).attributes.bindings := by
  refine .cons ⟨rfl, fun _ => .map ?_⟩ (.cons ⟨rfl, fun _ => .refl _⟩ .nil)
  exact .credential (by decide) _ _ (.entry _ (.refl _) .nil)

theorem line_of_headers :
    (withHeaders "other" "ambient").line = (withHeaders "scoped" "ambient").line ∧
      ∃ line, (withHeaders "scoped" "ambient").line = .ok line ∧
        (Json.writeText .unicode "ambient").toList <:+: line.toList := by
  obtain ⟨halike, hshown⟩ := line_of_credentials (withHeaders "scoped" "ambient")
  refine ⟨halike _ (alike_withHeaders _ _ _), _, rfl, ?_⟩
  exact hshown "retries" _ "ambient" _ (.tail _ (.head _)) (by decide) (by decide)
    (.list (.item (.head _) (.entry (.head _) .text))) rfl

/-- Inside of a list the name of a credential does not keep its value from the log. -/
theorem not_line_of_listed :
    ¬ ∀ (r : Record) (name key : String) (v w : Value) (hname : name ∉ reservedNames),
      isSensitive key = true →
        { r with attributes := .set .empty name (.list [.map [(.text key, v)]]) hname }.line =
          { r with attributes := .set .empty name (.list [.map [(.text key, w)]]) hname }.line := by
  intro hall
  have hline := hall (withHeaders "" "") "retries" "Authorization" (.text "scoped")
    (.text "ambient") (by decide) (by decide)
  have htext := congrArg Except.toOption hline
  revert htext
  decide +kernel

end Record

end Log
end WorkflowDispatch
