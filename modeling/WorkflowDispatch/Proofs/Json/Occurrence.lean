import Mathlib.Data.List.Infix
import WorkflowDispatch.Json.OfValue
import WorkflowDispatch.Json.Writer
import WorkflowDispatch.Proofs.Result
/-!
Writing leaves nothing out: every text that a value holds, however deep, stands in what is written
for the value.
-/

namespace WorkflowDispatch

/-- The text is a part of the value, at any depth inside lists, tuples and maps. -/
inductive Value.Holds (s : String) : Value → Prop where
  | text : Holds s (.text s)
  | item {v : Value} {items : List Value} (hv : v ∈ items) (h : Holds s v) : Holds s (.list items)
  | component {v : Value} {items : List Value} (hv : v ∈ items) (h : Holds s v) :
      Holds s (.tuple items)
  | entry {e : Value × Value} {entries : List (Value × Value)} (he : e ∈ entries)
      (h : Holds s e.2) : Holds s (.map entries)

namespace Json

/-! ## Parts of a written document -/

theorem infix_intercalate {part : String} {parts : List String} (h : part ∈ parts)
    (separator : String) : part.toList <:+: (separator.intercalate parts).toList := by
  induction parts with
  | nil => cases h
  | cons first rest ih =>
    cases rest with
    | nil =>
      rw [List.mem_singleton.1 h, String.intercalate_singleton]
    | cons second rest =>
      rw [String.intercalate_cons_cons, String.toList_append, String.toList_append]
      rcases List.mem_cons.1 h with rfl | h
      · rw [List.append_assoc]
        exact (List.prefix_append _ _).isInfix
      · exact (ih h).trans (List.suffix_append _ _).isInfix

theorem write_mem_writeItems (charset : Charset) {j : Json} {items : List Json} (h : j ∈ items) :
    j.write charset ∈ writeItems charset items := by
  induction items with
  | nil => cases h
  | cons first rest ih =>
    rw [writeItems]
    rcases List.mem_cons.1 h with rfl | h
    · exact List.mem_cons_self
    · exact List.mem_cons_of_mem _ (ih h)

theorem write_mem_writeMembers (charset : Charset) {name : String} {j : Json}
    {members : List (String × Json)} (h : (name, j) ∈ members) :
    writeText charset name ++ ": " ++ j.write charset ∈ writeMembers charset members := by
  induction members with
  | nil => cases h
  | cons first rest ih =>
    obtain ⟨firstName, firstValue⟩ := first
    rw [writeMembers]
    rcases List.mem_cons.1 h with hfirst | h
    · obtain ⟨rfl, rfl⟩ := Prod.mk.inj hfirst
      exact List.mem_cons_self
    · exact List.mem_cons_of_mem _ (ih h)

theorem infix_write_item (charset : Charset) {j : Json} {items : List Json} (h : j ∈ items) :
    (j.write charset).toList <:+: ((Json.array items).write charset).toList := by
  have hparts := infix_intercalate (write_mem_writeItems charset h) ", "
  rw [write, String.toList_append, String.toList_append]
  exact hparts.trans ⟨_, _, rfl⟩

theorem infix_write_member (charset : Charset) {name : String} {j : Json}
    {members : List (String × Json)} (h : (name, j) ∈ members) :
    (j.write charset).toList <:+: ((Json.object members).write charset).toList := by
  have hparts := infix_intercalate (write_mem_writeMembers charset h) ", "
  rw [String.toList_append] at hparts
  have hmember := (List.suffix_append _ _).isInfix.trans hparts
  rw [write, String.toList_append, String.toList_append]
  exact hmember.trans ⟨_, _, rfl⟩

/-! ## Parts of the document for a value -/

theorem exists_of_ofItems_cons {v : Value} {rest : List Value} {js : List Json}
    (h : ofItems (v :: rest) = .ok js) :
    ∃ j others, ofValue v = .ok j ∧ ofItems rest = .ok others ∧ js = j :: others := by
  rw [ofItems] at h
  obtain ⟨j, hj, h⟩ := exists_of_bind_ok h
  obtain ⟨others, hothers, h⟩ := exists_of_bind_ok h
  cases h
  exact ⟨j, others, hj, hothers, rfl⟩

theorem exists_of_ofEntries_cons {k v : Value} {rest : List (Value × Value)}
    {ms : List (String × Json)} (h : ofEntries ((k, v) :: rest) = .ok ms) :
    ∃ name j others, nameOfKey k = .ok name ∧ ofValue v = .ok j ∧ ofEntries rest = .ok others ∧
      ms = (name, j) :: others := by
  rw [ofEntries] at h
  obtain ⟨name, hname, h⟩ := exists_of_bind_ok h
  obtain ⟨j, hj, h⟩ := exists_of_bind_ok h
  obtain ⟨others, hothers, h⟩ := exists_of_bind_ok h
  cases h
  exact ⟨name, j, others, hname, hj, hothers, rfl⟩

theorem exists_of_mem_ofItems {v : Value} {items : List Value} (hv : v ∈ items) {js : List Json}
    (h : ofItems items = .ok js) : ∃ j ∈ js, ofValue v = .ok j := by
  induction items generalizing js with
  | nil => cases hv
  | cons first rest ih =>
    obtain ⟨j, others, hj, hothers, rfl⟩ := exists_of_ofItems_cons h
    rcases List.mem_cons.1 hv with rfl | hv
    · exact ⟨j, List.mem_cons_self, hj⟩
    · obtain ⟨k, hk, hvk⟩ := ih hv hothers
      exact ⟨k, List.mem_cons_of_mem _ hk, hvk⟩

theorem exists_of_mem_ofEntries {e : Value × Value} {entries : List (Value × Value)}
    (he : e ∈ entries) {ms : List (String × Json)} (h : ofEntries entries = .ok ms) :
    ∃ m ∈ ms, ofValue e.2 = .ok m.2 := by
  induction entries generalizing ms with
  | nil => cases he
  | cons first rest ih =>
    obtain ⟨name, j, others, _, hj, hothers, rfl⟩ := exists_of_ofEntries_cons h
    rcases List.mem_cons.1 he with rfl | he
    · exact ⟨(name, j), List.mem_cons_self, hj⟩
    · obtain ⟨m, hm, hem⟩ := ih he hothers
      exact ⟨m, List.mem_cons_of_mem _ hm, hem⟩

theorem writeText_infix_of_holds (charset : Charset) {s : String} {v : Value} (h : v.Holds s)
    {j : Json} (hj : ofValue v = .ok j) :
    (writeText charset s).toList <:+: (j.write charset).toList := by
  induction h generalizing j with
  | text =>
    rw [ofValue] at hj
    cases hj
    exact List.infix_rfl
  | item hv _ ih | component hv _ ih =>
    rw [ofValue] at hj
    obtain ⟨js, hjs, rfl⟩ := exists_of_map_ok hj
    obtain ⟨k, hk, hvk⟩ := exists_of_mem_ofItems hv hjs
    exact (ih hvk).trans (infix_write_item charset hk)
  | entry he _ ih =>
    rw [ofValue] at hj
    obtain ⟨ms, hms, rfl⟩ := exists_of_map_ok hj
    obtain ⟨⟨name, k⟩, hm, hem⟩ := exists_of_mem_ofEntries he hms
    exact (ih hem).trans (infix_write_member charset hm)

end Json
end WorkflowDispatch
