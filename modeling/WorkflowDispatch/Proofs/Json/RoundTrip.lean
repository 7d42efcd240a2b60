import Mathlib.Data.List.Forall2
import WorkflowDispatch.Proofs.Json.Number
/-!
Both ways of writing a document are spellings of it, so a document that was written is read as it
was.
-/

namespace WorkflowDispatch
namespace Json

open Reader

/-! ## Lists of parts -/

/-- The text of an item. -/
def SpellsItem (j : Json) (part : String) : Prop := Spells (.document j) part.toList

/-- The text of a member: its name, a colon and its value. -/
def SpellsMember (m : String × Json) (part : String) : Prop :=
  ∃ charset cs, Spells (.document m.2) cs ∧
    part.toList = (writeText charset m.1).toList ++ ':' :: cs

theorem Spells.blanks {p : Part} {blanks cs : List Char} (hb : ∀ c ∈ blanks, isBlank c = true)
    (h : Spells p cs) : Spells p (blanks ++ cs) := by
  induction blanks with
  | nil => exact h
  | cons b blanks ih =>
    exact .blank (hb b List.mem_cons_self) (ih fun c hc => hb c (List.mem_cons_of_mem b hc))

variable (gap : String) (blanks : List Char)

theorem spells_items (hgap : ∀ c ∈ gap.toList, isBlank c = true)
    (hb : ∀ c ∈ blanks, isBlank c = true) {j : Json} {js : List Json} {part : String}
    {parts : List String} (hj : SpellsItem j part) (h : List.Forall₂ SpellsItem js parts) :
    Spells (.items (j :: js))
      ((("," ++ gap).intercalate (part :: parts)).toList ++ (blanks ++ [']'])) := by
  induction h generalizing j part with
  | nil =>
    rw [String.intercalate_singleton]
    exact .lastItem hj hb
  | cons hj' _ ih =>
    rw [String.intercalate_cons_cons]
    have hitem := Spells.item hj (.blanks hgap (ih hj'))
    simpa using hitem

theorem spells_members (hgap : ∀ c ∈ gap.toList, isBlank c = true)
    (hb : ∀ c ∈ blanks, isBlank c = true) {m : String × Json} {ms : List (String × Json)}
    {part : String} {parts : List String} (hm : SpellsMember m part)
    (h : List.Forall₂ SpellsMember ms parts) :
    Spells (.members (m :: ms))
      ((("," ++ gap).intercalate (part :: parts)).toList ++ (blanks ++ [rightBrace])) := by
  induction h generalizing m part with
  | nil =>
    obtain ⟨charset, cs, hj, hpart⟩ := hm
    rw [String.intercalate_singleton, hpart]
    simpa using Spells.lastMember charset m.1 hj hb
  | cons hm' _ ih =>
    obtain ⟨charset, cs, hj, hpart⟩ := hm
    rw [String.intercalate_cons_cons]
    simpa [hpart] using Spells.member charset m.1 hj (.blanks hgap (ih hm'))

/-! ## Documents -/

theorem spells_bool (b : Bool) :
    Spells (.document (.bool b)) (if b then "true" else "false" : String).toList := by
  cases b with
  | true => exact .constant (k := ("true", .bool true)) (by simp [constants])
  | false => exact .constant (k := ("false", .bool false)) (by simp [constants])

theorem spells_null : Spells (.document .null) "null".toList :=
  .constant (k := ("null", .null)) (by simp [constants])

theorem spells_array {js : List Json} {parts : List String} (h : List.Forall₂ SpellsItem js parts) :
    Spells (.document (.array js)) ("[" ++ ", ".intercalate parts ++ "]").toList := by
  cases h with
  | nil => exact .noItems
  | cons hj h => simpa using Spells.array (spells_items " " [] (by simp [isBlank]) (by simp) hj h)

theorem spells_object {ms : List (String × Json)} {parts : List String}
    (h : List.Forall₂ SpellsMember ms parts) :
    Spells (.document (.object ms)) ("\x7b" ++ ", ".intercalate parts ++ "\x7d").toList := by
  cases h with
  | nil => exact .noMembers
  | cons hm h =>
    simpa [leftBrace, rightBrace] using
      Spells.object (spells_members " " [] (by simp [isBlank]) (by simp) hm h)

/-- A line break and the indentation behind it. -/
theorem isBlank_of_mem_lineBreak (indent : Nat) :
    ∀ c ∈ '\n' :: List.replicate indent ' ', isBlank c = true := by
  intro c hc
  rcases List.mem_cons.1 hc with rfl | hc
  · rfl
  · rw [List.eq_of_mem_replicate hc]
    rfl

theorem toList_lineBreak (indent : Nat) :
    ("\n" ++ String.ofList (List.replicate indent ' ')).toList =
      '\n' :: List.replicate indent ' ' := by
  simp

theorem spells_arrayBlock (indent : Nat) {js : List Json} {parts : List String}
    (h : List.Forall₂ SpellsItem js parts) :
    Spells (.document (.array js)) (writeBlock indent "[" "]" parts).toList := by
  cases h with
  | nil =>
    show Spells _ ("[" ++ "]").toList
    exact .noItems
  | cons hj h =>
    have hgap := isBlank_of_mem_lineBreak (indent + 2)
    rw [← toList_lineBreak] at hgap
    have hitems := spells_items _ _ hgap (isBlank_of_mem_lineBreak indent) hj h
    simpa [writeBlock] using Spells.array (.blanks hgap hitems)

theorem spells_objectBlock (indent : Nat) {ms : List (String × Json)} {parts : List String}
    (h : List.Forall₂ SpellsMember ms parts) :
    Spells (.document (.object ms)) (writeBlock indent "\x7b" "\x7d" parts).toList := by
  cases h with
  | nil =>
    show Spells _ ("\x7b" ++ "\x7d").toList
    exact .noMembers
  | cons hm h =>
    have hgap := isBlank_of_mem_lineBreak (indent + 2)
    rw [← toList_lineBreak] at hgap
    have hmembers := spells_members _ _ hgap (isBlank_of_mem_lineBreak indent) hm h
    simpa [writeBlock, leftBrace, rightBrace] using Spells.object (.blanks hgap hmembers)

theorem spellsMember_of_spells (charset : Charset) (name : String) {j : Json} {value : String}
    (h : Spells (.document j) value.toList) :
    SpellsMember (name, j) (writeText charset name ++ ": " ++ value) := by
  refine ⟨charset, ' ' :: value.toList, .blank rfl h, ?_⟩
  simp

mutual

theorem spells_write (charset : Charset) : ∀ j : Json,
    Spells (.document j) (j.write charset).toList
  | .null => spells_null
  | .bool b => spells_bool b
  | .int i => spells_int i
  | .float x => spells_float x
  | .text s => .text charset s
  | .array items => spells_array (forall₂_writeItems charset items)
  | .object members => spells_object (forall₂_writeMembers charset members)

theorem forall₂_writeItems (charset : Charset) : ∀ items : List Json,
    List.Forall₂ SpellsItem items (writeItems charset items)
  | [] => .nil
  | j :: rest => .cons (spells_write charset j) (forall₂_writeItems charset rest)

theorem forall₂_writeMembers (charset : Charset) : ∀ members : List (String × Json),
    List.Forall₂ SpellsMember members (writeMembers charset members)
  | [] => .nil
  | (name, j) :: rest =>
    .cons (spellsMember_of_spells charset name (spells_write charset j))
      (forall₂_writeMembers charset rest)

end

mutual

theorem spells_writeIndented : ∀ (j : Json) (indent : Nat),
    Spells (.document j) (j.writeIndented indent).toList
  | .null, _ => spells_null
  | .bool b, _ => spells_bool b
  | .int i, _ => spells_int i
  | .float x, _ => spells_float x
  | .text s, _ => .text .ascii s
  | .array items, indent =>
    spells_arrayBlock indent (forall₂_writeItemsIndented items (indent + 2))
  | .object members, indent =>
    spells_objectBlock indent (forall₂_writeMembersIndented members (indent + 2))

theorem forall₂_writeItemsIndented : ∀ (items : List Json) (indent : Nat),
    List.Forall₂ SpellsItem items (writeItemsIndented indent items)
  | [], _ => .nil
  | j :: rest, indent =>
    .cons (spells_writeIndented j indent) (forall₂_writeItemsIndented rest indent)

theorem forall₂_writeMembersIndented : ∀ (members : List (String × Json)) (indent : Nat),
    List.Forall₂ SpellsMember members (writeMembersIndented indent members)
  | [], _ => .nil
  | (name, j) :: rest, indent =>
    .cons (spellsMember_of_spells .ascii name (spells_writeIndented j indent))
      (forall₂_writeMembersIndented rest indent)

end

theorem read_write (charset : Charset) (j : Json) : read (j.write charset) = some j :=
  read_of_spells (spells_write charset j)

theorem read_writeIndented (indent : Nat) (j : Json) : read (j.writeIndented indent) = some j :=
  read_of_spells (spells_writeIndented j indent)

end Json
end WorkflowDispatch
