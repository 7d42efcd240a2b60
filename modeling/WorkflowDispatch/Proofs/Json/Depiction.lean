import Mathlib.Data.List.Forall2
import WorkflowDispatch.Proofs.Json.Occurrence
/-!
The document for a value has the shape of the value.  Lists and tuples are arrays, maps are objects
with their entries in order, and every leaf is itself or, where JSON has no such leaf, its plain
text.
-/

namespace WorkflowDispatch
namespace Json

/-! ## Shapes -/

/-- The document shows the value. -/
inductive Depicts : Json → Value → Prop where
  | none : Depicts .null .none
  | bool (b : Bool) : Depicts (.bool b) (.bool b)
  | int (i : Int) : Depicts (.int i) (.int i)
  | float (x : Binary64) : Depicts (.float x) (.float x)
  | text (s : String) : Depicts (.text s) (.text s)
  | secret (s : String) : Depicts (.text (Value.secret s).plain) (.secret s)
  | path (p : String) : Depicts (.text (Value.path p).plain) (.path p)
  | bytes (b : List UInt8) : Depicts (.text (Value.bytes b).plain) (.bytes b)
  | list {js : List Json} {items : List Value} (h : List.Forall₂ Depicts js items) :
      Depicts (.array js) (.list items)
  | tuple {js : List Json} {items : List Value} (h : List.Forall₂ Depicts js items) :
      Depicts (.array js) (.tuple items)
  | map {ms : List (String × Json)} {entries : List (Value × Value)}
      (hnames : List.Forall₂ (fun m e => nameOfKey e.1 = .ok m.1) ms entries)
      (hvalues : List.Forall₂ (fun m e => Depicts m.2 e.2) ms entries) :
      Depicts (.object ms) (.map entries)

theorem forall₂_nameOfKey {entries : List (Value × Value)} {ms : List (String × Json)}
    (h : ofEntries entries = .ok ms) :
    List.Forall₂ (fun m e => nameOfKey e.1 = .ok m.1) ms entries := by
  induction entries generalizing ms with
  | nil =>
    cases h
    exact .nil
  | cons e rest ih =>
    obtain ⟨name, j, others, hname, _, hothers, rfl⟩ := exists_of_ofEntries_cons h
    exact .cons hname (ih hothers)

mutual

theorem depicts_of_ofValue : ∀ {v : Value} {j : Json}, ofValue v = .ok j → Depicts j v
  | .none, _, rfl => .none
  | .bool b, _, rfl => .bool b
  | .int i, _, rfl => .int i
  | .float x, _, rfl => .float x
  | .text s, _, rfl => .text s
  | .secret s, _, rfl => .secret s
  | .path p, _, rfl => .path p
  | .bytes b, _, rfl => .bytes b
  | .list items, _, h => by
    obtain ⟨js, hjs, rfl⟩ := exists_of_map_ok h
    exact .list (forall₂_depicts_of_ofItems hjs)
  | .tuple items, _, h => by
    obtain ⟨js, hjs, rfl⟩ := exists_of_map_ok h
    exact .tuple (forall₂_depicts_of_ofItems hjs)
  | .map entries, _, h => by
    obtain ⟨ms, hms, rfl⟩ := exists_of_map_ok h
    exact .map (forall₂_nameOfKey hms) (forall₂_depicts_of_ofEntries hms)

theorem forall₂_depicts_of_ofItems : ∀ {items : List Value} {js : List Json},
    ofItems items = .ok js → List.Forall₂ Depicts js items
  | [], _, rfl => .nil
  | v :: rest, _, h => by
    obtain ⟨j, others, hj, hothers, rfl⟩ := exists_of_ofItems_cons h
    exact .cons (depicts_of_ofValue hj) (forall₂_depicts_of_ofItems hothers)

theorem forall₂_depicts_of_ofEntries : ∀ {entries : List (Value × Value)}
    {ms : List (String × Json)}, ofEntries entries = .ok ms →
      List.Forall₂ (fun m e => Depicts m.2 e.2) ms entries
  | [], _, rfl => .nil
  | (k, v) :: rest, _, h => by
    obtain ⟨name, j, others, _, hj, hothers, rfl⟩ := exists_of_ofEntries_cons h
    exact .cons (depicts_of_ofValue hj) (forall₂_depicts_of_ofEntries hothers)

end

end Json
end WorkflowDispatch
