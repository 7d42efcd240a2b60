import WorkflowDispatch.Proofs.Json.Depiction
/-!
When a value has a document.  Every leaf has one, so nothing but a key can stand in the way: a
value has a document exactly if JSON has a notation for every key of every map in it.
-/

namespace WorkflowDispatch

/-- JSON has a notation for the value as a key. -/
def Value.isNameable : Value → Bool
  | .none => true
  | .bool _ => true
  | .int _ => true
  | .float _ => true
  | .text _ => true
  | _ => false

/-- Some map in the value has the key, at any depth inside lists, tuples and maps. -/
inductive Value.IsKeyIn (k : Value) : Value → Prop where
  | key {v : Value} {entries : List (Value × Value)} (he : (k, v) ∈ entries) :
      IsKeyIn k (.map entries)
  | item {v : Value} {items : List Value} (hv : v ∈ items) (h : IsKeyIn k v) :
      IsKeyIn k (.list items)
  | component {v : Value} {items : List Value} (hv : v ∈ items) (h : IsKeyIn k v) :
      IsKeyIn k (.tuple items)
  | entry {e : Value × Value} {entries : List (Value × Value)} (he : e ∈ entries)
      (h : IsKeyIn k e.2) : IsKeyIn k (.map entries)

namespace Json

variable {k : Value}

theorem isNameable_of_nameOfKey {name : String} (h : nameOfKey k = .ok name) :
    k.isNameable = true := by
  cases k <;> first | rfl | cases h

theorem nameOfKey_eq_error {e : KeyError} (h : nameOfKey k = .error e) :
    k.isNameable = false ∧ e = ⟨k.kind⟩ := by
  cases k <;> cases h <;> exact ⟨rfl, rfl⟩

theorem isNameable_of_mem {v : Value} {entries : List (Value × Value)} (he : (k, v) ∈ entries)
    {ms : List (String × Json)} (h : ofEntries entries = .ok ms) : k.isNameable = true := by
  induction entries generalizing ms with
  | nil => cases he
  | cons first rest ih =>
    obtain ⟨_, _, _, hname, _, hothers, -⟩ := exists_of_ofEntries_cons h
    rcases List.mem_cons.1 he with rfl | he
    · exact isNameable_of_nameOfKey hname
    · exact ih he hothers

theorem isNameable_of_isKeyIn {v : Value} (h : k.IsKeyIn v) {j : Json} (hj : ofValue v = .ok j) :
    k.isNameable = true := by
  induction h generalizing j with
  | key he =>
    obtain ⟨ms, hms, rfl⟩ := exists_of_map_ok hj
    exact isNameable_of_mem he hms
  | item hv _ ih | component hv _ ih =>
    obtain ⟨js, hjs, rfl⟩ := exists_of_map_ok hj
    obtain ⟨i, -, hi⟩ := exists_of_mem_ofItems hv hjs
    exact ih hi
  | entry he _ ih =>
    obtain ⟨ms, hms, rfl⟩ := exists_of_map_ok hj
    obtain ⟨m, -, hm⟩ := exists_of_mem_ofEntries he hms
    exact ih hm

/-! ## Errors -/

/-- The value has a key without a notation, and the error is about it. -/
def Blames (e : KeyError) (v : Value) : Prop :=
  ∃ k : Value, k.IsKeyIn v ∧ k.isNameable = false ∧ e = ⟨k.kind⟩

theorem Blames.map {e : KeyError} {v w : Value} (h : Blames e v)
    (hvw : ∀ k : Value, k.IsKeyIn v → k.IsKeyIn w) : Blames e w := by
  obtain ⟨k, hk, hrest⟩ := h
  exact ⟨k, hvw k hk, hrest⟩

mutual

theorem blames_of_ofValue : ∀ {v : Value} {e : KeyError}, ofValue v = .error e → Blames e v
  | .float x, e, h => by cases h
  | .list items, e, h => by
    obtain ⟨v, hv, hb⟩ := exists_blames_of_ofItems (error_of_map h)
    exact hb.map fun _ => .item hv
  | .tuple items, e, h => by
    obtain ⟨v, hv, hb⟩ := exists_blames_of_ofItems (error_of_map h)
    exact hb.map fun _ => .component hv
  | .map entries, e, h => blames_of_ofEntries (error_of_map h)

theorem exists_blames_of_ofItems : ∀ {items : List Value} {e : KeyError},
    ofItems items = .error e → ∃ v ∈ items, Blames e v
  | v :: rest, e, h => by
    rcases error_of_bind h with h | ⟨_, _, h⟩
    · exact ⟨v, List.mem_cons_self, blames_of_ofValue h⟩
    · rcases error_of_bind h with h | ⟨_, _, h⟩
      · obtain ⟨w, hw, hb⟩ := exists_blames_of_ofItems h
        exact ⟨w, List.mem_cons_of_mem v hw, hb⟩
      · cases h

theorem blames_of_ofEntries : ∀ {entries : List (Value × Value)} {e : KeyError},
    ofEntries entries = .error e → Blames e (.map entries)
  | (k, v) :: rest, e, h => by
    rcases error_of_bind h with h | ⟨_, _, h⟩
    · exact ⟨k, .key List.mem_cons_self, nameOfKey_eq_error h⟩
    rcases error_of_bind h with h | ⟨_, _, h⟩
    · exact (blames_of_ofValue h).map fun _ => .entry (e := (k, v)) List.mem_cons_self
    rcases error_of_bind h with h | ⟨_, _, h⟩
    · refine (blames_of_ofEntries h).map fun key hkey => ?_
      cases hkey with
      | key he => exact .key (List.mem_cons_of_mem _ he)
      | entry he hkey => exact .entry (List.mem_cons_of_mem _ he) hkey
    · cases h

end

/-- A value has a document exactly if there is a notation for all of its keys. -/
theorem exists_ofValue_iff {v : Value} :
    (∃ j, ofValue v = .ok j) ↔ ∀ k : Value, k.IsKeyIn v → k.isNameable = true := by
  constructor
  · rintro ⟨j, hj⟩ k hk
    exact isNameable_of_isKeyIn hk hj
  · intro h
    cases hv : ofValue v with
    | ok j => exact ⟨j, rfl⟩
    | error e =>
      obtain ⟨k, hk, hnot, -⟩ := blames_of_ofValue hv
      rw [h k hk] at hnot
      cases hnot

end Json
end WorkflowDispatch
