import WorkflowDispatch.Proofs.Log.Keys
/-!
What redaction makes of maps inside of maps.  The keys become texts, and different keys may have one
text: its place is that of the first of them and its value that of the last.  Redaction is described
by these places and values alone, and a second redaction finds nothing left to do.
-/

namespace WorkflowDispatch

/-! ## Bindings made of pairs -/

namespace Bindings

variable {α : Type} {name : String} {pairs : List (String × α)}

/-- The value of the last pair with the name. -/
def last? (name : String) (pairs : List (String × α)) : Option α :=
  ((pairs.filter (·.1 == name)).getLast?).map (·.2)

theorem ofPairs_concat (pairs : List (String × α)) (p : String × α) :
    ofPairs (pairs ++ [p]) = set p.1 p.2 (ofPairs pairs) := by
  unfold ofPairs
  rw [List.foldl_concat]

/-- Names stand in the order in which they first appear. -/
theorem names_ofPairs (pairs : List (String × α)) :
    names (ofPairs pairs) = (names pairs).eraseDups := by
  induction pairs using List.reverseRecOn with
  | nil => rfl
  | append_singleton pairs p ih =>
    have hnames : names (pairs ++ [p]) = names pairs ++ [p.1] := List.map_append
    rw [ofPairs_concat, hnames, List.eraseDups_append]
    by_cases hp : p.1 ∈ names pairs
    · have hset : p.1 ∈ names (ofPairs pairs) := by rwa [ih, List.mem_eraseDups]
      have hremove : [p.1].removeAll (names pairs) = [] := by simp [List.removeAll, hp]
      rw [names_set_of_mem hset, ih, hremove, List.eraseDups_nil, List.append_nil]
    · have hset : p.1 ∉ names (ofPairs pairs) := by rwa [ih, List.mem_eraseDups]
      have hremove : [p.1].removeAll (names pairs) = [p.1] := by simp [List.removeAll, hp]
      rw [set_of_not_mem hset, hremove, List.eraseDups_cons, List.filter_nil, List.eraseDups_nil,
        ← ih]
      exact List.map_append

theorem get?_ofPairs (name : String) (pairs : List (String × α)) :
    get? name (ofPairs pairs) = last? name pairs := by
  induction pairs using List.reverseRecOn with
  | nil => rfl
  | append_singleton pairs p ih =>
    unfold last? at ih ⊢
    rw [ofPairs_concat, List.filter_append]
    by_cases hp : p.1 = name
    · have hlast : [p].filter (·.1 == name) = [p] := by simp [hp]
      rw [hlast, List.getLast?_concat, hp, get?_set_self]
      rfl
    · have hlast : [p].filter (·.1 == name) = [] := by simp [hp]
      rw [hlast, List.append_nil, get?_set_of_ne hp, ih]

theorem mem_of_last? {value : α} (h : last? name pairs = some value) : (name, value) ∈ pairs := by
  obtain ⟨p, hp, rfl⟩ := Option.map_eq_some_iff.1 h
  obtain ⟨hmem, hname⟩ := List.mem_filter.1 (List.mem_of_getLast? hp)
  rwa [← beq_iff_eq.1 hname]

theorem exists_last?_of_mem_names (h : name ∈ names pairs) : ∃ v, last? name pairs = some v := by
  obtain ⟨before, value, after, rfl, hlast⟩ := exists_last_of_mem_names h
  exact ⟨value, (get?_ofPairs ..).symm.trans (get?_ofPairs_of_last hlast before value)⟩

theorem last?_ofPairs (name : String) (pairs : List (String × α)) :
    last? name (ofPairs pairs) = last? name pairs := by
  rw [← get?_ofPairs, ofPairs_of_nodup (nodup_ofPairs pairs), get?_ofPairs]

theorem last?_map {β : Type} (g : String → α → β) (name : String) (pairs : List (String × α)) :
    last? name (pairs.map fun p => (p.1, g p.1 p.2)) = (last? name pairs).map (g name) := by
  unfold last?
  rw [List.filter_map, List.getLast?_map]
  simp only [Function.comp_def]
  cases hp : (pairs.filter (·.1 == name)).getLast? with
  | none => rfl
  | some p =>
    have hname := beq_iff_eq.1 (List.mem_filter.1 (List.mem_of_getLast? hp)).2
    rw [← hname]
    rfl

theorem ofPairs_eq_map {value : String → α}
    (h : ∀ n v, last? n pairs = some v → value n = v) :
    ofPairs pairs = (names pairs).eraseDups.map fun n => (n, value n) := by
  have hvalue : ∀ p ∈ ofPairs pairs, p = (p.1, value p.1) := by
    intro p hp
    have hget := get?_of_mem (nodup_ofPairs pairs) hp
    rw [get?_ofPairs] at hget
    rw [h _ _ hget]
  rw [← names_ofPairs, names, List.map_map]
  exact (List.map_id' _).symm.trans (List.map_congr_left hvalue)

end Bindings

namespace Log

open Bindings

variable {name : String}

/-! ## Maps -/

/-- The entries of a map under the plain texts of their keys. -/
def named (entries : List (Value × Value)) : List (String × Value) :=
  entries.map fun e => (e.1.plain, e.2)

theorem redactEntries_eq_named (entries : List (Value × Value)) :
    redactEntries entries = (named entries).map fun p => (p.1, redact p.1 p.2) := by
  rw [redactEntries_eq_map, named, List.map_map]
  rfl

theorem exists_of_last?_named {n : String} {v : Value} {entries : List (Value × Value)}
    (h : last? n (named entries) = some v) : ∃ e ∈ entries, e.2 = v := by
  obtain ⟨e, he, heq⟩ := List.mem_map.1 (mem_of_last? h)
  exact ⟨e, he, (Prod.mk.inj heq).2⟩

/-- The names of a map that has been redacted are their own plain texts. -/
theorem named_names (b : Bindings Value) : named (b.map fun e => (.text e.1, e.2)) = b := by
  rw [named, List.map_map]
  exact List.map_id' b

theorem last?_named_redacted (n : String) (entries : List (Value × Value)) :
    last? n (ofPairs (redactEntries entries)) = (last? n (named entries)).map (redact n) := by
  rw [last?_ofPairs, redactEntries_eq_named, last?_map]

/-- The map that comes of redaction, name by name. -/
theorem redact_map_eq (hname : isSensitive name = false) {entries : List (Value × Value)}
    {shown : String → Value} (h : ∀ n v, last? n (named entries) = some v → redact n v = shown n) :
    redact name (.map entries) =
      namedMap ((names (named entries)).eraseDups.map fun n => (n, shown n)) := by
  have hshown : ∀ n v, last? n (redactEntries entries) = some v → shown n = v := by
    intro n v hv
    rw [redactEntries_eq_named, last?_map] at hv
    obtain ⟨w, hw, rfl⟩ := Option.map_eq_some_iff.1 hv
    exact (h n w hw).symm
  have hnames : names (redactEntries entries) = names (named entries) := by
    rw [redactEntries_eq_named, names, names, List.map_map]
    rfl
  rw [redact_map hname, ofPairs_eq_map hshown, hnames]

/-! ## Redaction described -/

/-- What is shown of a value under a name: the mark for a credential, anything that is no map as it
is, and for a map its names in the order in which they first appear, each with what is shown of the
last value for it. -/
inductive Shows : String → Value → Value → Prop where
  | credential {name : String} (hname : isSensitive name = true) (v : Value) :
      Shows name v (.text redactedMark)
  | leaf {name : String} (hname : isSensitive name = false) {v : Value}
      (hv : ∀ entries, v ≠ .map entries) : Shows name v v
  | map {name : String} (hname : isSensitive name = false) {entries : List (Value × Value)}
      {shown : String → Value}
      (h : ∀ n v, last? n (named entries) = some v → Shows n v (shown n)) :
      Shows name (.map entries)
        (namedMap ((names (named entries)).eraseDups.map fun n => (n, shown n)))

theorem redact_of_shows {v w : Value} (h : Shows name v w) : redact name v = w := by
  induction h with
  | credential hname v => exact redact_of_isSensitive hname v
  | leaf hname hv => exact redact_of_ne_map hname hv
  | map hname _ ih => exact redact_map_eq hname ih

/-- Only where no credential is named there is something to show. -/
theorem shows_redact_of_imp {v : Value}
    (h : isSensitive name = false → Shows name v (redact name v)) :
    Shows name v (redact name v) := by
  cases hname : isSensitive name with
  | true =>
    rw [redact_of_isSensitive hname]
    exact .credential hname v
  | false => exact h hname

/-- The step for a map, from the values of its entries. -/
theorem shows_redact_map {entries : List (Value × Value)}
    (ih : ∀ e ∈ entries, ∀ name, Shows name e.2 (redact name e.2)) (name : String) :
    Shows name (.map entries) (redact name (.map entries)) := by
  refine shows_redact_of_imp fun hname => ?_
  have hshown : ∀ n v, last? n (named entries) = some v →
      redact n v = ((last? n (named entries)).map (redact n)).getD .none := by
    intro n v hv
    rw [hv]
    rfl
  rw [redact_map_eq hname hshown]
  refine .map hname fun n v hv => ?_
  obtain ⟨e, he, rfl⟩ := exists_of_last?_named hv
  rw [← hshown n _ hv]
  exact ih e he n

theorem shows_redact_of_ne_map {v : Value} (hv : ∀ entries, v ≠ .map entries) (name : String) :
    Shows name v (redact name v) := by
  refine shows_redact_of_imp fun hname => ?_
  rw [redact_of_ne_map hname hv]
  exact .leaf hname hv

mutual

theorem shows_redact : ∀ (v : Value) (name : String), Shows name v (redact name v)
  | .map entries => shows_redact_map (shows_redact_of_mem entries)
  | .none | .bool _ | .int _ | .float _ | .text _ | .list _ | .tuple _ | .secret _ | .path _
  | .bytes _ => shows_redact_of_ne_map (by simp)

theorem shows_redact_of_mem : ∀ (entries : List (Value × Value)), ∀ e ∈ entries,
    ∀ name : String, Shows name e.2 (redact name e.2)
  | [], _, he => absurd he List.not_mem_nil
  | (_, v) :: rest, e, he => by
    rcases List.mem_cons.1 he with rfl | he
    · exact shows_redact v
    · exact shows_redact_of_mem rest e he

end

theorem redact_eq_iff {v w : Value} : redact name v = w ↔ Shows name v w :=
  ⟨fun h => h ▸ shows_redact v name, redact_of_shows⟩

/-! ## Redacting twice -/

/-- Names that differ from each other keep their places, and none of the values hides another. -/
theorem redact_namedMap (hname : isSensitive name = false) {b : Bindings Value}
    (hb : b.names.Nodup) (h : ∀ p ∈ b, redact p.1 p.2 = p.2) :
    redact name (namedMap b) = namedMap b := by
  have hvalues : (b.map fun p => (p.1, redact p.1 p.2)) = b.map id :=
    List.map_congr_left fun p hp => Prod.ext rfl (h p hp)
  unfold namedMap
  rw [redact_map hname, redactEntries_eq_named, named_names, hvalues, List.map_id,
    ofPairs_of_nodup hb]
  rfl

/-- Nothing is left to do where redaction has been. -/
theorem redact_of_shown {v w : Value} (h : Shows name v w) : redact name w = w := by
  induction h with
  | credential hname v => exact redact_of_isSensitive hname _
  | leaf hname hv => exact redact_of_ne_map hname hv
  | @map _ hname entries shown _ ih =>
    have hnames : names ((names (named entries)).eraseDups.map fun n => (n, shown n)) =
        names (ofPairs (named entries)) := by
      rw [names_ofPairs, names, List.map_map]
      exact List.map_id' _
    refine redact_namedMap hname (hnames ▸ nodup_ofPairs (named entries)) fun p hp => ?_
    obtain ⟨n, hn, rfl⟩ := List.mem_map.1 hp
    obtain ⟨v, hv⟩ := exists_last?_of_mem_names (List.mem_eraseDups.1 hn)
    exact ih n v hv

/-! ## The way to a value -/

/-- The value that a row of names leads to, through maps inside of maps. -/
def reach? : List String → Value → Option Value
  | [], v => some v
  | n :: path, .map entries => (last? n (named entries)).bind (reach? path)
  | _ :: _, _ => none

theorem reach?_cons_of_ne_map {v : Value} (hv : ∀ entries, v ≠ .map entries) (n : String)
    (path : List String) : reach? (n :: path) v = none := by
  cases v <;> simp_all [reach?]

/-- Behind a name that is none of a credential the way through a redacted map goes on as it does
through the map itself. -/
theorem reach?_cons_redact (hname : isSensitive name = false) (n : String) (path : List String)
    (entries : List (Value × Value)) :
    reach? (n :: path) (redact name (.map entries)) =
      (last? n (named entries)).bind fun w => reach? path (redact n w) := by
  rw [redact_map hname, namedMap, reach?, named_names, last?_named_redacted, Option.bind_map]
  rfl

/-- Past names that are none of credentials a way leads to what is shown of the value at its
end. -/
theorem reach?_redact (path : List String) : ∀ (name : String) (v : Value),
    (∀ n ∈ (name :: path).dropLast, isSensitive n = false) →
      reach? path (redact name v) = (reach? path v).map (redact (path.getLastD name)) := by
  induction path with
  | nil => exact fun _ _ _ => rfl
  | cons n path ih =>
    intro name v h
    have hname := h name List.mem_cons_self
    have hpath : ∀ m ∈ (n :: path).dropLast, isSensitive m = false := fun m hm =>
      h m (List.mem_cons_of_mem _ hm)
    cases v with
    | map entries =>
      rw [reach?_cons_redact hname, reach?, Option.map_bind]
      congr 1
      funext w
      rw [ih n w hpath, List.getLastD_cons]
      rfl
    | _ =>
      rw [redact_of_ne_map hname (by simp), reach?_cons_of_ne_map (by simp)]
      rfl

/-- Nothing is reached behind the name of a credential. -/
theorem reach?_redact_of_isSensitive (path : List String) : ∀ (name : String) (v : Value),
    (∃ n ∈ (name :: path).dropLast, isSensitive n = true) →
      reach? path (redact name v) = none := by
  induction path with
  | nil => exact fun _ _ ⟨_, hmem, _⟩ => absurd hmem List.not_mem_nil
  | cons n path ih =>
    rintro name v ⟨m, hmem, hm⟩
    cases hname : isSensitive name with
    | true =>
      rw [redact_of_isSensitive hname]
      rfl
    | false =>
      have hne : m ≠ name := fun heq => by rw [heq, hname] at hm; cases hm
      have hpath : m ∈ (n :: path).dropLast := (List.mem_cons.1 hmem).resolve_left hne
      cases v with
      | map entries =>
        rw [reach?_cons_redact hname]
        exact Option.bind_eq_none_iff.2 fun w _ => ih n w ⟨m, hpath, hm⟩
      | _ => rw [redact_of_ne_map hname (by simp), reach?_cons_of_ne_map (by simp)]

/-- Redaction is exact: it shows of every map the distinct texts of its keys in the order in which
they first appear, each with the mark or with what is shown of the last value for it.  What is
reached without the name of a credential and is no map stands where it stood, and behind such a name
there is nothing.  Redacting twice is redacting once. -/
theorem redact_exact (name : String) (v : Value) :
    (∀ w, redact name v = w ↔ Shows name v w) ∧
    (∀ path leaf, (∀ n ∈ name :: path, isSensitive n = false) → (∀ entries, leaf ≠ .map entries) →
      reach? path v = some leaf → reach? path (redact name v) = some leaf) ∧
    (∀ path, (∃ n ∈ (name :: path).dropLast, isSensitive n = true) →
      reach? path (redact name v) = none) ∧
    redact name (redact name v) = redact name v := by
  refine ⟨fun _ => redact_eq_iff, fun path leaf hpath hleaf hv => ?_,
    fun path => reach?_redact_of_isSensitive path name v, redact_of_shown (shows_redact v name)⟩
  have hlast : isSensitive (path.getLastD name) = false := hpath _ List.getLastD_mem_cons
  rw [reach?_redact path name v fun n hn => hpath n (List.mem_of_mem_dropLast hn), hv,
    Option.map_some, redact_of_ne_map hlast hleaf]

/-- Two keys with one text, and a credential inside of the second value. -/
def collidingMap : Value :=
  .map
    [(.int 1, .text "first"), (.text "true", .list [.none]),
      (.text "1", .map [(.text "Api_Token", .text "ambient"), (.none, .int 0)])]

theorem redact_exact_of_colliding :
    redact "headers" collidingMap =
      .map
        [(.text "1", .map [(.text "Api_Token", .text redactedMark), (.text "None", .int 0)]),
          (.text "true", .list [.none])] ∧
    reach? ["1", "None"] (redact "headers" collidingMap) = some (.int 0) ∧
    redact "headers" (redact "headers" collidingMap) = redact "headers" collidingMap := by
  obtain ⟨-, hleaf, -, htwice⟩ := redact_exact "headers" collidingMap
  exact ⟨rfl, hleaf ["1", "None"] (.int 0) (by decide) (by simp) rfl, htwice⟩

end Log
end WorkflowDispatch
