/-!
Named values in the order in which their names first appeared.  The environment of a process, the
entries of a settings file and the attributes of a log record are all of this kind.
-/

namespace WorkflowDispatch

abbrev Bindings (α : Type) := List (String × α)

namespace Bindings

variable {α : Type}

/-- A name that is given a value again keeps its place. -/
def set (name : String) (value : α) : Bindings α → Bindings α
  | [] => [(name, value)]
  | (n, v) :: rest =>
    if n = name then (n, value) :: rest else (n, v) :: set name value rest

def get? (name : String) : Bindings α → Option α
  | [] => none
  | (n, v) :: rest => if n = name then some v else get? name rest

/-- The bindings that arise when the pairs are set from left to right. -/
def ofPairs (pairs : List (String × α)) : Bindings α :=
  pairs.foldl (fun b p => set p.1 p.2 b) []

def names (b : Bindings α) : List String := b.map Prod.fst

theorem get?_set_self (name : String) (value : α) (b : Bindings α) :
    get? name (set name value b) = some value := by
  induction b with
  | nil => simp [set, get?]
  | cons p rest ih =>
    obtain ⟨n, v⟩ := p
    by_cases h : n = name <;> simp [set, get?, h, ih]

theorem get?_set_of_ne {name other : String} (h : name ≠ other) (value : α) (b : Bindings α) :
    get? other (set name value b) = get? other b := by
  induction b with
  | nil => simp [set, get?, h]
  | cons p rest ih =>
    obtain ⟨n, v⟩ := p
    by_cases hn : n = name
    · subst hn
      simp [set, get?, h]
    · by_cases ho : n = other
      · subst ho
        simp [set, get?, hn]
      · simp [set, get?, hn, ho, ih]

theorem get?_filter {keep : String × α → Bool} {name : String}
    (h : ∀ v, keep (name, v) = true) (b : Bindings α) :
    get? name (b.filter keep) = get? name b := by
  induction b with
  | nil => rfl
  | cons p rest ih =>
    obtain ⟨n, v⟩ := p
    by_cases hn : n = name
    · subst hn
      rw [List.filter_cons, if_pos (h v), get?, get?, if_pos rfl, if_pos rfl]
    · rw [get?, if_neg hn, ← ih, List.filter_cons]
      split
      · rw [get?, if_neg hn]
      · rfl

theorem mem_of_get? {name : String} {value : α} {b : Bindings α} (h : get? name b = some value) :
    (name, value) ∈ b := by
  induction b with
  | nil => simp [get?] at h
  | cons p rest ih =>
    obtain ⟨n, v⟩ := p
    by_cases hn : n = name
    · subst hn
      simp_all [get?]
    · simp_all [get?]

theorem get?_foldl_set_of_ne {name : String} {pairs : List (String × α)}
    (h : ∀ p ∈ pairs, p.1 ≠ name) (b : Bindings α) :
    get? name (pairs.foldl (fun b p => set p.1 p.2 b) b) = get? name b := by
  induction pairs generalizing b with
  | nil => rfl
  | cons p rest ih =>
    rw [List.foldl_cons, ih (fun q hq => h q (List.mem_cons_of_mem _ hq)),
      get?_set_of_ne (h p List.mem_cons_self)]

/-- Of several values for a name the last one counts. -/
theorem get?_ofPairs_of_last {name : String} {pairs : List (String × α)}
    (h : ∀ p ∈ pairs, p.1 ≠ name) (before : List (String × α)) (value : α) :
    get? name (ofPairs (before ++ (name, value) :: pairs)) = some value := by
  unfold ofPairs
  rw [List.foldl_append, List.foldl_cons, get?_foldl_set_of_ne h, get?_set_self]

theorem mem_of_mem_set {name : String} {value : α} {b : Bindings α} {p : String × α}
    (h : p ∈ set name value b) : p = (name, value) ∨ p ∈ b := by
  induction b with
  | nil => exact .inl (List.mem_singleton.1 h)
  | cons q rest ih =>
    obtain ⟨n, v⟩ := q
    rw [set] at h
    split at h
    · next hn =>
      subst hn
      exact (List.mem_cons.1 h).imp_right (List.mem_cons_of_mem _)
    · rcases List.mem_cons.1 h with rfl | h
      · exact .inr List.mem_cons_self
      · exact (ih h).imp_right (List.mem_cons_of_mem _)

theorem mem_names_of_set {name n : String} {value : α} {b : Bindings α}
    (h : n ∈ names (set name value b)) : n = name ∨ n ∈ b.names := by
  obtain ⟨p, hp, rfl⟩ := List.mem_map.1 h
  rcases mem_of_mem_set hp with rfl | hp
  · exact .inl rfl
  · exact .inr (List.mem_map_of_mem hp)

theorem mem_of_mem_ofPairs {pairs : List (String × α)} {p : String × α} (h : p ∈ ofPairs pairs) :
    p ∈ pairs := by
  have hall : ∀ q ∈ ofPairs pairs, q ∈ pairs := by
    refine List.foldlRecOn (motive := fun b => ∀ q ∈ b, q ∈ pairs) pairs _ nofun ?_
    intro b hb q hq r hr
    rcases mem_of_mem_set hr with rfl | hr
    · exact hq
    · exact hb r hr
  exact hall p h

theorem set_of_not_mem {name : String} {b : Bindings α} (h : name ∉ b.names) (value : α) :
    set name value b = b ++ [(name, value)] := by
  induction b with
  | nil => rfl
  | cons p rest ih =>
    obtain ⟨n, v⟩ := p
    have hn : n ≠ name := fun hn => h (hn ▸ List.mem_cons_self)
    rw [set, if_neg hn, ih fun hmem => h (List.mem_cons_of_mem _ hmem)]
    rfl

/-- Names that differ from each other stand as they were set. -/
theorem ofPairs_of_nodup {pairs : List (String × α)} (h : (names pairs).Nodup) :
    ofPairs pairs = pairs := by
  suffices hall : ∀ b : Bindings α, (names (b ++ pairs)).Nodup →
      pairs.foldl (fun b p => set p.1 p.2 b) b = b ++ pairs from hall [] h
  clear h
  induction pairs with
  | nil => intro b _; exact (List.append_nil b).symm
  | cons p rest ih =>
    intro b hb
    have hp : p.1 ∉ b.names := by
      intro hmem
      unfold names at hb
      rw [List.map_append, List.nodup_append] at hb
      exact hb.2.2 _ hmem _ List.mem_cons_self rfl
    have hassoc : b ++ p :: rest = b ++ [p] ++ rest := List.append_cons ..
    rw [List.foldl_cons, set_of_not_mem hp, ih _ (hassoc ▸ hb), hassoc]

/-! ## Last pairs -/

theorem names_set_of_mem {name : String} {b : Bindings α} (h : name ∈ b.names) (value : α) :
    names (set name value b) = b.names := by
  induction b with
  | nil => cases h
  | cons p rest ih =>
    obtain ⟨n, v⟩ := p
    by_cases hn : n = name
    · rw [set, if_pos hn]
      rfl
    · have hrest : name ∈ names rest := (List.mem_cons.1 h).resolve_left fun h => hn h.symm
      rw [set, if_neg hn]
      exact congrArg (n :: ·) (ih hrest)

theorem nodup_set {b : Bindings α} (h : b.names.Nodup) (name : String) (value : α) :
    (names (set name value b)).Nodup := by
  by_cases hmem : name ∈ b.names
  · rwa [names_set_of_mem hmem]
  · rw [set_of_not_mem hmem, names, List.map_append, List.nodup_append]
    refine ⟨h, List.pairwise_singleton _ name, ?_⟩
    rintro n hn m hm rfl
    have hname : n = name := List.mem_singleton.1 hm
    exact hmem (hname ▸ hn)

theorem nodup_ofPairs (pairs : List (String × α)) : (names (ofPairs pairs)).Nodup :=
  List.foldlRecOn (motive := fun b => (names b).Nodup) pairs _ .nil
    fun _ hb p _ => nodup_set hb p.1 p.2

theorem get?_of_mem {b : Bindings α} (h : b.names.Nodup) {p : String × α} (hp : p ∈ b) :
    get? p.1 b = some p.2 := by
  induction b with
  | nil => cases hp
  | cons q rest ih =>
    obtain ⟨hq, hrest⟩ := List.nodup_cons.1 h
    rw [get?]
    rcases List.mem_cons.1 hp with rfl | hp
    · exact if_pos rfl
    · have hne : q.1 ≠ p.1 := fun heq => hq (heq ▸ List.mem_map_of_mem hp)
      rw [if_neg hne, ih hrest hp]

/-- The last pair with a name. -/
theorem exists_last_of_mem_names {name : String} {pairs : List (String × α)}
    (h : name ∈ names pairs) :
    ∃ before value after, pairs = before ++ (name, value) :: after ∧ ∀ p ∈ after, p.1 ≠ name := by
  induction pairs with
  | nil => cases h
  | cons p rest ih =>
    by_cases hrest : name ∈ names rest
    · obtain ⟨before, value, after, rfl, hlast⟩ := ih hrest
      exact ⟨p :: before, value, after, rfl, hlast⟩
    · obtain rfl := (List.mem_cons.1 h).resolve_right hrest
      exact ⟨[], p.2, rest, rfl, fun q hq heq => hrest (heq ▸ List.mem_map_of_mem hq)⟩

/-- What stands among the bindings is the last pair with its name. -/
theorem exists_last_of_mem_ofPairs {pairs : List (String × α)} {p : String × α}
    (h : p ∈ ofPairs pairs) :
    ∃ before after, pairs = before ++ p :: after ∧ ∀ q ∈ after, q.1 ≠ p.1 := by
  obtain ⟨before, value, after, rfl, hlast⟩ :=
    exists_last_of_mem_names (List.mem_map_of_mem (mem_of_mem_ofPairs h))
  have hvalue := get?_of_mem (nodup_ofPairs _) h
  rw [get?_ofPairs_of_last hlast] at hvalue
  obtain rfl := Option.some.inj hvalue
  exact ⟨before, after, rfl, hlast⟩

end Bindings
end WorkflowDispatch
