import WorkflowDispatch.Proofs.Json.Text
/-!
How a document may be spelled.  The reader reads every spelling of a document as that document,
whatever the layout.
-/

namespace WorkflowDispatch
namespace Json

open Reader

/-- The parts of a document.  Items and members go up to the bracket that closes them. -/
inductive Part where
  | document (j : Json)
  | items (js : List Json)
  | members (ms : List (String × Json))

/-- The spellings of a part, with blanks wherever they may stand. -/
inductive Spells : Part → List Char → Prop where
  | blank {p c cs} (hc : isBlank c = true) (h : Spells p cs) : Spells p (c :: cs)
  | constant {k} (hk : k ∈ constants) : Spells (.document k.2) k.1.toList
  | number {j cs} (hj : number? cs = some j) (hc : ∀ c ∈ cs, isNumberChar c = true) :
      Spells (.document j) cs
  | text (charset s) : Spells (.document (.text s)) (writeText charset s).toList
  | noItems : Spells (.document (.array [])) ['[', ']']
  | array {js cs} (h : Spells (.items js) cs) : Spells (.document (.array js)) ('[' :: cs)
  | noMembers : Spells (.document (.object [])) [leftBrace, rightBrace]
  | object {ms cs} (h : Spells (.members ms) cs) : Spells (.document (.object ms)) (leftBrace :: cs)
  | lastItem {j cs blanks} (hj : Spells (.document j) cs) (hb : ∀ c ∈ blanks, isBlank c = true) :
      Spells (.items [j]) (cs ++ (blanks ++ [']']))
  | item {j js cs cs'} (hj : Spells (.document j) cs) (hjs : Spells (.items js) cs') :
      Spells (.items (j :: js)) (cs ++ ',' :: cs')
  | lastMember {j cs blanks} (charset name) (hj : Spells (.document j) cs)
      (hb : ∀ c ∈ blanks, isBlank c = true) :
      Spells (.members [(name, j)])
        ((writeText charset name).toList ++ ':' :: (cs ++ (blanks ++ [rightBrace])))
  | member {j ms cs cs'} (charset name) (hj : Spells (.document j) cs)
      (hms : Spells (.members ms) cs') :
      Spells (.members ((name, j) :: ms))
        ((writeText charset name).toList ++ ':' :: (cs ++ ',' :: cs'))

/-! ## Blanks -/

theorem skipBlanks_cons_of_isBlank {c : Char} (hc : isBlank c = true) (cs : List Char) :
    skipBlanks (c :: cs) = skipBlanks cs :=
  List.dropWhile_cons_of_pos hc

theorem skipBlanks_cons_of_not {c : Char} (hc : isBlank c = false) (cs : List Char) :
    skipBlanks (c :: cs) = c :: cs :=
  List.dropWhile_cons_of_neg (Bool.eq_false_iff.1 hc)

theorem skipBlanks_append {blanks : List Char} (hb : ∀ c ∈ blanks, isBlank c = true)
    (cs : List Char) : skipBlanks (blanks ++ cs) = skipBlanks cs :=
  List.dropWhile_append_of_pos hb

theorem value?_of_isBlank {c : Char} (hc : isBlank c = true) (depth : Nat) (cs : List Char) :
    value? depth (c :: cs) = value? depth cs := by
  cases depth with
  | zero => rfl
  | succ depth => rw [value?, value?, skipBlanks_cons_of_isBlank hc]

theorem items?_of_isBlank {c : Char} (hc : isBlank c = true) (depth : Nat) (cs : List Char) :
    items? depth (c :: cs) = items? depth cs := by
  cases depth with
  | zero => rfl
  | succ depth => rw [items?, items?, value?_of_isBlank hc]

theorem members?_of_isBlank {c : Char} (hc : isBlank c = true) (depth : Nat) (cs : List Char) :
    members? depth (c :: cs) = members? depth cs := by
  cases depth with
  | zero => rfl
  | succ depth => rw [members?, members?, skipBlanks_cons_of_isBlank hc]

/-! ## Single values -/

/-- What may stand behind a number: its characters end there. -/
def EndsNumber (rest : List Char) : Prop := Text.Stops isNumberChar rest

theorem head_of_unsigned? {negative : Bool} {cs : List Char} {j : Json}
    (h : unsigned? negative cs = some j) : ∃ d ds, cs = d :: ds ∧ d.isDigit = true := by
  cases cs with
  | nil => cases h
  | cons d ds =>
    by_cases hd : d.isDigit = true
    · exact ⟨d, ds, rfl, hd⟩
    · unfold unsigned? at h
      dsimp only at h
      rw [List.takeWhile_cons_of_neg hd] at h
      cases h

/-- A number begins with a digit, or with a minus sign and a digit. -/
theorem head_of_number? {cs : List Char} {j : Json} (h : number? cs = some j) :
    ∃ d ds, (cs = d :: ds ∨ cs = '-' :: d :: ds) ∧ d.isDigit = true := by
  unfold number? at h
  split at h
  · obtain ⟨d, ds, rfl, hd⟩ := head_of_unsigned? h
    exact ⟨d, ds, .inr rfl, hd⟩
  · obtain ⟨d, ds, rfl, hd⟩ := head_of_unsigned? h
    exact ⟨d, ds, .inl rfl, hd⟩

/-- No constant begins as a number does. -/
theorem find?_constants_of_number {cs : List Char} {j : Json} (h : number? cs = some j)
    (rest : List Char) :
    constants.find? (fun k => k.1.toList.isPrefixOf (cs ++ rest)) = none := by
  obtain ⟨d, ds, hcs, hd⟩ := head_of_number? h
  have hne : ∀ c : Char, c.isDigit = false → (c == d) = false := by
    intro c hc
    rw [beq_eq_false_iff_ne]
    rintro rfl
    rw [hc] at hd
    cases hd
  have hn := hne 'n' rfl
  have ht := hne 't' rfl
  have hf := hne 'f' rfl
  have hN := hne 'N' rfl
  have hI := hne 'I' rfl
  have hminus := hne '-' rfl
  rcases hcs with rfl | rfl
  · simp [constants, List.isPrefixOf, hn, ht, hf, hN, hI, hminus]
  · simp [constants, List.isPrefixOf, hI]

theorem scalar?_of_number {cs rest : List Char} {j : Json} (h : number? cs = some j)
    (hc : ∀ c ∈ cs, isNumberChar c = true) (hrest : EndsNumber rest) :
    scalar? (cs ++ rest) = some (j, rest) := by
  unfold scalar?
  rw [find?_constants_of_number h, Text.takeWhile_append_of_stops hc hrest,
    Text.dropWhile_append_of_stops hc hrest, h]
  rfl

theorem value?_number {cs rest : List Char} {j : Json} (h : number? cs = some j)
    (hc : ∀ c ∈ cs, isNumberChar c = true) (hrest : EndsNumber rest) (depth : Nat) :
    value? (depth + 1) (cs ++ rest) = some (j, rest) := by
  have hscalar := scalar?_of_number h hc hrest
  cases cs with
  | nil => cases h
  | cons c cs =>
    have hne : ∀ d, isNumberChar d = false → c ≠ d := by
      rintro d hd rfl
      rw [hc c List.mem_cons_self] at hd
      cases hd
    have hblank : isBlank c = false := by
      simp [isBlank, hne ' ' rfl, hne '\t' rfl, hne '\n' rfl, hne '\r' rfl]
    rw [List.cons_append, value?, skipBlanks_cons_of_not hblank]
    dsimp only
    rw [if_neg (hne quote rfl), if_neg (hne '[' rfl), if_neg (hne leftBrace rfl)]
    exact hscalar

theorem length_pos_of_constant {k : String × Json} (hk : k ∈ constants) :
    0 < k.1.toList.length := by
  simp only [constants, List.mem_cons, List.not_mem_nil, or_false] at hk
  rcases hk with rfl | rfl | rfl | rfl | rfl | rfl
  all_goals decide

theorem value?_constant {k : String × Json} (hk : k ∈ constants) (depth : Nat)
    (rest : List Char) : value? (depth + 1) (k.1.toList ++ rest) = some (k.2, rest) := by
  simp only [constants, List.mem_cons, List.not_mem_nil, or_false] at hk
  rcases hk with rfl | rfl | rfl | rfl | rfl | rfl
  all_goals rfl

theorem toList_writeText (charset : Charset) (s : String) :
    (writeText charset s).toList =
      quote :: (s.toList.flatMap (Writer.escape charset) ++ [quote]) := by
  simp [writeText, textBody, quote]

theorem value?_text (charset : Charset) (s : String) (depth : Nat) (rest : List Char) :
    value? (depth + 1) ((writeText charset s).toList ++ rest) = some (.text s, rest) := by
  rw [toList_writeText, List.cons_append, List.append_assoc, value?,
    skipBlanks_cons_of_not (by decide)]
  dsimp only
  rw [if_pos rfl, List.singleton_append, body?_flatMap_escape, Option.map_some,
    String.ofList_toList]

theorem name?_skipBlanks (charset : Charset) (name : String) (rest : List Char) :
    name? (skipBlanks ((writeText charset name).toList ++ ':' :: rest)) = some (name, rest) := by
  rw [toList_writeText, List.cons_append, List.append_assoc, skipBlanks_cons_of_not (by decide),
    name?, List.singleton_append, body?_flatMap_escape]
  show some (String.ofList name.toList, rest) = _
  rw [String.ofList_toList]

/-! ## Items and members -/

theorem items?_last {depth : Nat} {cs rest rest' : List Char} {j : Json}
    (hj : value? depth cs = some (j, rest)) (hrest : skipBlanks rest = ']' :: rest') :
    items? (depth + 1) cs = some ([j], rest') := by
  rw [items?, hj]
  simp only [Option.bind_eq_bind, Option.bind_some]
  rw [hrest]
  rfl

theorem items?_more {depth : Nat} {cs rest rest' : List Char} {j : Json} {js : List Json}
    (hj : value? depth cs = some (j, ',' :: rest)) (hjs : items? depth rest = some (js, rest')) :
    items? (depth + 1) cs = some (j :: js, rest') := by
  rw [items?, hj]
  show (items? depth rest >>= fun r => some (j :: r.1, r.2)) = _
  rw [hjs]
  rfl

theorem members?_last {depth : Nat} {cs cs' rest rest' : List Char} {name : String} {j : Json}
    (hname : name? (skipBlanks cs) = some (name, cs')) (hj : value? depth cs' = some (j, rest))
    (hrest : skipBlanks rest = rightBrace :: rest') :
    members? (depth + 1) cs = some ([(name, j)], rest') := by
  rw [members?, hname]
  show (value? depth cs' >>= _) = _
  rw [hj]
  simp only [Option.bind_eq_bind, Option.bind_some]
  rw [hrest]
  rfl

theorem members?_more {depth : Nat} {cs cs' rest rest' : List Char} {name : String} {j : Json}
    {ms : List (String × Json)} (hname : name? (skipBlanks cs) = some (name, cs'))
    (hj : value? depth cs' = some (j, ',' :: rest)) (hms : members? depth rest = some (ms, rest')) :
    members? (depth + 1) cs = some ((name, j) :: ms, rest') := by
  rw [members?, hname]
  show (value? depth cs' >>= _) = _
  rw [hj]
  show (members? depth rest >>= fun r => some ((name, j) :: r.1, r.2)) = _
  rw [hms]
  rfl

/-- Where items are read there is no closing bracket in front of them. -/
theorem head_of_items? {depth : Nat} {cs : List Char} {r : List Json × List Char}
    (h : items? depth cs = some r) : (skipBlanks cs).head? ≠ some ']' := by
  intro hhead
  obtain ⟨rest, hcs⟩ := List.head?_eq_some_iff.1 hhead
  -- No value begins with a bracket that closes.
  have hvalue : value? (depth - 1) cs = none := by
    cases depth - 1 with
    | zero => rfl
    | succ d =>
      rw [value?, hcs]
      rfl
  cases depth with
  | zero => cases h
  | succ depth =>
    rw [items?, show value? depth cs = none from hvalue] at h
    cases h

theorem head_of_members? {depth : Nat} {cs : List Char} {r : List (String × Json) × List Char}
    (h : members? depth cs = some r) : (skipBlanks cs).head? ≠ some rightBrace := by
  intro hhead
  obtain ⟨rest, hcs⟩ := List.head?_eq_some_iff.1 hhead
  cases depth with
  | zero => cases h
  | succ depth =>
    rw [members?, hcs] at h
    cases h

theorem value?_array {depth : Nat} {cs rest : List Char} {js : List Json}
    (h : items? depth cs = some (js, rest)) :
    value? (depth + 1) ('[' :: cs) = some (.array js, rest) := by
  rw [value?, skipBlanks_cons_of_not (by decide)]
  dsimp only
  rw [if_neg (by decide), if_pos rfl, if_neg (head_of_items? h), h]
  rfl

theorem value?_object {depth : Nat} {cs rest : List Char} {ms : List (String × Json)}
    (h : members? depth cs = some (ms, rest)) :
    value? (depth + 1) (leftBrace :: cs) = some (.object ms, rest) := by
  rw [value?, skipBlanks_cons_of_not (by decide)]
  dsimp only
  rw [if_neg (by decide), if_neg (by decide), if_pos rfl, if_neg (head_of_members? h), h]
  rfl

/-! ## Reading a spelling -/

/-- The reader finds a part in front of the rest of a text. -/
def Part.ReadsAt (depth : Nat) (cs rest : List Char) : Part → Prop
  | .document j => value? depth cs = some (j, rest)
  | .items js => items? depth cs = some (js, rest)
  | .members ms => members? depth cs = some (ms, rest)

theorem Part.readsAt_of_isBlank {p : Part} {c : Char} (hc : isBlank c = true) {depth : Nat}
    {cs rest : List Char} (h : p.ReadsAt depth cs rest) : p.ReadsAt depth (c :: cs) rest := by
  cases p with
  | document j => exact (value?_of_isBlank hc depth cs).trans h
  | items js => exact (items?_of_isBlank hc depth cs).trans h
  | members ms => exact (members?_of_isBlank hc depth cs).trans h

theorem endsNumber_blanks {blanks : List Char} (hb : ∀ c ∈ blanks, isBlank c = true) {d : Char}
    (hd : isNumberChar d = false) (rest : List Char) : EndsNumber (blanks ++ d :: rest) := by
  intro c hc
  cases blanks with
  | nil =>
    cases hc
    exact hd
  | cons b blanks =>
    cases hc
    have hblank := hb c List.mem_cons_self
    simp only [isBlank, Bool.or_eq_true, beq_iff_eq] at hblank
    rcases hblank with ((rfl | rfl) | rfl) | rfl
    all_goals rfl

theorem endsNumber_comma (rest : List Char) : EndsNumber (',' :: rest) := by
  intro c hc
  cases hc
  rfl

/-- A depth of the length of the text is enough, because every bracket is a character. -/
theorem readsAt_of_spells {p : Part} {cs : List Char} (h : Spells p cs) :
    ∀ {depth : Nat} {rest : List Char}, cs.length ≤ depth → EndsNumber rest →
      p.ReadsAt depth (cs ++ rest) rest := by
  -- Every part is spelled with fewer characters than the whole, and behind it there is a comma, a
  -- bracket or a blank, which ends a number.
  induction h with
  | blank hc _ ih =>
    intro depth rest hdepth hrest
    exact Part.readsAt_of_isBlank hc (ih (Nat.le_of_succ_le hdepth) hrest)
  | constant hk =>
    intro depth rest hdepth _
    obtain ⟨depth, rfl⟩ := Nat.exists_eq_add_one.2 (show 0 < depth by
      have := length_pos_of_constant hk
      omega)
    exact value?_constant hk depth rest
  | number hj hc =>
    intro depth rest hdepth hrest
    obtain ⟨d, ds, hcs, _⟩ := head_of_number? hj
    obtain ⟨depth, rfl⟩ := Nat.exists_eq_add_one.2 (show 0 < depth by
      rcases hcs with rfl | rfl
      · exact Nat.lt_of_lt_of_le (Nat.succ_pos _) hdepth
      · exact Nat.lt_of_lt_of_le (Nat.succ_pos _) hdepth)
    exact value?_number hj hc hrest depth
  | text charset s =>
    intro depth rest hdepth _
    rw [toList_writeText, List.length_cons] at hdepth
    obtain ⟨depth, rfl⟩ := Nat.exists_eq_add_one.2 (show 0 < depth by omega)
    exact value?_text charset s depth rest
  | noItems =>
    intro depth rest hdepth _
    obtain ⟨depth, rfl⟩ := Nat.exists_eq_add_one.2 (Nat.lt_of_lt_of_le (Nat.succ_pos _) hdepth)
    rfl
  | array _ ih =>
    intro depth rest hdepth hrest
    obtain ⟨depth, rfl⟩ := Nat.exists_eq_add_one.2 (Nat.lt_of_lt_of_le (Nat.succ_pos _) hdepth)
    exact value?_array (ih (Nat.le_of_succ_le_succ hdepth) hrest)
  | noMembers =>
    intro depth rest hdepth _
    obtain ⟨depth, rfl⟩ := Nat.exists_eq_add_one.2 (Nat.lt_of_lt_of_le (Nat.succ_pos _) hdepth)
    rfl
  | object _ ih =>
    intro depth rest hdepth hrest
    obtain ⟨depth, rfl⟩ := Nat.exists_eq_add_one.2 (Nat.lt_of_lt_of_le (Nat.succ_pos _) hdepth)
    exact value?_object (ih (Nat.le_of_succ_le_succ hdepth) hrest)
  | @lastItem j cs blanks _ hb ih =>
    intro depth rest hdepth _
    simp only [List.length_append, List.length_singleton] at hdepth
    obtain ⟨depth, rfl⟩ := Nat.exists_eq_add_one.2 (show 0 < depth by omega)
    have hclose : skipBlanks (blanks ++ ']' :: rest) = ']' :: rest := by
      rw [skipBlanks_append hb, skipBlanks_cons_of_not (by decide)]
    have hvalue : value? depth (cs ++ (blanks ++ ']' :: rest)) = some (j, blanks ++ ']' :: rest) :=
      ih (by omega) (endsNumber_blanks hb rfl rest)
    simp only [List.append_assoc, List.singleton_append]
    exact items?_last hvalue hclose
  | item _ _ ihj ihjs =>
    intro depth rest hdepth hrest
    simp only [List.length_append, List.length_cons] at hdepth
    obtain ⟨depth, rfl⟩ := Nat.exists_eq_add_one.2 (show 0 < depth by omega)
    rw [List.append_assoc]
    exact items?_more (ihj (by omega) (endsNumber_comma _)) (ihjs (by omega) hrest)
  | @lastMember j cs blanks charset name _ hb ih =>
    intro depth rest hdepth _
    simp only [List.length_append, List.length_cons] at hdepth
    obtain ⟨depth, rfl⟩ := Nat.exists_eq_add_one.2 (show 0 < depth by omega)
    have hclose : skipBlanks (blanks ++ rightBrace :: rest) = rightBrace :: rest := by
      rw [skipBlanks_append hb, skipBlanks_cons_of_not (by decide)]
    have hvalue : value? depth (cs ++ (blanks ++ rightBrace :: rest)) =
        some (j, blanks ++ rightBrace :: rest) := ih (by omega) (endsNumber_blanks hb rfl rest)
    simp only [List.append_assoc, List.cons_append]
    exact members?_last (name?_skipBlanks charset name _) hvalue hclose
  | member charset name _ _ ihj ihms =>
    intro depth rest hdepth hrest
    simp only [List.length_append, List.length_cons] at hdepth
    obtain ⟨depth, rfl⟩ := Nat.exists_eq_add_one.2 (show 0 < depth by omega)
    simp only [List.append_assoc, List.cons_append]
    exact members?_more (name?_skipBlanks charset name _) (ihj (by omega) (endsNumber_comma _))
      (ihms (by omega) hrest)

theorem read_of_spells {j : Json} {s : String} (h : Spells (.document j) s.toList) :
    read s = some j := by
  have hread : value? s.length (s.toList ++ []) = some (j, []) :=
    readsAt_of_spells h (Nat.le_of_eq String.length_toList) nofun
  rw [List.append_nil] at hread
  rw [read, hread]
  rfl

end Json
end WorkflowDispatch
