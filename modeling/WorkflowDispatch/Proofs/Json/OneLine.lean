import WorkflowDispatch.Proofs.Json.RoundTrip
/-!
The characters of a document that is written on one line: every one of them is shown by the charset,
so none is a control character that would end the line, and in ASCII all are ASCII.
-/

namespace WorkflowDispatch
namespace Json

open Writer Reader

variable {charset : Charset}

/-- All characters of the text are shown as they are. -/
def IsShown (charset : Charset) (cs : List Char) : Prop := ∀ c ∈ cs, shows charset c = true

theorem IsShown.append {cs ds : List Char} (hcs : IsShown charset cs) (hds : IsShown charset ds) :
    IsShown charset (cs ++ ds) := List.forall_mem_append.2 ⟨hcs, hds⟩

theorem IsShown.cons {c : Char} {cs : List Char} (hc : shows charset c = true)
    (hcs : IsShown charset cs) : IsShown charset (c :: cs) := List.forall_mem_cons.2 ⟨hc, hcs⟩

theorem shows_ascii_iff {c : Char} :
    shows .ascii c = true ↔ 0x20 ≤ c.toNat ∧ c.toNat < 0x7F := by
  rw [shows, Bool.and_eq_true, decide_eq_true_iff, decide_eq_true_iff]

/-- What is shown in ASCII is shown anyway. -/
theorem shows_of_ascii {c : Char} (h : shows .ascii c = true) (charset : Charset) :
    shows charset c = true := by
  cases charset with
  | ascii => exact h
  | unicode => exact decide_eq_true (shows_ascii_iff.1 h).1

theorem isShown_literal {s : String} (h : s.toList.all (shows .ascii) = true) :
    IsShown charset s.toList := fun c hc => shows_of_ascii (List.all_eq_true.1 h c hc) charset

/-! ## Texts and numbers -/

theorem shows_digitChar {d : Nat} (hd : d < 16) : shows .ascii (Nat.digitChar d) = true := by
  revert d
  decide

theorem isShown_unitEscape {n : Nat} (hn : n < 0x10000) : IsShown .ascii (unitEscape n) := by
  rw [unitEscape, Text.hex_four hn]
  refine .cons (by decide) (.cons (by decide) (.cons (shows_digitChar (by omega))
    (.cons (shows_digitChar (by omega)) (.cons (shows_digitChar (by omega))
      (.cons (shows_digitChar (by omega)) nofun)))))

theorem isShown_numbered (c : Char) : IsShown .ascii (numbered c.toNat) := by
  have hc := toNat_lt_surrogates_or c
  unfold numbered
  split
  · next h => exact isShown_unitEscape h
  · exact (isShown_unitEscape (by omega)).append (isShown_unitEscape (by omega))

/-- An escape is ASCII, and what is not escaped is shown. -/
theorem isShown_escape (charset : Charset) (c : Char) : IsShown charset (escape charset c) := by
  have hpair : ∀ {d : Char}, shows .ascii d = true → IsShown charset ['\\', d] := fun hd =>
    .cons (shows_of_ascii (by decide) charset) (.cons (shows_of_ascii hd charset) nofun)
  unfold escape
  split
  · next h => exact hpair (shows_ascii_iff.2 (by omega))
  split
  · exact hpair (by decide)
  split
  · exact hpair (by decide)
  split
  · exact hpair (by decide)
  split
  · exact hpair (by decide)
  split
  · exact hpair (by decide)
  split
  · exact hpair (by decide)
  split
  · next h => exact .cons h nofun
  · exact fun d hd => shows_of_ascii (isShown_numbered c d hd) charset

theorem isShown_writeText (charset : Charset) (s : String) :
    IsShown charset (writeText charset s).toList := by
  have hquote : shows charset quote = true := shows_of_ascii (by decide) charset
  rw [toList_writeText]
  refine .cons hquote (.append ?_ (.cons hquote nofun))
  intro c hc
  obtain ⟨d, _, hd⟩ := List.mem_flatMap.1 hc
  exact isShown_escape charset d c hd

theorem shows_of_isNumberChar {c : Char} (h : isNumberChar c = true) :
    shows charset c = true := by
  rcases Bool.or_eq_true_iff.1 h with h | h
  · obtain ⟨hlow, hhigh⟩ := Bool.and_eq_true_iff.1 h
    have hlow : '0'.toNat ≤ c.toNat := UInt32.le_iff_toNat_le.1 (of_decide_eq_true hlow)
    have hhigh : c.toNat ≤ '9'.toNat := UInt32.le_iff_toNat_le.1 (of_decide_eq_true hhigh)
    refine shows_of_ascii (shows_ascii_iff.2 ⟨?_, ?_⟩) charset
    · exact Nat.le_trans (by decide) hlow
    · exact Nat.lt_of_le_of_lt hhigh (by decide)
  · exact isShown_literal (s := "-+.eE") (by decide) c (List.contains_iff_mem.1 h)

theorem isShown_float (x : Binary64) : IsShown charset x.documentText.toList := by
  cases x with
  | nan => exact isShown_literal (s := "NaN") (by decide)
  | infinite negative =>
    cases negative with
    | false => exact isShown_literal (s := "Infinity") (by decide)
    | true => exact isShown_literal (s := "-Infinity") (by decide)
  | finite negative m e hc =>
    exact fun c h => shows_of_isNumberChar (isNumberChar_of_mem_documentText hc h)

theorem isShown_decimal (i : Int) : IsShown charset (Text.decimal i).toList := by
  rw [Text.decimal, String.toList_ofList]
  exact fun c hc => shows_of_isNumberChar (isNumberChar_of_mem_decimalInt hc)

/-! ## Documents -/

theorem isShown_intercalate {separator : String} (hseparator : IsShown charset separator.toList)
    {parts : List String} (h : ∀ part ∈ parts, IsShown charset part.toList) :
    IsShown charset (separator.intercalate parts).toList := by
  induction parts with
  | nil => exact nofun
  | cons part rest ih =>
    cases rest with
    | nil =>
      rw [String.intercalate_singleton]
      exact h part List.mem_cons_self
    | cons second rest =>
      rw [String.intercalate_cons_cons, String.toList_append, String.toList_append]
      exact ((h part List.mem_cons_self).append hseparator).append
        (ih fun p hp => h p (List.mem_cons_of_mem part hp))

theorem isShown_enclosed {opening closing : String} (hopening : IsShown charset opening.toList)
    (hclosing : IsShown charset closing.toList) {parts : List String}
    (h : ∀ part ∈ parts, IsShown charset part.toList) :
    IsShown charset (opening ++ ", ".intercalate parts ++ closing).toList := by
  have hcomma : IsShown charset ", ".toList := isShown_literal (by decide)
  rw [String.toList_append, String.toList_append]
  exact (hopening.append (isShown_intercalate hcomma h)).append hclosing

theorem isShown_array {parts : List String} (h : ∀ part ∈ parts, IsShown charset part.toList) :
    IsShown charset ("[" ++ ", ".intercalate parts ++ "]").toList :=
  isShown_enclosed (isShown_literal (by decide)) (isShown_literal (by decide)) h

theorem isShown_object {parts : List String} (h : ∀ part ∈ parts, IsShown charset part.toList) :
    IsShown charset ("\x7b" ++ ", ".intercalate parts ++ "\x7d").toList :=
  isShown_enclosed (isShown_literal (by decide)) (isShown_literal (by decide)) h

theorem isShown_bool (b : Bool) :
    IsShown charset (if b then "true" else "false" : String).toList := by
  cases b with
  | true => exact isShown_literal (by decide)
  | false => exact isShown_literal (by decide)

theorem isShown_member (name : String) {value : String} (h : IsShown charset value.toList) :
    IsShown charset (writeText charset name ++ ": " ++ value).toList := by
  have hcolon : IsShown charset ": ".toList := isShown_literal (by decide)
  rw [String.toList_append, String.toList_append]
  exact ((isShown_writeText charset name).append hcolon).append h

mutual

theorem isShown_write (charset : Charset) : ∀ j : Json, IsShown charset (j.write charset).toList
  | .null => isShown_literal (s := "null") (by decide)
  | .bool b => isShown_bool b
  | .int i => isShown_decimal i
  | .float x => isShown_float x
  | .text s => isShown_writeText charset s
  | .array items => isShown_array (isShown_writeItems charset items)
  | .object members => isShown_object (isShown_writeMembers charset members)

theorem isShown_writeItems (charset : Charset) : ∀ items : List Json,
    ∀ part ∈ writeItems charset items, IsShown charset part.toList
  | [] => nofun
  | j :: rest => by
    intro part hpart
    rcases List.mem_cons.1 hpart with rfl | hpart
    · exact isShown_write charset j
    · exact isShown_writeItems charset rest part hpart

theorem isShown_writeMembers (charset : Charset) : ∀ members : List (String × Json),
    ∀ part ∈ writeMembers charset members, IsShown charset part.toList
  | [] => nofun
  | (name, j) :: rest => by
    intro part hpart
    rcases List.mem_cons.1 hpart with rfl | hpart
    · exact isShown_member name (isShown_write charset j)
    · exact isShown_writeMembers charset rest part hpart

end

/-- No character of the text is below U+0020. -/
def IsOneLine (cs : List Char) : Prop := ∀ c ∈ cs, 0x20 ≤ c.toNat

theorem isOneLine_write (charset : Charset) (j : Json) : IsOneLine (j.write charset).toList :=
  fun c hc => le_of_shows (isShown_write charset j c hc)

end Json
end WorkflowDispatch
