import Mathlib.Data.String.Basic
import WorkflowDispatch.Proofs.Calendar
import WorkflowDispatch.Proofs.Text.Numeral
/-!
The text of an instant, read back and compared.  Reading the date, the time of day and the fraction
gives the instant again, and the texts of instants stand in the order of time, although a fraction
is written only where there is one.
-/

namespace WorkflowDispatch
namespace Timestamp

/-! ## The years that can be written -/

/-- The microsecond at which a day begins. -/
def midnight (d : CivilDate) : Int := d.toDays * secondsPerDay * microsPerSecond

/-- The instant lies in the years 1 to 9999. -/
def InYears (t : Timestamp) : Prop :=
  midnight ⟨1, 1, 1⟩ ≤ t.microseconds ∧ t.microseconds < midnight ⟨10000, 1, 1⟩

instance (t : Timestamp) : Decidable t.InYears := inferInstanceAs (Decidable (_ ∧ _))

variable {t u : Timestamp}

theorem date_isDate (t : Timestamp) : t.date.IsDate := CivilDate.isDate_ofDays _

theorem InYears.year (h : t.InYears) : 1 ≤ t.date.year ∧ t.date.year ≤ 9999 := by
  have hfirst := CivilDate.toDays_first_le_iff t.date_isDate 1
  have hpast := CivilDate.toDays_first_le_iff t.date_isDate 10000
  have hdays : t.date.toDays = t.seconds / secondsPerDay := CivilDate.toDays_ofDays _
  obtain ⟨hlow, hhigh⟩ := h
  rw [hdays] at hfirst hpast
  unfold midnight secondsPerDay microsPerSecond at hlow hhigh
  unfold seconds secondsPerDay microsPerSecond at hfirst hpast
  constructor
  · apply hfirst.1
    omega
  · by_contra hlt
    have := hpast.2 (by omega)
    omega

/-- The years that have four digits are within the bounds of the clock and of the calendar. -/
theorem checked_of_inYears (h : t.InYears) : checked t = .ok t := by
  obtain ⟨hlow, hhigh⟩ := h.year
  have hseconds : -0x8000000000000000 ≤ t.seconds ∧ t.seconds < 0x8000000000000000 := by
    obtain ⟨hfirst, hpast⟩ := h
    have hmin : midnight ⟨1, 1, 1⟩ = -62135596800000000 := by decide
    have hmax : midnight ⟨10000, 1, 1⟩ = 253402300800000000 := by decide
    unfold seconds microsPerSecond
    omega
  unfold checked
  dsimp only
  rw [if_neg (by simp; omega), if_neg (by simp; omega), if_pos (by simp; omega)]

/-- A time that is rounded to an instant within these years is that instant. -/
theorem ofValue_of_nearest {v : Value} (h : nearest v = .ok t) (ht : t.InYears) :
    ofValue v = .ok t := by
  rw [ofValue, h]
  exact checked_of_inYears ht

/-! ## Reading -/

/-- A number of exactly `width` digits, and what follows it. -/
def field? (width : Nat) (cs : List Char) : Option (Nat × List Char) :=
  if (cs.take width).length = width ∧ (cs.take width).all Char.isDigit then
    some (Text.valueOf (cs.take width), cs.drop width)
  else none

/-- What follows a character that has to stand there. -/
def behind? (c : Char) : List Char → Option (List Char)
  | d :: rest => if d = c then some rest else none
  | [] => none

/-- The microseconds behind a point, if there is one. -/
def fraction? : List Char → Option (Nat × List Char)
  | '.' :: rest => field? 6 rest
  | cs => some (0, cs)

def date? (cs : List Char) : Option (CivilDate × List Char) := do
  let (year, cs) ← field? 4 cs
  let cs ← behind? '-' cs
  let (month, cs) ← field? 2 cs
  let cs ← behind? '-' cs
  let (day, cs) ← field? 2 cs
  let date : CivilDate := ⟨year, month, day⟩
  if date.IsDate then some (date, cs) else none

/-- The second of a day. -/
def clock? (cs : List Char) : Option (Nat × List Char) := do
  let (hour, cs) ← field? 2 cs
  let cs ← behind? ':' cs
  let (minute, cs) ← field? 2 cs
  let cs ← behind? ':' cs
  let (second, cs) ← field? 2 cs
  if hour < 24 ∧ minute < 60 ∧ second < 60 then some ((hour * 60 + minute) * 60 + second, cs)
  else none

/-- Universal time has the offset zero. -/
def zone : List Char := "+00:00".toList

/-- The instant that a text with a date, a time of day and an optional fraction tells. -/
def read? (s : String) : Option Timestamp := do
  let (date, cs) ← date? s.toList
  let cs ← behind? 'T' cs
  let (second, cs) ← clock? cs
  let (micros, cs) ← fraction? cs
  if cs = zone then some ⟨(date.toDays * secondsPerDay + second) * microsPerSecond + micros⟩
  else none

theorem field?_padded {width n : Nat} (hw : 0 < width) (h : n < 10 ^ width) (rest : List Char) :
    field? width (Text.padded width n ++ rest) = some (n, rest) := by
  have hlen := Text.length_padded hw h
  have htake : (Text.padded width n ++ rest).take width = Text.padded width n :=
    List.take_left' hlen
  have hdrop : (Text.padded width n ++ rest).drop width = rest := List.drop_left' hlen
  have hdigits : (Text.padded width n).all Char.isDigit = true :=
    List.all_eq_true.2 fun _ => Text.isDigit_of_mem_padded
  rw [field?, htake, hdrop, if_pos ⟨hlen, hdigits⟩, Text.valueOf_padded]

theorem behind?_cons (c : Char) (rest : List Char) : behind? c (c :: rest) = some rest :=
  if_pos rfl

theorem date?_dateText {d : CivilDate} (hd : d.IsDate) (hlow : 1 ≤ d.year)
    (hhigh : d.year ≤ 9999) (rest : List Char) : date? (dateText d ++ rest) = some (d, rest) := by
  have hmonth := hd.month_le
  have hday := hd.day_le
  have hlength := CivilDate.monthLength_le d.year d.month
  have hyear : ((d.year.toNat : Nat) : Int) = d.year := Int.toNat_of_nonneg (by omega)
  have hdate : (⟨(d.year.toNat : Nat), d.month, d.day⟩ : CivilDate) = d := by rw [hyear]
  unfold date? dateText
  simp only [List.append_assoc, List.cons_append]
  rw [field?_padded (by decide) (by omega)]
  simp only [Option.bind_eq_bind, Option.bind_some, behind?_cons]
  rw [field?_padded (by decide) (by omega)]
  simp only [Option.bind_some, behind?_cons]
  rw [field?_padded (by decide) (by omega)]
  simp only [Option.bind_some]
  rw [hdate, if_pos hd]

theorem clock?_clockText {second : Nat} (h : second < 86400) (rest : List Char) :
    clock? (clockText second ++ rest) = some (second, rest) := by
  unfold clock? clockText
  simp only [List.append_assoc, List.cons_append]
  rw [field?_padded (by decide) (by omega)]
  simp only [Option.bind_eq_bind, Option.bind_some, behind?_cons]
  rw [field?_padded (by decide) (by omega)]
  simp only [Option.bind_some, behind?_cons]
  rw [field?_padded (by decide) (by omega)]
  simp only [Option.bind_some]
  rw [if_pos (by omega)]
  congr 2
  omega

theorem fraction?_fractionText {micros : Nat} (h : micros < 1000000) :
    fraction? (fractionText micros ++ zone) = some (micros, zone) := by
  unfold fractionText
  by_cases hzero : micros = 0
  · rw [if_pos hzero, hzero]
    rfl
  · rw [if_neg hzero]
    exact field?_padded (by decide) h zone

theorem toList_text (t : Timestamp) :
    t.text.toList =
      dateText t.date ++ 'T' :: (clockText t.secondOfDay ++ (fractionText t.fraction ++ zone)) := by
  simp [text, zone]

theorem secondOfDay_lt (t : Timestamp) : t.secondOfDay < 86400 := by
  unfold secondOfDay secondsPerDay
  omega

theorem fraction_lt (t : Timestamp) : t.fraction < 1000000 := by
  unfold fraction microsPerSecond
  omega

theorem fraction_eq_zero_iff (t : Timestamp) : t.fraction = 0 ↔ microsPerSecond ∣ t.microseconds := by
  unfold fraction microsPerSecond
  omega

/-- The text has a point exactly where there is a fraction to write. -/
theorem point_mem_text_iff (t : Timestamp) :
    '.' ∈ t.text.toList ↔ ¬ microsPerSecond ∣ t.microseconds := by
  have hdigits : ∀ width n, '.' ∉ Text.padded width n := fun width n h =>
    absurd (Text.isDigit_of_mem_padded h) (by decide)
  rw [← fraction_eq_zero_iff, toList_text]
  unfold fractionText
  by_cases hzero : t.fraction = 0 <;> simp [dateText, clockText, zone, hdigits, hzero]

/-- An instant is put together from its parts. -/
theorem microseconds_eq (t : Timestamp) :
    t.microseconds =
      (t.date.toDays * secondsPerDay + t.secondOfDay) * microsPerSecond + t.fraction := by
  have hdays : t.date.toDays = t.seconds / secondsPerDay := CivilDate.toDays_ofDays _
  rw [hdays]
  unfold secondOfDay fraction seconds secondsPerDay microsPerSecond
  omega

theorem read?_text (h : t.InYears) : read? t.text = some t := by
  obtain ⟨hlow, hhigh⟩ := h.year
  unfold read?
  rw [toList_text, date?_dateText t.date_isDate hlow hhigh]
  simp only [Option.bind_eq_bind, Option.bind_some, behind?_cons]
  rw [clock?_clockText t.secondOfDay_lt]
  simp only [Option.bind_some]
  rw [fraction?_fractionText t.fraction_lt]
  simp only [Option.bind_some]
  rw [if_pos trivial, ← microseconds_eq]

example : read? "2000-02-29T23:59:59.5+00:00" = none := by decide

example : read? "1900-02-28T00:00:00+00:00" = some ⟨-2203977600000000⟩ := by decide

/-! ## Order -/

variable {a b : List Char}

theorem padded_lt {width m n : Nat} (hw : 0 < width) (hn : n < 10 ^ width)
    (h : m < n ∨ m = n ∧ a < b) : Text.padded width m ++ a < Text.padded width n ++ b := by
  rcases h with h | ⟨rfl, h⟩
  · exact Text.padded_append_lt hw h hn a b
  · exact List.append_left_lt h

theorem cons_lt (c : Char) (h : a < b) : c :: a < c :: b :=
  List.cons_lt_cons_iff.2 (.inr ⟨rfl, h⟩)

theorem dateText_lt {d e : CivilDate} (he : e.IsDate) (hlow : 1 ≤ d.year) (hhigh : e.year ≤ 9999)
    (h : d.Before e ∨ d = e ∧ a < b) : dateText d ++ a < dateText e ++ b := by
  rcases h with h | ⟨rfl, h⟩
  · have hmonth := he.month_le
    have hday := he.day_le
    have hlength := CivilDate.monthLength_le e.year e.month
    unfold dateText
    simp only [List.append_assoc, List.cons_append]
    apply padded_lt (by decide) (by omega)
    rcases h with h | ⟨hyear, h⟩
    · left
      omega
    · right
      refine ⟨by rw [hyear], cons_lt _ ?_⟩
      apply padded_lt (by decide) (by omega)
      rcases h with h | ⟨hmonth, h⟩
      · exact .inl h
      · exact .inr ⟨hmonth, cons_lt _ (padded_lt (by decide) (by omega) (.inl h))⟩
  · exact List.append_left_lt h

theorem clockText_lt {m n : Nat} (hn : n < 86400) (h : m < n ∨ m = n ∧ a < b) :
    clockText m ++ a < clockText n ++ b := by
  rcases h with h | ⟨rfl, h⟩
  · unfold clockText
    simp only [List.append_assoc, List.cons_append]
    apply padded_lt (by decide) (by omega)
    by_cases hhour : m / 3600 < n / 3600
    · exact .inl hhour
    · right
      refine ⟨by omega, cons_lt _ ?_⟩
      apply padded_lt (by decide) (by omega)
      by_cases hminute : m / 60 % 60 < n / 60 % 60
      · exact .inl hminute
      · right
        refine ⟨by omega, cons_lt _ ?_⟩
        apply padded_lt (by decide) (by omega)
        left
        omega
  · exact List.append_left_lt h

/-- The sign of the offset comes before the point, so a whole second comes before its fractions. -/
theorem fractionText_lt {m n : Nat} (hn : n < 1000000) (h : m < n) :
    fractionText m ++ zone < fractionText n ++ zone := by
  unfold fractionText
  rw [if_neg (show n ≠ 0 by omega)]
  by_cases hzero : m = 0
  · rw [if_pos hzero]
    exact List.cons_lt_cons_iff.2 (.inl (by decide))
  · rw [if_neg hzero]
    exact cons_lt _ (padded_lt (by decide) (by omega) (.inl h))

/-- The earlier instant has the earlier date, or the earlier time of the same day. -/
theorem parts_lt (h : t.microseconds < u.microseconds) :
    t.date.Before u.date ∨ t.date = u.date ∧
      (t.secondOfDay < u.secondOfDay ∨ t.secondOfDay = u.secondOfDay ∧ t.fraction < u.fraction) := by
  have hdate : t.date.Before u.date ↔ t.seconds / secondsPerDay < u.seconds / secondsPerDay :=
    CivilDate.before_ofDays_iff
  by_cases hdays : t.seconds / secondsPerDay = u.seconds / secondsPerDay
  · right
    refine ⟨congrArg CivilDate.ofDays hdays, ?_⟩
    unfold secondOfDay fraction
    unfold seconds secondsPerDay microsPerSecond at *
    omega
  · left
    rw [hdate]
    unfold seconds secondsPerDay microsPerSecond at *
    omega

theorem text_lt (ht : t.InYears) (hu : u.InYears) (h : t.microseconds < u.microseconds) :
    t.text < u.text := by
  rw [String.lt_iff_toList_lt, toList_text, toList_text]
  apply dateText_lt u.date_isDate ht.year.1 hu.year.2
  rcases parts_lt h with hdate | ⟨hdate, hparts⟩
  · exact .inl hdate
  · right
    refine ⟨hdate, cons_lt _ (clockText_lt u.secondOfDay_lt ?_)⟩
    rcases hparts with hsecond | ⟨hsecond, hfraction⟩
    · exact .inl hsecond
    · exact .inr ⟨hsecond, fractionText_lt u.fraction_lt hfraction⟩

theorem text_inj (ht : t.InYears) (hu : u.InYears) : t.text = u.text ↔ t = u := by
  constructor
  · intro h
    have hread := read?_text ht
    rw [h, read?_text hu] at hread
    exact (Option.some.inj hread).symm
  · exact congrArg text

/-- The texts of instants stand in the order of time. -/
theorem text_lt_iff (ht : t.InYears) (hu : u.InYears) :
    t.text < u.text ↔ t.microseconds < u.microseconds := by
  constructor
  · intro h
    rcases Int.lt_trichotomy t.microseconds u.microseconds with hlt | heq | hgt
    · exact hlt
    · have : t = u := congrArg Timestamp.mk heq
      rw [this] at h
      exact absurd h (lt_irrefl _)
    · exact absurd h (lt_asymm (text_lt hu ht hgt))
  · exact text_lt ht hu

end Timestamp
end WorkflowDispatch
