import Mathlib.Order.Monotone.Basic
import Mathlib.Tactic.IntervalCases
import WorkflowDispatch.Timestamp
/-!
The calendar by the lengths of its months and years, and the date of a day by its arithmetic.  Both
agree: the date of a day is a date of the calendar, its days count up to that day again, and later
days have later dates.
-/

namespace WorkflowDispatch
namespace CivilDate

/-! ## Lengths -/

/-- Every fourth year is a leap year, but of the years that end a century only every fourth. -/
def isLeap (year : Int) : Bool := year % 4 == 0 && (year % 100 != 0 || year % 400 == 0)

def leapDay (year : Int) : Nat := if isLeap year then 1 else 0

def yearLength (year : Int) : Nat := 365 + leapDay year

def monthLength (year : Int) : Nat → Nat
  | 2 => 28 + leapDay year
  | 4 | 6 | 9 | 11 => 30
  | _ => 31

/-- The days of a year before a month. -/
def daysBeforeMonth (year : Int) : Nat → Nat
  | m + 2 => daysBeforeMonth year (m + 1) + monthLength year (m + 1)
  | _ => 0

/-- The days from the beginning of the year 1 to that of another year. -/
def daysBeforeYear (year : Int) : Int :=
  365 * (year - 1) + (year - 1) / 4 - (year - 1) / 100 + (year - 1) / 400

/-- The month is one of the twelve, and it has that day. -/
structure IsDate (d : CivilDate) : Prop where
  month_pos : 1 ≤ d.month
  month_le : d.month ≤ 12
  day_pos : 1 ≤ d.day
  day_le : d.day ≤ monthLength d.year d.month

instance (d : CivilDate) : Decidable d.IsDate :=
  decidable_of_iff
    (1 ≤ d.month ∧ d.month ≤ 12 ∧ 1 ≤ d.day ∧ d.day ≤ monthLength d.year d.month)
    ⟨fun h => ⟨h.1, h.2.1, h.2.2.1, h.2.2.2⟩,
      fun h => ⟨h.month_pos, h.month_le, h.day_pos, h.day_le⟩⟩

/-- The day of a date, counted from the beginning of 1970. -/
def toDays (d : CivilDate) : Int :=
  daysBeforeYear d.year - daysBeforeYear 1970 + daysBeforeMonth d.year d.month + (d.day - 1 : Nat)

theorem leapDay_le (year : Int) : leapDay year ≤ 1 := by
  unfold leapDay
  split <;> decide

theorem monthLength_le (year : Int) (month : Nat) : monthLength year month ≤ 31 := by
  have hleap := leapDay_le year
  unfold monthLength
  split <;> omega

/-- The years follow each other without a gap. -/
theorem daysBeforeYear_succ (year : Int) :
    daysBeforeYear (year + 1) = daysBeforeYear year + yearLength year := by
  have hleap : isLeap year = true ↔ year % 4 = 0 ∧ (year % 100 ≠ 0 ∨ year % 400 = 0) := by
    simp [isLeap]
  unfold daysBeforeYear yearLength leapDay
  by_cases h : isLeap year = true
  · rw [if_pos h]
    rw [hleap] at h
    omega
  · rw [if_neg h]
    rw [hleap] at h
    omega

theorem daysBeforeYear_lt {a b : Int} (h : a < b) :
    daysBeforeYear a + yearLength a ≤ daysBeforeYear b := by
  rw [← daysBeforeYear_succ]
  unfold daysBeforeYear
  omega

theorem daysBeforeMonth_succ (year : Int) {month : Nat} (h : 1 ≤ month) :
    daysBeforeMonth year (month + 1) = daysBeforeMonth year month + monthLength year month := by
  obtain ⟨m, rfl⟩ := Nat.exists_eq_add_of_le' h
  rfl

theorem daysBeforeMonth_lt (year : Int) {a b : Nat} (ha : 1 ≤ a) (h : a < b) :
    daysBeforeMonth year a + monthLength year a ≤ daysBeforeMonth year b := by
  rw [← daysBeforeMonth_succ year ha]
  induction b, h using Nat.le_induction with
  | base => exact Nat.le_refl _
  | succ m hm ih =>
    have hsucc := daysBeforeMonth_succ year (show 1 ≤ m by omega)
    omega

/-- The twelve months make up a year. -/
theorem daysBeforeMonth_thirteen (year : Int) : daysBeforeMonth year 13 = yearLength year := by
  simp only [daysBeforeMonth, monthLength, yearLength]
  omega

/-! ## Order -/

/-- The order of dates, field by field. -/
def Before (d e : CivilDate) : Prop :=
  d.year < e.year ∨
    d.year = e.year ∧ (d.month < e.month ∨ d.month = e.month ∧ d.day < e.day)

theorem before_or_eq_or_before (d e : CivilDate) : d.Before e ∨ d = e ∨ e.Before d := by
  have hext : d = e ↔ d.year = e.year ∧ d.month = e.month ∧ d.day = e.day := by
    cases d
    cases e
    simp
  rw [hext]
  unfold Before
  omega

theorem toDays_lt_of_before {d e : CivilDate} (hd : d.IsDate) (he : e.IsDate) (h : d.Before e) :
    d.toDays < e.toDays := by
  have hday := hd.day_pos
  have hday' := hd.day_le
  have hpos := he.day_pos
  have hyear := daysBeforeMonth_lt d.year hd.month_pos (Nat.lt_succ_of_le hd.month_le)
  rw [daysBeforeMonth_thirteen] at hyear
  unfold toDays
  rcases h with h | ⟨hy, h | ⟨hm, h⟩⟩
  · have hlt := daysBeforeYear_lt h
    omega
  · have hlt := daysBeforeMonth_lt d.year hd.month_pos h
    rw [← hy]
    omega
  · rw [← hy, ← hm]
    omega

theorem before_iff_toDays_lt {d e : CivilDate} (hd : d.IsDate) (he : e.IsDate) :
    d.Before e ↔ d.toDays < e.toDays := by
  constructor
  · exact toDays_lt_of_before hd he
  · intro h
    rcases before_or_eq_or_before d e with hlt | rfl | hgt
    · exact hlt
    · omega
    · have := toDays_lt_of_before he hd hgt
      omega

/-- A date lies in a year or later if it is not before the first day of that year. -/
theorem toDays_first_le_iff {d : CivilDate} (hd : d.IsDate) (year : Int) :
    (⟨year, 1, 1⟩ : CivilDate).toDays ≤ d.toDays ↔ year ≤ d.year := by
  have hfirst : (⟨year, 1, 1⟩ : CivilDate).IsDate :=
    ⟨by simp, by simp, by simp, by simp [monthLength]⟩
  have hmonth := hd.month_pos
  have hday := hd.day_pos
  have hbefore : d.Before ⟨year, 1, 1⟩ ↔ d.year < year := by
    unfold Before
    dsimp only
    omega
  rw [← Int.not_lt, ← before_iff_toDays_lt hd hfirst, hbefore, Int.not_lt]

/-! ## The year of a day -/

/-- The day on which a year of a cycle begins, where years begin in March. -/
def yearStart (year : Nat) : Nat := 365 * year + year / 4 - year / 100

/-- The day without the days that only leap years have. -/
def evenDay (day : Nat) : Nat := day - day / 1460 + day / 36524 - day / 146096

theorem evenDay_mono : Monotone evenDay := by
  apply monotone_nat_of_le_succ
  intro day
  unfold evenDay
  omega

/-- At its two ends every year of the cycle is cut to 365 days. -/
theorem evenDay_ends : ∀ year < 400, 365 * year ≤ evenDay (yearStart year) ∧
    evenDay (yearStart (year + 1) + (year + 1) / 400 - 1) < 365 * (year + 1) := by
  decide +kernel

/-- The year of a day begins on that day or before, and the next one after it. -/
theorem yearOfCycle_mem {day : Nat} (h : day < 146097) :
    yearOfCycle day < 400 ∧ yearStart (yearOfCycle day) ≤ day ∧
      day < yearStart (yearOfCycle day + 1) + (yearOfCycle day + 1) / 400 := by
  have heven : yearOfCycle day = evenDay day / 365 := rfl
  generalize yearOfCycle day = year at heven
  have hyear : year < 400 := by
    have hmono := evenDay_mono (Nat.le_sub_one_of_lt h)
    have hlast : evenDay (146097 - 1) = 145999 := by decide
    omega
  refine ⟨hyear, ?_, ?_⟩
  · by_contra hlt
    obtain ⟨before, rfl⟩ : ∃ before, year = before + 1 :=
      Nat.exists_eq_add_one_of_ne_zero (by rintro rfl; exact hlt (Nat.zero_le day))
    have hmono := evenDay_mono (show day ≤ yearStart (before + 1) + (before + 1) / 400 - 1 by omega)
    have hend := (evenDay_ends before (by omega)).2
    omega
  · by_contra hle
    by_cases hlast : year = 399
    · have hend : yearStart (year + 1) + (year + 1) / 400 = 146097 := by
        rw [hlast]
        decide
      omega
    · have hmono := evenDay_mono (show yearStart (year + 1) ≤ day by omega)
      have hstart := (evenDay_ends (year + 1) (by omega)).1
      omega

/-! ## The date of a day -/

/-- The date of a day of a year that begins in March. -/
def fromMarch (year : Int) (day : Nat) : CivilDate :=
  let monthFromMarch := (5 * day + 2) / 153
  let month := if monthFromMarch < 10 then monthFromMarch + 3 else monthFromMarch - 9
  { year := year + (if month ≤ 2 then 1 else 0)
    month := month
    day := day - (153 * monthFromMarch + 2) / 5 + 1 }

/-- Four hundred years later the calendar is the same. -/
theorem daysBeforeYear_of_cycle (cycle : Int) (year : Nat) :
    daysBeforeYear (cycle * 400 + year + 1) =
      cycle * cycleDays + ((yearStart year + year / 400 : Nat) : Int) := by
  have hfour : (cycle * 400 + year) / 4 = cycle * 100 + ((year / 4 : Nat) : Int) := by omega
  have hhundred : (cycle * 400 + year) / 100 = cycle * 4 + ((year / 100 : Nat) : Int) := by omega
  have hcycle : (cycle * 400 + year) / 400 = cycle + ((year / 400 : Nat) : Int) := by omega
  have hdays : cycleDays = 146097 := rfl
  unfold daysBeforeYear yearStart
  rw [Int.add_sub_cancel, hfour, hhundred, hcycle, hdays]
  omega

/-- Every day lies in a year that begins in March, three hundred and six days after January. -/
theorem exists_fromMarch (days : Int) :
    ∃ year day, day < yearLength (year + 1) ∧ ofDays days = fromMarch year day ∧
      days + daysBeforeYear 1970 + 306 = daysBeforeYear (year + 1) + day := by
  have hlt : (days + epochOffset) % cycleDays < 146097 := Int.emod_lt_of_pos _ (by decide)
  have hnonneg : 0 ≤ (days + epochOffset) % cycleDays := Int.emod_nonneg _ (by decide)
  have hsplit := Int.ediv_mul_add_emod (days + epochOffset) cycleDays
  obtain ⟨day, hday⟩ := Int.eq_ofNat_of_zero_le hnonneg
  have htoNat : ((days + epochOffset) % cycleDays).toNat = day := by omega
  obtain ⟨hyear, hstart, hend⟩ := yearOfCycle_mem (show day < 146097 by omega)
  have hthis := daysBeforeYear_of_cycle ((days + epochOffset) / cycleDays) (yearOfCycle day)
  refine ⟨(days + epochOffset) / cycleDays * 400 + yearOfCycle day,
    day - yearStart (yearOfCycle day), ?_, ?_, ?_⟩
  · have hnext := daysBeforeYear_of_cycle ((days + epochOffset) / cycleDays) (yearOfCycle day + 1)
    rw [Int.natCast_add, Int.natCast_one, ← Int.add_assoc, daysBeforeYear_succ] at hnext
    omega
  · rw [← htoNat]
    rfl
  · have hepoch : daysBeforeYear 1970 + 306 = epochOffset := by decide
    omega

/-- From March on, five months have one hundred and fifty-three days. -/
theorem months_from_march (year : Int) {m : Nat} (h : m < 10) :
    daysBeforeMonth year (m + 3) = 59 + leapDay year + (153 * m + 2) / 5 ∧
      monthLength year (m + 3) + (153 * m + 2) / 5 = (153 * (m + 1) + 2) / 5 := by
  interval_cases m <;> constructor <;> simp [daysBeforeMonth, monthLength] <;> omega

theorem fromMarch_spec {year : Int} {day : Nat} (h : day < yearLength (year + 1)) :
    (fromMarch year day).IsDate ∧
      (fromMarch year day).toDays + daysBeforeYear 1970 + 306 = daysBeforeYear (year + 1) + day := by
  have hleap := leapDay_le (year + 1)
  have hsucc := daysBeforeYear_succ year
  unfold yearLength at h hsucc
  unfold fromMarch
  dsimp only
  generalize hm : (5 * day + 2) / 153 = m
  by_cases hmonth : m < 10
  · obtain ⟨hbefore, hlength⟩ := months_from_march year hmonth
    have hyear : year + (if m + 3 ≤ 2 then 1 else 0) = year := by
      rw [if_neg (by omega), Int.add_zero]
    rw [if_pos hmonth, hyear]
    refine ⟨⟨?_, ?_, ?_, ?_⟩, ?_⟩
    all_goals
      simp only [toDays]
      omega
  · have hyear : year + (if m - 9 ≤ 2 then 1 else 0) = year + 1 := by
      rw [if_pos (by omega)]
    rw [if_neg hmonth, hyear]
    obtain rfl | rfl : m = 10 ∨ m = 11 := by omega
    · refine ⟨⟨by simp, by simp, by simp, ?_⟩, ?_⟩
      · simp only [monthLength]
        omega
      · simp only [toDays, daysBeforeMonth]
        omega
    · refine ⟨⟨by simp, by simp, by simp, ?_⟩, ?_⟩
      · simp only [monthLength]
        omega
      · simp only [toDays, daysBeforeMonth, monthLength]
        omega

/-! ## Both ways -/

theorem isDate_ofDays (days : Int) : (ofDays days).IsDate := by
  obtain ⟨year, day, hday, heq, _⟩ := exists_fromMarch days
  rw [heq]
  exact (fromMarch_spec hday).1

/-- The days of a date count up to the day that it is the date of. -/
theorem toDays_ofDays (days : Int) : (ofDays days).toDays = days := by
  obtain ⟨year, day, hday, heq, hdays⟩ := exists_fromMarch days
  have hspec := (fromMarch_spec hday).2
  rw [heq]
  omega

/-- Later days have later dates. -/
theorem before_ofDays_iff {a b : Int} : (ofDays a).Before (ofDays b) ↔ a < b := by
  rw [before_iff_toDays_lt (isDate_ofDays a) (isDate_ofDays b), toDays_ofDays, toDays_ofDays]

end CivilDate
end WorkflowDispatch
