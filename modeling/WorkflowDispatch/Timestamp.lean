import WorkflowDispatch.Text.Numeral
import WorkflowDispatch.Value.Basic
/-!
Instants of time and their text in universal time.  An instant is a count of microseconds from
the beginning of 1970; its date follows the Gregorian calendar, extended to all years.
-/

namespace WorkflowDispatch

/-- A day of the calendar. -/
structure CivilDate where
  year : Int
  month : Nat
  day : Nat
  deriving DecidableEq, Repr

namespace CivilDate

/-- Days from the first of March of the year 0, where the four-hundred-year cycles of the calendar
are counted from, to the first of January 1970. -/
def epochOffset : Int := 719468

def cycleDays : Int := 146097

/-- The year of a cycle in which a day of the cycle lies.  Years begin in March, so that the day
that some years lack is the last of the year. -/
def yearOfCycle (day : Nat) : Nat := (day - day / 1460 + day / 36524 - day / 146096) / 365

/-- The day, counted from the beginning of 1970. -/
def ofDays (days : Int) : CivilDate :=
  let z := days + epochOffset
  let cycle := z / cycleDays
  let dayOfCycle := (z % cycleDays).toNat
  let yearInCycle := yearOfCycle dayOfCycle
  let dayOfYear := dayOfCycle - (365 * yearInCycle + yearInCycle / 4 - yearInCycle / 100)
  let monthFromMarch := (5 * dayOfYear + 2) / 153
  let month := if monthFromMarch < 10 then monthFromMarch + 3 else monthFromMarch - 9
  { year := cycle * 400 + yearInCycle + (if month ≤ 2 then 1 else 0)
    month := month
    day := dayOfYear - (153 * monthFromMarch + 2) / 5 + 1 }

end CivilDate

/-- An instant, in microseconds from the beginning of 1970. -/
structure Timestamp where
  microseconds : Int
  deriving DecidableEq, Repr

namespace Timestamp

inductive Error where
  | notANumber
  | pastClock
  | pastCalendar
  | year (n : Int)
  | kind (name : String)

def Error.message : Error → String
  | .notANumber => "Invalid value NaN (not a number)"
  | .pastClock => "timestamp out of range for platform time_t"
  | .pastCalendar => "[Errno 75] Value too large for defined data type"
  | .year n => "year " ++ Text.decimal n ++ " is out of range"
  | .kind name => "'" ++ name ++ "' object cannot be interpreted as an integer"

def secondsPerDay : Int := 86400

def microsPerSecond : Int := 1000000

def seconds (t : Timestamp) : Int := t.microseconds / microsPerSecond

def date (t : Timestamp) : CivilDate := .ofDays (t.seconds / secondsPerDay)

def secondOfDay (t : Timestamp) : Nat := (t.seconds % secondsPerDay).toNat

def fraction (t : Timestamp) : Nat := (t.microseconds % microsPerSecond).toNat

/-- The clock counts seconds in a word of 64 bits, and the calendar counts years from 1900 in a
word of 32 bits.  Of the years that pass both, those of one to four digits can be written. -/
def checked (t : Timestamp) : Except Error Timestamp :=
  let year := t.date.year
  if t.seconds < -0x8000000000000000 || 0x8000000000000000 ≤ t.seconds then .error .pastClock
  else if year - 1900 < -0x80000000 || 0x80000000 ≤ year - 1900 then .error .pastCalendar
  else if 1 ≤ year && year ≤ 9999 then .ok t
  else .error (.year (Int.bmod year 0x100000000))

/-- The microseconds of the fraction of a finite number, rounded to the nearest floating-point
number first and then to the nearest integer. -/
def fractionMicros (mantissa : Nat) (exponent : Int) : Nat :=
  let f := Binary64.magnitude mantissa exponent
  match Binary64.ofRatio false (f.1 % f.2 * 1000000) f.2 (Binary64.magnitude_pos ..) with
  | .finite _ m e _ =>
    let (n, d) := Binary64.magnitude m e
    Binary64.roundDiv n d
  | _ => 0

def nearestToFloat : Binary64 → Except Error Timestamp
  | .nan => .error .notANumber
  | .infinite _ => .error .pastClock
  | .finite negative mantissa exponent _ =>
    let (n, d) := Binary64.magnitude mantissa exponent
    let micros : Int := (n / d : Nat) * microsPerSecond + fractionMicros mantissa exponent
    .ok ⟨if negative then -micros else micros⟩

/-- The instant that lies a number of seconds, rounded to microseconds, after the beginning of
1970. -/
def nearest : Value → Except Error Timestamp
  | .int n => .ok ⟨n * microsPerSecond⟩
  | .bool b => .ok ⟨Value.ofTruth b * microsPerSecond⟩
  | .float x => nearestToFloat x
  | v => .error (.kind v.kind)

/-- The instant for a number of seconds, if it can be written. -/
def ofValue (v : Value) : Except Error Timestamp := nearest v >>= checked

/-- The instant as a number of seconds. -/
def value (t : Timestamp) : Value :=
  .float (.ofRatio (decide (t.microseconds < 0)) t.microseconds.natAbs microsPerSecond.natAbs
    (by decide))

/-- A year has four digits and the other fields have two, so the order of texts is the order of
the dates. -/
def dateText (d : CivilDate) : List Char :=
  Text.padded 4 d.year.toNat ++ '-' :: Text.padded 2 d.month ++ '-' :: Text.padded 2 d.day

def clockText (second : Nat) : List Char :=
  Text.padded 2 (second / 3600) ++ ':' :: Text.padded 2 (second / 60 % 60)
    ++ ':' :: Text.padded 2 (second % 60)

/-- A whole second is written without a fraction. -/
def fractionText (micros : Nat) : List Char :=
  if micros = 0 then [] else '.' :: Text.padded 6 micros

/-- The date and the time of day with the offset zero. -/
def text (t : Timestamp) : String :=
  String.ofList (dateText t.date ++ 'T' :: clockText t.secondOfDay ++ fractionText t.fraction)
    ++ "+00:00"

end Timestamp
end WorkflowDispatch
