import CommonExpr.Time.Span

/-!
The proleptic Gregorian calendar: days since the epoch against year, month and
day, and the parts of an instant.
-/

namespace CommonExpr

/-- A calendar day; months and days count from one. -/
structure Date where
  year : Int
  month : Int
  day : Int
  deriving DecidableEq, Repr

namespace Date

def isLeap (year : Int) : Bool :=
  year % 4 = 0 && (year % 100 != 0 || year % 400 = 0)

def monthLength (year month : Int) : Int :=
  if month = 2 then (if isLeap year then 29 else 28)
  else if month = 4 ∨ month = 6 ∨ month = 9 ∨ month = 11 then 30
  else 31

def Valid (d : Date) : Prop :=
  1 ≤ d.month ∧ d.month ≤ 12 ∧ 1 ≤ d.day ∧ d.day ≤ monthLength d.year d.month

instance (d : Date) : Decidable d.Valid := by
  unfold Valid
  infer_instance

/-- Days from 1970-01-01.  Years are counted from March, so that the leap day
comes last. -/
def toDays (d : Date) : Int :=
  let y := if d.month ≤ 2 then d.year - 1 else d.year
  let shifted := if d.month ≤ 2 then d.month + 9 else d.month - 3
  let dayOfYear := (153 * shifted + 2) / 5 + d.day - 1
  365 * y + y / 4 - y / 100 + y / 400 + dayOfYear - 719468

/-- The day that lies `days` after 1970-01-01. -/
def ofDays (days : Int) : Date :=
  let z := days + 719468
  let era := z / 146097
  let dayOfEra := z % 146097
  let yearOfEra :=
    (dayOfEra - dayOfEra / 1460 + dayOfEra / 36524 - dayOfEra / 146096) / 365
  let dayOfYear := dayOfEra - (365 * yearOfEra + yearOfEra / 4 - yearOfEra / 100)
  let shifted := (5 * dayOfYear + 2) / 153
  let day := dayOfYear - (153 * shifted + 2) / 5 + 1
  let month := if shifted < 10 then shifted + 3 else shifted - 9
  let year := yearOfEra + era * 400
  ⟨if month ≤ 2 then year + 1 else year, month, day⟩

/-- Days since the first of January. -/
def dayOfYear (d : Date) : Int := d.toDays - (⟨d.year, 1, 1⟩ : Date).toDays

end Date

/-- The day of the week of a day number, Sunday being zero. -/
def weekday (days : Int) : Int := (days + 4) % 7

/-- A date with a time of day.  A leap second shows as nanoseconds past `10^9`. -/
structure Moment where
  date : Date
  hour : Int
  minute : Int
  second : Int
  nanos : Int
  deriving DecidableEq, Repr

/-- The parts of the second `seconds` after the epoch. -/
def Moment.ofSeconds (seconds nanos : Int) : Moment :=
  let rest := seconds % 86400
  ⟨Date.ofDays (seconds / 86400), rest / 3600, rest / 60 % 60, rest % 60, nanos⟩

/-- Seconds since the epoch. -/
def Moment.toSeconds (m : Moment) : Int :=
  m.date.toDays * 86400 + m.hour * 3600 + m.minute * 60 + m.second

/-- The years that calendar parts are given for. -/
def calendarYears (year : Int) : Prop := -262143 ≤ year ∧ year ≤ 262142

instance (year : Int) : Decidable (calendarYears year) := by
  unfold calendarYears
  infer_instance

/-- Whether the instant has calendar parts.  Nanoseconds past one second are
understood only in the last second of a minute, as a leap second. -/
def Timestamp.onCalendar (t : Timestamp) : Bool :=
  calendarYears (Date.ofDays (t.seconds / 86400)).year && decide (0 ≤ t.nanos) &&
    (decide (t.nanos < nanosPerSecond) ||
      (decide (t.nanos < 2 * nanosPerSecond) && t.seconds % 60 = 59))

/-- The instant's parts at a place whose clocks are `offset` seconds ahead. -/
def Timestamp.localMoment? (t : Timestamp) (offset : Int) : Option Moment :=
  if t.onCalendar then some (Moment.ofSeconds (t.seconds + offset) t.nanos) else none

/-- A number that can be asked of an instant. -/
inductive CalendarPart where
  | fullYear
  | month
  | date
  | dayOfMonth
  | dayOfWeek
  | dayOfYear
  | hours
  | minutes
  | seconds
  | milliseconds
  deriving DecidableEq, Repr

/-- The part of a moment.  Only `date` counts from one. -/
def CalendarPart.of (m : Moment) : CalendarPart → Int
  | .fullYear => m.date.year
  | .month => m.date.month - 1
  | .date => m.date.day
  | .dayOfMonth => m.date.day - 1
  | .dayOfWeek => weekday m.date.toDays
  | .dayOfYear => m.date.dayOfYear
  | .hours => m.hour
  | .minutes => m.minute
  | .seconds => m.second
  | .milliseconds => m.nanos / 1000000

example : Date.ofDays 0 = ⟨1970, 1, 1⟩ := by decide
example : (⟨2024, 2, 29⟩ : Date).toDays = 19782 := by decide
example : Date.ofDays 19782 = ⟨2024, 2, 29⟩ := by decide

end CommonExpr
