import CommonExpr.Func
import CommonExpr.Time.Zone

/-!
Parts of timestamps and durations.  The parts of a timestamp are read in UTC,
or on the clocks of a zone given as a second argument.  The zones that are known by
name are those of a lookup.
-/

namespace CommonExpr.Library

variable (named? : String → Option ZoneRule)

/-- The part of a timestamp that lies on the calendar. -/
def partOf (id : Int) (part : CalendarPart) (m : Option Moment) : Outcome Value :=
  match m with
  | some m => .ok (.int (Int64.ofInt (part.of m)))
  | none => fail id (.time .timestampRange)

/-- The part of a timestamp in a zone. -/
def partIn (id : Int) (part : CalendarPart) (t : Timestamp) (zone : String) : Outcome Value :=
  match timed id (Zone.readAmong named? zone) with
  | .error f => .error f
  | .ok z => partOf id part (t.momentIn? z)

/-- The overloads on timestamps, without and with a zone. -/
def timestampOverloads (name label : String) (part : CalendarPart) : List Overload := [
  .ofValues name s!"timestamp_to_{label}" [.timestamp] fun node args =>
    match args with
    | [.timestamp t] => some (partOf node part (t.localMoment? 0))
    | _ => none,
  .ofValues name s!"timestamp_to_{label}_with_tz" [.timestamp, .string] fun node args =>
    match args with
    | [.timestamp t, .string zone] => some (partIn named? node part t zone)
    | _ => none]

/-- The overload on durations. -/
def durationOverload (name label : String) (part : Duration → Int) : Overload :=
  .ofValues name s!"duration_to_{label}" [.duration] fun _ args =>
    match args with
    | [.duration d] => some (.ok (.int (Int64.ofInt (part d))))
    | _ => none

/-- A part that only timestamps have. -/
def calendarFunc (name label : String) (part : CalendarPart) : Func :=
  ⟨name, timestampOverloads named? name label part⟩

/-- A part that timestamps and durations have. -/
def clockFunc (name label : String) (part : CalendarPart) (span : Duration → Int) : Func :=
  ⟨name, timestampOverloads named? name label part ++ [durationOverload name label span]⟩

def timeParts : List Func := [
  calendarFunc named? "getFullYear" "full_year" .fullYear,
  calendarFunc named? "getMonth" "month" .month,
  calendarFunc named? "getDate" "date" .date,
  calendarFunc named? "getDayOfMonth" "day_of_month" .dayOfMonth,
  calendarFunc named? "getDayOfWeek" "day_of_week" .dayOfWeek,
  calendarFunc named? "getDayOfYear" "day_of_year" .dayOfYear,
  clockFunc named? "getHours" "hours" .hours Duration.hours,
  clockFunc named? "getMinutes" "minutes" .minutes Duration.minutes,
  clockFunc named? "getSeconds" "seconds" .seconds Duration.wholeSeconds,
  clockFunc named? "getMilliseconds" "milliseconds" .milliseconds Duration.milliseconds]

end CommonExpr.Library
