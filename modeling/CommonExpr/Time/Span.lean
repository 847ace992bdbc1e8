import CommonExpr.Number.Word

/-!
Instants and spans of time in nanoseconds, and their exact arithmetic.

An instant counts from 1970-01-01T00:00:00Z and lies in the years 0001 to 9999;
a span's nanosecond count fits a signed 64-bit word.  Results are computed
exactly and checked against the range of their own kind; a span is turned round
only when its seconds still fit a signed 64-bit word.
-/

namespace CommonExpr

/-- What is wrong with a duration text. -/
inductive DurationIssue where
  | invalid (text : String)
  | expectedNumber (text : String)
  | missingUnit (number : String)
  | unknownUnit (unit : String)
  deriving DecidableEq, Repr

/-- What can go wrong with times. -/
inductive TimeFault where
  | timestampRange
  | durationRange
  | timestampText (text : String)
  | durationText (issue : DurationIssue)
  | unknownZone (name : String)
  deriving DecidableEq, Repr

def DurationIssue.message : DurationIssue → String
  | .invalid text => s!"invalid duration '{text}'"
  | .expectedNumber text => s!"expected number at '{text}'"
  | .missingUnit number => s!"missing unit after '{number}'"
  | .unknownUnit unit => s!"unknown unit '{unit}'"

def TimeFault.message : TimeFault → String
  | .timestampRange => "timestamp out of range"
  | .durationRange => "duration out of range"
  | .timestampText text => s!"Failed to parse timestamp: no RFC 3339 time in '{text}'"
  | .durationText issue => "Failed to parse duration: " ++ issue.message
  | .unknownZone name => s!"invalid timezone: {name}"

def nanosPerSecond : Int := 1000000000

/-- Seconds since the epoch and nanoseconds after them. -/
structure Timestamp where
  seconds : Int
  nanos : Int
  deriving DecidableEq, Repr

/-- A signed number of seconds and the nanoseconds after them. -/
structure Duration where
  seconds : Int
  nanos : Int
  deriving DecidableEq, Repr

namespace Timestamp

/-- 0001-01-01T00:00:00Z -/
def minSeconds : Int := -62135596800

/-- 9999-12-31T23:59:59Z -/
def maxSeconds : Int := 253402300799

/-- Nanoseconds since the epoch. -/
def total (t : Timestamp) : Int := t.seconds * nanosPerSecond + t.nanos

/-- The instant `nanos` after `seconds`, with the nanoseconds carried into `[0, 10^9)`. -/
def normalize (seconds nanos : Int) : Except TimeFault Timestamp :=
  let carried := seconds + nanos / nanosPerSecond
  if minSeconds ≤ carried ∧ carried ≤ maxSeconds then
    .ok ⟨carried, nanos % nanosPerSecond⟩
  else .error .timestampRange

/-- The instant `d` later, or earlier when `sign` is `-1`. -/
def shift (t : Timestamp) (d : Duration) (sign : Int) : Except TimeFault Timestamp :=
  match int64? (sign * d.seconds) with
  | none => .error .timestampRange
  | some _ => normalize (t.seconds + sign * d.seconds) (t.nanos + sign * d.nanos)

end Timestamp

namespace Duration

def zero : Duration := ⟨0, 0⟩

/-- Whole length in nanoseconds. -/
def total (d : Duration) : Int := d.seconds * nanosPerSecond + d.nanos

/-- The span with this many seconds and nanoseconds, the latter carried into `[0, 10^9)`. -/
def normalize (seconds nanos : Int) : Except TimeFault Duration :=
  let d : Duration := ⟨seconds + nanos / nanosPerSecond, nanos % nanosPerSecond⟩
  if -9223372036854775808 ≤ d.total ∧ d.total < 9223372036854775808 then .ok d
  else .error .durationRange

def ofNanos (nanos : Int) : Duration :=
  ⟨nanos / nanosPerSecond, nanos % nanosPerSecond⟩

/-- The sum, or the difference when `sign` is `-1`. -/
def combine (a b : Duration) (sign : Int) : Except TimeFault Duration :=
  match int64? (sign * b.seconds) with
  | none => .error .durationRange
  | some _ => normalize (a.seconds + sign * b.seconds) (a.nanos + sign * b.nanos)

def negate (d : Duration) : Except TimeFault Duration := zero.combine d (-1)

/-- The nanosecond count as a machine word. -/
def nanosWord (d : Duration) : Int := wrapInt64 d.total

def hours (d : Duration) : Int := d.nanosWord.tdiv (3600 * nanosPerSecond)

def minutes (d : Duration) : Int := d.nanosWord.tdiv (60 * nanosPerSecond)

def wholeSeconds (d : Duration) : Int := d.nanosWord.tdiv nanosPerSecond

/-- The milliseconds within the last second. -/
def milliseconds (d : Duration) : Int := (d.nanosWord.tmod nanosPerSecond).tdiv 1000000

end Duration

/-- The span from `earlier` to `t`. -/
def Timestamp.since (t earlier : Timestamp) : Except TimeFault Duration :=
  Duration.normalize (t.seconds - earlier.seconds) (t.nanos - earlier.nanos)

example : Timestamp.normalize 5 (-1) = .ok ⟨4, 999999999⟩ := by rfl
example : Duration.normalize 9223372037 0 = .error .durationRange := by rfl

end CommonExpr
