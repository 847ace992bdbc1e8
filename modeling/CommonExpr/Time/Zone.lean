import CommonExpr.Number.Reader
import CommonExpr.Text.Blank
import CommonExpr.Text.Search
import CommonExpr.Time.Calendar

/-!
Time zones: zones known by name, and fixed offsets written as hours and minutes.

Which names are known, and what the clocks of a zone show, is for whoever keeps the
zone data: the lookup of names is a parameter.
-/

namespace CommonExpr

/-- What is known of a zone: the offset from UTC in seconds that its clocks have at each
instant, in seconds since the epoch. -/
structure ZoneRule where
  offsetAt : (seconds : Int) → Int

/-- A zone known by name, or a fixed offset in seconds. -/
inductive Zone where
  | named (name : String) (rule : ZoneRule)
  | fixed (offset : Int)

/-- A signed 32-bit number in `[0, limit)`. -/
def readClockPart (limit : Int) (s : String) : Option Int :=
  match readInteger (-2147483648) 2147483647 s with
  | .ok i => if 0 ≤ i ∧ i < limit then some i else none
  | .error _ => none

/-- Hours, a colon and minutes, in seconds. -/
def readClock (s : String) : Option Int :=
  match Text.cutChar? ':' s with
  | none => none
  | some (h, m) =>
      match readClockPart 24 h, readClockPart 60 m with
      | some hours, some minutes => some (hours * 3600 + minutes * 60)
      | _, _ => none

/-- Reads an offset such as `+01:00`, blanks around it being dropped. -/
def readOffset (s : String) : Option Int :=
  let trimmed := Text.trim s
  match trimmed.toList with
  | '-' :: rest => (readClock (String.ofList rest)).map fun seconds => -seconds
  | '+' :: rest => readClock (String.ofList rest)
  | _ => readClock trimmed

/-- The zone a text stands for, if the names are those `named?` knows. -/
def Zone.readAmong (named? : String → Option ZoneRule) (s : String) : Except TimeFault Zone :=
  match named? s with
  | some rule => .ok (.named s rule)
  | none =>
      match readOffset s with
      | some offset => .ok (.fixed offset)
      | none => .error (.unknownZone s)

def Zone.offsetAt (z : Zone) (seconds : Int) : Int :=
  match z with
  | .named _ rule => rule.offsetAt seconds
  | .fixed offset => offset

/-- The parts of an instant on the clocks of a zone. -/
def Timestamp.momentIn? (t : Timestamp) (z : Zone) : Option Moment :=
  t.localMoment? (z.offsetAt t.seconds)

end CommonExpr
