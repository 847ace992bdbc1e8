import CommonExpr.Number.Reader
import CommonExpr.Text.Blank
import CommonExpr.Time.Calendar

/-!
Text of instants and spans.

Instants are written as RFC 3339 in UTC with trailing zeros of the fraction
dropped.  Spans are written as decimal seconds with an `s`, and read as one or
more decimal numbers, each followed by its unit.
-/

namespace CommonExpr

/-- The number with zeros in front, up to a width. -/
def padded (width : Nat) (n : Int) : String :=
  let text := toString n.natAbs
  (if n < 0 then "-" else "") ++
    zeros ((if n < 0 then width - 1 else width) - text.length) ++ text

/-- Nine digits of nanoseconds without the zeros at the end. -/
def fractionText (nanos : Int) : String :=
  String.ofList (Text.dropRightWhile (· == '0') (padded 9 nanos).toList)

/-- Years of four digits stand bare, all others with their sign. -/
def yearText (year : Int) : String :=
  if 0 ≤ year ∧ year ≤ 9999 then padded 4 year
  else if year < 0 then padded 5 year
  else "+" ++ padded 4 year

/-- Date and time of day up to the second.  A leap second is shown as 60. -/
def Moment.text (m : Moment) : String :=
  yearText m.date.year ++ "-" ++ padded 2 m.date.month ++ "-" ++ padded 2 m.date.day ++ "T" ++
    padded 2 m.hour ++ ":" ++ padded 2 m.minute ++ ":" ++
    padded 2 (m.second + m.nanos / nanosPerSecond)

/-- RFC 3339 in UTC, or bare seconds for instants outside the calendar. -/
def Timestamp.text (t : Timestamp) : String :=
  match t.localMoment? 0 with
  | none => s!"{t.seconds}s"
  | some m =>
      if t.nanos = 0 then m.text ++ "Z"
      else m.text ++ "." ++ fractionText t.nanos ++ "Z"

/-- Decimal seconds, as in `-0.25s`. -/
def Duration.text (d : Duration) : String :=
  let total := d.nanosWord
  let sign := if total < 0 then "-" else ""
  let seconds := total.natAbs / 1000000000
  let fraction := total.natAbs % 1000000000
  if fraction = 0 then s!"{sign}{seconds}s"
  else s!"{sign}{seconds}." ++ fractionText fraction ++ "s"

/-- Exactly `count` digits, and the text after them. -/
def takeDigits (count : Nat) (cs : List Char) : Option (Int × List Char) :=
  let digits := cs.take count
  if digits.length = count ∧ digits.all isDigit then
    some (digitsValue digits, cs.drop count)
  else none

/-- The rest after a wanted character. -/
def takeChar (allowed : Char → Bool) : List Char → Option (List Char)
  | c :: rest => if allowed c then some rest else none
  | [] => none

/-- A fraction after its point: nanoseconds of the first nine digits, the
further digits being dropped. -/
def takeFraction : List Char → Option (Int × List Char)
  | '.' :: rest =>
      let digits := rest.takeWhile isDigit
      if digits.isEmpty then none
      else
        let nine := (digits ++ List.replicate 9 '0').take 9
        some (digitsValue nine, rest.dropWhile isDigit)
  | rest => some (0, rest)

/-- The offset that ends a time: `Z`, or a sign with hours and minutes. -/
def takeOffset : List Char → Option Int
  | ['Z'] => some 0
  | ['z'] => some 0
  | sign :: rest => do
      let factor : Int ←
        if sign = '+' then some 1 else if sign = '-' ∨ sign = '\u2212' then some (-1) else none
      let (hours, rest) ← takeDigits 2 rest
      let rest ← takeChar (· == ':') rest
      let (minutes, rest) ← takeDigits 2 rest
      if rest.isEmpty ∧ hours < 24 ∧ minutes < 60 then
        some (factor * (hours * 3600 + minutes * 60))
      else none
  | [] => none

/-- Reads an RFC 3339 time: its moment on local clocks and their offset. -/
def readMoment (s : String) : Option (Moment × Int) := do
  let (year, rest) ← takeDigits 4 s.toList
  let rest ← takeChar (· == '-') rest
  let (month, rest) ← takeDigits 2 rest
  let rest ← takeChar (· == '-') rest
  let (day, rest) ← takeDigits 2 rest
  let rest ← takeChar (fun c => c == 'T' || c == 't' || c == ' ') rest
  let (hour, rest) ← takeDigits 2 rest
  let rest ← takeChar (· == ':') rest
  let (minute, rest) ← takeDigits 2 rest
  let rest ← takeChar (· == ':') rest
  let (second, rest) ← takeDigits 2 rest
  let (nanos, rest) ← takeFraction rest
  let offset ← takeOffset rest
  let date : Date := ⟨year, month, day⟩
  if date.Valid ∧ hour < 24 ∧ minute < 60 ∧ second ≤ 60 then
    some (⟨date, hour, minute, second, nanos⟩, offset)
  else none

/-- Reads an RFC 3339 time.  A sixtieth second carries into the next minute. -/
def Timestamp.read (s : String) : Except TimeFault Timestamp :=
  match readMoment s with
  | none => .error (.timestampText s)
  | some (m, offset) => Timestamp.normalize (m.toSeconds - offset) m.nanos

/-- The nanoseconds of one unit of a span. -/
def unitNanos? : String → Option Nat
  | "h" => some 3600000000000
  | "m" => some 60000000000
  | "s" => some 1000000000
  | "ms" => some 1000000
  | "us" => some 1000
  | "µs" => some 1000
  | "ns" => some 1
  | _ => none

/-- The number, when it fits a signed 128-bit word. -/
def fits128 (n : Nat) : Option Nat :=
  if n < 170141183460469231731687303715884105728 then some n else none

/-- The value of whole digits read onto `acc`, within 128 bits. -/
def wholeNanos : (acc : Nat) → List Char → Option Nat
  | acc, [] => some acc
  | acc, c :: rest => do
      let shifted ← fits128 (acc * 10)
      let next ← fits128 (shifted + (digitValue? c).getD 0)
      wholeNanos next rest

/-- Adds fraction digits, each weighing a tenth of the one before, until a
digit weighs nothing. -/
def placeNanos : (place acc : Nat) → List Char → Option Nat
  | _, acc, [] => some acc
  | place, acc, c :: rest =>
      let place := place / 10
      if place = 0 then some acc
      else do
        let next ← fits128 (acc + (digitValue? c).getD 0 * place)
        placeNanos place next rest

/-- Nanoseconds of `whole.fraction` units, truncated; `none` beyond 128 bits. -/
def decimalNanos (whole fraction : List Char) (scale : Nat) : Option Nat := do
  let units ← wholeNanos 0 whole
  let nanos ← fits128 (units * scale)
  placeNanos scale nanos fraction

def isNumberChar (c : Char) : Bool := isDigit c || c == '.'

/-- The digits before and after the first point. -/
def splitPoint (number : List Char) : List Char × List Char :=
  (number.takeWhile (· != '.'), (number.dropWhile (· != '.')).drop 1)

/-- One component: a number, its unit, and the text after them. -/
structure DurationPart where
  number : List Char
  unit : List Char
  rest : List Char

/-- Splits off one component. -/
def DurationPart.take (cs : List Char) : DurationPart :=
  let tail := cs.dropWhile isNumberChar
  ⟨cs.takeWhile isNumberChar, tail.takeWhile (!isNumberChar ·), tail.dropWhile (!isNumberChar ·)⟩

/-- The nanoseconds of a component. -/
def DurationPart.nanos (p : DurationPart) : Except TimeFault Nat :=
  let (whole, fraction) := splitPoint p.number
  if (whole.isEmpty && fraction.isEmpty) || fraction.contains '.' then
    .error (.durationText (.expectedNumber (String.ofList (p.number ++ p.unit))))
  else match unitNanos? (String.ofList p.unit) with
    | none =>
        if p.unit.isEmpty then .error (.durationText (.missingUnit (String.ofList p.number)))
        else .error (.durationText (.unknownUnit (String.ofList p.unit)))
    | some scale =>
        match decimalNanos whole fraction scale with
        | none => .error .durationRange
        | some n => .ok n

/-- The sum of all components, which must stay within a signed 64-bit word.
Each component takes a character at least, so the length bounds their number. -/
def sumParts : (fuel : Nat) → (sum : Nat) → List Char → Except TimeFault Nat
  | _, sum, [] => .ok sum
  | 0, sum, _ => .ok sum
  | fuel + 1, sum, cs =>
      let part := DurationPart.take cs
      match part.nanos with
      | .error e => .error e
      | .ok n =>
          if sum + n < 9223372036854775808 then sumParts fuel (sum + n) part.rest
          else .error .durationRange

/-- Reads a span such as `1h30m`, `-1.5s` or `0`. -/
def Duration.read (s : String) : Except TimeFault Duration :=
  let (negative, body) := match s.toList with
    | '-' :: rest => (true, rest)
    | '+' :: rest => (false, rest)
    | rest => (false, rest)
  if body.isEmpty then .error (.durationText (.invalid s))
  else if body = ['0'] then .ok .zero
  else match sumParts body.length 0 body with
    | .error e => .error e
    | .ok sum =>
        let total : Int := if negative then -(sum : Int) else sum
        Duration.normalize (total.tdiv nanosPerSecond) (total.tmod nanosPerSecond)

end CommonExpr
