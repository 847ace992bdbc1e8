import CommonExpr.Number.Decimal

/-!
Reading numbers from text.  An integer is an optional sign and decimal digits;
the first character that is no digit, or the first digit that leaves the range,
decides the fault.  A double is a decimal with an optional exponent, or one of
the words for infinity and not-a-number, and is rounded to the nearest double.
-/

namespace CommonExpr

/-- The value of an ASCII decimal digit. -/
def digitValue? (c : Char) : Option Nat :=
  if '0' ≤ c ∧ c ≤ '9' then some (c.toNat - '0'.toNat) else none

def isDigit (c : Char) : Bool := '0' ≤ c && c ≤ '9'

/-- Why a text is no integer of the wanted range. -/
inductive IntegerFault where
  | empty
  | badDigit
  | tooLarge
  | tooSmall
  deriving DecidableEq, Repr

def IntegerFault.message : IntegerFault → String
  | .empty => "cannot parse integer from empty string"
  | .badDigit => "invalid digit found in string"
  | .tooLarge => "number too large to fit in target type"
  | .tooSmall => "number too small to fit in target type"

/-- Appends digits to `value`, upward or downward, while it stays in range. -/
def readDigits (lo hi : Int) (down : Bool) : Int → List Char → Except IntegerFault Int
  | value, [] => .ok value
  | value, c :: rest =>
      match digitValue? c with
      | none => .error .badDigit
      | some d =>
          let next := if down then value * 10 - d else value * 10 + d
          if next < lo then .error .tooSmall
          else if hi < next then .error .tooLarge
          else readDigits lo hi down next rest

/-- Reads an integer between `lo` and `hi`.  A minus sign is understood only
where negative numbers are in range. -/
def readInteger (lo hi : Int) (s : String) : Except IntegerFault Int :=
  match s.toList with
  | [] => .error .empty
  | ['+'] => .error .badDigit
  | ['-'] => .error .badDigit
  | '+' :: digits => readDigits lo hi false 0 digits
  | '-' :: digits =>
      if lo < 0 then readDigits lo hi true 0 digits else .error .badDigit
  | digits => readDigits lo hi false 0 digits

def readInt64 (s : String) : Except IntegerFault Int64 :=
  (readInteger (-9223372036854775808) 9223372036854775807 s).map Int64.ofInt

def readUInt64 (s : String) : Except IntegerFault UInt64 :=
  (readInteger 0 18446744073709551615 s).map fun i => UInt64.ofNat i.toNat

/-- Why a text is no double. -/
inductive DoubleFault where
  | empty
  | invalid
  deriving DecidableEq, Repr

def DoubleFault.message : DoubleFault → String
  | .empty => "cannot parse float from empty string"
  | .invalid => "invalid float literal"

/-- The value of a run of digits. -/
def digitsValue (cs : List Char) : Nat :=
  cs.foldl (fun n c => n * 10 + (digitValue? c).getD 0) 0

/-- The double nearest to `± digits * 10 ^ exponent`.  Far outside the range of
doubles the answer is known without computing the power. -/
def Double.ofDecimal (negative : Bool) (x : Decimal) : Double :=
  let top := x.exponent + digitCount x.digits
  if x.digits = 0 ∨ top < -400 then Double.ofSign negative 0
  else if 400 < top then Double.infinity negative
  else if 0 ≤ x.exponent then Double.ofFraction negative (x.digits * tenTo x.exponent.toNat) 1
  else Double.ofFraction negative x.digits (tenTo (-x.exponent).toNat)

/-- Reads the exponent after its mark: an optional sign and at least one digit. -/
def readExponent (cs : List Char) : Option Int :=
  let (negative, digits) := match cs with
    | '-' :: rest => (true, rest)
    | '+' :: rest => (false, rest)
    | rest => (false, rest)
  if digits.isEmpty || !digits.all isDigit then none
  else some (if negative then -(digitsValue digits : Int) else digitsValue digits)

/-- Reads digits with an optional point and exponent; at least one digit must
stand before the exponent. -/
def readDecimal (cs : List Char) : Option Decimal :=
  let whole := cs.takeWhile isDigit
  let afterWhole := cs.dropWhile isDigit
  let (places, rest) := match afterWhole with
    | '.' :: tail => (tail.takeWhile isDigit, tail.dropWhile isDigit)
    | tail => ([], tail)
  if whole.isEmpty && places.isEmpty then none
  else
    let digits := digitsValue (whole ++ places)
    match rest with
    | [] => some ⟨digits, -(places.length : Int)⟩
    | mark :: tail =>
        if mark = 'e' || mark = 'E' then
          (readExponent tail).map fun e => ⟨digits, e - places.length⟩
        else none

/-- Reads a double. -/
def readDouble (s : String) : Except DoubleFault Double :=
  match s.toList with
  | [] => .error .empty
  | c :: rest =>
      let (negative, body) :=
        if c = '-' then (true, rest) else if c = '+' then (false, rest) else (false, c :: rest)
      let word := String.ofList (body.map Char.toLower)
      if word = "inf" ∨ word = "infinity" then .ok (Double.infinity negative)
      else if word = "nan" then .ok (Double.ofSign negative 0x7ff8000000000000)
      else match readDecimal body with
        | none => .error .invalid
        | some x => .ok (Double.ofDecimal negative x)

end CommonExpr
