import CommonExpr.Number.Double

/-!
Decimal text of doubles: the fewest digits that read back, a fixed number of
places, and scientific notation with a fixed number of places.

All three are computed on the exact value `m * 2 ^ e`; no intermediate result
is rounded.
-/

namespace CommonExpr

/-- How many decimal digits `n` has; none for zero. -/
def digitCount (n : Nat) : Nat :=
  if n = 0 then 0 else (Nat.toDigits 10 n).length

def digitText (n : Nat) : String := String.ofList (Nat.toDigits 10 n)

def zeros (n : Nat) : String := String.ofList (List.replicate n '0')

/-- The decimal number `digits * 10 ^ exponent`. -/
structure Decimal where
  digits : Nat
  exponent : Int
  deriving DecidableEq, Repr

/-- The number of digits before the point of the positive fraction `n / d`: the
least `k` with `n / d < 10 ^ k`, negative or zero for small fractions. -/
def pointPosition (n d : Nat) : Int :=
  if d ≤ n then digitCount (n / d)
  else
    let shift := digitCount ((d + n - 1) / n - 1)
    1 - (shift : Int)

/-- The fraction `n / d` divided by `10 ^ e`. -/
def decimalFraction (n d : Nat) (e : Int) : Nat × Nat :=
  if 0 ≤ e then (n, d * tenTo e.toNat) else (n * tenTo (-e).toNat, d)

/-- An interval around a fraction, all over one denominator.  The bounds belong
to it when `closed`. -/
structure ReadInterval where
  low : Nat
  value : Nat
  high : Nat
  den : Nat
  closed : Bool

/-- Whether `c * 10 ^ e` lies in the interval. -/
def ReadInterval.holds (r : ReadInterval) (c : Nat) (e : Int) : Bool :=
  let (n, d) := if 0 ≤ e then (c * tenTo e.toNat, 1) else (c, tenTo (-e).toNat)
  if r.closed then r.low * d ≤ n * r.den && n * r.den ≤ r.high * d
  else r.low * d < n * r.den && n * r.den < r.high * d

/-- The number on the grid of `10 ^ e` that lies in the interval, the nearer one
if both neighbours of the value do, the upper one on a tie. -/
def ReadInterval.onGrid (r : ReadInterval) (e : Int) : Option Decimal :=
  let (n, d) := decimalFraction r.value r.den e
  let below := n / d
  match r.holds below e, r.holds (below + 1) e with
  | true, true => some ⟨if 2 * (n % d) < d then below else below + 1, e⟩
  | true, false => some ⟨below, e⟩
  | false, true => some ⟨below + 1, e⟩
  | false, false => none

/-- Tries ever finer grids, one digit more at a time. -/
def ReadInterval.shortest (r : ReadInterval) : Nat → Int → Decimal
  | 0, e => ⟨(decimalFraction r.value r.den e).1 / (decimalFraction r.value r.den e).2, e⟩
  | tries + 1, e => (r.onGrid e).getD (r.shortest tries (e - 1))

/-- The reals that round to `m * 2 ^ e`, scaled by four so that the ends of the
interval are integers too. -/
def readInterval (m : Nat) (e : Int) : ReadInterval :=
  let low := if m = twoTo 52 ∧ -1074 < e then 4 * m - 1 else 4 * m - 2
  let q := e - 2
  let up := if 0 ≤ q then twoTo q.toNat else 1
  let den := if 0 ≤ q then 1 else twoTo (-q).toNat
  ⟨low * up, 4 * m * up, (4 * m + 2) * up, den, m % 2 = 0⟩

/-- Moves trailing zeros of the digits into the exponent. -/
def Decimal.trim (fuel : Nat) (x : Decimal) : Decimal :=
  match fuel with
  | 0 => x
  | fuel + 1 =>
      if x.digits % 10 = 0 ∧ x.digits ≠ 0 then
        Decimal.trim fuel ⟨x.digits / 10, x.exponent + 1⟩
      else x

/-- The shortest decimal that reads back as the positive number `m * 2 ^ e`. -/
def shortestDecimal (m : Nat) (e : Int) : Decimal :=
  let r := readInterval m e
  let point := pointPosition r.value r.den
  (r.shortest 17 (point - 1)).trim 20

/-- Positional notation, with a point only where digits follow it. -/
def Decimal.positional (x : Decimal) : String :=
  if 0 ≤ x.exponent then digitText x.digits ++ zeros x.exponent.toNat
  else
    let places := (-x.exponent).toNat
    let text := digitText x.digits
    let padded := zeros (places + 1 - text.length) ++ text
    String.ofList (padded.toList.take (padded.length - places)) ++ "." ++
      String.ofList (padded.toList.drop (padded.length - places))

/-- Numerator and denominator of the magnitude of a finite double. -/
def Double.fractionParts (d : Double) : Nat × Nat :=
  let (m, e) := d.magnitude
  if 0 ≤ e then (m * twoTo e.toNat, 1) else (m, twoTo (-e).toNat)

/-- Text of a double that is not finite. -/
def Double.specialText (d : Double) : String :=
  if d.isNaN then "NaN" else if d.negative then "-inf" else "inf"

/-- The shortest text that reads back, never with an exponent. -/
def Double.text (d : Double) : String :=
  if d.isFinite then
    let (m, e) := d.magnitude
    let body := if m = 0 then "0" else (shortestDecimal m e).positional
    if d.negative then "-" ++ body else body
  else d.specialText

/-- Digits with a point `places` from the right. -/
def pointText (digits places : Nat) : String :=
  if places = 0 then digitText digits
  else (⟨digits, -(places : Int)⟩ : Decimal).positional

/-- Exactly `places` digits after the point, a half going to the even digit. -/
def Double.fixedText (d : Double) (places : Nat) : String :=
  if d.isFinite then
    let (n, q) := d.fractionParts
    let body := pointText (roundHalfEven (n * tenTo places) q) places
    if d.negative then "-" ++ body else body
  else d.specialText

/-- One digit, a point and `places` digits, then `e` and the exponent. -/
def Double.scientificText (d : Double) (places : Nat) : String :=
  if d.isFinite then
    let (n, q) := d.fractionParts
    let (digits, exponent) : Nat × Int :=
      if n = 0 then (0, 0)
      else
        let exponent := pointPosition n q - 1
        let (sn, sd) := decimalFraction n q (exponent - places)
        let digits := roundHalfEven sn sd
        if digits = tenTo (places + 1) then (tenTo places, exponent + 1) else (digits, exponent)
    let body := pointText digits places ++ "e" ++ toString exponent
    if d.negative then "-" ++ body else body
  else d.specialText

end CommonExpr
