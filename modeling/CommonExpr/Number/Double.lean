import CommonExpr.Number.Rounding

/-!
Binary64 and binary32 numbers as bit patterns.

A pattern decodes to an exact number: not-a-number, an infinity, or
`m * 2 ^ e` for integers `m` and `e`.  Comparison, integrality and truncation
are computed on that exact number, so integers and doubles of any size compare
without rounding.
-/

namespace CommonExpr

/-- An exact extended number: `finite m e` is `m * 2 ^ e`. -/
inductive Exact where
  | nan
  | infinite (negative : Bool)
  | finite (m : Int) (e : Int)
  deriving DecidableEq, Repr

/-- The integer `i` as an exact number. -/
def Exact.ofInt (i : Int) : Exact := .finite i 0

/-- The order of `m₁ * 2 ^ e₁` and `m₂ * 2 ^ e₂`, brought to the smaller exponent. -/
def compareScaled (m₁ e₁ m₂ e₂ : Int) : Ordering :=
  let low := min e₁ e₂
  compare (m₁ * twoTo (e₁ - low).toNat) (m₂ * twoTo (e₂ - low).toNat)

/-- The order of two numbers, `none` when one of them is not a number. -/
def Exact.compare? : Exact → Exact → Option Ordering
  | .nan, _ => none
  | _, .nan => none
  | .infinite a, .infinite b => some (compare b a)
  | .infinite negative, .finite _ _ => some (if negative then .lt else .gt)
  | .finite _ _, .infinite negative => some (if negative then .gt else .lt)
  | .finite m₁ e₁, .finite m₂ e₂ => some (compareScaled m₁ e₁ m₂ e₂)

/-- The integer part, rounding toward zero, of a finite number. -/
def Exact.trunc? : Exact → Option Int
  | .finite m e => some (if 0 ≤ e then m * twoTo e.toNat else m.tdiv (twoTo (-e).toNat))
  | _ => none

/-- The integer this number equals, if it is one. -/
def Exact.integer? : Exact → Option Int
  | .finite m e =>
      if 0 ≤ e then some (m * twoTo e.toNat)
      else if m % twoTo (-e).toNat = 0 then some (m / twoTo (-e).toNat)
      else none
  | _ => none

/-- A binary64 number, held as its bits. -/
structure Double where
  bits : UInt64
  deriving DecidableEq, Repr

/-- A binary32 number, held as its bits. -/
structure Single where
  bits : UInt32
  deriving DecidableEq, Repr

namespace Double

def negative (d : Double) : Bool := d.bits.toNat / twoTo 63 = 1

/-- The eleven exponent bits. -/
def biased (d : Double) : Nat := d.bits.toNat / twoTo 52 % twoTo 11

/-- The 52 stored significand bits. -/
def fraction (d : Double) : Nat := d.bits.toNat % twoTo 52

def isNaN (d : Double) : Bool := d.biased = 2047 && d.fraction != 0

def isInfinite (d : Double) : Bool := d.biased = 2047 && d.fraction == 0

def isFinite (d : Double) : Bool := d.biased != 2047

/-- Significand and exponent of the magnitude of a finite number. -/
def magnitude (d : Double) : Nat × Int :=
  if d.biased = 0 then (d.fraction, -1074)
  else (d.fraction + twoTo 52, (d.biased : Int) - 1075)

/-- The number that the bits stand for. -/
def exact (d : Double) : Exact :=
  if d.isNaN then .nan
  else if d.isInfinite then .infinite d.negative
  else
    let (m, e) := d.magnitude
    .finite (if d.negative then -(m : Int) else m) e

/-- Bits from a sign and the 63 bits below it. -/
def ofSign (negative : Bool) (low : Nat) : Double :=
  ⟨UInt64.ofNat ((if negative then twoTo 63 else 0) + low)⟩

def infinity (negative : Bool) : Double := ofSign negative (2047 * twoTo 52)

def zero : Double := ⟨0⟩

/-- The quiet not-a-number with no payload. -/
def nan : Double := ⟨0x7ff8000000000000⟩

/-- The number `± m * 2 ^ e` of the binary64 grid. -/
def ofMagnitude (negative : Bool) (m : Nat) (e : Int) : Double :=
  if m < twoTo 52 then ofSign negative m
  else ofSign negative ((e + 1075).toNat * twoTo 52 + (m - twoTo 52))

/-- The double nearest to `± n / d`. -/
def ofFraction (negative : Bool) (n d : Nat) : Double :=
  match binary64.round n d with
  | none => infinity negative
  | some (m, e) => ofMagnitude negative m e

/-- The double nearest to an integer. -/
def ofInt (i : Int) : Double :=
  ofFraction (decide (i < 0)) i.natAbs 1

/-- Whether the number equals zero, whatever its sign. -/
def isZero (d : Double) : Bool := d.bits.toNat % twoTo 63 = 0

def compare? (a b : Double) : Option Ordering := a.exact.compare? b.exact

/-- Numeric equality: both zeros are equal, and not-a-number equals nothing. -/
def equals (a b : Double) : Bool := a.compare? b = some .eq

/-- The integer a finite integral number equals. -/
def integer? (d : Double) : Option Int := d.exact.integer?

/-- The integer part of a finite number. -/
def trunc? (d : Double) : Option Int := d.exact.trunc?

def ofFloat (x : Float) : Double := ⟨x.toBits⟩

def toFloat (d : Double) : Float := Float.ofBits d.bits

def add (a b : Double) : Double := ofFloat (a.toFloat + b.toFloat)

def sub (a b : Double) : Double := ofFloat (a.toFloat - b.toFloat)

def mul (a b : Double) : Double := ofFloat (a.toFloat * b.toFloat)

def div (a b : Double) : Double := ofFloat (a.toFloat / b.toFloat)

/-- The same bits with the sign flipped. -/
def neg (d : Double) : Double := ofSign (!d.negative) (d.bits.toNat % twoTo 63)

end Double

namespace Single

def negative (s : Single) : Bool := s.bits.toNat / twoTo 31 = 1

def biased (s : Single) : Nat := s.bits.toNat / twoTo 23 % twoTo 8

def fraction (s : Single) : Nat := s.bits.toNat % twoTo 23

def ofSign (negative : Bool) (low : Nat) : Single :=
  ⟨UInt32.ofNat ((if negative then twoTo 31 else 0) + low)⟩

def zero : Single := ⟨0⟩

/-- Whether the number equals zero, whatever its sign. -/
def isZero (s : Single) : Bool := s.bits.toNat % twoTo 31 = 0

/-- The double with the same value.  A payload keeps its leading bits. -/
def toDouble (s : Single) : Double :=
  if s.biased = 255 then
    if s.fraction = 0 then Double.infinity s.negative
    else
      let low := 2047 * twoTo 52 + s.fraction * twoTo 29
      Double.ofSign s.negative (if s.fraction < twoTo 22 then low + twoTo 51 else low)
  else
    let (m, e) : Nat × Int :=
      if s.biased = 0 then (s.fraction, -149)
      else (s.fraction + twoTo 23, (s.biased : Int) - 150)
    let (n, d) := if 0 ≤ e then (m * twoTo e.toNat, 1) else (m, twoTo (-e).toNat)
    Double.ofFraction s.negative n d

end Single

/-- The binary32 number nearest to a double; not-a-number stays quiet. -/
def Double.toSingle (d : Double) : Single :=
  if d.isNaN then
    let low := 255 * twoTo 23 + d.fraction / twoTo 29
    Single.ofSign d.negative (if d.fraction < twoTo 51 then low + twoTo 22 else low)
  else if d.isInfinite then Single.ofSign d.negative (255 * twoTo 23)
  else
    let (m, e) := d.magnitude
    let (n, q) := if 0 ≤ e then (m * twoTo e.toNat, 1) else (m, twoTo (-e).toNat)
    match binary32.round n q with
    | none => Single.ofSign d.negative (255 * twoTo 23)
    | some (m, e) =>
        if m < twoTo 23 then Single.ofSign d.negative m
        else Single.ofSign d.negative ((e + 150).toNat * twoTo 23 + (m - twoTo 23))

example : (Double.ofInt (-5)).bits = 0xc014000000000000 := by decide +kernel
example : (⟨0x3ff8000000000000⟩ : Double).trunc? = some 1 := by decide +kernel
example : (⟨0x3ff8000000000000⟩ : Double).integer? = none := by decide +kernel
example : (Double.ofInt 9007199254740993).integer? = some 9007199254740992 := by decide +kernel
example : Double.nan.equals Double.nan = false := by decide +kernel
example : (Double.ofFraction false 1 10).toSingle.bits = 0x3dcccccd := by decide +kernel

end CommonExpr
