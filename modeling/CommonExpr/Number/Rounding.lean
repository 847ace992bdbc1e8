import CommonExpr.Number.Power

/-!
Rounding of exact fractions to a binary floating-point grid.

A finite value of a format is `m * 2 ^ e` with `m` below `2 ^ precision` and
`e` at least `minExponent`.  `Format.round` takes a fraction to the nearest
such value, an exact half going to the even neighbour.
-/

namespace CommonExpr

/-- The nearest integer to `n / d`, a tie going to the even one. -/
def roundHalfEven (n d : Nat) : Nat :=
  let q := n / d
  let r := n % d
  if 2 * r < d then q
  else if d < 2 * r then q + 1
  else if q % 2 = 0 then q else q + 1

/-- The grid of a binary format. -/
structure BinaryFormat where
  /-- Bits of the significand, the leading one included. -/
  precision : Nat
  /-- Exponent of the smallest positive value. -/
  minExponent : Int
  /-- Exponent of the last bit of the largest finite value. -/
  maxExponent : Int

def binary64 : BinaryFormat := ⟨53, -1074, 971⟩

def binary32 : BinaryFormat := ⟨24, -149, 104⟩

/-- The fraction `n / d` divided by `2 ^ e`, as numerator and denominator. -/
def scaleFraction (n d : Nat) (e : Int) : Nat × Nat :=
  if 0 ≤ e then (n, d * twoTo e.toNat) else (n * twoTo (-e).toNat, d)

/-- Significand and exponent of the value nearest to `n / d`, `none` when the
fraction lies beyond the largest finite value. -/
def BinaryFormat.round (f : BinaryFormat) (n d : Nat) : Option (Nat × Int) :=
  if n = 0 then some (0, f.minExponent)
  else
    let guess := max ((n.log2 : Int) - d.log2 - f.precision) f.minExponent
    let (gn, gd) := scaleFraction n d guess
    let e := if gn / gd < twoTo f.precision then guess else guess + 1
    let (sn, sd) := scaleFraction n d e
    let m := roundHalfEven sn sd
    let (m, e) := if m = twoTo f.precision then (twoTo (f.precision - 1), e + 1) else (m, e)
    if f.maxExponent < e then none else some (m, e)

example : roundHalfEven 5 2 = 2 := by decide
example : roundHalfEven 7 2 = 4 := by decide
example : binary64.round 1 3 = some (6004799503160661, -54) := by decide +kernel
example : binary32.round 16777217 1 = some (8388608, 1) := by decide +kernel

end CommonExpr
