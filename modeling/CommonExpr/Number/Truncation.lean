import CommonExpr.Number.Comparison
import CommonExpr.Number.Word

/-!
Doubles as machine words.

Whether a double is in the range of a word is asked of the double itself, by its
order to the first doubles that are not; the word is that of its integer part.
-/

namespace CommonExpr.Double

/-- Two to the power 63, the first double above the ints. -/
def intBound : Double := ⟨0x43e0000000000000⟩

def minusOne : Double := ⟨0xbff0000000000000⟩

def lt (a b : Double) : Bool := (a.compare? b).any (·.isLT)

/-- Whether truncation cuts nothing off. -/
def isWhole (d : Double) : Bool :=
  d.exact.cut?.any fun cut => (cut.compare? zero.exact).any (·.isEq)

/-- The integer part, or the nearer end of the range; zero for not-a-number. -/
def saturate (low high : Int) (d : Double) : Int :=
  match d.trunc? with
  | some whole => max low (min high whole)
  | none => if d.isNaN then 0 else if d.negative then low else high

def saturateInt64 (d : Double) : Int64 :=
  Int64.ofInt (d.saturate (-9223372036854775808) 9223372036854775807)

def saturateUInt64 (d : Double) : UInt64 :=
  UInt64.ofNat (d.saturate 0 18446744073709551615).toNat

/-- The int that a whole double is. -/
def wholeInt64? (d : Double) : Option Int64 :=
  if d.isWhole && intBound.neg.le d && d.lt intBound then some d.saturateInt64 else none

/-- The uint that a whole double is. -/
def wholeUInt64? (d : Double) : Option UInt64 :=
  if d.isWhole && zero.le d && d.lt wordBound then some d.saturateUInt64 else none

/-- The integer part, where it is an int. -/
def truncInt64? (d : Double) : Option Int64 :=
  if d.isFinite && intBound.neg.le d && d.lt intBound then some d.saturateInt64 else none

/-- The integer part, where it is a uint. -/
def truncUInt64? (d : Double) : Option UInt64 :=
  if d.isFinite && minusOne.lt d && d.lt wordBound then some d.saturateUInt64 else none

example : intBound.neg.wholeInt64? = some (-9223372036854775808) := by decide +kernel
example : intBound.truncInt64? = none := by decide +kernel
example : (⟨0xbfe0000000000000⟩ : Double).truncUInt64? = some 0 := by decide +kernel

end CommonExpr.Double
