import CommonExpr.Number.Double

/-!
Numbers of different types compared with each other.

Integers of both types are one kind of number.  An integer is compared with a double
without being rounded to one: the bound of all integers goes first, then the integer
part of the double, then what truncation cuts off.
-/

namespace CommonExpr

/-- What truncation cuts off a finite number. -/
def Exact.cut? : Exact → Option Exact
  | .finite m e => some (if 0 ≤ e then .ofInt 0 else .finite (m.tmod (twoTo (-e).toNat)) e)
  | _ => none

namespace Double

/-- Two to the power 64, which every integer is below. -/
def wordBound : Double := ⟨0x43f0000000000000⟩

def le (a b : Double) : Bool := (a.compare? b).any (·.isLE)

/-- The order of an integer that is below the bound in magnitude and a double. -/
def compareInteger? (i : Int) (d : Double) : Option Ordering :=
  if d.isNaN then none
  else if wordBound.le d then some .lt
  else if d.le wordBound.neg then some .gt
  else
    match d.trunc?, d.exact.cut? with
    | some whole, some cut =>
        match compare i whole with
        | .eq => zero.exact.compare? cut
        | o => some o
    | _, _ => none

end Double

/-- A number, whatever its type. -/
inductive Number where
  | integer (i : Int)
  | double (d : Double)

/-- The order of two numbers, `none` when one of them is not a number. -/
def Number.compare? : Number → Number → Option Ordering
  | .integer a, .integer b => some (compare a b)
  | .double a, .double b => a.compare? b
  | .integer a, .double b => b.compareInteger? a
  | .double a, .integer b => (a.compareInteger? b).map Ordering.swap

example : (⟨0xc004000000000000⟩ : Double).compareInteger? (-2) = some .gt := by decide +kernel
example : (Double.ofInt 9007199254740992).compareInteger? 9007199254740993 = some .gt := by
  decide +kernel

end CommonExpr
