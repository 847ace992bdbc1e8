/-!
Powers of the bases that numbers are stored and written in.

They are named, so that a proof can treat a power as one positive number and
need not look at how it is computed.
-/

namespace CommonExpr

/-- Two to the power `n`. -/
def twoTo (n : Nat) : Nat := Nat.pow 2 n

/-- Ten to the power `n`. -/
def tenTo (n : Nat) : Nat := Nat.pow 10 n

theorem twoTo_pos (n : Nat) : 0 < twoTo n := Nat.pow_pos (by decide)

theorem twoTo_succ (n : Nat) : twoTo (n + 1) = 2 * twoTo n := Nat.pow_succ'

theorem twoTo_add (m n : Nat) : twoTo (m + n) = twoTo m * twoTo n := Nat.pow_add 2 m n

example : twoTo 10 = 1024 := by decide
example : tenTo 3 = 1000 := by decide

end CommonExpr
