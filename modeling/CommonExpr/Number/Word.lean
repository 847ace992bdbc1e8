/-!
Machine words with a range check.  Arithmetic is done on unbounded integers
and comes back to a word only when the exact result fits, so no operation of
the library wraps by accident.
-/

namespace CommonExpr

/-- The signed 64-bit word with value `i`, when there is one. -/
def int64? (i : Int) : Option Int64 :=
  if -9223372036854775808 ≤ i ∧ i < 9223372036854775808 then some (Int64.ofInt i) else none

/-- The unsigned 64-bit word with value `i`, when there is one. -/
def uint64? (i : Int) : Option UInt64 :=
  if 0 ≤ i ∧ i < 18446744073709551616 then some (UInt64.ofNat i.toNat) else none

/-- The signed 32-bit word with value `i`, when there is one. -/
def int32? (i : Int) : Option Int32 :=
  if -2147483648 ≤ i ∧ i < 2147483648 then some (Int32.ofInt i) else none

/-- The unsigned 32-bit word with value `i`, when there is one. -/
def uint32? (i : Int) : Option UInt32 :=
  if 0 ≤ i ∧ i < 4294967296 then some (UInt32.ofNat i.toNat) else none

/-- The signed value of the low 64 bits of `i`. -/
def wrapInt64 (i : Int) : Int :=
  (Int64.ofInt i).toInt

theorem toInt_of_int64? {i : Int} {x : Int64} (h : int64? i = some x) : x.toInt = i := by
  unfold int64? at h
  split at h
  · obtain rfl := Option.some.inj h
    exact Int64.toInt_ofInt_of_le (by omega) (by omega)
  · cases h

theorem toNat_of_uint64? {i : Int} {x : UInt64} (h : uint64? i = some x) :
    (x.toNat : Int) = i := by
  unfold uint64? at h
  split at h
  · next hi =>
      obtain rfl := Option.some.inj h
      rw [UInt64.toNat_ofNat_of_lt' (by rw [UInt64.size]; omega)]
      omega
  · cases h

example : int64? 9223372036854775808 = none := by decide
example : uint64? (-1) = none := by decide

end CommonExpr
