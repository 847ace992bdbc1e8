import CommonExpr.Convert.Protobuf
import CommonExpr.Proofs.Number.Truncation
import CommonExpr.Proofs.Outcome
import CommonExpr.Proofs.Value.Key

/-!
Values as scalars of a wanted type.

A number is taken for a word if it is the integer that the word is, whatever its own type is.
Main statements: a value other than null is converted to a word exactly if it is the integer
that the word is, and to what is no number exactly if it is this, bare or wrapped.
-/

namespace CommonExpr

open Outcome

namespace Value

/-- The integer that a value is, as a number of any type, bare or wrapped. -/
def integer? (v : Value) : Option Int := v.scalar?.bind Scalar.integer?

theorem exists_meaning_of_integer? {v : Value} {i : Int} (hi : v.integer? = some i) :
    ∃ s, v.scalar? = some s ∧ s.meaning? = some (Key.number i).meaning := by
  obtain ⟨s, hs, hsi⟩ := Option.bind_eq_some_iff.mp hi
  exact ⟨s, hs, Scalar.integer?_eq_some_iff.mp hsi⟩

variable {id : Int} {v : Value}

theorem present?_of_scalar? {s : Scalar} (hs : v.scalar? = some s) :
    present? (some v) = some (.scalar s) := by
  cases v <;> cases hs <;> rfl

/-- What is neither a scalar nor null converts to nothing. -/
theorem coercions_fail (hnull : v.isNull = false) (hs : v.scalar? = none) :
    toBool id (some v) = fail id (.typeMismatch "bool" v.ty) ∧
      toInt64 id (some v) = fail id (.typeMismatch "integer" v.ty) ∧
      toUInt64 id (some v) = fail id (.typeMismatch "integer" v.ty) ∧
      toText id (some v) = fail id (.typeMismatch "string" v.ty) ∧
      toBytes id (some v) = fail id (.typeMismatch "bytes" v.ty) := by
  cases v with
  | scalar s => cases hs
  | wrapped s => cases hs
  | null => cases hnull
  | typedNull type zero => cases hnull
  | _ => exact ⟨rfl, rfl, rfl, rfl, rfl⟩

theorem toInt64_eq_ok_iff (hnull : v.isNull = false) {x : Int64} :
    toInt64 id (some v) = .ok x ↔ v.integer? = some x.toInt := by
  rw [integer?]
  cases hs : v.scalar? with
  | none =>
      rw [(coercions_fail hnull hs).2.1]
      simp [fail]
  | some s =>
      rw [toInt64, present?_of_scalar? hs]
      cases s with
      | int i => simp [Scalar.integer?, Int64.toInt_inj]
      | uint u => simp [Scalar.integer?, orFail_eq_ok_iff, int64?_eq_some_iff]
      | double d => simp [Scalar.integer?, orFail_eq_ok_iff, Double.wholeInt64?_eq_some_iff]
      | _ => simp [fail, Scalar.integer?]

theorem toUInt64_eq_ok_iff (hnull : v.isNull = false) {x : UInt64} :
    toUInt64 id (some v) = .ok x ↔ v.integer? = some (x.toNat : Int) := by
  rw [integer?]
  cases hs : v.scalar? with
  | none =>
      rw [(coercions_fail hnull hs).2.2.1]
      simp [fail]
  | some s =>
      rw [toUInt64, present?_of_scalar? hs]
      cases s with
      | int i => simp [Scalar.integer?, orFail_eq_ok_iff, uint64?_eq_some_iff]
      | uint u => simp [Scalar.integer?, UInt64.toNat_inj]
      | double d => simp [Scalar.integer?, orFail_eq_ok_iff, Double.wholeUInt64?_eq_some_iff]
      | _ => simp [fail, Scalar.integer?]

theorem toBool_eq_ok_iff (hnull : v.isNull = false) {b : Bool} :
    toBool id (some v) = .ok b ↔ v.scalar? = some (.bool b) := by
  cases hs : v.scalar? with
  | none =>
      rw [(coercions_fail hnull hs).1]
      simp [fail]
  | some s =>
      rw [toBool, present?_of_scalar? hs]
      cases s with
      | bool c => simp
      | _ => simp [fail]

theorem toText_eq_ok_iff (hnull : v.isNull = false) {text : String} :
    toText id (some v) = .ok text ↔ v.scalar? = some (.string text) := by
  cases hs : v.scalar? with
  | none =>
      rw [(coercions_fail hnull hs).2.2.2.1]
      simp [fail]
  | some s =>
      rw [toText, present?_of_scalar? hs]
      cases s with
      | string c => simp
      | _ => simp [fail]

theorem toBytes_eq_ok_iff (hnull : v.isNull = false) {bytes : List UInt8} :
    toBytes id (some v) = .ok bytes ↔ v.scalar? = some (.bytes bytes) := by
  cases hs : v.scalar? with
  | none =>
      rw [(coercions_fail hnull hs).2.2.2.2]
      simp [fail]
  | some s =>
      rw [toBytes, present?_of_scalar? hs]
      cases s with
      | bytes c => simp
      | _ => simp [fail]

/-! Words of 32 bits -/

open Protobuf (narrowInt narrowUInt)

theorem toInt32_eq_ok_iff (hnull : v.isNull = false) {x : Int32} :
    (toInt64 id (some v) >>= narrowInt id) = .ok x ↔ v.integer? = some x.toInt := by
  have hlower := x.le_toInt
  have hupper := x.toInt_lt
  have hwide : (Int64.ofInt x.toInt).toInt = x.toInt :=
    Int64.toInt_ofInt_of_le (by omega) (by omega)
  simp only [bind_eq_ok_iff, toInt64_eq_ok_iff hnull, narrowInt, orFail_eq_ok_iff,
    int32?_eq_some_iff]
  constructor
  · rintro ⟨wide, hv, heq⟩
    rw [hv, heq]
  · intro hv
    exact ⟨Int64.ofInt x.toInt, by rw [hwide, hv], hwide⟩

theorem toUInt32_eq_ok_iff (hnull : v.isNull = false) {x : UInt32} :
    (toUInt64 id (some v) >>= narrowUInt id) = .ok x ↔ v.integer? = some (x.toNat : Int) := by
  have hupper := x.toNat_lt
  have hwide : (UInt64.ofNat x.toNat).toNat = x.toNat :=
    UInt64.toNat_ofNat_of_lt' (by rw [UInt64.size]; omega)
  simp only [bind_eq_ok_iff, toUInt64_eq_ok_iff hnull, narrowUInt, orFail_eq_ok_iff,
    uint32?_eq_some_iff]
  constructor
  · rintro ⟨wide, hv, heq⟩
    rw [hv, heq]
  · intro hv
    exact ⟨UInt64.ofNat x.toNat, by rw [hwide, hv], by rw [hwide]⟩

end Value

end CommonExpr
