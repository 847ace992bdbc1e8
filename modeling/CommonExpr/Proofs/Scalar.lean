import CommonExpr.Proofs.Number.Comparison
import CommonExpr.Value.Equality

/-!
What scalars stand for.

Numbers of all three types stand for extended rational numbers, other scalars for
themselves.  Main statement: scalars are equal if they stand for the same, and only
not-a-number stands for nothing.
-/

namespace CommonExpr.Scalar

/-- What scalars can stand for. -/
inductive Meaning where
  | bool (b : Bool)
  | number (q : ExtendedRat)
  | string (s : String)
  | bytes (b : List UInt8)

/-- What a scalar stands for, `none` for not-a-number. -/
def meaning? : Scalar → Option Meaning
  | .bool b => some (.bool b)
  | .int i => (Exact.ofInt i.toInt).value?.map .number
  | .uint u => (Exact.ofInt u.toNat).value?.map .number
  | .double d => d.exact.value?.map .number
  | .string s => some (.string s)
  | .bytes b => some (.bytes b)

def isNaN : Scalar → Bool
  | .double d => d.isNaN
  | _ => false

theorem meaning?_of_number? {s : Scalar} {x : Number} (hnumber : s.number? = some x) :
    s.meaning? = x.exact.value?.map .number := by
  cases s <;> cases hnumber <;> rfl

theorem isWord_of_number? {s : Scalar} {x : Number} (hnumber : s.number? = some x) : x.IsWord := by
  cases s with
  | int i =>
      cases hnumber
      have hlower := i.le_toInt
      have hupper := i.toInt_lt
      exact ⟨by omega, by omega⟩
  | uint u =>
      cases hnumber
      have hupper := u.toNat_lt
      exact ⟨by omega, by omega⟩
  | double d =>
      cases hnumber
      trivial
  | _ => cases hnumber

/-- Numeric scalars are compared as the exact numbers that they are. -/
theorem compare?_numbers {s s' : Scalar} {x y : Number} (hx : s.number? = some x)
    (hy : s'.number? = some y) : x.compare? y = x.exact.compare? y.exact :=
  Number.compare?_eq (isWord_of_number? hx) (isWord_of_number? hy)

theorem numbers_equal_iff {s s' : Scalar} {x y : Number} (hx : s.number? = some x)
    (hy : s'.number? = some y) :
    x.compare? y = some .eq ↔ ∃ m, s.meaning? = some m ∧ s'.meaning? = some m := by
  rw [compare?_numbers hx hy, Exact.compare?_eq_eq_iff, meaning?_of_number? hx,
    meaning?_of_number? hy]
  constructor
  · rintro ⟨a, ha, hb⟩
    exact ⟨.number a, by rw [ha]; rfl, by rw [hb]; rfl⟩
  · rintro ⟨m, hm, hm'⟩
    obtain ⟨a, ha, rfl⟩ := Option.map_eq_some_iff.mp hm
    obtain ⟨b, hb, hab⟩ := Option.map_eq_some_iff.mp hm'
    cases hab
    exact ⟨a, ha, hb⟩

/-- What is no number is told by what it stands for. -/
theorem eq_of_number?_none {s s' : Scalar} {m : Meaning} (hnone : s.number? = none)
    (hm : s.meaning? = some m) (hm' : s'.meaning? = some m) : s = s' := by
  cases s with
  | int i => cases hnone
  | uint u => cases hnone
  | double d => cases hnone
  | bool b => cases hm; cases s' <;> simp_all [meaning?]
  | string s => cases hm; cases s' <;> simp_all [meaning?]
  | bytes b => cases hm; cases s' <;> simp_all [meaning?]

/-- Scalars are equal if they stand for the same. -/
theorem equals_iff {s s' : Scalar} :
    s.equals s' = true ↔ ∃ m, s.meaning? = some m ∧ s'.meaning? = some m := by
  unfold Scalar.equals
  split
  · next a b => simpa [meaning?] using eq_comm (a := a)
  · next a b => simpa [meaning?] using eq_comm (a := a)
  · next a b => simpa [meaning?] using eq_comm (a := a)
  · next hbool hstring hbytes =>
      split
      · next x y hx hy => rw [decide_eq_true_iff, numbers_equal_iff hx hy]
      · next hnumbers =>
          refine ⟨fun hfalse => (nomatch hfalse), fun ⟨m, hm, hm'⟩ => ?_⟩
          have hsame : s = s' := by
            cases hs : s.number? with
            | none => exact eq_of_number?_none hs hm hm'
            | some x =>
                cases hs' : s'.number? with
                | none => exact (eq_of_number?_none hs' hm' hm).symm
                | some y => exact (hnumbers x y hs hs').elim
          subst hsame
          cases s with
          | bool b => exact (hbool b b rfl rfl).elim
          | string s => exact (hstring s s rfl rfl).elim
          | bytes b => exact (hbytes b b rfl rfl).elim
          | int i => exact (hnumbers _ _ rfl rfl).elim
          | uint u => exact (hnumbers _ _ rfl rfl).elim
          | double d => exact (hnumbers _ _ rfl rfl).elim

/-- Only not-a-number stands for nothing. -/
theorem exists_meaning {s : Scalar} (hnan : s.isNaN = false) : ∃ m, s.meaning? = some m := by
  cases s with
  | double d =>
      have hvalue : ∃ q, d.exact.value? = some q := by
        unfold Double.exact
        rw [if_neg (by simpa [isNaN] using hnan)]
        split
        · cases d.negative <;> exact ⟨_, rfl⟩
        · exact ⟨_, rfl⟩
      obtain ⟨q, hq⟩ := hvalue
      exact ⟨.number q, by rw [meaning?, hq]; rfl⟩
  | _ => exact ⟨_, rfl⟩

end CommonExpr.Scalar
