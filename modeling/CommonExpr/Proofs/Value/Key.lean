import CommonExpr.Proofs.Number.Double
import CommonExpr.Proofs.Value.Equivalence
import CommonExpr.Value.Access
import CommonExpr.Value.Key

/-!
Canonical keys and equality.

A key stands for what the values with this key stand for.  Main statement: values with
keys are equal if their keys are, no value without a key equals one with a key, and
equal scalars find the same in every list and map.
-/

namespace CommonExpr

namespace Key

/-- What the values with a key stand for. -/
def meaning : Key → Scalar.Meaning
  | .bool b => .bool b
  | .number i => .number ((i : ℚ) : WithTop ℚ)
  | .string s => .string s
  | .bytes b => .bytes b

theorem meaning_inj {k k' : Key} : k.meaning = k'.meaning ↔ k = k' := by
  cases k <;> cases k' <;> simp [meaning]

/-- Whether a key is below the bound of numbers that can be keys. -/
def Bounded : Key → Prop
  | .number i => -keyBound < i ∧ i < keyBound
  | _ => True

end Key

namespace Scalar

theorem meaning?_ofInt (i : Int) :
    (Exact.ofInt i).value?.map Meaning.number = some (Key.number i).meaning := by
  simp [Exact.ofInt, Exact.value?, Key.meaning]

/-- The integer that a number of any type is. -/
def integer? : Scalar → Option Int
  | .int i => some i.toInt
  | .uint u => some u.toNat
  | .double d => d.integer?
  | _ => none

theorem integer?_eq_some_iff {s : Scalar} {i : Int} :
    s.integer? = some i ↔ s.meaning? = some (Key.number i).meaning := by
  cases s with
  | int j => rw [meaning?, meaning?_ofInt, integer?]; simp [Key.meaning_inj]
  | uint u => rw [meaning?, meaning?_ofInt, integer?]; simp [Key.meaning_inj]
  | double d =>
      rw [integer?, Double.integer?, Exact.integer?_eq_some_iff, meaning?, Option.map_eq_some_iff]
      simp [Key.meaning]
  | _ => simp [integer?, meaning?, Key.meaning]

theorem double_key?_eq_some_iff {d : Double} {k : Key} :
    (Scalar.double d).key? = some k ↔ ∃ i, d.integer? = some i ∧ k = .number i ∧ k.Bounded := by
  unfold key?
  dsimp only
  split
  · next i hi =>
      split
      · next hbounded =>
          constructor
          · rintro ⟨⟩
            exact ⟨i, hi, rfl, hbounded⟩
          · rintro ⟨j, hj, rfl, -⟩
            rw [Option.some.inj (hi.symm.trans hj)]
      · next hlarge =>
          refine ⟨nofun, ?_⟩
          rintro ⟨j, hj, rfl, hbounded⟩
          exact absurd (Option.some.inj (hi.symm.trans hj) ▸ hbounded) hlarge
  · next hnone =>
      refine ⟨nofun, ?_⟩
      rintro ⟨j, hj, -⟩
      cases hnone.symm.trans hj

/-- The key of a scalar is the one that stands for the same. -/
theorem key?_eq_some_iff {s : Scalar} {k : Key} :
    s.key? = some k ↔ s.meaning? = some k.meaning ∧ k.Bounded := by
  have hword (i : Int) (hbounded : (Key.number i).Bounded) :
      some (Key.number i) = some k ↔ some (Key.number i).meaning = some k.meaning ∧ k.Bounded := by
    rw [Option.some_inj, Option.some_inj, Key.meaning_inj]
    exact ⟨fun hk => ⟨hk, hk ▸ hbounded⟩, And.left⟩
  cases s with
  | bool b => cases k <;> simp [key?, meaning?, Key.meaning, Key.Bounded]
  | string s => cases k <;> simp [key?, meaning?, Key.meaning, Key.Bounded]
  | bytes b => cases k <;> simp [key?, meaning?, Key.meaning, Key.Bounded]
  | int i =>
      have hlower := i.le_toInt
      have hupper := i.toInt_lt
      rw [meaning?, meaning?_ofInt]
      exact hword i.toInt ⟨by unfold keyBound; omega, by unfold keyBound; omega⟩
  | uint u =>
      have hupper := u.toNat_lt
      rw [meaning?, meaning?_ofInt]
      exact hword u.toNat ⟨by unfold keyBound; omega, by unfold keyBound; omega⟩
  | double d =>
      rw [double_key?_eq_some_iff]
      constructor
      · rintro ⟨i, hi, rfl, hbounded⟩
        exact ⟨integer?_eq_some_iff.mp hi, hbounded⟩
      · rintro ⟨hmeaning, hbounded⟩
        cases k with
        | number i => exact ⟨i, integer?_eq_some_iff.mpr hmeaning, rfl, hbounded⟩
        | _ =>
            obtain ⟨q, -, hq⟩ := Option.map_eq_some_iff.mp hmeaning
            cases hq

/-- Doubles that stand for one number are the same, unless that number is an integer. -/
theorem double_eq_or_integer? {d d' : Double} {m : Meaning}
    (hd : (Scalar.double d).meaning? = some m) (hd' : (Scalar.double d').meaning? = some m) :
    d = d' ∨ ∃ i, m = (Key.number i).meaning := by
  obtain ⟨x, hx, rfl⟩ := Option.map_eq_some_iff.mp hd
  obtain ⟨y, hy, ⟨⟩⟩ := Option.map_eq_some_iff.mp hd'
  by_cases hzero : x = (((0 : ℚ) : WithTop ℚ) : ExtendedRat)
  · exact Or.inr ⟨0, by rw [hzero, Key.meaning, Int.cast_zero]⟩
  · exact Or.inl (Double.eq_of_value? hx hy hzero)

theorem double_or_integer_of_number? {s : Scalar} {x : Number} {m : Meaning}
    (hnumber : s.number? = some x) (hm : s.meaning? = some m) :
    (∃ d, s = .double d) ∨ ∃ i, m = (Key.number i).meaning := by
  cases s with
  | int i => exact Or.inr ⟨i.toInt, Option.some.inj (hm.symm.trans (meaning?_ofInt _))⟩
  | uint u => exact Or.inr ⟨u.toNat, Option.some.inj (hm.symm.trans (meaning?_ofInt _))⟩
  | double d => exact Or.inl ⟨d, rfl⟩
  | _ => cases hnumber

/-- Equal scalars are one and the same, or the same integer. -/
theorem eq_or_integer?_of_equals {s s' : Scalar} (hequals : s.equals s' = true) :
    s = s' ∨ ∃ i, s.integer? = some i ∧ s'.integer? = some i := by
  obtain ⟨m, hm, hm'⟩ := equals_iff.mp hequals
  have hsame : s = s' ∨ ∃ i, m = (Key.number i).meaning := by
    cases hs : s.number? with
    | none => exact Or.inl (eq_of_number?_none hs hm hm')
    | some x =>
        cases hs' : s'.number? with
        | none => exact Or.inl (eq_of_number?_none hs' hm' hm).symm
        | some y =>
            rcases double_or_integer_of_number? hs hm with ⟨d, rfl⟩ | hinteger
            · rcases double_or_integer_of_number? hs' hm' with ⟨d', rfl⟩ | hinteger
              · exact (double_eq_or_integer? hm hm').imp_left (congrArg Scalar.double)
              · exact Or.inr hinteger
            · exact Or.inr hinteger
  refine hsame.imp_right ?_
  rintro ⟨i, rfl⟩
  exact ⟨i, integer?_eq_some_iff.mpr hm, integer?_eq_some_iff.mpr hm'⟩

end Scalar

namespace Value

theorem key?_of_scalar? {v : Value} {s : Scalar} (hs : v.scalar? = some s) : v.key? = s.key? := by
  cases v <;> cases hs <;> rfl

theorem exists_scalar_of_key? {v : Value} {k : Key} (hk : v.key? = some k) :
    ∃ s, v.scalar? = some s ∧ s.key? = some k := by
  cases v with
  | scalar s => exact ⟨s, rfl, hk⟩
  | wrapped s => exact ⟨s, rfl, hk⟩
  | _ => cases hk

/-- The key of a value is the one that stands for the same. -/
theorem key?_eq_some_iff {v : Value} {k : Key} :
    v.key? = some k ↔ v.meaning? = some (.scalar k.meaning) ∧ k.Bounded := by
  constructor
  · intro hk
    obtain ⟨s, hs, hk⟩ := exists_scalar_of_key? hk
    obtain ⟨hmeaning, hbounded⟩ := Scalar.key?_eq_some_iff.mp hk
    exact ⟨by rw [meaning?_of_scalar? hs, hmeaning]; rfl, hbounded⟩
  · rintro ⟨hmeaning, hbounded⟩
    have hscalar : ∃ s, v.scalar? = some s ∧ s.meaning? = some k.meaning := by
      cases v <;> simp_all [meaning?, scalar?]
    obtain ⟨s, hs, hmeaning⟩ := hscalar
    rw [key?_of_scalar? hs]
    exact Scalar.key?_eq_some_iff.mpr ⟨hmeaning, hbounded⟩

theorem isFlat_of_key? {v : Value} {k : Key} (hk : v.key? = some k) : v.isFlat = true :=
  isFlat_of_meaning? (key?_eq_some_iff.mp hk).1

theorem ne_typedNull_of_key? {v : Value} {k : Key} (hk : v.key? = some k) (type : String)
    (zero : Value) : v ≠ .typedNull type zero := by
  rintro rfl
  cases hk

/-- Values with keys are equal if their keys are. -/
theorem key?_eq_iff_equals {a b : Value} {k k' : Key} (ha : a.key? = some k)
    (hb : b.key? = some k') : k = k' ↔ a.equals b = true := by
  rw [equals_iff_of_isFlat (isFlat_of_key? ha) (ne_typedNull_of_key? hb),
    (key?_eq_some_iff.mp ha).1, (key?_eq_some_iff.mp hb).1]
  simp [← Key.meaning_inj, eq_comm]

/-- Scalars are compared as such, bare or wrapped. -/
theorem equals_of_scalars {a b : Value} {s s' : Scalar} (ha : a.scalar? = some s)
    (hb : b.scalar? = some s') : a.equals b = s.equals s' := by
  rw [equals_eq]
  cases a <;> cases ha <;> cases b <;> cases hb <;> rfl

/-- Only a scalar equals a scalar. -/
theorem exists_scalar_of_equals {a b : Value} {s : Scalar} (ha : a.scalar? = some s)
    (hequals : a.equals b = true ∨ b.equals a = true) : ∃ s', b.scalar? = some s' := by
  rw [equals_eq, equals_eq] at hequals
  cases b with
  | scalar s' => exact ⟨s', rfl⟩
  | wrapped s' => exact ⟨s', rfl⟩
  | _ => cases a <;> cases ha <;> rcases hequals with hequals | hequals <;> cases hequals

/-- What equals a value with a key, has this key. -/
theorem key?_of_equals {a b : Value} {k : Key} (ha : a.key? = some k)
    (hequals : a.equals b = true ∨ b.equals a = true) : b.key? = some k := by
  obtain ⟨s, hs, hk⟩ := exists_scalar_of_key? ha
  obtain ⟨s', hs'⟩ := exists_scalar_of_equals hs hequals
  obtain ⟨hmeaning, hbounded⟩ := Scalar.key?_eq_some_iff.mp hk
  rw [equals_of_scalars hs hs', equals_of_scalars hs' hs, Scalar.equals_iff, Scalar.equals_iff]
    at hequals
  rw [key?_of_scalar? hs', Scalar.key?_eq_some_iff]
  rcases hequals with ⟨m, hm, hm'⟩ | ⟨m, hm', hm⟩
  · exact ⟨hm'.trans (hm.symm.trans hmeaning), hbounded⟩
  · exact ⟨hm'.trans (hm.symm.trans hmeaning), hbounded⟩

/-- A value equals one with a key if it has this key, on whichever side it stands. -/
theorem equals_iff_key? {a b : Value} {k : Key} (hb : b.key? = some k) :
    (a.equals b = true ↔ a.key? = some k) ∧ (b.equals a = true ↔ a.key? = some k) :=
  ⟨⟨fun hequals => key?_of_equals hb (Or.inr hequals),
      fun ha => (key?_eq_iff_equals ha hb).mp rfl⟩,
    ⟨fun hequals => key?_of_equals hb (Or.inl hequals),
      fun ha => (key?_eq_iff_equals hb ha).mp rfl⟩⟩

/-! Access by equal scalars -/

/-- Equal values have the same key, if any. -/
theorem key?_congr {a b : Value} (hequals : a.equals b = true) : a.key? = b.key? :=
  Option.ext fun _ => ⟨fun hk => key?_of_equals hk (Or.inl hequals),
    fun hk => key?_of_equals hk (Or.inr hequals)⟩

end Value

/-- Integers in the signed 128-bit range are what they are. -/
theorem saturate128_of_word {i : Int} (hlower : -18446744073709551616 < i)
    (hupper : i < 18446744073709551616) : saturate128 i = i := by
  unfold saturate128
  omega

/-- An index that is an integer, of whatever type, is the position. -/
theorem Items.index_of_integer? (items : Items) (id : Int) {v : Value} {s : Scalar} {i : Int}
    (hs : v.scalar? = some s) (hi : s.integer? = some i) :
    items.index id v = items.element id (saturate128 i) := by
  have hunwrap : v.unwrap = .scalar s := by cases v <;> cases hs <;> rfl
  unfold Items.index
  rw [hunwrap]
  cases s with
  | int j =>
      cases hi
      have hlower := j.le_toInt
      have hupper := j.toInt_lt
      rw [saturate128_of_word (by omega) (by omega)]
  | uint u =>
      cases hi
      have hupper := u.toNat_lt
      rw [saturate128_of_word (by omega) (by omega)]
  | double d =>
      have hd : d.integer? = some i := hi
      dsimp only
      rw [hd]
  | _ => cases hi

theorem Items.index_congr (items : Items) (id : Int) {a b : Value} {s s' : Scalar}
    (ha : a.scalar? = some s) (hb : b.scalar? = some s') (hequals : a.equals b = true) :
    items.index id a = items.index id b := by
  rw [Value.equals_of_scalars ha hb] at hequals
  rcases Scalar.eq_or_integer?_of_equals hequals with rfl | ⟨i, hi, hi'⟩
  · have hunwrap : a.unwrap = b.unwrap := by
      cases a <;> cases ha <;> cases b <;> cases hb <;> rfl
    rw [Items.index, Items.index, hunwrap]
  · rw [items.index_of_integer? id ha hi, items.index_of_integer? id hb hi']

namespace Value

/-- Equal scalars find the same in every list and map. -/
theorem byIndex?_congr (id : Int) {a b : Value} {s s' : Scalar} (ha : a.scalar? = some s)
    (hb : b.scalar? = some s') (hequals : a.equals b = true) :
    ∀ container : Value, container.byIndex? id a = container.byIndex? id b
  | .list _ items => congrArg some (items.index_congr id ha hb hequals)
  | .map _ entries => by rw [byIndex?, byIndex?, Entries.get, Entries.get, key?_congr hequals]
  | .typedNull _ zero => byIndex?_congr id ha hb hequals zero
  | .null | .scalar _ | .timestamp _ | .duration _ | .wrapped _ | .object _ _ | .type _ => rfl

/-- Canonical keys are equality: values with keys are equal if their keys are, what has no
key equals nothing that has one, and equal scalars are one index. -/
theorem key?_canonical :
    (∀ (a b : Value) (k k' : Key), a.key? = some k → b.key? = some k' →
      (k = k' ↔ a.equals b = true)) ∧
    (∀ (a b : Value) (k : Key), a.key? = none → b.key? = some k →
      a.equals b = false ∧ b.equals a = false) ∧
    ∀ (container : Value) (id : Int) (a b : Value), a.scalar?.isSome = true →
      b.scalar?.isSome = true → a.equals b = true →
      container.byIndex? id a = container.byIndex? id b := by
  refine ⟨fun a b k k' => key?_eq_iff_equals, fun a b k ha hb => ?_,
    fun container id a b ha hb hequals => ?_⟩
  · constructor
    · refine Bool.eq_false_iff.mpr fun hequals => ?_
      cases ha.symm.trans (key?_of_equals hb (Or.inr hequals))
    · refine Bool.eq_false_iff.mpr fun hequals => ?_
      cases ha.symm.trans (key?_of_equals hb (Or.inl hequals))
  · obtain ⟨s, hs⟩ := Option.isSome_iff_exists.mp ha
    obtain ⟨s', hs'⟩ := Option.isSome_iff_exists.mp hb
    exact byIndex?_congr id hs hs' hequals container

end Value

namespace KeyWitness

/-- Minus zero. -/
def negativeZero : Value := .double ⟨0x8000000000000000⟩

def wrappedZero : Value := .wrapped (.int 0)

/-- Two to the power 64, which is no key. -/
def large : Value := .double ⟨0x43f0000000000000⟩

def largest : Value := .uint 18446744073709551615

/-- One and a half, bare. -/
def half : Value := .double ⟨0x3ff8000000000000⟩

def wrappedHalf : Value := .wrapped (.double ⟨0x3ff8000000000000⟩)

theorem zeros_are_one_key :
    negativeZero.equals wrappedZero = true ∧ large.equals largest = false ∧
      largest.equals large = false ∧
      (Value.ofList [.string "first"]).byIndex? 1 negativeZero =
        (Value.ofList [.string "first"]).byIndex? 1 wrappedZero ∧
      (Value.ofList [.string "first"]).byIndex? 1 half =
        (Value.ofList [.string "first"]).byIndex? 1 wrappedHalf := by
  obtain ⟨hequal, hnone, hindex⟩ := Value.key?_canonical
  have hzeros : negativeZero.equals wrappedZero = true :=
    (hequal negativeZero wrappedZero (.number 0) (.number 0) (by decide +kernel) rfl).mp rfl
  have hlarge := hnone large largest (.number 18446744073709551615) (by decide +kernel) rfl
  refine ⟨hzeros, hlarge.1, hlarge.2, hindex _ 1 negativeZero wrappedZero rfl rfl hzeros, ?_⟩
  exact hindex _ 1 half wrappedHalf rfl rfl (by decide +kernel)

end KeyWitness

end CommonExpr
