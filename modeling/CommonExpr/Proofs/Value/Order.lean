import CommonExpr.Library.Comparison
import CommonExpr.Proofs.Value.Equivalence

/-!
The order of values.

Values are ordered by what they stand for, and only within one kind: truth values,
numbers of all types, strings, bytes, times, spans of time.  Main statement: numbers
are ordered exactly, and the order is one with equality, is turned round with its
operands and goes on from pair to pair, so that the operators cannot contradict each
other.
-/

namespace CommonExpr

/-! Orders in which not every pair is ordered -/

/-- Whether the order of a pair is that of the pair turned round, tells equality, and goes
on from pair to pair. -/
structure Coherent {α : Type} (cmp : α → α → Option Ordering) : Prop where
  swap : ∀ a b, cmp b a = (cmp a b).map Ordering.swap
  eq_iff : ∀ a b o, cmp a b = some o → (o = .eq ↔ a = b)
  trans : ∀ a b c o o', cmp a b = some o → o.isLE = true → cmp b c = some o' → o'.isLE = true →
    ∃ o'', cmp a c = some o'' ∧ o''.isLE = true

theorem Coherent.lt_trans {α : Type} {cmp : α → α → Option Ordering} (hcmp : Coherent cmp)
    {a b c : α} (hab : cmp a b = some .lt) (hbc : cmp b c = some .lt) : cmp a c = some .lt := by
  obtain ⟨o, ho, hle⟩ := hcmp.trans a b c .lt .lt hab rfl hbc rfl
  cases o with
  | lt => exact ho
  | eq =>
      -- the last would stand before the middle one as well as behind it
      obtain rfl := (hcmp.eq_iff a c .eq ho).mp rfl
      rw [hcmp.swap a b, hab] at hbc
      cases hbc
  | gt => cases hle

/-- An order in which every pair is ordered. -/
theorem coherent_total {α : Type} (cmp : α → α → Ordering) [Std.TransCmp cmp]
    [Std.LawfulEqCmp cmp] : Coherent fun a b => some (cmp a b) where
  swap a b := congrArg some Std.OrientedCmp.eq_swap
  eq_iff a b o ho := by
    cases ho
    exact Std.LawfulEqCmp.compare_eq_iff_eq
  trans a b c o o' ho hle ho' hle' := by
    cases ho
    cases ho'
    exact ⟨_, rfl, Std.TransCmp.isLE_trans hle hle'⟩

/-- Orders by the two parts of a pair, the first part first. -/
theorem lawfulEqCmp_parts {α : Type} (first second : α → Int)
    (hparts : ∀ a b, first a = first b → second a = second b → a = b) :
    Std.LawfulEqCmp (compareLex (compareOn first) (compareOn second)) where
  compare_self := by simp [compareLex, compareOn]
  eq_of_compare {a b} hcompare := by
    obtain ⟨hfirst, hsecond⟩ := Ordering.then_eq_eq.mp hcompare
    exact hparts a b (Std.LawfulEqCmp.eq_of_compare hfirst) (Std.LawfulEqCmp.eq_of_compare hsecond)

/-- The order of instants: of their seconds, and of the nanoseconds in one second. -/
def Timestamp.order : Timestamp → Timestamp → Ordering :=
  compareLex (compareOn Timestamp.seconds) (compareOn Timestamp.nanos)

/-- The order of spans of time, which is that of instants. -/
def Duration.order : Duration → Duration → Ordering :=
  compareLex (compareOn Duration.seconds) (compareOn Duration.nanos)

instance : Std.TransCmp Timestamp.order := inferInstanceAs (Std.TransCmp (compareLex _ _))

instance : Std.TransCmp Duration.order := inferInstanceAs (Std.TransCmp (compareLex _ _))

instance : Std.LawfulEqCmp Timestamp.order :=
  lawfulEqCmp_parts Timestamp.seconds Timestamp.nanos fun ⟨_, _⟩ ⟨_, _⟩ hs hn => by
    cases hs
    cases hn
    rfl

instance : Std.LawfulEqCmp Duration.order :=
  lawfulEqCmp_parts Duration.seconds Duration.nanos fun ⟨_, _⟩ ⟨_, _⟩ hs hn => by
    cases hs
    cases hn
    rfl

/-! The order of what scalars stand for -/

namespace Scalar

/-- The order of what scalars stand for, `none` for those of different kinds. -/
def Meaning.compare? : Meaning → Meaning → Option Ordering
  | .bool a, .bool b => some (compare a b)
  | .number a, .number b => some (compare a b)
  | .string a, .string b => some (compare a b)
  | .bytes a, .bytes b => some (compare a b)
  | _, _ => none

theorem Meaning.coherent : Coherent Meaning.compare? where
  swap a b := by
    cases a with
    | bool a => cases b with
      | bool b => exact (coherent_total compare).swap a b
      | _ => rfl
    | number a => cases b with
      | number b => exact (coherent_total compare).swap a b
      | _ => rfl
    | string a => cases b with
      | string b => exact (coherent_total compare).swap a b
      | _ => rfl
    | bytes a => cases b with
      | bytes b => exact (coherent_total compare).swap a b
      | _ => rfl
  eq_iff a b o ho := by
    unfold Meaning.compare? at ho
    split at ho
    · simpa using (coherent_total compare).eq_iff _ _ o ho
    · simpa using (coherent_total compare).eq_iff _ _ o ho
    · simpa using (coherent_total compare).eq_iff _ _ o ho
    · simpa using (coherent_total compare).eq_iff _ _ o ho
    · cases ho
  trans a b c o o' ho hle ho' hle' := by
    unfold Meaning.compare? at ho
    split at ho
    · cases c with
      | bool c => exact (coherent_total compare).trans _ _ c o o' ho hle ho' hle'
      | _ => cases ho'
    · cases c with
      | number c => exact (coherent_total compare).trans _ _ c o o' ho hle ho' hle'
      | _ => cases ho'
    · cases c with
      | string c => exact (coherent_total compare).trans _ _ c o o' ho hle ho' hle'
      | _ => cases ho'
    · cases c with
      | bytes c => exact (coherent_total compare).trans _ _ c o o' ho hle ho' hle'
      | _ => cases ho'
    · cases ho

theorem compareLex_eq (a b : List UInt8) :
    Scalar.compare?.compareLex (fun x y => compare x y) a b = compare a b := by
  induction a generalizing b with
  | nil => cases b <;> rfl
  | cons x a ih =>
      cases b with
      | nil => rfl
      | cons y b => rw [compare?.compareLex, ih, List.compare_cons_cons]

theorem numbers_compare?_eq {s s' : Scalar} {x y : Number} (hx : s.number? = some x)
    (hy : s'.number? = some y) :
    x.compare? y = s.meaning?.bind fun m => s'.meaning?.bind m.compare? := by
  rw [compare?_numbers hx hy, Exact.compare?_eq, meaning?_of_number? hx, meaning?_of_number? hy]
  cases x.exact.value? <;> cases y.exact.value? <;> rfl

/-- A number is not ordered with what is no number. -/
theorem number_compare?_other {s s' : Scalar} {x : Number} (hx : s.number? = some x)
    (hother : s'.number? = none) :
    (s.meaning?.bind fun m => s'.meaning?.bind m.compare?) = none ∧
      (s'.meaning?.bind fun m => s.meaning?.bind m.compare?) = none := by
  rw [meaning?_of_number? hx]
  cases x.exact.value? with
  | none => exact ⟨rfl, by cases s'.meaning? <;> rfl⟩
  | some q => cases s' <;> cases hother <;> exact ⟨rfl, rfl⟩

/-- Scalars are ordered as what they stand for is. -/
theorem compare?_eq (s s' : Scalar) :
    s.compare? s' = s.meaning?.bind fun m => s'.meaning?.bind m.compare? := by
  unfold Scalar.compare?
  split
  · rfl
  · rfl
  · exact congrArg some (compareLex_eq _ _)
  · next hbool hstring hbytes =>
      split
      · next x y hx hy => exact numbers_compare?_eq hx hy
      · next hnumbers =>
          cases hx : s.number? with
          | some x =>
              cases hy : s'.number? with
              | some y => exact (hnumbers x y hx hy).elim
              | none => exact (number_compare?_other hx hy).1.symm
          | none =>
              cases hy : s'.number? with
              | some y => exact (number_compare?_other hy hx).2.symm
              | none => cases s <;> cases s' <;> simp_all [number?, meaning?, Meaning.compare?]

end Scalar

namespace Value

/-- The order of what flat values stand for, `none` for those of different kinds and for
nulls and types. -/
def Meaning.compare? : Meaning → Meaning → Option Ordering
  | .scalar a, .scalar b => a.compare? b
  | .timestamp t, .timestamp t' => some (t.order t')
  | .duration d, .duration d' => some (d.order d')
  | _, _ => none

theorem Meaning.coherent : Coherent Meaning.compare? where
  swap a b := by
    cases a with
    | scalar a => cases b with
      | scalar b => exact Scalar.Meaning.coherent.swap a b
      | _ => rfl
    | timestamp t => cases b with
      | timestamp t' => exact (coherent_total Timestamp.order).swap t t'
      | _ => rfl
    | duration d => cases b with
      | duration d' => exact (coherent_total Duration.order).swap d d'
      | _ => rfl
    | _ => cases b <;> rfl
  eq_iff a b o ho := by
    unfold Meaning.compare? at ho
    split at ho
    · simpa using Scalar.Meaning.coherent.eq_iff _ _ o ho
    · simpa using (coherent_total Timestamp.order).eq_iff _ _ o ho
    · simpa using (coherent_total Duration.order).eq_iff _ _ o ho
    · cases ho
  trans a b c o o' ho hle ho' hle' := by
    unfold Meaning.compare? at ho
    split at ho
    · cases c with
      | scalar c => exact Scalar.Meaning.coherent.trans _ _ c o o' ho hle ho' hle'
      | _ => cases ho'
    · cases c with
      | timestamp t => exact (coherent_total Timestamp.order).trans _ _ t o o' ho hle ho' hle'
      | _ => cases ho'
    · cases c with
      | duration d => exact (coherent_total Duration.order).trans _ _ d o o' ho hle ho' hle'
      | _ => cases ho'
    · cases ho

theorem compare?_scalars {a b : Value} {s s' : Scalar} (ha : a.scalar? = some s)
    (hb : b.scalar? = some s') :
    s.compare? s' = a.meaning?.bind fun m => b.meaning?.bind m.compare? := by
  rw [Scalar.compare?_eq, meaning?_of_scalar? ha, meaning?_of_scalar? hb]
  cases s.meaning? <;> cases s'.meaning? <;> rfl

/-- A scalar is not ordered with what is no scalar. -/
theorem scalar_compare?_other {a b : Value} {s : Scalar} (ha : a.scalar? = some s)
    (hother : b.scalar? = none) :
    (a.meaning?.bind fun m => b.meaning?.bind m.compare?) = none ∧
      (b.meaning?.bind fun m => a.meaning?.bind m.compare?) = none := by
  rw [meaning?_of_scalar? ha]
  cases s.meaning? with
  | none => exact ⟨rfl, by cases b.meaning? <;> rfl⟩
  | some m => cases b <;> cases hother <;> exact ⟨rfl, rfl⟩

/-- Values are ordered as what they stand for is. -/
theorem compare?_eq (a b : Value) :
    a.compare? b = a.meaning?.bind fun m => b.meaning?.bind m.compare? := by
  unfold Value.compare?
  split
  · rfl
  · rfl
  · next htimes hspans =>
      split
      · next s s' hs hs' => exact compare?_scalars hs hs'
      · next hscalars =>
          cases hs : a.scalar? with
          | some s =>
              cases hs' : b.scalar? with
              | some s' => exact (hscalars s s' hs hs').elim
              | none => exact (scalar_compare?_other hs hs').1.symm
          | none =>
              cases hs' : b.scalar? with
              | some s' => exact (scalar_compare?_other hs' hs).2.symm
              | none => cases a <;> cases b <;> simp_all [scalar?, meaning?, Meaning.compare?]

theorem exists_meanings_of_compare? {a b : Value} {o : Ordering} (ho : a.compare? b = some o) :
    ∃ m n, a.meaning? = some m ∧ b.meaning? = some n ∧ m.compare? n = some o := by
  rw [compare?_eq] at ho
  obtain ⟨m, hm, ho⟩ := Option.bind_eq_some_iff.mp ho
  obtain ⟨n, hn, ho⟩ := Option.bind_eq_some_iff.mp ho
  exact ⟨m, n, hm, hn, ho⟩

theorem compare?_swap (a b : Value) : b.compare? a = (a.compare? b).map Ordering.swap := by
  rw [compare?_eq, compare?_eq]
  cases a.meaning? with
  | none => cases b.meaning? <;> rfl
  | some m => cases b.meaning? with
    | none => rfl
    | some n => exact Meaning.coherent.swap m n

/-- Of values that are ordered, those are equal whose order says so. -/
theorem compare?_eq_iff_equals {a b : Value} {o : Ordering} (ho : a.compare? b = some o) :
    o = .eq ↔ a.equals b = true := by
  obtain ⟨m, n, hm, hn, ho⟩ := exists_meanings_of_compare? ho
  have hne : ∀ type zero, b ≠ .typedNull type zero := by
    rintro type zero rfl
    cases hn
  rw [Meaning.coherent.eq_iff m n o ho, equals_iff_of_isFlat (isFlat_of_meaning? hm) hne, hm, hn]
  simp [eq_comm]

theorem compare?_trans {a b c : Value} {o o' : Ordering} (hab : a.compare? b = some o)
    (hle : o.isLE = true) (hbc : b.compare? c = some o') (hle' : o'.isLE = true) :
    ∃ o'', a.compare? c = some o'' ∧ o''.isLE = true := by
  obtain ⟨m, n, hm, hn, ho⟩ := exists_meanings_of_compare? hab
  obtain ⟨n', k, hn', hk, ho'⟩ := exists_meanings_of_compare? hbc
  obtain rfl : n = n' := Option.some.inj (hn.symm.trans hn')
  obtain ⟨o'', ho'', hle''⟩ := Meaning.coherent.trans m n k o o' ho hle ho' hle'
  refine ⟨o'', ?_, hle''⟩
  rw [compare?_eq, hm, hk]
  exact ho''

theorem compare?_lt_trans {a b c : Value} (hab : a.compare? b = some .lt)
    (hbc : b.compare? c = some .lt) : a.compare? c = some .lt := by
  obtain ⟨m, n, hm, hn, hmn⟩ := exists_meanings_of_compare? hab
  obtain ⟨n', k, hn', hk, hnk⟩ := exists_meanings_of_compare? hbc
  obtain rfl : n = n' := Option.some.inj (hn.symm.trans hn')
  rw [compare?_eq, hm, hk]
  exact Meaning.coherent.lt_trans hmn hnk

end Value

/-! The order of numbers -/

/-- The number that a numeric scalar is: an integer, or what the bits of a double stand
for; `some none` is not-a-number. -/
def Scalar.numeral? : Scalar → Option (Option ExtendedRat)
  | .int i => some (some ((i.toInt : ℚ) : WithTop ℚ))
  | .uint u => some (some ((u.toNat : ℚ) : WithTop ℚ))
  | .double d => some d.exact.value?
  | _ => none

namespace Value

/-- The number that a numeric value is, bare or wrapped. -/
def numeral? (v : Value) : Option (Option ExtendedRat) := v.scalar?.bind Scalar.numeral?

/-- Whether a value is not-a-number, bare or wrapped. -/
def isNaN (v : Value) : Bool := v.scalar?.any Scalar.isNaN

theorem meaning?_of_numeral? {v : Value} {x : Option ExtendedRat} (hx : v.numeral? = some x) :
    v.meaning? = x.map fun q => .scalar (.number q) := by
  obtain ⟨s, hs, hx⟩ := Option.bind_eq_some_iff.mp hx
  rw [meaning?_of_scalar? hs]
  cases s with
  | int i =>
      cases hx
      simp [Scalar.meaning?, Exact.ofInt, Exact.value?]
  | uint u =>
      cases hx
      simp [Scalar.meaning?, Exact.ofInt, Exact.value?]
  | double d =>
      cases hx
      rw [Scalar.meaning?, Option.map_map]
      rfl
  | _ => cases hx

theorem isNaN_iff_of_numeral? {v : Value} {x : Option ExtendedRat} (hx : v.numeral? = some x) :
    v.isNaN = true ↔ x = none := by
  obtain ⟨s, hs, hx⟩ := Option.bind_eq_some_iff.mp hx
  rw [isNaN, hs, Option.any_some]
  cases s with
  | int i => cases hx; simp [Scalar.isNaN]
  | uint u => cases hx; simp [Scalar.isNaN]
  | double d =>
      cases hx
      rw [Scalar.isNaN, Double.isNaN_iff]
      cases d.exact with
      | nan => simp [Exact.value?]
      | infinite negative => cases negative <;> simp [Exact.value?]
      | finite m e => simp [Exact.value?]
  | _ => cases hx

/-- Numeric values are ordered as the numbers that they are. -/
theorem compare?_numerals {a b : Value} {x y : Option ExtendedRat} (hx : a.numeral? = some x)
    (hy : b.numeral? = some y) : a.compare? b = Option.map₂ compare x y := by
  rw [compare?_eq, meaning?_of_numeral? hx, meaning?_of_numeral? hy]
  cases x <;> cases y <;> rfl

/-! The operators -/

theorem compare?_unwrap (a b : Value) : a.unwrap.compare? b.unwrap = a.compare? b := by
  cases a <;> cases b <;> rfl

open Library (ordering equality less lessEquals greater greaterEquals)

theorem ordering_dispatch (name overload : String) (holds : Ordering → Bool) (id : Int)
    (a b : Value) : (ordering name overload holds).dispatch id [.ok a, .ok b] =
      some (match a.compare? b with
        | some o => .ok (.bool (holds o))
        | none => noOverload id name [a.unwrap, b.unwrap]) := by
  rw [← compare?_unwrap]
  rfl

theorem equality_dispatch (id : Int) (a b : Value) :
    equality.dispatch id [.ok a, .ok b] = some (.ok (.bool (a.equals b))) := by
  rw [← unwrap_equals, ← equals_unwrap]
  rfl

/-- What the operators answer for two values that have an order. -/
structure Answers (id : Int) (a b : Value) (o : Ordering) : Prop where
  less : less.dispatch id [.ok a, .ok b] = some (.ok (.bool (o == .lt)))
  lessEquals : lessEquals.dispatch id [.ok a, .ok b] = some (.ok (.bool (o != .gt)))
  greater : greater.dispatch id [.ok a, .ok b] = some (.ok (.bool (o == .gt)))
  greaterEquals : greaterEquals.dispatch id [.ok a, .ok b] = some (.ok (.bool (o != .lt)))
  equality : equality.dispatch id [.ok a, .ok b] = some (.ok (.bool (o == .eq)))

theorem answers_of_compare? (id : Int) {a b : Value} {o : Ordering} (ho : a.compare? b = some o) :
    Answers id a b o where
  less := by rw [Library.less, ordering_dispatch, ho]
  lessEquals := by rw [Library.lessEquals, ordering_dispatch, ho]
  greater := by rw [Library.greater, ordering_dispatch, ho]
  greaterEquals := by rw [Library.greaterEquals, ordering_dispatch, ho]
  equality := by
    have hequals : a.equals b = (o == .eq) := by
      rw [Bool.eq_iff_iff, beq_iff_eq, compare?_eq_iff_equals ho]
    rw [equality_dispatch, hequals]

/-- Numbers are ordered exactly, and only not-a-number is not ordered with them.  The order
of values is turned round with them, says which are equal, and goes on from pair to pair;
the operators all answer by it. -/
theorem compare?_exact_coherent :
    (∀ (a b : Value) (x y : ExtendedRat), a.numeral? = some (some x) → b.numeral? = some (some y) →
      a.compare? b = some (compare x y)) ∧
    (∀ a b : Value, a.numeral?.isSome = true → b.numeral?.isSome = true →
      (a.compare? b = none ↔ a.isNaN = true ∨ b.isNaN = true)) ∧
    (∀ a b : Value, b.compare? a = (a.compare? b).map Ordering.swap) ∧
    (∀ (a b : Value) (o : Ordering), a.compare? b = some o → (o = .eq ↔ a.equals b = true)) ∧
    (∀ (a b c : Value) (o o' : Ordering), a.compare? b = some o → o.isLE = true →
      b.compare? c = some o' → o'.isLE = true →
      ∃ o'', a.compare? c = some o'' ∧ o''.isLE = true) ∧
    ∀ (id : Int) (a b : Value) (o : Ordering), a.compare? b = some o → Answers id a b o := by
  refine ⟨fun a b x y hx hy => compare?_numerals hx hy, fun a b ha hb => ?_, compare?_swap,
    fun a b o => compare?_eq_iff_equals, fun a b c o o' => compare?_trans,
    fun id a b o => answers_of_compare? id⟩
  obtain ⟨x, hx⟩ := Option.isSome_iff_exists.mp ha
  obtain ⟨y, hy⟩ := Option.isSome_iff_exists.mp hb
  rw [compare?_numerals hx hy, isNaN_iff_of_numeral? hx, isNaN_iff_of_numeral? hy,
    Option.map₂_eq_none_iff]

end Value

namespace OrderWitness

/-- The integer after two to the power 53, wrapped. -/
def odd : Value := .wrapped (.int 9007199254740993)

/-- Two to the power 53; no double is next to it but two further up. -/
def even : Value := .double ⟨0x4340000000000000⟩

/-- The largest integer. -/
def largest : Value := .uint 18446744073709551615

def nan : Value := .wrapped (.double .nan)

theorem odd_numeral :
    odd.numeral? = some (some (((9007199254740993 : ℚ) : WithTop ℚ) : ExtendedRat)) := rfl

theorem even_numeral :
    even.numeral? = some (some (((9007199254740992 : ℚ) : WithTop ℚ) : ExtendedRat)) := by
  have hexact : (⟨0x4340000000000000⟩ : Double).exact = .finite 4503599627370496 1 := by
    decide +kernel
  simp only [even, Value.numeral?, Value.scalar?, Option.bind_some, Scalar.numeral?, hexact,
    Exact.value?]
  norm_num

theorem numbers_in_order :
    even.compare? odd = some .lt ∧ odd.compare? even = some .gt ∧ even.equals odd = false ∧
      even.compare? nan = none ∧ (∃ o, even.compare? largest = some o ∧ o.isLE = true) ∧
      Value.Answers 1 even odd .lt := by
  obtain ⟨hexact, hnone, hswap, hequals, htrans, hanswers⟩ := Value.compare?_exact_coherent
  have hless : even.compare? odd = some .lt := by
    rw [hexact even odd _ _ even_numeral odd_numeral, Exact.compare_coe,
      compare_lt_iff_lt.mpr (by norm_num)]
  have hlargest : odd.compare? largest = some .lt := by decide +kernel
  have hnan := (hnone even nan (by rw [even_numeral]; rfl) rfl).mpr (Or.inr (by decide +kernel))
  refine ⟨hless, ?_, ?_, hnan, htrans even odd largest .lt .lt hless rfl hlargest rfl,
    hanswers 1 even odd .lt hless⟩
  · rw [hswap even odd, hless]
    rfl
  · exact Bool.eq_false_iff.mpr fun hequal => nomatch (hequals even odd .lt hless).mpr hequal

end OrderWitness

end CommonExpr
