import CommonExpr.Library.Standard
import CommonExpr.Proofs.Func.Selection
import CommonExpr.Proofs.Value.Coercion

/-!
Integer arithmetic.

Ints and uints are two kinds of machine words.  A kind has the numbers between zero and any of its
words, so that remainders and the products of quotients do not leave it.  Main statement: the
operators of the standard library compute with the exact numbers, or tell that the exact number is
no word; quotient and remainder make up the dividend again.
-/

namespace CommonExpr

open Library (call)

/-- Integers of the language: machine words, the numbers they stand for, and which quotients of
them are words again. -/
structure IntegerKind where
  Word : Type
  value : Word → Value
  number : Word → Int
  word? : Int → Option Word
  ty : Ty
  word?_eq_some_iff : ∀ {n : Int} {z : Word}, word? n = some z ↔ n = number z
  between : ∀ (x : Word) (n : Int), 0 ≤ n ∧ n ≤ number x ∨ number x ≤ n ∧ n ≤ 0 →
    ∃ z, number z = n
  quotient : ∀ x y : Word, number y ≠ 0 →
    ((∃ z, number z = (number x).tdiv (number y)) ↔
      ¬ (ty = .int ∧ number x = -9223372036854775808 ∧ number y = -1))

namespace IntegerKind

variable (k : IntegerKind) (named? : String → Option ZoneRule) (id : Int)

/-- Whether the quotient is the one that no int is. -/
def Extreme (x y : k.Word) : Prop :=
  k.ty = .int ∧ k.number x = -9223372036854775808 ∧ k.number y = -1

/-- Whether an outcome is the word of a number, or the overflow if no word is. -/
structure Exact (operation : String) (n : Int) (o : Outcome Value) : Prop where
  value : ∀ z, k.number z = n → o = .ok (k.value z)
  overflow : (∀ z, k.number z ≠ n) → o = fail id (.overflow operation k.ty)

/-- Sums, differences and products are exact. -/
structure Computes (x y : k.Word) : Prop where
  sum : k.Exact id "addition" (k.number x + k.number y)
    (call named? id Operator.add [k.value x, k.value y])
  difference : k.Exact id "subtraction" (k.number x - k.number y)
    (call named? id Operator.subtract [k.value x, k.value y])
  product : k.Exact id "multiplication" (k.number x * k.number y)
    (call named? id Operator.multiply [k.value x, k.value y])

/-- Quotients go toward zero and remainders have the sign of the dividend, unless the divisor is
zero or the quotient is no word. -/
structure Divides (x y : k.Word) : Prop where
  by_zero : call named? id Operator.divide [k.value x, k.value y] =
    fail id (.divisionByZero k.ty) ↔ k.number y = 0
  rest_by_zero : call named? id Operator.modulo [k.value x, k.value y] =
    fail id (.moduloByZero k.ty) ↔ k.number y = 0
  overflow : call named? id Operator.divide [k.value x, k.value y] =
    fail id (.overflow "division" k.ty) ↔ k.Extreme x y
  rest_overflow : call named? id Operator.modulo [k.value x, k.value y] =
    fail id (.overflow "modulus" k.ty) ↔ k.Extreme x y
  otherwise : k.number y ≠ 0 → ¬ k.Extreme x y → ∃ q r,
    call named? id Operator.divide [k.value x, k.value y] = .ok (k.value q) ∧
      k.number q = (k.number x).tdiv (k.number y) ∧
      call named? id Operator.modulo [k.value x, k.value y] = .ok (k.value r) ∧
      k.number r = (k.number x).tmod (k.number y) ∧
      (k.number r = 0 ∨ (k.number r).sign = (k.number x).sign)

/-- Multiplies the quotient by the divisor and adds the remainder, each operator at its node. -/
def recombine (ids : Fin 4 → Int) (x y : k.Word) : Outcome Value := do
  let quotient ← call named? (ids 0) Operator.divide [k.value x, k.value y]
  let product ← call named? (ids 1) Operator.multiply [quotient, k.value y]
  let rest ← call named? (ids 2) Operator.modulo [k.value x, k.value y]
  call named? (ids 3) Operator.add [product, rest]

/-! The operators on one kind -/

/-- The word of a number, or an overflow. -/
def checked (operation : String) (n : Int) : Outcome Value :=
  match k.word? n with
  | some z => .ok (k.value z)
  | none => fail id (.overflow operation k.ty)

/-- The quotient of two words. -/
def divided (x y : k.Word) : Outcome Value :=
  if k.number y = 0 then fail id (.divisionByZero k.ty)
  else k.checked id "division" ((k.number x).tdiv (k.number y))

/-- The remainder of two words, an overflow where the quotient is one. -/
def rest (x y : k.Word) : Outcome Value :=
  if k.number y = 0 then fail id (.moduloByZero k.ty)
  else
    match k.word? ((k.number x).tdiv (k.number y)) with
    | some _ => k.checked id "modulus" ((k.number x).tmod (k.number y))
    | none => fail id (.overflow "modulus" k.ty)

/-- What the standard library has for the words of a kind. -/
structure Operators : Prop where
  sum : ∀ id x y, call named? id Operator.add [k.value x, k.value y] =
    k.checked id "addition" (k.number x + k.number y)
  difference : ∀ id x y, call named? id Operator.subtract [k.value x, k.value y] =
    k.checked id "subtraction" (k.number x - k.number y)
  product : ∀ id x y, call named? id Operator.multiply [k.value x, k.value y] =
    k.checked id "multiplication" (k.number x * k.number y)
  quotient : ∀ id x y, call named? id Operator.divide [k.value x, k.value y] = k.divided id x y
  rest : ∀ id x y, call named? id Operator.modulo [k.value x, k.value y] = k.rest id x y

variable {k named?}

theorem word?_number (z : k.Word) : k.word? (k.number z) = some z := k.word?_eq_some_iff.mpr rfl

theorem word?_eq_none_iff {n : Int} : k.word? n = none ↔ ∀ z, k.number z ≠ n := by
  rw [Option.eq_none_iff_forall_ne_some]
  exact forall_congr' fun z => not_congr (k.word?_eq_some_iff.trans eq_comm)

theorem checked_number (operation : String) (z : k.Word) :
    k.checked id operation (k.number z) = .ok (k.value z) := by
  rw [checked, word?_number]

theorem checked_exact (operation : String) (n : Int) :
    k.Exact id operation n (k.checked id operation n) where
  value := by
    rintro z rfl
    exact checked_number id operation z
  overflow hnone := by rw [checked, word?_eq_none_iff.mpr hnone]

theorem Operators.computes (hk : k.Operators named?) (x y : k.Word) :
    k.Computes named? id x y where
  sum := by
    rw [hk.sum]
    exact checked_exact id _ _
  difference := by
    rw [hk.difference]
    exact checked_exact id _ _
  product := by
    rw [hk.product]
    exact checked_exact id _ _

/-! Remainders -/

/-- A remainder lies between zero and the dividend. -/
theorem tmod_between (x y : Int) :
    0 ≤ x.tmod y ∧ x.tmod y ≤ x ∨ x ≤ x.tmod y ∧ x.tmod y ≤ 0 := by
  have habs : (x.tmod y).natAbs ≤ x.natAbs := by
    rw [Int.natAbs_tmod]
    exact Nat.mod_le _ _
  rcases Int.le_total 0 x with hx | hx
  · have hsign := Int.tmod_nonneg y hx
    omega
  · have hsign := Int.tmod_nonneg y (Int.neg_nonneg_of_nonpos hx)
    rw [Int.neg_tmod] at hsign
    omega

theorem exists_rest (x y : k.Word) : ∃ r, k.number r = (k.number x).tmod (k.number y) :=
  k.between x _ (tmod_between _ _)

/-- The product of quotient and divisor is the dividend less the remainder. -/
theorem exists_product (x y : k.Word) :
    ∃ p, k.number p = (k.number x).tdiv (k.number y) * k.number y := by
  have hsum := Int.tdiv_mul_add_tmod (k.number x) (k.number y)
  have hbetween := tmod_between (k.number x) (k.number y)
  exact k.between x _ (by omega)

theorem sign_tmod (x y : Int) : x.tmod y = 0 ∨ (x.tmod y).sign = x.sign := by
  rcases tmod_between x y with ⟨hlow, hhigh⟩ | ⟨hlow, hhigh⟩
  · rcases hlow.eq_or_lt with hzero | hpos
    · exact Or.inl hzero.symm
    · right
      rw [Int.sign_eq_one_of_pos hpos, Int.sign_eq_one_of_pos (by omega)]
  · rcases hhigh.eq_or_lt with hzero | hneg
    · exact Or.inl hzero
    · right
      rw [Int.sign_eq_neg_one_of_neg hneg, Int.sign_eq_neg_one_of_neg (by omega)]

/-! Quotients -/

variable {x y : k.Word}

theorem Extreme.ne_zero (hxy : k.Extreme x y) : k.number y ≠ 0 := by
  rw [hxy.2.2]
  decide

theorem Extreme.word? (hxy : k.Extreme x y) :
    k.word? ((k.number x).tdiv (k.number y)) = none := by
  refine word?_eq_none_iff.mpr fun z hz => ?_
  exact (k.quotient x y hxy.ne_zero).mp ⟨z, hz⟩ hxy

theorem divided_zero (hy : k.number y = 0) : k.divided id x y = fail id (.divisionByZero k.ty) :=
  if_pos hy

theorem rest_zero (hy : k.number y = 0) : k.rest id x y = fail id (.moduloByZero k.ty) :=
  if_pos hy

theorem divided_extreme (hxy : k.Extreme x y) :
    k.divided id x y = fail id (.overflow "division" k.ty) := by
  rw [divided, if_neg hxy.ne_zero, checked, hxy.word?]

theorem rest_extreme (hxy : k.Extreme x y) :
    k.rest id x y = fail id (.overflow "modulus" k.ty) := by
  rw [rest, if_neg hxy.ne_zero, hxy.word?]

theorem divided_eq (hy : k.number y ≠ 0) {q : k.Word}
    (hq : k.number q = (k.number x).tdiv (k.number y)) : k.divided id x y = .ok (k.value q) := by
  rw [divided, if_neg hy, ← hq, checked_number]

theorem rest_eq (hy : k.number y ≠ 0) {q r : k.Word}
    (hq : k.number q = (k.number x).tdiv (k.number y))
    (hr : k.number r = (k.number x).tmod (k.number y)) : k.rest id x y = .ok (k.value r) := by
  rw [rest, if_neg hy, ← hq, word?_number, ← hr]
  exact checked_number id _ r

/-- An outcome that fails in two exclusive cases, each in its own way, tells the case. -/
theorem fail_iff_fail_iff {o : Outcome Value} {P Q : Prop} {cause cause' : Cause}
    (hne : cause ≠ cause') (hexclusive : Q → ¬ P) (hP : P → o = fail id cause)
    (hQ : Q → o = fail id cause') (hok : ¬ P → ¬ Q → ∃ v, o = .ok v) :
    (o = fail id cause ↔ P) ∧ (o = fail id cause' ↔ Q) := by
  by_cases hp : P
  · rw [hP hp]
    refine ⟨iff_of_true rfl hp, iff_of_false (fun heq => hne ?_) fun hq => hexclusive hq hp⟩
    simpa [fail] using heq
  · by_cases hq : Q
    · rw [hQ hq]
      refine ⟨iff_of_false (fun heq => hne ?_) hp, iff_of_true rfl hq⟩
      simpa [fail] using heq.symm
    · obtain ⟨v, rfl⟩ := hok hp hq
      have hfail (cause : Cause) : (.ok v : Outcome Value) ≠ fail id cause := by
        intro heq
        cases heq
      exact ⟨iff_of_false (hfail cause) hp, iff_of_false (hfail cause') hq⟩

theorem divided_iff (x y : k.Word) :
    (k.divided id x y = fail id (.divisionByZero k.ty) ↔ k.number y = 0) ∧
      (k.divided id x y = fail id (.overflow "division" k.ty) ↔ k.Extreme x y) := by
  refine fail_iff_fail_iff id Cause.noConfusion Extreme.ne_zero (divided_zero id)
    (divided_extreme id) fun hy hxy => ?_
  obtain ⟨q, hq⟩ := (k.quotient x y hy).mpr hxy
  exact ⟨_, divided_eq id hy hq⟩

theorem rest_iff (x y : k.Word) :
    (k.rest id x y = fail id (.moduloByZero k.ty) ↔ k.number y = 0) ∧
      (k.rest id x y = fail id (.overflow "modulus" k.ty) ↔ k.Extreme x y) := by
  refine fail_iff_fail_iff id Cause.noConfusion Extreme.ne_zero (rest_zero id)
    (rest_extreme id) fun hy hxy => ?_
  obtain ⟨q, hq⟩ := (k.quotient x y hy).mpr hxy
  obtain ⟨r, hr⟩ := exists_rest x y
  exact ⟨_, rest_eq id hy hq hr⟩

theorem Operators.divides (hk : k.Operators named?) (x y : k.Word) :
    k.Divides named? id x y := by
  have hquotient := hk.quotient id x y
  have hrest := hk.rest id x y
  constructor
  · rw [hquotient]
    exact (divided_iff id x y).1
  · rw [hrest]
    exact (rest_iff id x y).1
  · rw [hquotient]
    exact (divided_iff id x y).2
  · rw [hrest]
    exact (rest_iff id x y).2
  · intro hy hxy
    obtain ⟨q, hq⟩ := (k.quotient x y hy).mpr hxy
    obtain ⟨r, hr⟩ := exists_rest x y
    refine ⟨q, r, hquotient.trans (divided_eq id hy hq), hq,
      hrest.trans (rest_eq id hy hq hr), hr, ?_⟩
    rw [hr]
    exact sign_tmod _ _

theorem Operators.recombine_eq (hk : k.Operators named?) (ids : Fin 4 → Int) (hy : k.number y ≠ 0)
    (hxy : ¬ k.Extreme x y) : k.recombine named? ids x y = .ok (k.value x) := by
  obtain ⟨q, hq⟩ := (k.quotient x y hy).mpr hxy
  obtain ⟨r, hr⟩ := exists_rest x y
  obtain ⟨p, hp⟩ := exists_product x y
  have hproduct : call named? (ids 1) Operator.multiply [k.value q, k.value y] =
      .ok (k.value p) := by
    rw [hk.product, hq, ← hp, checked_number]
  have hsum : call named? (ids 3) Operator.add [k.value p, k.value r] = .ok (k.value x) := by
    rw [hk.sum, hp, hr, Int.tdiv_mul_add_tmod, checked_number]
  rw [recombine, hk.quotient, divided_eq _ hy hq]
  dsimp only [bind, Except.bind]
  rw [hproduct]
  dsimp only
  rw [hk.rest, rest_eq _ hy hq hr]
  exact hsum

end IntegerKind

/-! The two kinds -/

theorem natAbs_tdiv_le_half (x : Int) {y : Int} (hy : 1 < y.natAbs) :
    (x.tdiv y).natAbs ≤ x.natAbs / 2 := by
  rw [Int.natAbs_tdiv]
  exact Nat.div_le_div_left hy (by decide)

theorem exists_int_between (x : Int64) (n : Int)
    (hn : 0 ≤ n ∧ n ≤ x.toInt ∨ x.toInt ≤ n ∧ n ≤ 0) : ∃ z : Int64, z.toInt = n := by
  have hlow := x.le_toInt
  have hhigh := x.toInt_lt
  exact ⟨Int64.ofInt n, Int64.toInt_ofInt_of_le (by omega) (by omega)⟩

theorem exists_int_quotient_iff (x y : Int64) (hy : y.toInt ≠ 0) :
    (∃ z : Int64, z.toInt = x.toInt.tdiv y.toInt) ↔
      ¬ (Ty.int = .int ∧ x.toInt = -9223372036854775808 ∧ y.toInt = -1) := by
  have hlow := x.le_toInt
  have hhigh := x.toInt_lt
  constructor
  · rintro ⟨z, hz⟩ ⟨-, hx, hminus⟩
    have hz' := z.toInt_lt
    rw [hz, hx, hminus] at hz'
    exact absurd hz' (by decide)
  · intro hxy
    refine ⟨Int64.ofInt (x.toInt.tdiv y.toInt), ?_⟩
    by_cases hunit : 1 < y.toInt.natAbs
    · have hhalf := natAbs_tdiv_le_half x.toInt hunit
      exact Int64.toInt_ofInt_of_le (by omega) (by omega)
    · rcases (by omega : y.toInt = 1 ∨ y.toInt = -1) with hone | hminus
      · rw [hone, Int.tdiv_one]
        exact Int64.toInt_ofInt_of_le (by omega) (by omega)
      · have hx : x.toInt ≠ -9223372036854775808 := fun hx => hxy ⟨rfl, hx, hminus⟩
        rw [hminus, Int.tdiv_neg, Int.tdiv_one]
        exact Int64.toInt_ofInt_of_le (by omega) (by omega)

/-- Ints; only the least one divided by minus one is no int. -/
def ints : IntegerKind where
  Word := Int64
  value := .int
  number := Int64.toInt
  word? := int64?
  ty := .int
  word?_eq_some_iff := int64?_eq_some_iff
  between := exists_int_between
  quotient := exists_int_quotient_iff

theorem exists_uint_between (x : UInt64) (n : Int)
    (hn : 0 ≤ n ∧ n ≤ (x.toNat : Int) ∨ (x.toNat : Int) ≤ n ∧ n ≤ 0) :
    ∃ z : UInt64, (z.toNat : Int) = n := by
  have hhigh := x.toNat_lt
  obtain ⟨m, rfl⟩ := Int.eq_ofNat_of_zero_le (by omega : 0 ≤ n)
  refine ⟨UInt64.ofNat m, ?_⟩
  rw [UInt64.toNat_ofNat_of_lt' (by rw [UInt64.size]; omega)]

theorem toNat_div_eq_tdiv (x y : UInt64) :
    ((x / y).toNat : Int) = (x.toNat : Int).tdiv (y.toNat : Int) := by
  rw [UInt64.toNat_div, Int.natCast_div, Int.tdiv_eq_ediv_of_nonneg (Int.natCast_nonneg _)]

theorem toNat_mod_eq_tmod (x y : UInt64) :
    ((x % y).toNat : Int) = (x.toNat : Int).tmod (y.toNat : Int) := by
  rw [UInt64.toNat_mod, Int.natCast_mod, Int.tmod_eq_emod_of_nonneg (Int.natCast_nonneg _)]

theorem exists_uint_quotient_iff (x y : UInt64) (_ : (y.toNat : Int) ≠ 0) :
    (∃ z : UInt64, (z.toNat : Int) = (x.toNat : Int).tdiv (y.toNat : Int)) ↔
      ¬ (Ty.uint = .int ∧ (x.toNat : Int) = -9223372036854775808 ∧ (y.toNat : Int) = -1) :=
  iff_of_true ⟨x / y, toNat_div_eq_tdiv x y⟩ fun hxy => Ty.noConfusion hxy.1

/-- Uints; every quotient of them is one. -/
def uints : IntegerKind where
  Word := UInt64
  value := .uint
  number u := u.toNat
  word? := uint64?
  ty := .uint
  word?_eq_some_iff := uint64?_eq_some_iff
  between := exists_uint_between
  quotient := exists_uint_quotient_iff

theorem checkedInt_eq (id : Int) (operation : String) (n : Int) :
    Library.checkedInt id operation n = ints.checked id operation n := by
  simp only [Library.checkedInt, IntegerKind.checked, ints]
  cases int64? n <;> rfl

theorem checkedUInt_eq (id : Int) (operation : String) (n : Int) :
    Library.checkedUInt id operation n = uints.checked id operation n := by
  simp only [Library.checkedUInt, IntegerKind.checked, uints]
  cases uint64? n <;> rfl

variable {named? : String → Option ZoneRule}

namespace Library

/-- A call of the standard library runs the first overload that applies. -/
theorem call_eq_run {name : String} {values : List Value} {o : Overload}
    (hfirst : Overload.first?
      (((Dispatcher.mk [standard named?]).candidates name).flatMap Func.overloads) values = some o)
    (id : Int) : call named? id name values = o.run id values := by
  rw [call, Dispatcher.dispatch, Func.dispatchFirst_values, hfirst]

variable (function name operation : String) (op : Int → Int → Int) (id : Int)

theorem onInts_run (x y : Int64) : (onInts function name operation op).run id [.int x, .int y] =
    ints.checked id operation (op x.toInt y.toInt) :=
  checkedInt_eq id operation _

theorem onUInts_run (x y : UInt64) :
    (onUInts function name operation op).run id [.uint x, .uint y] =
      uints.checked id operation (op x.toNat y.toNat) :=
  checkedUInt_eq id operation _

end Library

open Library (call_eq_run onInts_run onUInts_run)

theorem ints_number_eq_zero (y : Int64) : ints.number y = 0 ↔ y = 0 := Int64.toInt_inj (y := 0)

theorem uints_number_eq_zero (y : UInt64) : uints.number y = 0 ↔ y = 0 :=
  Int.natCast_eq_zero.trans (UInt64.toNat_inj (b := 0))

theorem ints_operators : ints.Operators named? where
  sum id (x y : Int64) := (call_eq_run rfl id).trans (onInts_run _ _ _ (· + ·) id x y)
  difference id (x y : Int64) := (call_eq_run rfl id).trans (onInts_run _ _ _ (· - ·) id x y)
  product id (x y : Int64) := (call_eq_run rfl id).trans (onInts_run _ _ _ (· * ·) id x y)
  quotient id (x y : Int64) := by
    have hcall : call named? id Operator.divide [.int x, .int y] =
        if y = 0 then fail id (.divisionByZero .int)
        else Library.checkedInt id "division" (x.toInt.tdiv y.toInt) := rfl
    refine hcall.trans ?_
    simp only [IntegerKind.divided, ints_number_eq_zero, checkedInt_eq]
    rfl
  rest id (x y : Int64) := by
    have hcall : call named? id Operator.modulo [.int x, .int y] =
        Library.remainderInt id x y := rfl
    refine hcall.trans ?_
    simp only [IntegerKind.rest, Library.remainderInt, ints_number_eq_zero, checkedInt_eq]
    cases hquotient : int64? (x.toInt.tdiv y.toInt) <;> simp only [ints, hquotient]

theorem uints_operators : uints.Operators named? where
  sum id (x y : UInt64) := (call_eq_run rfl id).trans (onUInts_run _ _ _ (· + ·) id x y)
  difference id (x y : UInt64) := (call_eq_run rfl id).trans (onUInts_run _ _ _ (· - ·) id x y)
  product id (x y : UInt64) := (call_eq_run rfl id).trans (onUInts_run _ _ _ (· * ·) id x y)
  quotient id (x y : UInt64) := by
    have hcall : call named? id Operator.divide [.uint x, .uint y] =
        if y = 0 then fail id (.divisionByZero .uint) else .ok (.uint (x / y)) := rfl
    refine hcall.trans ?_
    split
    · next hy => exact (IntegerKind.divided_zero id ((uints_number_eq_zero y).mpr hy)).symm
    · next hy =>
        have hne : uints.number y ≠ 0 := fun hzero => hy ((uints_number_eq_zero y).mp hzero)
        exact (IntegerKind.divided_eq id hne (toNat_div_eq_tdiv x y)).symm
  rest id (x y : UInt64) := by
    have hcall : call named? id Operator.modulo [.uint x, .uint y] =
        if y = 0 then fail id (.moduloByZero .uint) else .ok (.uint (x % y)) := rfl
    refine hcall.trans ?_
    split
    · next hy => exact (IntegerKind.rest_zero id ((uints_number_eq_zero y).mpr hy)).symm
    · next hy =>
        have hne : uints.number y ≠ 0 := fun hzero => hy ((uints_number_eq_zero y).mp hzero)
        exact (IntegerKind.rest_eq id hne (toNat_div_eq_tdiv x y) (toNat_mod_eq_tmod x y)).symm

/-- The arithmetic operators on two numbers. -/
def arithmeticOperators : List String :=
  [Operator.add, Operator.subtract, Operator.multiply, Operator.divide, Operator.modulo]

/-- The operators compute with the exact numbers of ints and of uints, and fail at their own node
when the exact number is no word.  Where the divisor is not zero and the quotient is a word,
quotient and remainder make up the dividend.  No operator takes an int together with a uint. -/
theorem integers_computed_exactly (named? : String → Option ZoneRule) (id : Int) (x y : Int64)
    (u w : UInt64) :
    ints.Computes named? id x y ∧ ints.Divides named? id x y ∧
      ints.Exact id "negation" (-x.toInt) (call named? id Operator.negate [.int x]) ∧
      (y ≠ 0 → ¬ (x.toInt = -9223372036854775808 ∧ y.toInt = -1) →
        ∀ ids, ints.recombine named? ids x y = .ok (.int x)) ∧
      uints.Computes named? id u w ∧ uints.Divides named? id u w ∧
      (w ≠ 0 → ∀ ids, uints.recombine named? ids u w = .ok (.uint u)) ∧
      ∀ operator ∈ arithmeticOperators,
        call named? id operator [.int x, .uint u] =
            fail id (.noMatchingOverload operator [.int, .uint]) ∧
          call named? id operator [.uint u, .int x] =
            fail id (.noMatchingOverload operator [.uint, .int]) := by
  refine ⟨ints_operators.computes id x y, ints_operators.divides id x y, ?_, ?_,
    uints_operators.computes id u w, uints_operators.divides id u w, ?_, ?_⟩
  · have hcall : call named? id Operator.negate [.int x] =
        Library.checkedInt id "negation" (-x.toInt) := rfl
    rw [hcall, checkedInt_eq]
    exact IntegerKind.checked_exact id _ _
  · intro hy hxy ids
    exact ints_operators.recombine_eq ids (fun hzero => hy ((ints_number_eq_zero y).mp hzero))
      fun hextreme => hxy hextreme.2
  · intro hw ids
    exact uints_operators.recombine_eq ids (fun hzero => hw ((uints_number_eq_zero w).mp hzero))
      fun hextreme => Ty.noConfusion hextreme.1
  · simp only [arithmeticOperators, List.forall_mem_cons, List.not_mem_nil, false_implies,
      implies_true, and_true]
    exact ⟨⟨rfl, rfl⟩, ⟨rfl, rfl⟩, ⟨rfl, rfl⟩, ⟨rfl, rfl⟩, rfl, rfl⟩

namespace IntegerWitness

/-- Minus seven is minus three times two less one. -/
theorem recombined :
    (-7 : Int64).toInt.tdiv (2 : Int64).toInt = -3 ∧
      (-7 : Int64).toInt.tmod (2 : Int64).toInt = -1 ∧ (2 : Int64) ≠ 0 ∧
      ints.recombine namedZone? (fun _ => 1) (-7 : Int64) (2 : Int64) = .ok (.int (-7)) := by
  have htwo : (2 : Int64) ≠ 0 := by decide
  obtain ⟨-, -, -, hints, -⟩ := integers_computed_exactly namedZone? 1 (-7) 2 7 2
  exact ⟨by decide, by decide, htwo, hints htwo (by decide) _⟩

end IntegerWitness

end CommonExpr
