import CommonExpr.Proofs.Library.Integers
import CommonExpr.Proofs.Number.Reading
import CommonExpr.Proofs.Text.Utf8

/-!
Conversions of integers and of text.

A double goes to the word next to it toward zero, an integer of the other type to itself; digits
and bytes are read back as what they were written for.  Main statement: conversions to integers
are exact, or fail where there is no such integer, and the texts of integers and the bytes of
texts are converted back.
-/

namespace CommonExpr

open Library (call)

variable {named? : String → Option ZoneRule}

/-- A conversion of the standard library that takes a value, called on it. -/
theorem Library.call_conversion {name overload : String} {source : Ty}
    (convert : (id : Int) → Value → Option (Outcome Value)) {x : Value} {o : Outcome Value}
    (hfirst : Overload.first?
      (((Dispatcher.mk [standard named?]).candidates name).flatMap Func.overloads) [x] =
      some (.ofValues name overload [source] fun node args =>
        match args with
        | [x] => convert node x
        | _ => none)) {id : Int} (hconvert : convert id x.unwrap = some o) :
    call named? id name [x] = o := by
  have hrun : call named? id name [x] =
      (convert id x.unwrap).getD (noOverload id name [x.unwrap]) := call_eq_run hfirst id
  rw [hrun, hconvert, Option.getD_some]

/-! Coercions -/

namespace Value

/-- Whether a value, taken out of its wrapper, is a number. -/
def Numeric (v : Value) : Prop :=
  (∃ i, v.unwrap = .int i) ∨ (∃ u, v.unwrap = .uint u) ∨ ∃ d, v.unwrap = .double d

/-- Whether the coercions of a value give the integers it equals, and errors where there are
none. -/
structure CoercesExactly (id : Int) (v : Value) : Prop where
  int : ∀ i, toInt64 id (some v) = .ok i ↔ v.Numeric ∧ v.unwrap.equals (.int i) = true
  int_error : (∃ f, toInt64 id (some v) = .error f) ↔ ∀ i, v.unwrap.equals (.int i) = false
  uint : ∀ u, toUInt64 id (some v) = .ok u ↔ v.Numeric ∧ v.unwrap.equals (.uint u) = true
  uint_error : (∃ f, toUInt64 id (some v) = .error f) ↔ ∀ u, v.unwrap.equals (.uint u) = false

variable {v w : Value} {i : Int}

theorem scalar?_unwrap (v : Value) : v.unwrap.scalar? = v.scalar? := by
  cases v <;> rfl

theorem numeric_of_integer? (hi : v.integer? = some i) : v.Numeric := by
  obtain ⟨s, hs, hsi⟩ := Option.bind_eq_some_iff.mp hi
  have hunwrap : v.unwrap = .scalar s := by cases v <;> cases hs <;> rfl
  rw [Numeric, hunwrap]
  cases s with
  | int j => exact Or.inl ⟨j, rfl⟩
  | uint u => exact Or.inr (Or.inl ⟨u, rfl⟩)
  | double d => exact Or.inr (Or.inr ⟨d, rfl⟩)
  | _ => cases hsi

/-- A value is an integer if it equals it. -/
theorem integer?_eq_some_iff_equals {s : Scalar} (hw : w.scalar? = some s)
    (hi : s.integer? = some i) : v.integer? = some i ↔ v.unwrap.equals w = true := by
  have hmeaning := Scalar.integer?_eq_some_iff.mp hi
  constructor
  · intro hv
    obtain ⟨t, ht, hti⟩ := Option.bind_eq_some_iff.mp hv
    rw [equals_of_scalars ((scalar?_unwrap v).trans ht) hw, Scalar.equals_iff]
    exact ⟨_, Scalar.integer?_eq_some_iff.mp hti, hmeaning⟩
  · intro hequals
    obtain ⟨t, ht⟩ := exists_scalar_of_equals hw (Or.inr hequals)
    rw [equals_of_scalars ht hw, Scalar.equals_iff] at hequals
    obtain ⟨m, hm, hm'⟩ := hequals
    obtain rfl := Option.some.inj (hm'.symm.trans hmeaning)
    rw [scalar?_unwrap] at ht
    rw [integer?, ht]
    exact Scalar.integer?_eq_some_iff.mpr hm

theorem exists_error_iff {α : Type} (o : Outcome α) : (∃ f, o = .error f) ↔ ∀ a, o ≠ .ok a := by
  cases o with
  | ok a => exact iff_of_false (by rintro ⟨f, ⟨⟩⟩) fun hne => hne a rfl
  | error f =>
      refine iff_of_true ⟨f, rfl⟩ fun a heq => ?_
      cases heq

theorem coercesExactly (id : Int) (hnull : v.isNull = false) : v.CoercesExactly id := by
  have hint (i : Int64) : toInt64 id (some v) = .ok i ↔ v.unwrap.equals (.int i) = true :=
    (toInt64_eq_ok_iff hnull).trans (integer?_eq_some_iff_equals rfl rfl)
  have huint (u : UInt64) : toUInt64 id (some v) = .ok u ↔ v.unwrap.equals (.uint u) = true :=
    (toUInt64_eq_ok_iff hnull).trans (integer?_eq_some_iff_equals rfl rfl)
  constructor
  · intro i
    rw [hint, iff_and_self]
    exact fun hequals => numeric_of_integer? ((integer?_eq_some_iff_equals rfl rfl).mpr hequals)
  · rw [exists_error_iff]
    exact forall_congr' fun i => (not_congr (hint i)).trans (Bool.not_eq_true _).to_iff
  · intro u
    rw [huint, iff_and_self]
    exact fun hequals => numeric_of_integer? ((integer?_eq_some_iff_equals rfl rfl).mpr hequals)
  · rw [exists_error_iff]
    exact forall_congr' fun u => (not_congr (huint u)).trans (Bool.not_eq_true _).to_iff

end Value

/-! Casts -/

/-- Whether a double stands for a rational number. -/
def Double.StandsFor (d : Double) (q : ℚ) : Prop :=
  d.exact.value? = some ((q : WithTop ℚ) : ExtendedRat)

/-- Whether casts to the integers of a kind are exact: doubles go toward zero if they are finite,
and what is no integer of the kind overflows. -/
structure IntegerKind.CastsExactly (k : IntegerKind) (named? : String → Option ZoneRule) (id : Int)
    (name : String) (d : Double) : Prop where
  finite : ∀ q, d.StandsFor q →
    k.Exact id "conversion" (towardZero q) (call named? id name [.double d])
  special : d.isFinite = false →
    call named? id name [.double d] = fail id (.overflow "conversion" k.ty)

namespace Double

variable {d : Double}

theorem standsFor_iff {m e : Int} (hd : d.exact = .finite m e) {q : ℚ} :
    d.StandsFor q ↔ (m * 2 ^ e : ℚ) = q := by
  rw [StandsFor, hd, Exact.value?, Option.some_inj, WithBot.coe_inj, WithTop.coe_inj]

theorem isFinite_iff (d : Double) : d.isFinite = true ↔ ∃ q, d.StandsFor q := by
  constructor
  · intro hfinite
    obtain ⟨m, e, hd, -⟩ := exists_exact_of_isFinite hfinite
    exact ⟨_, (standsFor_iff hd).mpr rfl⟩
  · rintro ⟨q, hq⟩
    rw [StandsFor] at hq
    by_contra hspecial
    cases hd : d.exact with
    | nan => rw [hd] at hq; cases hq
    | infinite negative => exact Exact.infinite_value?_ne negative q (hd ▸ hq)
    | finite m e =>
        exact exact_ne_finite_of_not_isFinite (Bool.not_eq_true _ ▸ hspecial) m e hd

end Double

theorem intOf_eq (id n : Int) : Library.intOf id (int64? n) = ints.checked id "conversion" n := by
  simp only [Library.intOf, IntegerKind.checked, ints]
  cases int64? n <;> rfl

theorem uintOf_eq (id n : Int) :
    Library.uintOf id (uint64? n) = uints.checked id "conversion" n := by
  simp only [Library.uintOf, IntegerKind.checked, uints]
  cases uint64? n <;> rfl

theorem IntegerKind.castsExactly {k : IntegerKind} {id : Int} {name : String} {d : Double}
    (hspecial : d.isFinite = false →
      call named? id name [.double d] = fail id (.overflow "conversion" k.ty))
    (hfinite : d.isFinite = true → ∀ m e, d.exact = .finite m e → m.natAbs < twoTo 53 →
      call named? id name [.double d] = k.checked id "conversion" (towardZero (m * 2 ^ e))) :
    k.CastsExactly named? id name d := by
  refine ⟨fun q hq => ?_, hspecial⟩
  have hd := d.isFinite_iff.mpr ⟨q, hq⟩
  obtain ⟨m, e, hexact, hm⟩ := Double.exists_exact_of_isFinite hd
  obtain rfl := (Double.standsFor_iff hexact).mp hq
  rw [hfinite hd m e hexact hm]
  exact checked_exact id _ _

theorem ints_castsExactly (id : Int) (d : Double) : ints.CastsExactly named? id "int" d := by
  have hcall : call named? id "int" [.double d] = Library.intOf id d.truncInt64? :=
    Library.call_conversion Library.toInt rfl rfl
  refine IntegerKind.castsExactly (fun hspecial => ?_) fun hd m e hexact hm => ?_
  · rw [hcall, Double.truncInt64?, hspecial]
    rfl
  · rw [hcall, Double.truncInt64?_finite hd hexact hm, intOf_eq]

theorem uints_castsExactly (id : Int) (d : Double) :
    uints.CastsExactly named? id "uint" d := by
  have hcall : call named? id "uint" [.double d] = Library.uintOf id d.truncUInt64? :=
    Library.call_conversion Library.toUInt rfl rfl
  refine IntegerKind.castsExactly (fun hspecial => ?_) fun hd m e hexact _ => ?_
  · rw [hcall, Double.truncUInt64?, hspecial]
    rfl
  · rw [hcall, Double.truncUInt64?_finite hd hexact, uintOf_eq]

theorem int_of_uint_exact (id : Int) (u : UInt64) :
    ints.Exact id "conversion" u.toNat (call named? id "int" [.uint u]) := by
  rw [Library.call_conversion Library.toInt rfl rfl, intOf_eq]
  exact IntegerKind.checked_exact id _ _

theorem uint_of_int_exact (id : Int) (i : Int64) :
    uints.Exact id "conversion" i.toInt (call named? id "uint" [.int i]) := by
  rw [Library.call_conversion Library.toUInt rfl rfl, uintOf_eq]
  exact IntegerKind.checked_exact id _ _

/-! Texts -/

/-- Whether conversions through text, and those between text and bytes, give back what they were
given. -/
structure TextsConvertBack (named? : String → Option ZoneRule) (id : Int) (i : Int64) (u : UInt64)
    (s : String) (bytes : List UInt8) : Prop where
  int : (call named? id "string" [.int i] >>= fun text => call named? id "int" [text]) =
    .ok (.int i)
  uint : (call named? id "string" [.uint u] >>= fun text => call named? id "uint" [text]) =
    .ok (.uint u)
  string : (call named? id "bytes" [.string s] >>= fun bytes => call named? id "string" [bytes]) =
    .ok (.string s)
  valid : (∃ text, call named? id "string" [.bytes bytes] = .ok text) ↔ Utf8.Valid bytes
  bytes : ∀ text, call named? id "string" [.bytes bytes] = .ok text →
    call named? id "bytes" [text] = .ok (.bytes bytes)

theorem string_of_bytes (id : Int) {bytes : List UInt8} {s : String}
    (hs : Utf8.decode bytes = .ok s) :
    call named? id "string" [.bytes bytes] = .ok (.string s) := by
  rw [Library.call_conversion Library.toText rfl rfl, hs]

theorem string_of_broken_bytes (id : Int) {bytes : List UInt8} {fault : Utf8.Fault}
    (hfault : Utf8.decode bytes = .error fault) :
    call named? id "string" [.bytes bytes] = fail id (.brokenText fault) := by
  rw [Library.call_conversion Library.toText rfl rfl, hfault]

theorem textsConvertBack (id : Int) (i : Int64) (u : UInt64) (s : String) (bytes : List UInt8) :
    TextsConvertBack named? id i u s bytes := by
  have hbytes (s : String) :
      call named? id "bytes" [.string s] = .ok (.bytes (Utf8.encode s)) := rfl
  constructor
  · have hread : call named? id "int" [.string (toString i.toInt)] = .ok (.int i) := by
      rw [Library.call_conversion Library.toInt rfl rfl, readInt64_toString]
    exact hread
  · have hread : call named? id "uint" [.string (toString u.toNat)] = .ok (.uint u) := by
      rw [Library.call_conversion Library.toUInt rfl rfl, readUInt64_toString]
    exact hread
  · have hread : call named? id "string" [.bytes (Utf8.encode s)] = .ok (.string s) :=
      string_of_bytes id (Utf8.decode_encode s)
    exact hread
  · rw [← Utf8.exists_decode_iff]
    cases hdecode : Utf8.decode bytes with
    | ok text => exact iff_of_true ⟨_, string_of_bytes id hdecode⟩ ⟨_, rfl⟩
    | error fault =>
        rw [string_of_broken_bytes id hdecode]
        exact iff_of_false (by rintro ⟨text, ⟨⟩⟩) (by rintro ⟨text, ⟨⟩⟩)
  · intro text htext
    cases hdecode : Utf8.decode bytes with
    | ok s =>
        rw [string_of_bytes id hdecode] at htext
        obtain rfl := Except.ok.inj htext
        rw [hbytes, Utf8.encode_of_decode hdecode]
    | error fault =>
        rw [string_of_broken_bytes id hdecode] at htext
        cases htext

/-- Values other than null are coerced to the integers they equal; casts of doubles go toward
zero and casts between integers keep the number, or they overflow; texts are converted back. -/
theorem integer_conversions_exact (named? : String → Option ZoneRule) (id : Int) {v : Value}
    (hnull : v.isNull = false) (d : Double) (i : Int64) (u : UInt64) (s : String)
    (bytes : List UInt8) :
    v.CoercesExactly id ∧ (d.isFinite = true ↔ ∃ q, d.StandsFor q) ∧
      ints.CastsExactly named? id "int" d ∧ uints.CastsExactly named? id "uint" d ∧
      ints.Exact id "conversion" u.toNat (call named? id "int" [.uint u]) ∧
      uints.Exact id "conversion" i.toInt (call named? id "uint" [.int i]) ∧
      TextsConvertBack named? id i u s bytes :=
  ⟨Value.coercesExactly id hnull, d.isFinite_iff, ints_castsExactly id d, uints_castsExactly id d,
    int_of_uint_exact id u, uint_of_int_exact id i, textsConvertBack id i u s bytes⟩

namespace ConversionWitness

/-- The least int as a double, in a wrapper. -/
def least : Value := .wrapped (.double Double.intBound.neg)

theorem least_coerced :
    least.isNull = false ∧ Value.toInt64 1 (some least) = .ok (-9223372036854775808) := by
  have hnull : least.isNull = false := rfl
  obtain ⟨hcoerced, -⟩ := integer_conversions_exact namedZone? 1 hnull .zero 0 0 "" []
  refine ⟨hnull, (hcoerced.int _).mpr ⟨Or.inr (Or.inr ⟨_, rfl⟩), ?_⟩⟩
  decide +kernel

end ConversionWitness

end CommonExpr
