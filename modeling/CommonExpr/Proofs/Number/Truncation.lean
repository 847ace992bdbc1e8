import CommonExpr.Number.Truncation
import CommonExpr.Proofs.Number.Double
import Mathlib.Data.Rat.Floor

/-!
Doubles as machine words.

The tests of the range ask the double, not its integer part; they come to the same because doubles
of 53 bits and more have no places.  Main statements: a whole double goes to the word it equals, any
other double to the word next to it toward zero, and where there is no such word, to none.
-/

namespace CommonExpr

/-! Words -/

section Words

variable {i : Int}

theorem int64?_eq_some_iff {x : Int64} : int64? i = some x ↔ i = x.toInt := by
  constructor
  · intro h
    exact (toInt_of_int64? h).symm
  · rintro rfl
    have hlower := x.le_toInt
    have hupper := x.toInt_lt
    rw [int64?, if_pos ⟨by omega, by omega⟩, Int64.ofInt_toInt]

theorem uint64?_eq_some_iff {x : UInt64} : uint64? i = some x ↔ i = x.toNat := by
  constructor
  · intro h
    exact (toNat_of_uint64? h).symm
  · rintro rfl
    have hupper := x.toNat_lt
    rw [uint64?, if_pos ⟨by omega, by omega⟩, Int.toNat_natCast, UInt64.ofNat_toNat]

theorem int32?_eq_some_iff {x : Int32} : int32? i = some x ↔ i = x.toInt := by
  have hlower := x.le_toInt
  have hupper := x.toInt_lt
  unfold int32?
  constructor
  · intro h
    split at h
    · next hi =>
        obtain rfl := Option.some.inj h
        exact (Int32.toInt_ofInt_of_le (by omega) (by omega)).symm
    · cases h
  · rintro rfl
    rw [if_pos ⟨by omega, by omega⟩, Int32.ofInt_toInt]

theorem uint32?_eq_some_iff {x : UInt32} : uint32? i = some x ↔ i = x.toNat := by
  have hupper := x.toNat_lt
  unfold uint32?
  constructor
  · intro h
    split at h
    · next hi =>
        obtain rfl := Option.some.inj h
        rw [UInt32.toNat_ofNat_of_lt' (by rw [UInt32.size]; omega)]
        omega
    · cases h
  · rintro rfl
    rw [if_pos ⟨by omega, by omega⟩, Int.toNat_natCast, UInt32.ofNat_toNat]

end Words

/-! Toward zero -/

/-- The integer next to a rational number toward zero. -/
def towardZero (q : ℚ) : ℤ := if 0 ≤ q then ⌊q⌋ else ⌈q⌉

theorem towardZero_intCast (i : ℤ) : towardZero i = i := by
  unfold towardZero
  split
  · exact Int.floor_intCast i
  · exact Int.ceil_intCast i

theorem towardZero_lt_iff {q : ℚ} {n : ℤ} (hn : 0 < n) : towardZero q < n ↔ q < n := by
  unfold towardZero
  split
  · exact Int.floor_lt
  · next hq =>
      have hzero : (0 : ℚ) < n := by exact_mod_cast hn
      have hceil : ⌈q⌉ ≤ 0 := Int.ceil_le.mpr (by exact_mod_cast (not_le.mp hq).le)
      exact iff_of_true (hceil.trans_lt hn) ((not_le.mp hq).trans hzero)

theorem lt_towardZero_iff {q : ℚ} {n : ℤ} (hn : n < 0) : n < towardZero q ↔ (n : ℚ) < q := by
  unfold towardZero
  split
  · next hq =>
      have hzero : (n : ℚ) < 0 := by exact_mod_cast hn
      exact iff_of_true (hn.trans_le (Int.floor_nonneg.mpr hq)) (hzero.trans_le hq)
  · exact Int.lt_ceil

theorem towardZero_div (m : ℤ) {k : ℕ} (hk : 0 < k) : towardZero (m / k : ℚ) = m.tdiv k := by
  have hk' : (0 : ℚ) < k := by exact_mod_cast hk
  unfold towardZero
  split
  · next hq =>
      have hm : 0 ≤ m := by
        rw [le_div_iff₀ hk', zero_mul] at hq
        exact_mod_cast hq
      rw [Rat.floor_intCast_div_natCast, Int.tdiv_eq_ediv_of_nonneg hm]
  · next hq =>
      have hm : 0 ≤ -m := by
        rw [not_le, div_lt_iff₀ hk', zero_mul] at hq
        exact Int.neg_nonneg_of_nonpos (by exact_mod_cast hq.le)
      rw [Rat.ceil_intCast_div_natCast, ← Int.tdiv_eq_ediv_of_nonneg hm, Int.neg_tdiv, neg_neg]

namespace Exact

/-- Truncation goes toward zero. -/
theorem trunc?_finite (m e : Int) : (finite m e).trunc? = some (towardZero (m * 2 ^ e)) := by
  rw [trunc?]
  split
  · next he =>
      have hscaled := scaled_mul m he
      rw [sub_zero, zpow_zero, mul_one] at hscaled
      rw [← hscaled, towardZero_intCast]
  · next he =>
      have hpower : (m * 2 ^ e : ℚ) = m / (twoTo (-e).toNat : ℕ) := by
        have hcast := cast_twoTo (-e).toNat
        rw [Int.toNat_of_nonneg (by omega), Int.cast_natCast] at hcast
        rw [hcast, zpow_neg, div_inv_eq_mul]
      rw [hpower, towardZero_div m (twoTo_pos _)]

end Exact

namespace Double

variable {d : Double} {m e : Int}

theorem lt_eq_decide {a b : Double} {m e n l : Int} (ha : a.exact = .finite m e)
    (hb : b.exact = .finite n l) : a.lt b = decide ((m * 2 ^ e : ℚ) < n * 2 ^ l) := by
  rw [lt, compare?, ha, hb, Exact.compare?_finite, Option.any_some, Bool.eq_iff_iff,
    decide_eq_true_iff, Ordering.isLT_iff_eq_lt]
  exact compare_lt_iff_lt

theorem intBound_exact : intBound.exact = .finite 4503599627370496 11 := by decide +kernel

theorem neg_intBound_exact : intBound.neg.exact = .finite (-4503599627370496) 11 := by
  decide +kernel

theorem minusOne_exact : minusOne.exact = .finite (-4503599627370496) (-52) := by decide +kernel

/-- A double is whole if it is its integer part. -/
theorem isWhole_iff (hd : d.exact = .finite m e) :
    d.isWhole = true ↔ (m * 2 ^ e : ℚ) = towardZero (m * 2 ^ e) := by
  obtain ⟨whole, n, l, hwhole, hcut, hsum, -, -⟩ := Exact.trunc?_add_cut? m e
  obtain rfl := Option.some.inj ((Exact.trunc?_finite m e).symm.trans hwhole)
  rw [isWhole, hd, hcut, zero_exact, Option.any_some, Exact.compare?_finite, Option.any_some,
    Ordering.isEq_iff_eq_eq, compare_eq_iff_eq, Int.cast_zero, zero_mul]
  constructor
  · intro hzero
    rw [hzero, add_zero] at hsum
    exact hsum
  · intro heq
    linarith

theorem saturate_eq (hd : d.exact = .finite m e) {low high : Int}
    (hlow : low ≤ towardZero (m * 2 ^ e)) (hhigh : towardZero (m * 2 ^ e) ≤ high) :
    d.saturate low high = towardZero (m * 2 ^ e) := by
  simp only [saturate, trunc?, hd, Exact.trunc?_finite]
  omega

/-! The grid of doubles -/

/-- A finite double is a number of 53 bits at most, times a power of two. -/
theorem exists_exact_of_isFinite (hd : d.isFinite = true) :
    ∃ m e, d.exact = .finite m e ∧ m.natAbs < twoTo 53 := by
  have hfraction := d.fraction_lt
  have h52 : twoTo 52 = 4503599627370496 := rfl
  have h53 : twoTo 53 = 9007199254740992 := rfl
  have hbiased : d.biased ≠ 2047 := by simpa [isFinite] using hd
  have hnan : d.isNaN = false := by simp [isNaN, hbiased]
  have hinfinite : d.isInfinite = false := by simp [isInfinite, hbiased]
  have hmagnitude : d.magnitude.1 < twoTo 53 := by
    unfold magnitude
    split <;> dsimp only <;> omega
  simp only [exact, hnan, hinfinite, Bool.false_eq_true, if_false]
  generalize d.magnitude = magnitude at hmagnitude
  refine ⟨_, _, rfl, ?_⟩
  split <;> omega

theorem exact_ne_finite_of_not_isFinite (hd : d.isFinite = false) (m e : Int) :
    d.exact ≠ .finite m e := by
  have hbiased : d.biased = 2047 := by simpa [isFinite] using hd
  intro hexact
  rw [exact] at hexact
  split at hexact
  · cases hexact
  · next hnan =>
      have hinfinite : d.isInfinite = true := by
        simpa [isNaN, isInfinite, hbiased] using hnan
      rw [if_pos hinfinite] at hexact
      cases hexact

/-- Doubles that are not integers have less than 53 bits before the point. -/
theorem eq_towardZero_or_lt (hm : m.natAbs < twoTo 53) :
    (m * 2 ^ e : ℚ) = towardZero (m * 2 ^ e) ∨ (-9007199254740992 : ℚ) < m * 2 ^ e := by
  by_cases he : 0 ≤ e
  · have hscaled := Exact.scaled_mul m he
    rw [sub_zero, zpow_zero, mul_one] at hscaled
    rw [← hscaled, towardZero_intCast]
    exact Or.inl rfl
  · have hscale : (2 : ℚ) ^ e ≤ 1 := zpow_le_one_of_nonpos₀ (by norm_num) (by omega)
    have hpos : (0 : ℚ) < 2 ^ e := zpow_pos (by norm_num) e
    have h53 : twoTo 53 = 9007199254740992 := rfl
    have hlow : (-9007199254740992 : ℚ) < m := by
      have hlow : -9007199254740992 < m := by omega
      exact_mod_cast hlow
    refine Or.inr ?_
    nlinarith

/-! Words of integer parts -/

theorem saturateInt64_eq (hd : d.exact = .finite m e)
    (hlow : -9223372036854775808 ≤ towardZero (m * 2 ^ e))
    (hhigh : towardZero (m * 2 ^ e) < 9223372036854775808) :
    d.saturateInt64 = Int64.ofInt (towardZero (m * 2 ^ e)) := by
  have hlast : towardZero (m * 2 ^ e) ≤ 9223372036854775807 := by omega
  rw [saturateInt64, saturate_eq hd hlow hlast]

theorem saturateUInt64_eq (hd : d.exact = .finite m e) (hlow : 0 ≤ towardZero (m * 2 ^ e))
    (hhigh : towardZero (m * 2 ^ e) < 18446744073709551616) :
    d.saturateUInt64 = UInt64.ofNat (towardZero (m * 2 ^ e)).toNat := by
  have hlast : towardZero (m * 2 ^ e) ≤ 18446744073709551615 := by omega
  rw [saturateUInt64, saturate_eq hd hlow hlast]

/-- The least int is itself a double, with no double between it and the next number down. -/
theorem intRange_iff (hm : m.natAbs < twoTo 53) :
    ((-9223372036854775808 : ℚ) ≤ m * 2 ^ e ∧ (m * 2 ^ e : ℚ) < 9223372036854775808) ↔
      -9223372036854775808 ≤ towardZero (m * 2 ^ e) ∧
        towardZero (m * 2 ^ e) < 9223372036854775808 := by
  have hhigh := towardZero_lt_iff (q := m * 2 ^ e) (n := 9223372036854775808) (by decide)
  have hlow := lt_towardZero_iff (q := m * 2 ^ e) (n := -9223372036854775809) (by decide)
  norm_num at hhigh hlow
  rw [hhigh]
  refine and_congr_left fun _ => ⟨fun hrange => ?_, fun hrange => ?_⟩
  · have hbelow := hlow.mpr (by linarith)
    omega
  · rcases eq_towardZero_or_lt (e := e) hm with hwhole | hless
    · rw [hwhole]
      exact_mod_cast hrange
    · linarith

theorem truncInt64?_finite (hfinite : d.isFinite = true) (hd : d.exact = .finite m e)
    (hm : m.natAbs < twoTo 53) : d.truncInt64? = int64? (towardZero (m * 2 ^ e)) := by
  have hlow := le_eq_decide neg_intBound_exact hd
  have hhigh := lt_eq_decide hd intBound_exact
  norm_num at hlow hhigh
  have hrange := intRange_iff (e := e) hm
  rw [truncInt64?, int64?, hfinite, hlow, hhigh]
  simp only [Bool.true_and, Bool.and_eq_true, decide_eq_true_iff, hrange]
  split
  · next hword => rw [saturateInt64_eq hd hword.1 hword.2]
  · rfl

theorem uintRange_iff (q : ℚ) :
    ((-1 : ℚ) < q ∧ q < 18446744073709551616) ↔
      0 ≤ towardZero q ∧ towardZero q < 18446744073709551616 := by
  have hlow := lt_towardZero_iff (q := q) (n := -1) (by decide)
  have hhigh := towardZero_lt_iff (q := q) (n := 18446744073709551616) (by decide)
  norm_num at hlow hhigh
  rw [← hlow, ← hhigh]
  omega

theorem truncUInt64?_finite (hfinite : d.isFinite = true) (hd : d.exact = .finite m e) :
    d.truncUInt64? = uint64? (towardZero (m * 2 ^ e)) := by
  have hlow := lt_eq_decide minusOne_exact hd
  have hhigh := lt_eq_decide hd wordBound_exact
  norm_num at hlow hhigh
  rw [truncUInt64?, uint64?, hfinite, hlow, hhigh]
  simp only [Bool.true_and, Bool.and_eq_true, decide_eq_true_iff, uintRange_iff]
  split
  · next hword => rw [saturateUInt64_eq hd hword.1 hword.2]
  · rfl

/-! Whole doubles -/

theorem special_of_not_isFinite (hd : d.isFinite = false) :
    d.isWhole = false ∧ d.integer? = none := by
  rw [isWhole, integer?]
  cases hexact : d.exact with
  | finite m e => exact absurd hexact (exact_ne_finite_of_not_isFinite hd m e)
  | _ => exact ⟨rfl, rfl⟩

theorem isFinite_of_isWhole (hwhole : d.isWhole = true) : d.isFinite = true := by
  by_contra hspecial
  rw [(special_of_not_isFinite (Bool.not_eq_true _ ▸ hspecial)).1] at hwhole
  cases hwhole

theorem wholeInt64?_eq (d : Double) :
    d.wholeInt64? = if d.isWhole then d.truncInt64? else none := by
  rw [wholeInt64?, truncInt64?]
  cases hwhole : d.isWhole with
  | false => rfl
  | true => rw [isFinite_of_isWhole hwhole, if_pos rfl]

/-- Between minus one and zero there is no whole double. -/
theorem wholeUInt64?_eq (d : Double) :
    d.wholeUInt64? = if d.isWhole then d.truncUInt64? else none := by
  rw [wholeUInt64?, truncUInt64?]
  cases hwhole : d.isWhole with
  | false => rfl
  | true =>
      have hfinite := isFinite_of_isWhole hwhole
      obtain ⟨m, e, hd, -⟩ := exists_exact_of_isFinite hfinite
      have hlow := le_eq_decide zero_exact hd
      have hminus := lt_eq_decide minusOne_exact hd
      norm_num at hlow hminus
      rw [isWhole_iff hd] at hwhole
      have hsame : (0 : ℚ) ≤ m * 2 ^ e ↔ (-1 : ℚ) < m * 2 ^ e := by
        rw [hwhole]
        norm_cast
      rw [hfinite, hlow, hminus, if_pos rfl, decide_eq_decide.mpr hsame]

theorem integer?_eq_some_iff {i : Int} (hd : d.exact = .finite m e) :
    d.integer? = some i ↔ d.isWhole = true ∧ towardZero (m * 2 ^ e) = i := by
  rw [integer?, hd, Exact.integer?_eq_some_iff, Exact.value?, Option.some_inj, WithBot.coe_inj,
    WithTop.coe_inj, isWhole_iff hd]
  constructor
  · intro hi
    rw [hi, towardZero_intCast]
    exact ⟨rfl, rfl⟩
  · rintro ⟨hwhole, rfl⟩
    exact hwhole

theorem wholeInt64?_eq_some_iff {x : Int64} :
    d.wholeInt64? = some x ↔ d.integer? = some x.toInt := by
  rw [wholeInt64?_eq]
  cases hfinite : d.isFinite with
  | false =>
      obtain ⟨hwhole, hinteger⟩ := special_of_not_isFinite hfinite
      simp [hwhole, hinteger]
  | true =>
      obtain ⟨m, e, hd, hm⟩ := exists_exact_of_isFinite hfinite
      rw [truncInt64?_finite hfinite hd hm, integer?_eq_some_iff hd]
      cases d.isWhole <;> simp [int64?_eq_some_iff]

theorem wholeUInt64?_eq_some_iff {x : UInt64} :
    d.wholeUInt64? = some x ↔ d.integer? = some (x.toNat : Int) := by
  rw [wholeUInt64?_eq]
  cases hfinite : d.isFinite with
  | false =>
      obtain ⟨hwhole, hinteger⟩ := special_of_not_isFinite hfinite
      simp [hwhole, hinteger]
  | true =>
      obtain ⟨m, e, hd, -⟩ := exists_exact_of_isFinite hfinite
      rw [truncUInt64?_finite hfinite hd, integer?_eq_some_iff hd]
      cases d.isWhole <;> simp [uint64?_eq_some_iff]

end Double

end CommonExpr
