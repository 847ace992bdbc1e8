import CommonExpr.Proofs.Number.Double

/-!
Integers as doubles.

An integer of at most 53 bits is a significand that needs no rounding, so it only has to be
moved to where its first bit is the leading one.  Main statement: the double nearest to such
an integer stands for this integer.
-/

namespace CommonExpr

theorem roundHalfEven_one (n : Nat) : roundHalfEven n 1 = n := by
  simp [roundHalfEven, Nat.mod_one]

/-- Moved to the left so far, an integer is a significand with its leading bit. -/
theorem shifted_bounds {n k : Nat} (hpos : n ≠ 0) (hk : n.log2 + k = 52) :
    twoTo 52 ≤ n * twoTo k ∧ n * twoTo k < twoTo 53 := by
  constructor
  · calc twoTo 52 = twoTo n.log2 * twoTo k := by rw [← twoTo_add, hk]
      _ ≤ n * twoTo k := Nat.mul_le_mul_right _ (Nat.log2_self_le hpos)
  · calc n * twoTo k < twoTo (n.log2 + 1) * twoTo k :=
          Nat.mul_lt_mul_of_pos_right Nat.lt_log2_self (twoTo_pos k)
      _ = twoTo 53 := by rw [← twoTo_add, Nat.add_right_comm, hk]

/-- An integer of at most 53 bits is not changed by rounding. -/
theorem binary64_round_of_lt {n k : Nat} (hpos : n ≠ 0) (hk : n.log2 + k = 52) :
    binary64.round n 1 = some (n * twoTo k, -(k : Int)) := by
  obtain ⟨hlower, hupper⟩ := shifted_bounds hpos hk
  have hone : (1 : Nat).log2 = 0 := by decide
  have hguess : max ((n.log2 : Int) - (1 : Nat).log2 - (53 : Nat)) (-1074) = -(k : Int) - 1 := by
    rw [hone]
    omega
  have hscale : scaleFraction n 1 (-(k : Int) - 1) = (n * twoTo (k + 1), 1) := by
    have hlevel : (-(-(k : Int) - 1)).toNat = k + 1 := by omega
    rw [scaleFraction, if_neg (by omega), hlevel]
  have hscale' : scaleFraction n 1 (-(k : Int)) = (n * twoTo k, 1) := by
    by_cases hzero : k = 0
    · subst hzero
      simp [scaleFraction, twoTo]
    · rw [scaleFraction, if_neg (by omega), Int.neg_neg, Int.toNat_natCast]
  -- the guess is one too low, as it leaves room for a denominator that is no power of two
  have hlarge : ¬ n * twoTo (k + 1) / 1 < twoTo 53 := by
    rw [Nat.div_one, twoTo_succ, Nat.mul_left_comm, twoTo_succ 52]
    omega
  have hnext : -(k : Int) - 1 + 1 = -(k : Int) := by omega
  have hfits : ¬ (971 : Int) < -(k : Int) := by omega
  unfold BinaryFormat.round
  simp only [binary64, hpos, hguess, hscale, hscale', hlarge, hnext, hfits, hupper.ne,
    roundHalfEven_one, if_false]

namespace Double

/-- The parts of a double that was put together from them. -/
theorem ofSign_parts (negative : Bool) {biased fraction : Nat} (hbiased : biased < twoTo 11)
    (hfraction : fraction < twoTo 52) :
    (ofSign negative (biased * twoTo 52 + fraction)).negative = negative ∧
      (ofSign negative (biased * twoTo 52 + fraction)).biased = biased ∧
      (ofSign negative (biased * twoTo 52 + fraction)).fraction = fraction := by
  have h63 : twoTo 63 = 9223372036854775808 := rfl
  have h52 : twoTo 52 = 4503599627370496 := rfl
  have h11 : twoTo 11 = 2048 := rfl
  rw [h52] at hfraction
  rw [h11] at hbiased
  have hword : (if negative then twoTo 63 else 0) + (biased * twoTo 52 + fraction) <
      18446744073709551616 := by
    rw [h63, h52]
    split <;> omega
  have hbits : (ofSign negative (biased * twoTo 52 + fraction)).bits.toNat =
      (if negative then twoTo 63 else 0) + (biased * twoTo 52 + fraction) :=
    UInt64.toNat_ofNat_of_lt hword
  rw [Double.negative, Double.biased, Double.fraction, hbits, h63, h52, h11]
  cases negative with
  | false =>
      simp only [Bool.false_eq_true, if_false, decide_eq_false_iff_not]
      omega
  | true =>
      simp only [if_true, decide_eq_true_iff]
      omega

theorem exact_of_parts {d : Double} {biased : Nat} (hbiased : d.biased = biased)
    (hpos : 0 < biased) (hlt : biased < 2047) :
    d.exact = .finite (if d.negative then -((d.fraction + twoTo 52 : Nat) : Int)
      else (d.fraction + twoTo 52 : Nat)) ((biased : Int) - 1075) := by
  simp [exact, isNaN, isInfinite, magnitude, hbiased, hlt.ne, hpos.ne']

/-- A significand with its leading bit, in reach of the exponents, is held as it is. -/
theorem exact_ofMagnitude (negative : Bool) {m : Nat} {e : Int} (hlower : twoTo 52 ≤ m)
    (hupper : m < twoTo 53) (hlow : -1074 ≤ e) (hhigh : e ≤ 971) :
    (ofMagnitude negative m e).exact = .finite (if negative then -(m : Int) else m) e := by
  obtain ⟨b, hb, hpos, hlt⟩ : ∃ b : Nat, (e + 1075).toNat = b ∧ 0 < b ∧ b < 2047 :=
    ⟨_, rfl, by omega, by omega⟩
  have h11 : twoTo 11 = 2048 := rfl
  have hbiased : b < twoTo 11 := by omega
  have hfraction : m - twoTo 52 < twoTo 52 := by
    rw [twoTo_succ] at hupper
    omega
  obtain ⟨hsign, hexponent, hrest⟩ := ofSign_parts negative hbiased hfraction
  have he : (b : Int) - 1075 = e := by omega
  rw [ofMagnitude, if_neg (Nat.not_lt.mpr hlower), hb, exact_of_parts hexponent hpos hlt, hsign,
    hrest, Nat.sub_add_cancel hlower, he]

/-- An integer below the bound is held as the significand that it is moved to. -/
theorem exact_ofInt_of_lt {i : Int} {k : Nat} (hi : i ≠ 0) (hk : i.natAbs.log2 + k = 52) :
    (ofInt i).exact = .finite (i * (twoTo k : Nat)) (-(k : Int)) := by
  have hpos : i.natAbs ≠ 0 := Int.natAbs_ne_zero.mpr hi
  obtain ⟨hlower, hupper⟩ := shifted_bounds hpos hk
  rw [ofInt, ofFraction, binary64_round_of_lt hpos hk]
  dsimp only
  rw [exact_ofMagnitude _ hlower hupper (by omega) (by omega), Exact.finite.injEq, Nat.cast_mul]
  refine ⟨?_, rfl⟩
  by_cases hneg : i < 0
  · have habs : (i.natAbs : Int) = -i := Int.ofNat_natAbs_of_nonpos hneg.le
    rw [if_pos (decide_eq_true hneg), habs, Int.neg_mul, Int.neg_neg]
  · have habs : (i.natAbs : Int) = i := Int.natAbs_of_nonneg (Int.not_lt.mp hneg)
    rw [if_neg (by simpa using hneg), habs]

/-- The double nearest to an integer of at most 53 bits stands for this integer. -/
theorem ofInt_value? {i : Int} (hi : i.natAbs ≤ twoTo 53) :
    (ofInt i).exact.value? = some (((i : ℚ) : WithTop ℚ) : ExtendedRat) := by
  by_cases hzero : i = 0
  · have hexact : (ofInt 0).exact = .finite 0 (-1074) := by decide +kernel
    simp [hzero, hexact, Exact.value?]
  rcases Nat.lt_or_eq_of_le hi with hlt | heq
  · have hpos : i.natAbs ≠ 0 := Int.natAbs_ne_zero.mpr hzero
    have hlog : i.natAbs.log2 < 53 := (Nat.log2_lt hpos).mpr hlt
    obtain ⟨k, hk⟩ : ∃ k, i.natAbs.log2 + k = 52 := ⟨52 - i.natAbs.log2, by omega⟩
    have hvalue : ((i * (twoTo k : Nat) : Int) : ℚ) * 2 ^ (-(k : Int)) = i := by
      rw [Int.cast_mul, Exact.cast_twoTo, mul_assoc, ← zpow_add₀ (by norm_num)]
      simp
    rw [exact_ofInt_of_lt hzero hk, Exact.value?, hvalue]
  · have h53 : twoTo 53 = 9007199254740992 := rfl
    have hends : i = 9007199254740992 ∨ i = -9007199254740992 := by omega
    have hupper : (ofInt 9007199254740992).exact = .finite 4503599627370496 1 := by decide +kernel
    have hlower : (ofInt (-9007199254740992)).exact = .finite (-4503599627370496) 1 := by
      decide +kernel
    rcases hends with rfl | rfl
    · rw [hupper, Exact.value?]
      norm_num
    · rw [hlower, Exact.value?]
      norm_num

end Double

end CommonExpr
