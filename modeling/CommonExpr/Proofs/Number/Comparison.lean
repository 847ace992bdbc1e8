import CommonExpr.Number.Comparison
import CommonExpr.Proofs.Number.Exact
import Mathlib.Tactic.Linarith
import Mathlib.Tactic.NormNum
import Mathlib.Tactic.Ring

/-!
Numbers of different types compared with each other.

Truncation splits a finite number into an integer and less than one.  Main statement:
comparing an integer with a double by these parts gives the order of the exact numbers,
for every integer that is below the bound in magnitude.
-/

namespace CommonExpr

namespace Exact

theorem compare?_finite (m₁ e₁ m₂ e₂ : Int) :
    (finite m₁ e₁).compare? (.finite m₂ e₂) =
      some (compare (m₁ * 2 ^ e₁ : ℚ) (m₂ * 2 ^ e₂)) :=
  congrArg some (compareScaled_eq m₁ e₁ m₂ e₂)

/-- Turned round, a comparison has the reverse answer. -/
theorem compare?_swap (x y : Exact) : y.compare? x = (x.compare? y).map Ordering.swap := by
  rw [compare?_eq, compare?_eq, Option.map_map₂]
  exact Option.map₂_comm fun a b => Std.OrientedCmp.eq_swap

theorem compare?_ofInt (i m e : Int) :
    (ofInt i).compare? (.finite m e) = some (compare (i : ℚ) (m * 2 ^ e)) := by
  rw [ofInt, compare?_finite, zpow_zero, mul_one]

/-- A finite number is its integer part and less than one, which is cut off. -/
theorem trunc?_add_cut? (m e : Int) :
    ∃ (whole n l : Int), (finite m e).trunc? = some whole ∧ (finite m e).cut? = some (.finite n l) ∧
      (m * 2 ^ e : ℚ) = whole + n * 2 ^ l ∧ (-1 : ℚ) < n * 2 ^ l ∧ (n * 2 ^ l : ℚ) < 1 := by
  by_cases he : 0 ≤ e
  · refine ⟨_, 0, 0, rfl, congrArg some (if_pos he), ?_, by norm_num, by norm_num⟩
    have hscaled := scaled_mul m he
    rw [sub_zero, zpow_zero, mul_one] at hscaled
    rw [if_pos he, hscaled]
    norm_num
  · refine ⟨_, _, e, rfl, congrArg some (if_neg he), ?_⟩
    rw [if_neg he]
    have hk : (0 : Int) < twoTo (-e).toNat := Int.natCast_pos.mpr (twoTo_pos _)
    -- the divisor times the scale is one, so the scale turns remainders into fractions
    have hunit : ((twoTo (-e).toNat : ℤ) : ℚ) * 2 ^ e = 1 := by
      rw [cast_twoTo, Int.toNat_of_nonneg (by omega), ← zpow_add₀ (by norm_num)]
      simp
    have hscale : (0 : ℚ) < 2 ^ e := zpow_pos (by norm_num) e
    generalize (twoTo (-e).toNat : ℤ) = k at hk hunit
    have hsplit : ((m.tdiv k : ℤ) : ℚ) * k + m.tmod k = m := by
      exact_mod_cast Int.tdiv_mul_add_tmod m k
    have hlower : ((-k : ℤ) : ℚ) < m.tmod k := Int.cast_lt.mpr (Int.lt_tmod_of_pos m hk)
    have hupper : ((m.tmod k : ℤ) : ℚ) < k := Int.cast_lt.mpr (Int.tmod_lt_of_pos m hk)
    refine ⟨?_, ?_, ?_⟩
    · calc (m * 2 ^ e : ℚ) = (m.tdiv k * k + m.tmod k) * 2 ^ e := by rw [hsplit]
        _ = m.tdiv k * (k * 2 ^ e) + m.tmod k * 2 ^ e := by ring
        _ = m.tdiv k + m.tmod k * 2 ^ e := by rw [hunit, mul_one]
    · calc (-1 : ℚ) = (-k : ℤ) * 2 ^ e := by rw [Int.cast_neg, neg_mul, hunit]
        _ < m.tmod k * 2 ^ e := mul_lt_mul_of_pos_right hlower hscale
    · calc (m.tmod k * 2 ^ e : ℚ) < k * 2 ^ e := mul_lt_mul_of_pos_right hupper hscale
        _ = 1 := hunit

end Exact

namespace Double

theorem wordBound_exact : wordBound.exact = .finite 4503599627370496 12 := by decide +kernel

theorem neg_wordBound_exact : wordBound.neg.exact = .finite (-4503599627370496) 12 := by
  decide +kernel

theorem zero_exact : zero.exact = .finite 0 (-1074) := by decide +kernel

/-- The bits of not-a-number are those that stand for nothing. -/
theorem isNaN_iff {d : Double} : d.isNaN = true ↔ d.exact = .nan := by
  unfold exact
  split
  · simp [*]
  · split <;> simp [*]

theorem le_eq_decide {a b : Double} {m e n l : Int} (ha : a.exact = .finite m e)
    (hb : b.exact = .finite n l) : a.le b = decide ((m * 2 ^ e : ℚ) ≤ n * 2 ^ l) := by
  rw [le, compare?, ha, hb, Exact.compare?_finite, Option.any_some, Bool.eq_iff_iff,
    decide_eq_true_iff, Ordering.isLE_iff_ne_gt]
  exact compare_le_iff_le

/-- Between the bounds, the integer parts are compared, and then what is cut off. -/
theorem compareInteger?_between {i : Int} {d : Double} {m e : Int} (hd : d.exact = .finite m e)
    (hnan : d.isNaN = false) (hlower : wordBound.le d = false)
    (hupper : d.le wordBound.neg = false) :
    d.compareInteger? i = some (compare (i : ℚ) (m * 2 ^ e)) := by
  obtain ⟨whole, n, l, hwhole, hcut, hsum, hgreater, hless⟩ := Exact.trunc?_add_cut? m e
  unfold compareInteger?
  simp only [hnan, hlower, hupper, Bool.false_eq_true, ↓reduceIte, trunc?, hd, hwhole, hcut]
  rw [hsum]
  rcases lt_trichotomy i whole with hlt | rfl | hgt
  · have hstep : (i : ℚ) + 1 ≤ whole := by exact_mod_cast hlt
    rw [compare_lt_iff_lt.mpr hlt]
    exact congrArg some (compare_lt_iff_lt.mpr (by linarith)).symm
  · rw [compare_eq_iff_eq.mpr rfl]
    have hcompare : compare (i : ℚ) (i + n * 2 ^ l) = compare (0 : ℚ) (n * 2 ^ l) := by
      rw [← cmp_eq_compare, ← cmp_eq_compare, ← cmp_add_left (i : ℚ) 0, add_zero]
    rw [hcompare, zero_exact]
    change (Exact.finite 0 (-1074)).compare? (.finite n l) = _
    rw [Exact.compare?_finite, Int.cast_zero, zero_mul]
  · have hstep : (whole : ℚ) + 1 ≤ i := by exact_mod_cast hgt
    rw [compare_gt_iff_gt.mpr hgt]
    exact congrArg some (compare_gt_iff_gt.mpr (by linarith)).symm

/-- An integer that is below the bound in magnitude is compared with a finite double as
with the number that this stands for. -/
theorem compareInteger?_finite {i : Int} {d : Double} {m e : Int} (hd : d.exact = .finite m e)
    (hlower : -18446744073709551616 < i) (hupper : i < 18446744073709551616) :
    d.compareInteger? i = some (compare (i : ℚ) (m * 2 ^ e)) := by
  have hnan : d.isNaN = false := by
    rw [Bool.eq_false_iff, Ne, isNaN_iff, hd]
    exact nofun
  have hbelow : (i : ℚ) < 18446744073709551616 := by exact_mod_cast hupper
  have habove : (-18446744073709551616 : ℚ) < i := by exact_mod_cast hlower
  have hle := le_eq_decide wordBound_exact hd
  have hge := le_eq_decide hd neg_wordBound_exact
  norm_num at hle hge
  by_cases hlarge : (18446744073709551616 : ℚ) ≤ m * 2 ^ e
  · rw [decide_eq_true hlarge] at hle
    rw [compare_lt_iff_lt.mpr (hbelow.trans_le hlarge), compareInteger?]
    simp only [hnan, hle, Bool.false_eq_true, ↓reduceIte]
  · rw [decide_eq_false hlarge] at hle
    by_cases hsmall : (m * 2 ^ e : ℚ) ≤ -18446744073709551616
    · rw [decide_eq_true hsmall] at hge
      rw [compare_gt_iff_gt.mpr (hsmall.trans_lt habove), compareInteger?]
      simp only [hnan, hle, hge, Bool.false_eq_true, ↓reduceIte]
    · rw [decide_eq_false hsmall] at hge
      exact compareInteger?_between hd hnan hle hge

/-- Comparing an integer with a double by parts is comparing the exact numbers. -/
theorem compareInteger?_eq {i : Int} (hlower : -18446744073709551616 < i)
    (hupper : i < 18446744073709551616) (d : Double) :
    d.compareInteger? i = (Exact.ofInt i).compare? d.exact := by
  cases hd : d.exact with
  | nan => simp [compareInteger?, isNaN_iff.mpr hd, Exact.ofInt, Exact.compare?]
  | infinite negative =>
      have hnan : d.isNaN = false := by
        rw [Bool.eq_false_iff, Ne, isNaN_iff, hd]
        exact nofun
      unfold compareInteger?
      simp only [hnan, le, compare?, hd, wordBound_exact, neg_wordBound_exact]
      cases negative <;> rfl
  | finite m e => rw [Exact.compare?_ofInt, compareInteger?_finite hd hlower hupper]

end Double

namespace Number

/-- The exact number that a number of any type is. -/
def exact : Number → Exact
  | .integer i => .ofInt i
  | .double d => d.exact

/-- Whether an integer is below the bound in magnitude, as those of both types are. -/
def IsWord : Number → Prop
  | .integer i => -18446744073709551616 < i ∧ i < 18446744073709551616
  | .double _ => True

/-- Numbers of all types are compared as the exact numbers that they are. -/
theorem compare?_eq {x y : Number} (hx : x.IsWord) (hy : y.IsWord) :
    x.compare? y = x.exact.compare? y.exact := by
  cases x with
  | integer i =>
      cases y with
      | integer j =>
          have hcompare : compare (i : ℚ) (j * 2 ^ (0 : ℤ)) = compare i j := by
            rw [zpow_zero, mul_one, ← cmp_eq_compare, Int.cast_strictMono.cmp_map_eq,
              cmp_eq_compare]
          exact (congrArg some hcompare.symm).trans (Exact.compare?_ofInt i j 0).symm
      | double d => exact Double.compareInteger?_eq hx.1 hx.2 d
  | double d =>
      cases y with
      | integer j =>
          rw [compare?, Double.compareInteger?_eq hy.1 hy.2, ← Exact.compare?_swap]
          rfl
      | double d' => rfl

end Number

end CommonExpr
