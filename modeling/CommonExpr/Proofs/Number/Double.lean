import CommonExpr.Proofs.Number.Comparison

/-!
What the bits of doubles stand for.

A finite double is a whole number of the smallest steps between doubles.  Main
statements: a number is an integer if it stands for one, and doubles that stand for one
number other than zero have the same bits.
-/

namespace CommonExpr

/-- The integer that an exact number is, is the one that it stands for. -/
theorem Exact.integer?_eq_some_iff {x : Exact} {i : Int} :
    x.integer? = some i ↔ x.value? = some (((i : ℚ) : WithTop ℚ) : ExtendedRat) := by
  cases x with
  | nan => exact ⟨nofun, nofun⟩
  | infinite negative => cases negative <;> exact ⟨nofun, nofun⟩
  | finite m e =>
      have hvalue : (finite m e).value? = some (((i : ℚ) : WithTop ℚ) : ExtendedRat) ↔
          (m * 2 ^ e : ℚ) = i := by
        rw [value?, Option.some_inj, WithBot.coe_inj, WithTop.coe_inj]
      rw [hvalue, integer?]
      by_cases he : 0 ≤ e
      · have hscaled := scaled_mul m he
        rw [sub_zero, zpow_zero, mul_one] at hscaled
        rw [if_pos he, ← hscaled, Option.some_inj, Int.cast_inj]
      · rw [if_neg he]
        have hk : (0 : Int) < twoTo (-e).toNat := Int.natCast_pos.mpr (twoTo_pos _)
        have hunit : ((twoTo (-e).toNat : ℤ) : ℚ) * 2 ^ e = 1 := by
          rw [cast_twoTo, Int.toNat_of_nonneg (by omega), ← zpow_add₀ (by norm_num)]
          simp
        generalize (twoTo (-e).toNat : ℤ) = k at hk hunit
        have hmul : (m * 2 ^ e : ℚ) = i ↔ m = i * k := by
          constructor
          · intro hi
            have hcast : (m : ℚ) = (i * k : ℤ) := by
              rw [Int.cast_mul, ← hi, mul_assoc, mul_comm (2 ^ e), hunit, mul_one]
            exact Int.cast_injective hcast
          · rintro rfl
            rw [Int.cast_mul, mul_assoc, hunit, mul_one]
        rw [hmul]
        split
        · next hdvd =>
            obtain ⟨j, rfl⟩ := Int.dvd_of_emod_eq_zero hdvd
            rw [Int.mul_ediv_cancel_left j hk.ne', Option.some_inj, mul_comm k,
              Int.mul_eq_mul_right_iff hk.ne']
        · next hdvd =>
            refine ⟨nofun, ?_⟩
            rintro rfl
            exact absurd (Int.mul_emod_left i k) hdvd

theorem Exact.infinite_value?_ne (negative : Bool) (q : ℚ) :
    (infinite negative).value? ≠ some ((q : WithTop ℚ) : ExtendedRat) := by
  cases negative <;> simp [value?]

theorem Exact.infinite_value?_inj {negative negative' : Bool}
    (hvalue : (infinite negative).value? = (infinite negative').value?) :
    negative = negative' := by
  cases negative <;> cases negative' <;> simp [value?] at hvalue ⊢

namespace Double

theorem fraction_lt (d : Double) : d.fraction < twoTo 52 := Nat.mod_lt _ (twoTo_pos 52)

theorem bits_eq (d : Double) :
    d.bits.toNat = (if d.negative then twoTo 63 else 0) + d.biased * twoTo 52 + d.fraction := by
  have hlt := d.bits.toNat_lt
  have h63 : twoTo 63 = 9223372036854775808 := rfl
  have h52 : twoTo 52 = 4503599627370496 := rfl
  have h11 : twoTo 11 = 2048 := rfl
  simp only [negative, biased, fraction, decide_eq_true_eq, h63, h52, h11]
  split <;> omega

theorem ext_of_parts {d d' : Double} (hsign : d.negative = d'.negative)
    (hbiased : d.biased = d'.biased) (hfraction : d.fraction = d'.fraction) : d = d' := by
  have hbits : d.bits.toNat = d'.bits.toNat := by
    rw [bits_eq, bits_eq, hsign, hbiased, hfraction]
  cases d
  cases d'
  exact congrArg mk (UInt64.toNat_inj.mp hbits)

/-- The smallest step between doubles. -/
def step : ℚ := 2 ^ (-1074 : ℤ)

theorem step_pos : 0 < step := zpow_pos (by norm_num) _

/-- How many steps the magnitude of a finite double is. -/
def steps (d : Double) : Nat :=
  if d.biased = 0 then d.fraction else (d.fraction + twoTo 52) * twoTo (d.biased - 1)

/-- The steps, downwards for negative doubles. -/
def signedSteps (d : Double) : Int := if d.negative then -d.steps else d.steps

theorem magnitude_eq_steps (d : Double) :
    (d.magnitude.1 * 2 ^ d.magnitude.2 : ℚ) = d.steps * step := by
  unfold magnitude steps
  split
  · rfl
  · next hnormal =>
      have hexponent : (d.biased : ℤ) - 1075 = (d.biased - 1 : ℕ) + (-1074) := by omega
      have hpower : (2 : ℚ) ^ ((d.biased : ℤ) - 1075) = (twoTo (d.biased - 1) : ℤ) * step := by
        rw [hexponent, zpow_add₀ (by norm_num), ← Exact.cast_twoTo, step]
      dsimp only
      rw [hpower, Int.cast_natCast, Nat.cast_mul, mul_assoc]

/-- A double stands for nothing, for an infinity or for its number of steps. -/
theorem value?_cases (d : Double) :
    d.exact.value? = none ∨
      (d.isInfinite = true ∧ d.exact.value? = (Exact.infinite d.negative).value?) ∨
      d.exact.value? = some (((d.signedSteps * step : ℚ) : WithTop ℚ) : ExtendedRat) := by
  unfold exact
  split
  · exact Or.inl rfl
  · split
    · next hinfinite => exact Or.inr (Or.inl ⟨hinfinite, rfl⟩)
    · have hmagnitude := d.magnitude_eq_steps
      refine Or.inr (Or.inr ?_)
      simp only [Exact.value?, signedSteps]
      split
      · rw [Int.cast_neg, neg_mul, Int.cast_natCast, hmagnitude, Int.cast_neg, neg_mul,
          Int.cast_natCast]
      · rw [Int.cast_natCast, hmagnitude, Int.cast_natCast]

theorem steps_lt (d : Double) : d.steps < twoTo 52 * twoTo d.biased := by
  unfold steps
  split
  · next hsmall => simpa [hsmall, twoTo] using d.fraction_lt
  · next hnormal =>
      have hbiased : twoTo d.biased = 2 * twoTo (d.biased - 1) := by
        rw [← twoTo_succ, Nat.sub_one_add_one hnormal]
      have hsignificand : d.fraction + twoTo 52 < twoTo 52 * 2 := by
        have hfraction := d.fraction_lt
        omega
      rw [hbiased, ← Nat.mul_assoc]
      exact Nat.mul_lt_mul_of_pos_right hsignificand (twoTo_pos _)

theorem le_steps {d : Double} (hnormal : d.biased ≠ 0) :
    twoTo 52 * twoTo (d.biased - 1) ≤ d.steps := by
  rw [steps, if_neg hnormal]
  exact Nat.mul_le_mul_right _ (Nat.le_add_left _ _)

/-- The exponent bits order doubles first. -/
theorem steps_lt_steps {d d' : Double} (hbiased : d.biased < d'.biased) : d.steps < d'.steps :=
  calc d.steps < twoTo 52 * twoTo d.biased := d.steps_lt
    _ ≤ twoTo 52 * twoTo (d'.biased - 1) :=
        Nat.mul_le_mul_left _ (Nat.pow_le_pow_right (by decide) (by omega))
    _ ≤ d'.steps := le_steps (by omega)

theorem steps_inj {d d' : Double} (hsteps : d.steps = d'.steps) :
    d.biased = d'.biased ∧ d.fraction = d'.fraction := by
  have hbiased : d.biased = d'.biased := by
    rcases Nat.lt_trichotomy d.biased d'.biased with hlt | heq | hgt
    · exact absurd hsteps (steps_lt_steps hlt).ne
    · exact heq
    · exact absurd hsteps (steps_lt_steps hgt).ne'
  refine ⟨hbiased, ?_⟩
  unfold steps at hsteps
  rw [hbiased] at hsteps
  split at hsteps
  · exact hsteps
  · exact Nat.add_right_cancel (Nat.mul_right_cancel (twoTo_pos _) hsteps)

theorem eq_of_isInfinite {d d' : Double} (hd : d.isInfinite = true) (hd' : d'.isInfinite = true)
    (hsign : d.negative = d'.negative) : d = d' := by
  obtain ⟨hbiased, hfraction⟩ : d.biased = 2047 ∧ d.fraction = 0 := by simpa [isInfinite] using hd
  obtain ⟨hbiased', hfraction'⟩ : d'.biased = 2047 ∧ d'.fraction = 0 := by
    simpa [isInfinite] using hd'
  exact ext_of_parts hsign (hbiased.trans hbiased'.symm) (hfraction.trans hfraction'.symm)

theorem eq_of_signedSteps {d d' : Double} (hsteps : d.signedSteps = d'.signedSteps)
    (hzero : d.signedSteps ≠ 0) : d = d' := by
  have hparts : d.negative = d'.negative ∧ d.steps = d'.steps := by
    unfold signedSteps at hsteps hzero
    cases hd : d.negative <;> cases hd' : d'.negative <;> simp [hd, hd'] at hsteps hzero ⊢ <;> omega
  obtain ⟨hbiased, hfraction⟩ := steps_inj hparts.2
  exact ext_of_parts hparts.1 hbiased hfraction

/-- Doubles that stand for one number other than zero have the same bits. -/
theorem eq_of_value? {d d' : Double} {x : ExtendedRat} (hd : d.exact.value? = some x)
    (hd' : d'.exact.value? = some x) (hzero : x ≠ (((0 : ℚ) : WithTop ℚ) : ExtendedRat)) :
    d = d' := by
  have hsame : d.exact.value? = d'.exact.value? := hd.trans hd'.symm
  rcases d.value?_cases with hnone | ⟨hinfinite, hvalue⟩ | hvalue
  · cases hd.symm.trans hnone
  · rcases d'.value?_cases with hnone' | ⟨hinfinite', hvalue'⟩ | hvalue'
    · cases hd'.symm.trans hnone'
    · rw [hvalue, hvalue'] at hsame
      exact eq_of_isInfinite hinfinite hinfinite' (Exact.infinite_value?_inj hsame)
    · exact absurd (hvalue.symm.trans (hsame.trans hvalue')) (Exact.infinite_value?_ne _ _)
  · rcases d'.value?_cases with hnone' | ⟨hinfinite', hvalue'⟩ | hvalue'
    · cases hd'.symm.trans hnone'
    · exact absurd (hvalue'.symm.trans (hsame.symm.trans hvalue)) (Exact.infinite_value?_ne _ _)
    · have hproducts : (d.signedSteps * step : ℚ) = d'.signedSteps * step := by
        simpa only [hvalue, hvalue', Option.some_inj, WithBot.coe_inj, WithTop.coe_inj] using hsame
      refine eq_of_signedSteps
        (Int.cast_injective (mul_right_cancel₀ step_pos.ne' hproducts)) fun hnone => hzero ?_
      rw [← Option.some_inj, ← hd, hvalue, hnone, Int.cast_zero, zero_mul]

end Double

end CommonExpr
