import CommonExpr.Time.Written
import Mathlib.Algebra.Order.Floor.Semiring
import Mathlib.Data.Rat.Floor
import Mathlib.Tactic.FieldSimp
import Mathlib.Tactic.Linarith
import Mathlib.Tactic.Ring

/-!
Decimals of a unit of time.

A digit after the point counts as often as its place has whole nanoseconds.  Main statement:
what a decimal counts is its exact value without what the places lose together, and nothing
comes of it only if that count needs more than a machine word.
-/

namespace CommonExpr

/-- What a character counts as a digit. -/
def digitWorth (c : Char) : Nat := (digitValue? c).getD 0

theorem digitWorth_le (c : Char) : digitWorth c ≤ 9 := by
  unfold digitWorth digitValue?
  split
  · next hdigit =>
      have hnine : c.toNat ≤ '9'.toNat := hdigit.2
      have hvalue : '9'.toNat = 57 ∧ '0'.toNat = 48 := by decide
      rw [Option.getD_some]
      omega
  · exact Nat.zero_le 9

theorem foldl_digits (n : Nat) (cs : List Char) :
    cs.foldl (fun n c => n * 10 + (digitValue? c).getD 0) n =
      n * 10 ^ cs.length + digitsValue cs := by
  unfold digitsValue
  induction cs generalizing n with
  | nil => simp
  | cons c rest ih =>
      rw [List.foldl_cons, List.foldl_cons, ih, ih (0 * 10 + _), List.length_cons, pow_succ]
      ring

theorem digitsValue_cons (c : Char) (rest : List Char) :
    digitsValue (c :: rest) = digitWorth c * 10 ^ rest.length + digitsValue rest := by
  rw [digitsValue, List.foldl_cons, foldl_digits, Nat.zero_mul, Nat.zero_add, digitWorth]

theorem digitsValue_lt (cs : List Char) : digitsValue cs < 10 ^ cs.length := by
  induction cs with
  | nil => exact Nat.one_pos
  | cons c rest ih =>
      have hworth : digitWorth c * 10 ^ rest.length ≤ 9 * 10 ^ rest.length :=
        Nat.mul_le_mul_right _ (digitWorth_le c)
      rw [digitsValue_cons, List.length_cons, pow_succ]
      omega

/-! Digits at places -/

section Places

variable {R : Type} [Semiring R]

/-- The sum of digits, each times the weight of its place. -/
def placeSum (weight : Nat → R) : Nat → List Char → R
  | _, [] => 0
  | place, c :: rest => digitWorth c * weight place + placeSum weight (place + 1) rest

theorem placeSum_add (v w : Nat → R) (place : Nat) (cs : List Char) :
    placeSum (fun i => v i + w i) place cs = placeSum v place cs + placeSum w place cs := by
  induction cs generalizing place with
  | nil => exact (add_zero 0).symm
  | cons c rest ih =>
      simp only [placeSum, ih, mul_add]
      exact add_add_add_comm _ _ _ _

theorem placeSum_congr {v w : Nat → R} {place : Nat} (heq : ∀ i, place ≤ i → v i = w i)
    (cs : List Char) : placeSum v place cs = placeSum w place cs := by
  induction cs generalizing place with
  | nil => rfl
  | cons c rest ih =>
      simp only [placeSum, heq place le_rfl, ih fun i hi => heq i (Nat.le_of_succ_le hi)]

theorem placeSum_zero (place : Nat) (cs : List Char) :
    placeSum (fun _ => (0 : R)) place cs = 0 := by
  induction cs generalizing place with
  | nil => rfl
  | cons c rest ih => rw [placeSum, ih, mul_zero, add_zero]

/-- Digits at places without weight may be dropped. -/
theorem placeSum_drop {w : Nat → R} {count place : Nat}
    (hzero : ∀ i, place ≤ i → i < place + count → w i = 0) (cs : List Char) :
    placeSum w place cs = placeSum w (place + count) (cs.drop count) := by
  induction count generalizing place cs with
  | zero => rfl
  | succ count ih =>
      cases cs with
      | nil => rfl
      | cons c rest =>
          have hlater : ∀ i, place + 1 ≤ i → i < place + 1 + count → w i = 0 :=
            fun i hi hi' => hzero i (by omega) (by omega)
          rw [placeSum, hzero place le_rfl (by omega), mul_zero, zero_add, ih hlater rest,
            List.drop_succ_cons]
          congr 1
          omega

end Places

theorem placeSum_cast (w : Nat → Nat) (place : Nat) (cs : List Char) :
    ((placeSum w place cs : Nat) : ℚ) = placeSum (fun i => (w i : ℚ)) place cs := by
  induction cs generalizing place with
  | nil => exact Nat.cast_zero
  | cons c rest ih => simp only [placeSum, Nat.cast_id, Nat.cast_add, Nat.cast_mul, ih]

/-- Weights that fall by tens make a decimal fraction. -/
theorem placeSum_tenths (x : ℚ) (place : Nat) (cs : List Char) :
    placeSum (fun i => x / 10 ^ i) (place + 1) cs =
      x / 10 ^ place * (digitsValue cs / 10 ^ cs.length) := by
  induction cs generalizing place with
  | nil => simp [placeSum, digitsValue]
  | cons c rest ih =>
      rw [placeSum, ih, digitsValue_cons, List.length_cons]
      push_cast
      field_simp
      ring

/-! What a decimal counts -/

section Decimals

variable (whole fraction : List Char) (scale : Nat)

/-- The exact nanoseconds of `whole.fraction` units. -/
def exactNanos : ℚ := (digitsValue whole + digitsValue fraction / 10 ^ fraction.length) * scale

/-- The nanoseconds when the places after the point have whole nanoseconds only. -/
def countedNanos : Nat :=
  digitsValue whole * scale + placeSum (fun i => scale / 10 ^ i) 1 fraction

/-- What digits after the point lose at places that are no whole nanoseconds. -/
def lostNanos : ℚ := placeSum (fun i => ((scale % 10 ^ i : Nat) : ℚ) / 10 ^ i) 1 fraction

theorem exactNanos_eq :
    exactNanos whole fraction scale =
      countedNanos whole fraction scale + lostNanos fraction scale := by
  have hplace : ∀ i, (scale : ℚ) / 10 ^ i =
      ((scale / 10 ^ i : Nat) : ℚ) + ((scale % 10 ^ i : Nat) : ℚ) / 10 ^ i := by
    intro i
    have hdivmod : (scale : ℚ) =
        10 ^ i * ((scale / 10 ^ i : Nat) : ℚ) + ((scale % 10 ^ i : Nat) : ℚ) := by
      exact_mod_cast (Nat.div_add_mod scale (10 ^ i)).symm
    field_simp
    linarith
  have hfraction : placeSum (fun i => (scale : ℚ) / 10 ^ i) 1 fraction =
      scale * (digitsValue fraction / 10 ^ fraction.length) := by
    rw [placeSum_tenths scale 0, pow_zero, div_one]
  rw [placeSum_congr (fun i _ => hplace i), placeSum_add] at hfraction
  rw [exactNanos, countedNanos, lostNanos, Nat.cast_add, Nat.cast_mul, placeSum_cast]
  linarith

theorem lostNanos_nonneg : 0 ≤ lostNanos fraction scale := by
  unfold lostNanos
  generalize 1 = place
  induction fraction generalizing place with
  | nil => exact le_rfl
  | cons c rest ih =>
      have hrest := ih (place + 1)
      rw [placeSum]
      positivity

/-- What is counted falls short of the exact value by what is lost. -/
theorem floor_exactNanos :
    ⌊exactNanos whole fraction scale⌋₊ =
      countedNanos whole fraction scale + ⌊lostNanos fraction scale⌋₊ := by
  rw [exactNanos_eq, add_comm, Nat.floor_add_natCast (lostNanos_nonneg fraction scale),
    Nat.add_comm]

variable {fraction scale}

/-- Only places past the tens in the unit lose anything. -/
theorem lostNanos_drop {count : Nat} (htens : 10 ^ count ∣ scale) :
    lostNanos fraction scale = placeSum (fun i => ((scale % 10 ^ i : Nat) : ℚ) / 10 ^ i) (count + 1)
      (fraction.drop count) := by
  have hwhole : ∀ i, 1 ≤ i → i < 1 + count → ((scale % 10 ^ i : Nat) : ℚ) / 10 ^ i = 0 := by
    intro i _ hi
    have hdvd : 10 ^ i ∣ scale := (Nat.pow_dvd_pow 10 (by omega)).trans htens
    rw [Nat.mod_eq_zero_of_dvd hdvd, Nat.cast_zero, zero_div]
  rw [lostNanos, placeSum_drop hwhole, Nat.add_comm 1 count]

theorem lostNanos_eq_zero {count : Nat} (htens : 10 ^ count ∣ scale)
    (hlength : fraction.length ≤ count) : lostNanos fraction scale = 0 := by
  rw [lostNanos_drop htens, List.drop_of_length_le hlength, placeSum]

/-- A unit of tens of nanoseconds loses less than one however long the fraction. -/
theorem lostNanos_lt_one (count : Nat) : lostNanos fraction (10 ^ count) < 1 := by
  have hweight : ∀ i, count + 1 ≤ i →
      ((10 ^ count % 10 ^ i : Nat) : ℚ) / 10 ^ i = (10 ^ count : ℚ) / 10 ^ i := by
    intro i hi
    rw [Nat.mod_eq_of_lt (Nat.pow_lt_pow_right (by decide) hi), Nat.cast_pow, Nat.cast_ofNat]
  have hlt : (digitsValue (fraction.drop count) : ℚ) < 10 ^ (fraction.drop count).length := by
    exact_mod_cast digitsValue_lt (fraction.drop count)
  rw [lostNanos_drop dvd_rfl, placeSum_congr hweight, placeSum_tenths, div_self (by positivity),
    one_mul]
  exact (div_lt_one (by positivity)).mpr hlt

/-- A fraction of places that are whole nanoseconds counts in full. -/
theorem countedNanos_of_length {count : Nat} (hlength : fraction.length ≤ count) :
    countedNanos whole fraction (10 ^ count) =
      digitsValue whole * 10 ^ count + digitsValue fraction * 10 ^ (count - fraction.length) := by
  have hpow : (10 : ℚ) ^ count = 10 ^ (count - fraction.length) * 10 ^ fraction.length := by
    rw [← pow_add, Nat.sub_add_cancel hlength]
  have hexact := exactNanos_eq whole fraction (10 ^ count)
  rw [lostNanos_eq_zero dvd_rfl hlength, add_zero, exactNanos] at hexact
  have hcast : ((countedNanos whole fraction (10 ^ count) : Nat) : ℚ) =
      ((digitsValue whole * 10 ^ count +
        digitsValue fraction * 10 ^ (count - fraction.length) : Nat) : ℚ) := by
    rw [← hexact]
    push_cast
    rw [add_mul, hpow]
    field_simp
  exact_mod_cast hcast

end Decimals

/-! Counting in a machine word -/

theorem fits128_bind_eq {n : Nat} {f : Nat → Option Nat} {m : Nat} (hle : n ≤ m)
    (hf : n < 170141183460469231731687303715884105728 → f n = fits128 m) :
    (fits128 n).bind f = fits128 m := by
  by_cases hn : n < 170141183460469231731687303715884105728
  · rw [fits128, if_pos hn, Option.bind_some, hf hn]
  · rw [fits128, if_neg hn, fits128, if_neg (by omega), Option.bind_none]

theorem fits128_eq_none {n : Nat} :
    fits128 n = none ↔ 170141183460469231731687303715884105728 ≤ n := by
  unfold fits128
  split
  · next hn => exact iff_of_false (by simp) (by omega)
  · next hn => exact iff_of_true rfl (by omega)

theorem eq_of_fits128 {n m : Nat} (hn : fits128 n = some m) : n = m := by
  unfold fits128 at hn
  split at hn
  · exact Option.some.inj hn
  · cases hn

theorem wholeNanos_eq {acc : Nat} (hacc : acc < 170141183460469231731687303715884105728)
    (cs : List Char) : wholeNanos acc cs = fits128 (acc * 10 ^ cs.length + digitsValue cs) := by
  induction cs generalizing acc with
  | nil => simp [wholeNanos, fits128, digitsValue, hacc]
  | cons c rest ih =>
      have hsum : acc * 10 ^ (c :: rest).length + digitsValue (c :: rest) =
          (acc * 10 + digitWorth c) * 10 ^ rest.length + digitsValue rest := by
        rw [digitsValue_cons, List.length_cons, pow_succ]
        ring
      have hpos : 0 < 10 ^ rest.length := Nat.pow_pos (by decide)
      have hle : acc * 10 + digitWorth c ≤
          (acc * 10 + digitWorth c) * 10 ^ rest.length + digitsValue rest :=
        (Nat.le_mul_of_pos_right _ hpos).trans (Nat.le_add_right _ _)
      rw [hsum]
      exact fits128_bind_eq (by omega) fun _ => fits128_bind_eq hle fun hnext => ih hnext

theorem placeNanos_eq (scale place : Nat) {acc : Nat}
    (hacc : acc < 170141183460469231731687303715884105728) (cs : List Char) :
    placeNanos (scale / 10 ^ place) acc cs =
      fits128 (acc + placeSum (fun i => scale / 10 ^ i) (place + 1) cs) := by
  induction cs generalizing acc place with
  | nil => simp [placeNanos, placeSum, fits128, hacc]
  | cons c rest ih =>
      have hnext : scale / 10 ^ place / 10 = scale / 10 ^ (place + 1) := by
        rw [Nat.div_div_eq_div_mul, pow_succ]
      simp only [placeNanos, hnext]
      split
      · next hzero =>
          -- once a place has no whole nanosecond, no later one has
          have hlater : ∀ i, place + 1 ≤ i → scale / 10 ^ i = 0 := by
            intro i hi
            have hlt := (Nat.div_eq_zero_iff_lt (by positivity)).mp hzero
            exact Nat.div_eq_of_lt (hlt.trans_le (Nat.pow_le_pow_right (by decide) hi))
          rw [placeSum_congr hlater, placeSum_zero, Nat.add_zero, fits128, if_pos hacc]
      · refine fits128_bind_eq ?_ fun hsum => ?_
        · simp only [placeSum, digitWorth, Nat.cast_id]
          omega
        · rw [ih (place + 1) hsum]
          simp only [placeSum, digitWorth, Nat.cast_id, Nat.add_assoc]

theorem decimalNanos_eq {scale : Nat} (hscale : 0 < scale) (whole fraction : List Char) :
    decimalNanos whole fraction scale = fits128 (countedNanos whole fraction scale) := by
  have hunits : digitsValue whole ≤ digitsValue whole * scale := Nat.le_mul_of_pos_right _ hscale
  rw [decimalNanos, wholeNanos_eq (by decide), Nat.zero_mul, Nat.zero_add, countedNanos]
  refine fits128_bind_eq (by omega) fun _ => fits128_bind_eq (by omega) fun hnanos => ?_
  have hplaces := placeNanos_eq scale 0 hnanos fraction
  rwa [pow_zero, Nat.div_one] at hplaces

end CommonExpr
