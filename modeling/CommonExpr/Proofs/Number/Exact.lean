import CommonExpr.Number.Double
import Mathlib.Algebra.Order.Field.Power
import Mathlib.Data.Rat.Cast.Order
import Mathlib.Order.WithBot

/-!
What exact numbers stand for: rational numbers, and two infinities around them.

Main statement: comparing exact numbers compares what they stand for, and gives
nothing just where one of them stands for nothing.
-/

namespace CommonExpr

/-- A rational number or an infinity. -/
abbrev ExtendedRat := WithBot (WithTop ℚ)

namespace Exact

/-- The number that is stood for, `none` for not-a-number. -/
def value? : Exact → Option ExtendedRat
  | .nan => none
  | .infinite true => some ⊥
  | .infinite false => some (⊤ : WithTop ℚ)
  | .finite m e => some ((m * 2 ^ e : ℚ) : WithTop ℚ)

theorem cast_twoTo (n : Nat) : ((twoTo n : ℤ) : ℚ) = 2 ^ (n : ℤ) := by
  rw [twoTo, Nat.pow_eq, zpow_natCast]
  push_cast
  rfl

/-- A number brought to a smaller exponent. -/
theorem scaled_mul (m : Int) {e low : Int} (hlow : low ≤ e) :
    ((m * twoTo (e - low).toNat : ℤ) : ℚ) * 2 ^ low = m * 2 ^ e := by
  rw [Int.cast_mul, cast_twoTo, Int.toNat_of_nonneg (Int.sub_nonneg_of_le hlow), mul_assoc,
    ← zpow_add₀ (by norm_num), sub_add_cancel]

theorem compareScaled_eq (m₁ e₁ m₂ e₂ : Int) :
    compareScaled m₁ e₁ m₂ e₂ = compare (m₁ * 2 ^ e₁ : ℚ) (m₂ * 2 ^ e₂ : ℚ) := by
  have hpos : (0 : ℚ) < 2 ^ min e₁ e₂ := zpow_pos (by norm_num) _
  rw [← scaled_mul m₁ (min_le_left e₁ e₂), ← scaled_mul m₂ (min_le_right e₁ e₂),
    ← cmp_eq_compare, cmp_mul_pos_right hpos, Int.cast_strictMono.cmp_map_eq, cmp_eq_compare]
  rfl

theorem compare_coe (a b : ℚ) :
    compare ((a : WithTop ℚ) : ExtendedRat) ((b : WithTop ℚ) : ExtendedRat) = compare a b := by
  rw [← cmp_eq_compare, WithBot.coe_strictMono.cmp_map_eq, WithTop.coe_strictMono.cmp_map_eq,
    cmp_eq_compare]

theorem compare?_eq (x y : Exact) : x.compare? y = Option.map₂ compare x.value? y.value? := by
  cases x with
  | nan => rfl
  | infinite negative =>
      cases y with
      | nan => cases negative <;> rfl
      | infinite negative' => cases negative <;> cases negative' <;> rfl
      | finite m e => cases negative <;> rfl
  | finite m e =>
      cases y with
      | nan => rfl
      | infinite negative => cases negative <;> rfl
      | finite m' e' =>
          exact congrArg some ((compareScaled_eq m e m' e').trans (compare_coe _ _).symm)

/-- Numbers are equal if they stand for the same. -/
theorem compare?_eq_eq_iff {x y : Exact} :
    x.compare? y = some .eq ↔ ∃ a, x.value? = some a ∧ y.value? = some a := by
  rw [compare?_eq, Option.map₂_eq_some_iff]
  constructor
  · rintro ⟨a, b, ha, hb, hab⟩
    exact ⟨a, ha, compare_eq_iff_eq.mp hab ▸ hb⟩
  · rintro ⟨a, hx, hy⟩
    exact ⟨a, a, hx, hy, compare_eq_iff_eq.mpr rfl⟩

end Exact

end CommonExpr
