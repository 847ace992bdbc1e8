import CommonExpr.Text.Search
import Mathlib.Order.Bounds.Basic

/-!
Where a text occurs in another.

Main statement: a search finds the least place at which a text occurs, a search from the
end the greatest one up to a limit, and either finds nothing only if there is no such place.
-/

namespace CommonExpr.Text

/-- Whether `sub` stands in `s` behind the first `i` elements. -/
def OccursAt {α : Type} (sub s : List α) (i : Nat) : Prop :=
  ∃ before after, s = before ++ sub ++ after ∧ before.length = i

section

variable {α : Type} {sub s : List α} {c : α} {i : Nat}

theorem occursAt_iff_drop : OccursAt sub s i ↔ i ≤ s.length ∧ sub <+: s.drop i := by
  constructor
  · rintro ⟨before, after, rfl, rfl⟩
    rw [List.append_assoc, List.drop_left]
    exact ⟨by simp, List.prefix_append sub after⟩
  · rintro ⟨hi, after, hafter⟩
    refine ⟨s.take i, after, ?_, List.length_take_of_le hi⟩
    rw [List.append_assoc, hafter, List.take_append_drop]

theorem OccursAt.le (hi : OccursAt sub s i) : i + sub.length ≤ s.length := by
  obtain ⟨before, after, rfl, rfl⟩ := hi
  simp

theorem occursAt_zero : OccursAt sub s 0 ↔ sub <+: s := by
  simp [occursAt_iff_drop]

theorem occursAt_nil : OccursAt sub [] i ↔ sub = [] ∧ i = 0 := by
  simp [occursAt_iff_drop, and_comm]

theorem occursAt_succ : OccursAt sub (c :: s) (i + 1) ↔ OccursAt sub s i := by
  simp [occursAt_iff_drop]

/-- The empty text stands everywhere. -/
theorem nil_occursAt : OccursAt [] s i ↔ i ≤ s.length := by
  simp [occursAt_iff_drop]

theorem occursAt_drop (hi : i ≤ s.length) {j : Nat} :
    OccursAt sub (s.drop i) j ↔ OccursAt sub s (i + j) := by
  rw [occursAt_iff_drop, occursAt_iff_drop, List.drop_drop, List.length_drop]
  refine and_congr_left fun _ => ?_
  omega

theorem occursAt_take {n : Nat} :
    OccursAt sub (s.take n) i ↔ OccursAt sub s i ∧ i + sub.length ≤ n := by
  constructor
  · rintro ⟨before, after, htake, rfl⟩
    have hlength := congrArg List.length htake
    rw [List.length_take, List.length_append, List.length_append] at hlength
    refine ⟨⟨before, after ++ s.drop n, ?_, rfl⟩, by omega⟩
    rw [← List.append_assoc, ← htake, List.take_append_drop]
  · rintro ⟨⟨before, after, rfl, rfl⟩, hn⟩
    refine ⟨before, after.take (n - (before ++ sub).length), ?_, rfl⟩
    rw [List.take_append, List.take_of_length_le (by simpa using hn)]

end

variable {sub s : List Char} {base last i : Nat}

theorem startsWith_iff : startsWith s sub = true ↔ sub <+: s := by
  fun_induction startsWith s sub with
  | case1 => simp
  | case2 => simp
  | case3 a s b sub ih => rw [Bool.and_eq_true, ih, List.cons_prefix_cons, beq_iff_eq, eq_comm]

theorem startsWith_iff_zero : startsWith s sub = true ↔ OccursAt sub s 0 :=
  startsWith_iff.trans occursAt_zero.symm

/-! Searching from the start -/

theorem find?_eq_none_iff : find? sub base s = none ↔ ∀ j, ¬ OccursAt sub s j := by
  induction s generalizing base with
  | nil => simp [find?, occursAt_nil]
  | cons c s ih =>
      rw [find?]
      split
      · next hstart =>
          refine iff_of_false nofun fun hnone => ?_
          exact hnone 0 (startsWith_iff_zero.mp hstart)
      · next hstart =>
          rw [startsWith_iff_zero] at hstart
          rw [ih]
          constructor
          · rintro hnone (_ | j) hj
            · exact hstart hj
            · exact hnone j (occursAt_succ.mp hj)
          · intro hnone j hj
            exact hnone (j + 1) (occursAt_succ.mpr hj)

/-- A search from the start finds the least place. -/
theorem find?_isLeast (hfind : find? sub base s = some i) :
    ∃ j, i = base + j ∧ IsLeast {j | OccursAt sub s j} j := by
  induction s generalizing base with
  | nil =>
      obtain ⟨rfl, rfl⟩ : sub = [] ∧ base = i := by simpa [find?] using hfind
      exact ⟨0, rfl, occursAt_nil.mpr ⟨rfl, rfl⟩, fun _ _ => Nat.zero_le _⟩
  | cons c s ih =>
      rw [find?] at hfind
      split at hfind
      · next hstart =>
          obtain rfl := Option.some.inj hfind
          exact ⟨0, rfl, startsWith_iff_zero.mp hstart, fun _ _ => Nat.zero_le _⟩
      · next hstart =>
          rw [startsWith_iff_zero] at hstart
          obtain ⟨j, rfl, hj, hleast⟩ := ih hfind
          refine ⟨j + 1, by omega, occursAt_succ.mpr hj, ?_⟩
          rintro (_ | k) hk
          · exact absurd hk hstart
          · exact Nat.succ_le_succ (hleast (occursAt_succ.mp hk))

/-! Searching from the end -/

theorem findLast?_eq_none_iff :
    findLast? sub last base s = none ↔ ∀ j, base + j ≤ last → ¬ OccursAt sub s j := by
  induction s generalizing base with
  | nil =>
      simp only [findLast?, occursAt_nil, List.isEmpty_iff, Bool.and_eq_true, decide_eq_true_eq,
        ite_eq_right_iff, reduceCtorEq, imp_false]
      constructor
      · rintro hnone j hj ⟨hsub, rfl⟩
        exact hnone ⟨hsub, hj⟩
      · rintro hnone ⟨hsub, hbase⟩
        exact hnone 0 hbase ⟨hsub, rfl⟩
  | cons c s ih =>
      rw [findLast?]
      split
      · next i hfound =>
          have hsome : findLast? sub last (base + 1) s ≠ none := by simp [hfound]
          rw [ne_eq, ih] at hsome
          push Not at hsome
          obtain ⟨j, hj, hoccurs⟩ := hsome
          refine iff_of_false nofun fun hnone => ?_
          exact hnone (j + 1) (by omega) (occursAt_succ.mpr hoccurs)
      · next hrest =>
          rw [ih] at hrest
          simp only [Bool.and_eq_true, decide_eq_true_eq, startsWith_iff_zero, ite_eq_right_iff,
            reduceCtorEq, imp_false]
          constructor
          · rintro hstart (_ | j) hj hoccurs
            · exact hstart ⟨hoccurs, hj⟩
            · exact hrest j (by omega) (occursAt_succ.mp hoccurs)
          · rintro hnone ⟨hoccurs, hbase⟩
            exact hnone 0 hbase hoccurs

/-- A search from the end finds the greatest place up to the limit. -/
theorem findLast?_isGreatest (hfind : findLast? sub last base s = some i) :
    ∃ j, i = base + j ∧ IsGreatest {j | base + j ≤ last ∧ OccursAt sub s j} j := by
  induction s generalizing base with
  | nil =>
      obtain ⟨⟨rfl, hbase⟩, rfl⟩ : (sub = [] ∧ base ≤ last) ∧ base = i := by
        simpa [findLast?] using hfind
      refine ⟨0, rfl, ⟨hbase, occursAt_nil.mpr ⟨rfl, rfl⟩⟩, ?_⟩
      rintro j ⟨-, hj⟩
      exact (occursAt_nil.mp hj).2.le
  | cons c s ih =>
      rw [findLast?] at hfind
      split at hfind
      · next k hfound =>
          obtain rfl := Option.some.inj hfind
          obtain ⟨j, rfl, ⟨hlimit, hoccurs⟩, hgreatest⟩ := ih hfound
          refine ⟨j + 1, by omega, ⟨by omega, occursAt_succ.mpr hoccurs⟩, ?_⟩
          rintro (_ | m) ⟨hm, hmoccurs⟩
          · exact Nat.zero_le _
          · exact Nat.succ_le_succ (hgreatest ⟨by omega, occursAt_succ.mp hmoccurs⟩)
      · next hrest =>
          rw [findLast?_eq_none_iff] at hrest
          obtain ⟨⟨hstart, hbase⟩, rfl⟩ :
              (startsWith (c :: s) sub = true ∧ base ≤ last) ∧ base = i := by
            simpa using hfind
          refine ⟨0, rfl, ⟨hbase, startsWith_iff_zero.mp hstart⟩, ?_⟩
          rintro (_ | m) ⟨hm, hmoccurs⟩
          · exact le_rfl
          · exact absurd (occursAt_succ.mp hmoccurs) (hrest m (by omega))

end CommonExpr.Text
