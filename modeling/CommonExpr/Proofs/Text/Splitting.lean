import CommonExpr.Proofs.Text.Occurrence

/-!
Texts cut at a separator.

Main statement: the pieces with the separator between them are the text again, with another
text between them what replacement makes of it, and if there are cuts enough no piece has an
occurrence of the separator.
-/

namespace CommonExpr.Text

variable {sub s before after new : List Char} {cuts : Nat}

/-! Cutting once -/

theorem cut?_eq_none_iff : cut? sub s = none ↔ ∀ i, ¬ OccursAt sub s i := by
  rw [cut?, Option.map_eq_none_iff, find?_eq_none_iff]

theorem append_of_cut? (hcut : cut? sub s = some (before, after)) : s = before ++ sub ++ after := by
  obtain ⟨i, hi, hparts⟩ := Option.map_eq_some_iff.mp hcut
  obtain ⟨j, rfl, ⟨a, b, rfl, rfl⟩, -⟩ := find?_isLeast hi
  rw [Nat.zero_add] at hparts
  cases hparts
  rw [List.append_assoc, List.take_left, ← List.append_assoc, ← List.length_append, List.drop_left]

/-- The separator does not occur in what stands before its first occurrence. -/
theorem not_occursAt_of_cut? (hsub : sub ≠ []) (hcut : cut? sub s = some (before, after))
    (i : Nat) : ¬ OccursAt sub before i := by
  obtain ⟨j, hj, hparts⟩ := Option.map_eq_some_iff.mp hcut
  obtain ⟨j, rfl, -, hleast⟩ := find?_isLeast hj
  rw [Nat.zero_add] at hparts
  cases hparts
  intro hi
  obtain ⟨hoccurs, hlength⟩ := occursAt_take.mp hi
  have hpos := List.length_pos_iff.mpr hsub
  have hle : j ≤ i := hleast hoccurs
  omega

/-! Pieces -/

theorem splitBy_ne_nil (sub s : List Char) (cuts : Nat) : splitBy sub cuts s ≠ [] := by
  cases cuts with
  | zero => exact List.cons_ne_nil _ _
  | succ cuts =>
      rw [splitBy]
      split
      · exact List.cons_ne_nil _ _
      · exact List.cons_ne_nil _ _

theorem splitEach_go_ne_nil (s : List Char) (cuts : Nat) : splitEach.go cuts s ≠ [] := by
  fun_cases splitEach.go cuts s <;> exact List.cons_ne_nil _ _

theorem join_cons (sep piece : List Char) {rest : List (List Char)} (hrest : rest ≠ []) :
    join sep (piece :: rest) = piece ++ sep ++ join sep rest := by
  cases rest with
  | nil => exact absurd rfl hrest
  | cons => rfl

/-- Replacing is putting another text between the pieces. -/
theorem join_splitBy (sub new : List Char) (cuts : Nat) (s : List Char) :
    join new (splitBy sub cuts s) = replaceBy sub new cuts s := by
  induction cuts generalizing s with
  | zero => rfl
  | succ cuts ih =>
      rw [splitBy, replaceBy]
      split
      · rfl
      · next before after hcut => rw [join_cons new before (splitBy_ne_nil sub after cuts), ih]

theorem join_splitEach_go (new : List Char) (cuts : Nat) (s : List Char) :
    new ++ join new (splitEach.go cuts s) = replaceEach new (cuts + 1) s := by
  induction cuts generalizing s with
  | zero =>
      cases s <;> simp [splitEach.go, join, replaceEach]
  | succ cuts ih =>
      cases s with
      | nil => simp [splitEach.go, join, replaceEach]
      | cons c s =>
          rw [splitEach.go, join_cons new [c] (splitEach_go_ne_nil s cuts), List.append_assoc, ih]
          rfl

theorem join_split (s sub new : List Char) (cuts : Nat) :
    join new (split s sub cuts) = replace s sub new cuts := by
  rw [split, replace]
  split
  · cases cuts with
    | zero => rfl
    | succ cuts =>
        rw [splitEach, join_cons new [] (splitEach_go_ne_nil s cuts), List.nil_append,
          join_splitEach_go]
  · exact join_splitBy sub new cuts s

theorem replaceEach_nil (cuts : Nat) (s : List Char) : replaceEach [] cuts s = s := by
  induction s generalizing cuts with
  | nil => cases cuts <;> rfl
  | cons c s ih =>
      cases cuts with
      | zero => rfl
      | succ cuts => rw [replaceEach, ih, List.nil_append]

theorem replaceBy_self (sub : List Char) (cuts : Nat) (s : List Char) :
    replaceBy sub sub cuts s = s := by
  induction cuts generalizing s with
  | zero => rfl
  | succ cuts ih =>
      rw [replaceBy]
      split
      · rfl
      · next before after hcut => rw [ih, ← append_of_cut? hcut]

/-- A text stays what it is when the separator is put for itself. -/
theorem replace_self (s sub : List Char) (cuts : Nat) : replace s sub sub cuts = s := by
  rw [replace]
  split
  · next hsub =>
      obtain rfl := List.isEmpty_iff.mp hsub
      exact replaceEach_nil cuts s
  · exact replaceBy_self sub cuts s

theorem length_splitBy_le (sub : List Char) (cuts : Nat) (s : List Char) :
    (splitBy sub cuts s).length ≤ cuts + 1 := by
  induction cuts generalizing s with
  | zero => exact le_rfl
  | succ cuts ih =>
      rw [splitBy]
      split
      · simp
      · next before after hcut => exact Nat.succ_le_succ (ih after)

theorem length_splitEach_go_le (cuts : Nat) (s : List Char) :
    (splitEach.go cuts s).length ≤ cuts + 1 := by
  induction cuts generalizing s with
  | zero => exact le_rfl
  | succ cuts ih =>
      cases s with
      | nil => simp [splitEach.go]
      | cons c s => exact Nat.succ_le_succ (ih s)

theorem length_split_le (s sub : List Char) (cuts : Nat) :
    (split s sub cuts).length ≤ cuts + 1 := by
  rw [split]
  split
  · cases cuts with
    | zero => exact le_rfl
    | succ cuts => exact Nat.succ_le_succ (length_splitEach_go_le cuts s)
  · exact length_splitBy_le sub cuts s

/-- No piece has an occurrence of the separator, if there are as many cuts as characters. -/
theorem not_occursAt_of_mem_splitBy (hsub : sub ≠ []) (hcuts : s.length ≤ cuts)
    {piece : List Char} (hpiece : piece ∈ splitBy sub cuts s) (i : Nat) :
    ¬ OccursAt sub piece i := by
  induction cuts generalizing s with
  | zero =>
      obtain rfl := List.eq_nil_of_length_eq_zero (Nat.le_zero.mp hcuts)
      obtain rfl := List.mem_singleton.mp hpiece
      exact fun hi => hsub (occursAt_nil.mp hi).1
  | succ cuts ih =>
      rw [splitBy] at hpiece
      split at hpiece
      · next hcut =>
          obtain rfl := List.mem_singleton.mp hpiece
          exact cut?_eq_none_iff.mp hcut i
      · next before after hcut =>
          rcases List.mem_cons.mp hpiece with rfl | hrest
          · exact not_occursAt_of_cut? hsub hcut i
          · have hlength := congrArg List.length (append_of_cut? hcut)
            have hpos := List.length_pos_iff.mpr hsub
            rw [List.length_append, List.length_append] at hlength
            exact ih (by omega) hrest

end CommonExpr.Text
