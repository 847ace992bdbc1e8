import CommonExpr.Text.Blank
import CommonExpr.Text.Search
import Mathlib.Data.List.DropRight

/-!
Texts cut at a character and trimmed.

Main statement: a text is cut in two in one way only, at the first or at the last of the
characters looked for, and trimming to a text without blanks takes blanks off both ends.
-/

namespace CommonExpr.Text

variable {c : Char}

/-! Cutting at the first character -/

theorem find?_of_notMem {s : List Char} (hs : c ∉ s) (base : Nat) : find? [c] base s = none := by
  induction s generalizing base with
  | nil => rfl
  | cons head rest ih =>
      obtain ⟨hhead, hrest⟩ := not_or.mp (List.mem_cons.not.mp hs)
      simp [find?, startsWith, Ne.symm hhead, ih hrest]

theorem find?_append {a : List Char} (ha : c ∉ a) (b : List Char) (base : Nat) :
    find? [c] base (a ++ c :: b) = some (base + a.length) := by
  induction a generalizing base with
  | nil => simp [find?, startsWith]
  | cons head rest ih =>
      obtain ⟨hhead, hrest⟩ := not_or.mp (List.mem_cons.not.mp ha)
      simp [find?, startsWith, Ne.symm hhead, ih hrest, Nat.add_assoc, Nat.add_comm 1]

theorem cut?_eq_some_iff {s a b : List Char} :
    cut? [c] s = some (a, b) ↔ s = a ++ c :: b ∧ c ∉ a := by
  have hcut : ∀ a b : List Char, c ∉ a → cut? [c] (a ++ c :: b) = some (a, b) := by
    intro a b ha
    have hdrop : (a ++ c :: b).drop (a.length + 1) = b := by simp
    simp [cut?, find?_append ha, hdrop]
  constructor
  · intro hsome
    by_cases hc : c ∈ s
    · obtain ⟨a', b', rfl, ha'⟩ := List.eq_append_cons_of_mem hc
      rw [hcut a' b' ha'] at hsome
      obtain ⟨rfl, rfl⟩ := Prod.mk.inj (Option.some.inj hsome)
      exact ⟨rfl, ha'⟩
    · simp [cut?, find?_of_notMem hc] at hsome
  · rintro ⟨rfl, ha⟩
    exact hcut a b ha

theorem cutChar?_eq_some_iff {s a b : String} :
    cutChar? c s = some (a, b) ↔ s.toList = a.toList ++ c :: b.toList ∧ c ∉ a.toList := by
  rw [← cut?_eq_some_iff, cutChar?]
  simp only [Option.map_eq_some_iff, Prod.exists, Prod.mk.injEq]
  constructor
  · rintro ⟨a', b', hcut, rfl, rfl⟩
    simpa using hcut
  · intro hcut
    exact ⟨a.toList, b.toList, hcut, String.ofList_toList, String.ofList_toList⟩

/-! Cutting at the last character -/

theorem findLast?_of_notMem {s : List Char} (hs : c ∉ s) (last base : Nat) :
    findLast? [c] last base s = none := by
  induction s generalizing base with
  | nil => rfl
  | cons head rest ih =>
      obtain ⟨hhead, hrest⟩ := not_or.mp (List.mem_cons.not.mp hs)
      simp [findLast?, startsWith, Ne.symm hhead, ih hrest]

theorem findLast?_append {b : List Char} (hb : c ∉ b) (a : List Char) {last base : Nat}
    (hlast : base + a.length ≤ last) :
    findLast? [c] last base (a ++ c :: b) = some (base + a.length) := by
  induction a generalizing base with
  | nil =>
      have hbase : base ≤ last := hlast
      simp [findLast?, startsWith, findLast?_of_notMem hb, hbase]
  | cons head rest ih =>
      rw [List.length_cons] at hlast
      have hlast' : base + 1 + rest.length ≤ last := by omega
      have hrest := ih hlast'
      simp only [List.cons_append, findLast?, hrest, List.length_cons]
      congr 1
      omega

/-- What stands behind the last `c` is cut off. -/
theorem cutLastChar?_of_append {s : String} {a b : List Char} (hs : s.toList = a ++ c :: b)
    (hb : c ∉ b) : cutLastChar? c s = some (String.ofList a, String.ofList b) := by
  have hlast : 0 + a.length ≤ s.length := by
    rw [← String.length_toList, hs, List.length_append]
    omega
  rw [cutLastChar?, hs, findLast?_append hb a hlast]
  simp

theorem cutLastChar?_of_notMem {s : String} (hs : c ∉ s.toList) : cutLastChar? c s = none := by
  rw [cutLastChar?, findLast?_of_notMem hs]
  rfl

/-! Trimming -/

/-- A text that has no blanks is what is left exactly if only blanks stand around it. -/
theorem trim_eq_iff {s : String} {text : List Char} (htext : ∀ x ∈ text, isBlank x = false) :
    (trim s).toList = text ↔ ∃ before after, s.toList = before ++ text ++ after ∧
      (∀ x ∈ before, isBlank x = true) ∧ ∀ x ∈ after, isBlank x = true := by
  have htrim : (trim s).toList = (s.toList.dropWhile isBlank).rdropWhile isBlank := by
    rw [trim, String.toList_ofList]
    rfl
  rw [htrim]
  constructor
  · intro hleft
    refine ⟨s.toList.takeWhile isBlank, (s.toList.dropWhile isBlank).rtakeWhile isBlank, ?_, ?_, ?_⟩
    · rw [← hleft, List.append_assoc, List.rdropWhile_append_rtakeWhile,
        List.takeWhile_append_dropWhile]
    · intro x hx
      exact List.mem_takeWhile_imp hx
    · intro x hx
      exact List.mem_rtakeWhile_imp hx
  · rintro ⟨before, after, hs, hbefore, hafter⟩
    have hafter' : ∀ x ∈ after.reverse, isBlank x = true := by simpa using hafter
    rw [hs, List.append_assoc, List.dropWhile_append_of_pos hbefore]
    cases text with
    | nil =>
        rw [List.nil_append, List.dropWhile_eq_nil_iff.mpr hafter]
        rfl
    | cons head rest =>
        have hhead := htext head List.mem_cons_self
        have hend : (head :: rest).rdropWhile isBlank = head :: rest :=
          List.rdropWhile_eq_self_iff.mpr fun h => by simp [htext _ (List.getLast_mem h)]
        rw [List.cons_append, List.dropWhile_cons_of_neg (by simp [hhead]), ← List.cons_append,
          List.rdropWhile, List.reverse_append, List.dropWhile_append_of_pos hafter']
        exact hend

end CommonExpr.Text
