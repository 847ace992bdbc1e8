import CommonExpr.Fault
import CommonExpr.Proofs.Sequence

/-!
Facts about sets of unknown ids and about collecting outcomes, on which the
theory of evaluation rests.  Main statement: collecting gives values exactly
when every outcome is one, and then these values.
-/

namespace CommonExpr

namespace IdSet

theorem mem_foldl_insert {x : Int} (ids : List Int) (s : IdSet) :
    x ∈ (ids.foldl (fun s id => s.insert id) s).ids ↔ x ∈ s.ids ∨ x ∈ ids := by
  induction ids generalizing s with
  | nil => simp
  | cons head rest ih =>
      rw [List.foldl_cons, ih, IdSet.insert, mem_insertId, List.mem_cons]
      constructor
      · rintro ((hhead | hold) | hrest)
        · exact Or.inr (Or.inl hhead)
        · exact Or.inl hold
        · exact Or.inr (Or.inr hrest)
      · rintro (hold | hhead | hrest)
        · exact Or.inl (Or.inr hold)
        · exact Or.inl (Or.inl hhead)
        · exact Or.inr hrest

@[simp, grind =]
theorem mem_union {x : Int} (a b : IdSet) :
    x ∈ (a.union b).ids ↔ x ∈ a.ids ∨ x ∈ b.ids :=
  mem_foldl_insert b.ids a

end IdSet

/-- What collecting has seen so far is kept: a fault for good, values in front. -/
theorem collectFrom_eq_ok_iff {α : Type} (values : List α) (fault : Option Fault)
    (outcomes : List (Outcome α)) (all : List α) :
    collectFrom values fault outcomes = .ok all ↔
      fault = none ∧ ∃ rest, outcomes = rest.map .ok ∧ all = values.reverse ++ rest := by
  induction outcomes generalizing values fault with
  | nil =>
      cases fault with
      | none => simp [collectFrom, eq_comm]
      | some f => simp [collectFrom]
  | cons head tail ih =>
      cases head with
      | error f =>
          simp only [collectFrom, ih]
          constructor
          · rintro ⟨hfault, -⟩
            cases hfault
          · rintro ⟨-, rest, houtcomes, -⟩
            obtain ⟨v, -, -, hv, -⟩ := List.map_eq_cons_iff.mp houtcomes.symm
            cases hv
      | ok v =>
          rw [collectFrom, ih]
          constructor
          · rintro ⟨hfault, rest, htail, hall⟩
            refine ⟨hfault, v :: rest, ?_, ?_⟩
            · rw [htail, List.map_cons]
            · rw [hall, List.reverse_cons, List.append_assoc, List.singleton_append]
          · rintro ⟨hfault, rest, houtcomes, hall⟩
            obtain ⟨w, tail', hrest, hv, htail⟩ := List.map_eq_cons_iff.mp houtcomes.symm
            cases hv
            refine ⟨hfault, tail', htail.symm, ?_⟩
            rw [hall, hrest, List.reverse_cons, List.append_assoc, List.singleton_append]

/-- Collecting gives values exactly when every outcome is one. -/
theorem collect_eq_ok_iff {α : Type} (outcomes : List (Outcome α)) (values : List α) :
    collect outcomes = .ok values ↔ outcomes = values.map .ok := by
  rw [collect, collectFrom_eq_ok_iff]
  constructor
  · rintro ⟨-, rest, houtcomes, hvalues⟩
    rw [houtcomes, hvalues, List.reverse_nil, List.nil_append]
  · intro houtcomes
    exact ⟨rfl, values, houtcomes, rfl⟩

/-- What can be collected can be in any order. -/
theorem exists_collect_of_perm {α : Type} {outcomes outcomes' : List (Outcome α)}
    {values : List α} (hperm : outcomes.Perm outcomes')
    (hcollect : collect outcomes = .ok values) :
    ∃ values', collect outcomes' = .ok values' ∧ values'.Perm values := by
  have hmap := (collect_eq_ok_iff _ _).mp hcollect
  have hrelated : List.Forall₂ (fun o v => o = .ok v) outcomes values := by
    rw [hmap, List.forall₂_map_left_iff, List.forall₂_same]
    exact fun _ _ => rfl
  obtain ⟨values', hrelated', hperm'⟩ := List.perm_comp_forall₂ hperm.symm hrelated
  have hread : values'.map .ok = outcomes'.map id :=
    map_eq_of_forall₂ (hrelated'.imp fun _ _ h => h.symm)
  rw [List.map_id] at hread
  exact ⟨values', (collect_eq_ok_iff _ _).mpr hread.symm, hperm'⟩

/-- What is read and converted back element by element makes it through a whole list. -/
theorem collect_bind_mapM {α β γ : Type} {read : α → Outcome β} {convert : β → Outcome γ}
    {result : α → γ} {xs : List α}
    (hxs : ∀ x ∈ xs, ∃ v, read x = .ok v ∧ convert v = .ok (result x)) :
    (collect (xs.map read) >>= fun vs => vs.mapM convert) = .ok (xs.map result) := by
  obtain ⟨vs, hread, hconvert⟩ := exists_map_mapM hxs
  rw [(collect_eq_ok_iff _ vs).mpr hread]
  exact hconvert

end CommonExpr
