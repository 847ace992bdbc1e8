import CommonExpr.Fault
import Mathlib.Data.List.Perm.Basic

/-!
Lists that are walked element by element.

Main statements: what succeeds for each element succeeds for the list, with results that are
related to the elements one by one; and what is put one by one among others with other keys
is all there in the end.
-/

namespace CommonExpr

variable {α β γ : Type}

/-! Walks that convert -/

theorem exists_map_mapM {read : α → Outcome β} {convert : β → Outcome γ}
    {result : α → γ} {xs : List α}
    (hxs : ∀ x ∈ xs, ∃ v, read x = .ok v ∧ convert v = .ok (result x)) :
    ∃ vs : List β, xs.map read = vs.map .ok ∧ vs.mapM convert = .ok (xs.map result) := by
  induction xs with
  | nil => exact ⟨[], rfl, rfl⟩
  | cons x rest ih =>
      obtain ⟨hx, hrest⟩ := List.forall_mem_cons.mp hxs
      obtain ⟨v, hread, hconvert⟩ := hx
      obtain ⟨vs, hreads, hconverts⟩ := ih hrest
      refine ⟨v :: vs, ?_, ?_⟩
      · rw [List.map_cons, List.map_cons, hread, hreads]
      · rw [List.mapM_cons, hconvert, hconverts]
        rfl

/-- What is related to given outcomes only is these outcomes. -/
theorem eq_map_of_forall₂ {R : α → β → Prop} {f : γ → α} {g : γ → β} {xs : List γ}
    {ys : List β} (hrelated : List.Forall₂ R (xs.map f) ys) (hg : ∀ x y, R (f x) y → y = g x) :
    ys = xs.map g := by
  rw [List.forall₂_map_left_iff] at hrelated
  induction hrelated with
  | nil => rfl
  | cons hhead _ ih => rw [List.map_cons, hg _ _ hhead, ih]

section Forall

variable {R : α → β → Prop} {xs : List α} {ys : List β}

theorem exists_of_mem_left (hrelated : List.Forall₂ R xs ys) : ∀ x ∈ xs, ∃ y ∈ ys, R x y := by
  induction hrelated with
  | nil => exact fun x hx => absurd hx List.not_mem_nil
  | @cons a b _ _ hhead _ ih =>
      intro x hx
      rcases List.mem_cons.mp hx with rfl | hx
      · exact ⟨b, List.mem_cons_self, hhead⟩
      · obtain ⟨y, hy, hrel⟩ := ih x hx
        exact ⟨y, List.mem_cons_of_mem b hy, hrel⟩

theorem map_eq_of_forall₂ {f : α → γ} {g : β → γ}
    (hsame : List.Forall₂ (fun a b => g b = f a) xs ys) : ys.map g = xs.map f := by
  induction hsame with
  | nil => rfl
  | cons hhead _ ih => rw [List.map_cons, List.map_cons, hhead, ih]

/-- What succeeds for each element, succeeds for the list. -/
theorem exists_mapM_map {ε : Type} {f : α → Except ε γ} {g : β → γ}
    (hxs : ∀ x ∈ xs, ∃ y, f x = .ok (g y) ∧ R x y) :
    ∃ ys : List β, xs.mapM f = .ok (ys.map g) ∧ List.Forall₂ R xs ys := by
  induction xs with
  | nil => exact ⟨[], rfl, .nil⟩
  | cons x rest ih =>
      obtain ⟨⟨y, hy, hrel⟩, hrest⟩ := List.forall_mem_cons.mp hxs
      obtain ⟨ys, hys, hrels⟩ := ih hrest
      refine ⟨y :: ys, ?_, .cons hrel hrels⟩
      rw [List.mapM_cons, hy, hys]
      rfl

theorem exists_mapM_forall₂ {ε : Type} {f : α → Except ε β}
    (hxs : ∀ x ∈ xs, ∃ y, f x = .ok y ∧ R x y) :
    ∃ ys, xs.mapM f = .ok ys ∧ List.Forall₂ R xs ys := by
  obtain ⟨ys, hys, hrel⟩ := exists_mapM_map (g := fun y => y) hxs
  exact ⟨ys, by rw [hys, List.map_id'], hrel⟩

/-- A walk succeeds just if it does for each element. -/
theorem mapM_eq_ok_iff {ε : Type} {f : α → Except ε β} :
    xs.mapM f = .ok ys ↔ List.Forall₂ (fun x y => f x = .ok y) xs ys := by
  induction xs generalizing ys with
  | nil =>
      rw [List.mapM_nil, List.forall₂_nil_left_iff]
      exact ⟨fun h => (Except.ok.inj h).symm, fun h => congrArg Except.ok h.symm⟩
  | cons x rest ih =>
      rw [List.mapM_cons, List.forall₂_cons_left_iff]
      cases f x with
      | error e =>
          constructor
          · intro h
            cases h
          · rintro ⟨y, tail, h, -⟩
            cases h
      | ok y =>
          constructor
          · intro h
            cases hrest : rest.mapM f with
            | error e =>
                rw [hrest] at h
                cases h
            | ok tail =>
                rw [hrest] at h
                exact ⟨y, tail, rfl, ih.mp hrest, (Except.ok.inj h).symm⟩
          · rintro ⟨y', tail, hy, htail, rfl⟩
            cases hy
            rw [ih.mpr htail]
            rfl

theorem mapM_congr_of_mem {ε : Type} {f g : α → Except ε β} (hsame : ∀ x ∈ xs, f x = g x) :
    xs.mapM f = xs.mapM g := by
  induction xs with
  | nil => rfl
  | cons x rest ih =>
      obtain ⟨hx, hrest⟩ := List.forall_mem_cons.mp hsame
      rw [List.mapM_cons, List.mapM_cons, hx, ih hrest]

/-- A walk that succeeds does so in any order of the elements. -/
theorem exists_mapM_of_perm {ε : Type} {f : α → Except ε β} {xs' : List α}
    (hperm : xs.Perm xs') (hxs : xs.mapM f = .ok ys) :
    ∃ ys', xs'.mapM f = .ok ys' ∧ ys'.Perm ys := by
  obtain ⟨ys', hrelated, hperm'⟩ := List.perm_comp_forall₂ hperm.symm (mapM_eq_ok_iff.mp hxs)
  exact ⟨ys', mapM_eq_ok_iff.mpr hrelated, hperm'⟩

end Forall

/-! Walks that insert -/

/-- Run: what is put one by one among others that it may stand with is all there in the end,
and what each step keeps is kept. -/
theorem foldl_insert_of_pairwise {R : α → α → Prop} {f : α → List α → List α} {P : List α → Prop}
    (hsymm : ∀ a b, R a b → R b a)
    (hinsert : ∀ a placed, (∀ b ∈ placed, R a b) → P placed →
      (f a placed).Perm (a :: placed) ∧ P (f a placed))
    {xs placed : List α} (hplaced : P placed) (hall : (placed ++ xs).Pairwise R) :
    (xs.foldl (fun acc a => f a acc) placed).Perm (placed ++ xs) ∧
      P (xs.foldl (fun acc a => f a acc) placed) := by
  induction xs generalizing placed with
  | nil =>
      rw [List.append_nil]
      exact ⟨List.Perm.refl placed, hplaced⟩
  | cons a rest ih =>
      have hmiddle : (placed ++ a :: rest).Perm (a :: placed ++ rest) := List.perm_middle
      have hmoved := hmiddle.pairwise hall fun h => hsymm _ _ h
      have hnew : ∀ b ∈ placed, R a b := fun b hb =>
        (List.pairwise_cons.mp hmoved).1 b (List.mem_append_left rest hb)
      obtain ⟨hstep, hkept⟩ := hinsert a placed hnew hplaced
      have hput := (hstep.append_right rest).trans hmiddle.symm
      obtain ⟨hperm, hend⟩ := ih hkept (hput.symm.pairwise hall fun h => hsymm _ _ h)
      exact ⟨hperm.trans hput, hend⟩

/-- Run: what is put one by one among others with other keys is all there in the end, and
what each step keeps is kept. -/
theorem foldl_insert {κ : Type} {k : α → κ} {f : α → List α → List α} {P : List α → Prop}
    (hinsert : ∀ a placed, k a ∉ placed.map k → P placed →
      (f a placed).Perm (a :: placed) ∧ P (f a placed))
    {xs placed : List α} (hplaced : P placed) (hkeys : ((placed ++ xs).map k).Nodup) :
    (xs.foldl (fun acc a => f a acc) placed).Perm (placed ++ xs) ∧
      P (xs.foldl (fun acc a => f a acc) placed) := by
  refine foldl_insert_of_pairwise (fun _ _ h => Ne.symm h)
    (fun a placed hnew => hinsert a placed ?_) hplaced (List.pairwise_map.mp hkeys)
  intro hmem
  obtain ⟨b, hb, hsame⟩ := List.mem_map.mp hmem
  exact hnew b hb hsame.symm

end CommonExpr
