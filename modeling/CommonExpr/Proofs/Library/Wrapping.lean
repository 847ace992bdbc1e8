import CommonExpr.Library.Standard
import CommonExpr.Proofs.Func.Wrapping

/-!
The standard functions and wrappers around their arguments.

Membership, equality and concatenation look into lists and see through wrappers there.  Main
statement: all standard functions respect wrappers.
-/

namespace CommonExpr

variable {x : Option Protobuf.Schema} {p : Protobuf.Schema} {shared : Prop}

namespace Library

open Overload

/-! Comparisons -/

theorem isFalse_congr {v w : Value} (halike : v.unwrap.Alike x p shared w.unwrap) :
    isFalse (.ok v) = isFalse (.ok w) := by
  simp only [isFalse]
  generalize v.unwrap = v at halike ⊢
  generalize w.unwrap = w at halike ⊢
  cases halike with
  | same => rfl
  | list hty hty' hitems => rfl

theorem notStrictlyFalse_respects : notStrictlyFalse.Respects x p (Agrees x p) := by
  refine List.forall_mem_singleton.mpr fun id args args' hargs _ => ?_
  cases args with
  | nil =>
      cases args' with
      | nil => exact agrees_lax.refl _
      | cons w ws => cases hargs
  | cons v vs =>
      cases args' with
      | nil => cases hargs
      | cons w ws =>
          have hhead := (List.forall₂_cons.mp hargs).1
          simp only [Overload.run, ofOutcomes, List.map_cons, isFalse_congr hhead]
          exact agrees_lax.refl _

/-- Values at both places of alike pairs are equal on both sides, or on none. -/
theorem equals_congr {a b a' b' : Value} (halike : ArgsAlike x p [a, b] [a', b']) :
    a.equals b = a'.equals b' := by
  obtain ⟨ha, hb⟩ := halike.pair
  refine ha.equals_congr hb (fun hshared => ?_) fun hshared => ?_
  · exact (hshared a (by simp)).listUses
  · exact (hshared b (by simp)).listUses

theorem equality_respects : equality.Respects x p (Agrees x p) :=
  List.forall_mem_singleton.mpr <| respects_pair agrees_lax fun node a b a' b' halike => by
    simp only [equals_congr halike]
    exact agrees_lax.rel_refl _

theorem inequality_respects : inequality.Respects x p (Agrees x p) :=
  List.forall_mem_singleton.mpr <| respects_pair agrees_lax fun node a b a' b' halike => by
    simp only [equals_congr halike]
    exact agrees_lax.rel_refl _

/-- Lists have no order. -/
theorem compare?_congr {a b a' b' : Value} (ha : a.Alike x p shared a')
    (hb : b.Alike x p shared b') : a.compare? b = a'.compare? b' := by
  cases ha with
  | same =>
      cases hb with
      | same => rfl
      | list hty hty' hitems => cases a <;> rfl
  | list hty hty' hitems =>
      cases hb with
      | same => cases b <;> rfl
      | list hty hty' hitems => rfl

theorem ordering_respects (name overload : String) (holds : Ordering → Bool) :
    (ordering name overload holds).Respects x p (Agrees x p) :=
  List.forall_mem_singleton.mpr <| respects_pair agrees_lax fun node a b a' b' halike => by
    obtain ⟨ha, hb⟩ := halike.pair
    simp only [compare?_congr ha hb]
    refine .some ?_
    cases a'.compare? b' with
    | none => exact .faults _ _
    | some o => exact agrees_lax.refl _

/-- A search looks for the same elements on both sides and stops at the same faults. -/
theorem isAmong_congr {a a' : Value} {os os' : List (Outcome Value)}
    (hequals : ∀ v, .ok v ∈ os → a.equals v = a'.equals v) (hbare : os.map bare = os'.map bare) :
    isAmong a os = isAmong a' os' := by
  induction os generalizing os' with
  | nil =>
      obtain rfl : os' = [] := by simpa using hbare.symm
      rfl
  | cons o os ih =>
      cases os' with
      | nil => cases hbare
      | cons o' os' =>
          obtain ⟨hhead, htail⟩ := List.cons.inj hbare
          have hrest := ih (fun v hv => hequals v (List.mem_cons_of_mem _ hv)) htail
          cases o with
          | error f =>
              cases o' with
              | error g =>
                  obtain rfl : f = g := Except.error.inj hhead
                  rfl
              | ok w => cases hhead
          | ok v =>
              cases o' with
              | error g => cases hhead
              | ok w =>
                  have hunwrap : v.unwrap = w.unwrap := Except.ok.inj hhead
                  have hequal : a.equals v = a'.equals w := by
                    rw [hequals v List.mem_cons_self, ← Value.equals_unwrap, hunwrap,
                      Value.equals_unwrap]
                  rw [isAmong, isAmong, hequal, hrest]

theorem key?_congr {a a' : Value} (halike : a.Alike x p shared a') : a.key? = a'.key? := by
  cases halike with
  | same => rfl
  | list hty hty' hitems => rfl

theorem membership_respects : membership.Respects x p (Agrees x p) := by
  refine List.forall_mem_cons.mpr ⟨?_, List.forall_mem_singleton.mpr ?_⟩
  · refine respects_pair agrees_lax fun node a b a' b' halike => ?_
    obtain ⟨ha, hb⟩ := halike.pair
    rcases hb.lists_or_same with ⟨ty, ty', xs, xs', rfl, rfl, hbare⟩ | ⟨rfl, hne⟩
    · -- The value sought may be a list itself, so elements that are lists count as lists of
      -- the call.
      have hequals (v : Value) (hv : .ok v ∈ xs.read node) : a.equals v = a'.equals v :=
        ha.equals_left fun hshared => (hshared (.list ty xs) (by simp)).2 node v hv
      simp only [isAmong_congr hequals (hbare node)]
      exact agrees_lax.rel_refl _
    · cases b with
      | list ty xs => exact absurd rfl (hne ty xs)
      | _ => exact .none
  · refine respects_pair agrees_lax fun node a b a' b' halike => ?_
    obtain ⟨ha, hb⟩ := halike.pair
    cases hb with
    | same =>
        cases b with
        | map ty es =>
            simp only [Entries.contains, key?_congr ha]
            exact agrees_lax.rel_refl _
        | _ => exact .none
    | list hty hty' hitems => exact .none

theorem comparisons_respect : ∀ f ∈ comparisons, f.Respects x p (Agrees x p) := by
  have hrest : comparisons.filter (fun f => !f.isBare) = comparisons.tail := rfl
  refine Func.all_respect agrees_lax hrest ?_
  simp only [comparisons, List.tail_cons, List.forall_mem_cons, List.not_mem_nil, false_implies,
    implies_true, and_true]
  exact ⟨notStrictlyFalse_respects, equality_respects, inequality_respects,
    ordering_respects _ _ _, ordering_respects _ _ _, ordering_respects _ _ _,
    ordering_respects _ _ _, membership_respects⟩

/-! Sizes and concatenations -/

theorem measure?_congr {v w : Value} (halike : v.Alike x p shared w) : measure? v = measure? w := by
  cases halike with
  | same => rfl
  | list hty hty' hitems => exact congrArg some hitems.sameBare.length_eq

theorem sizeOverload_respects (id : String) (param : Ty) :
    (sizeOverload id param).Respects x p (Agrees x p) :=
  respects_single agrees_lax fun node v w halike => by
    simp only [measure?_congr halike.single]
    exact agrees_lax.rel_refl _

theorem size_respects : size.Respects x p (Agrees x p) := by
  simp only [Func.Respects, size, List.forall_mem_cons, List.not_mem_nil, false_implies,
    implies_true, and_true]
  exact ⟨sizeOverload_respects _ _, sizeOverload_respects _ _, sizeOverload_respects _ _,
    sizeOverload_respects _ _⟩

theorem contents_respect : ∀ f ∈ contents, f.Respects x p (Agrees x p) := by
  have hrest : contents.filter (fun f => !f.isBare) = [size] := rfl
  exact Func.all_respect agrees_lax hrest (List.forall_mem_singleton.mpr size_respects)

/-- Elements are collected on both sides, and are the same but for wrappers, or on none. -/
theorem collect_cases {xs ys : Items} (hbare : xs.SameBare ys) (id : Int) :
    (∃ vs ws, xs.collect id = .ok vs ∧ ys.collect id = .ok ws ∧
      vs.map Value.unwrap = ws.map Value.unwrap) ∨
    ∃ f g, xs.collect id = .error f ∧ ys.collect id = .error g := by
  cases hxs : xs.collect id with
  | ok vs =>
      obtain ⟨ws, hws, hunwrap⟩ := collect_bare (hbare id) hxs
      exact Or.inl ⟨vs, ws, rfl, hws, hunwrap⟩
  | error f =>
      cases hys : ys.collect id with
      | error g => exact Or.inr ⟨f, g, rfl, rfl⟩
      | ok ws =>
          obtain ⟨vs, hvs, -⟩ := collect_bare (hbare id).symm hys
          cases hxs.symm.trans hvs

theorem concat_agrees {xs ys xs' ys' : Items} (hxs : xs.SameBare xs') (hys : ys.SameBare ys')
    (id : Int) (ty uy ty' uy' : Ty) :
    Agrees x p (concat id ty xs uy ys) (concat id ty' xs' uy' ys') := by
  unfold concat
  rcases collect_cases hxs id with ⟨vs, vs', hvs, hvs', hunwrap⟩ | ⟨f, g, hf, hg⟩
  · rcases collect_cases hys id with ⟨ws, ws', hws, hws', hunwrap'⟩ | ⟨f, g, hf, hg⟩
    · simp only [hvs, hvs', hws, hws']
      have hbare : (vs ++ ws).map Value.unwrap = (vs' ++ ws').map Value.unwrap := by
        rw [List.map_append, List.map_append, hunwrap, hunwrap']
      have hitems : (Items.values (vs ++ ws)).Alike x p False (.values (vs' ++ ws')) :=
        .values hbare
      exact .values (hitems.interchange False.elim _ _)
    · simp only [hvs, hvs', hf, hg]
      exact .faults _ _
  · simp only [hf, hg]
    exact .faults _ _

theorem addition_respects : addition.Respects x p (Agrees x p) := by
  simp only [Func.Respects, addition, List.forall_mem_cons, List.not_mem_nil, false_implies,
    implies_true, and_true]
  refine ⟨respects_of_bare agrees_lax rfl, respects_of_bare agrees_lax rfl,
    respects_of_bare agrees_lax rfl, respects_of_bare agrees_lax rfl,
    respects_of_bare agrees_lax rfl, ?_, respects_of_bare agrees_lax rfl,
    respects_of_bare agrees_lax rfl, respects_of_bare agrees_lax rfl⟩
  refine respects_pair agrees_lax fun node a b a' b' halike => ?_
  obtain ⟨ha, hb⟩ := halike.pair
  rcases ha.lists_or_same with ⟨ty, ty', xs, xs', rfl, rfl, hxs⟩ | ⟨rfl, hne⟩
  · rcases hb.lists_or_same with ⟨uy, uy', ys, ys', rfl, rfl, hys⟩ | ⟨rfl, hne⟩
    · exact .some (concat_agrees hxs hys node ty uy ty' uy')
    · cases b with
      | list uy ys => exact absurd rfl (hne uy ys)
      | _ => exact .none
  · cases a with
    | list ty xs => exact absurd rfl (hne ty xs)
    | _ => exact .none

theorem arithmetic_respect : ∀ f ∈ arithmetic, f.Respects x p (Agrees x p) := by
  have hrest : arithmetic.filter (fun f => !f.isBare) = [addition] := rfl
  exact Func.all_respect agrees_lax hrest (List.forall_mem_singleton.mpr addition_respects)

/-! Conversions and parts of times -/

/-- Types go by their names. -/
theorem type_interchange {t t' : Ty} (hname : t.name = t'.name) :
    (Value.type t).Interchanges x p (.type t') := by
  have hleft (u : Value) : (Value.type t).equals u = (Value.type t').equals u := by
    rw [Value.equals_eq, Value.equals_eq]
    cases u with
    | type s => simp only [Value.equalsBy, Ty.equals, hname]
    | _ => rfl
  have hright (u : Value) : u.equals (.type t) = u.equals (.type t') := by
    rw [Value.equals_eq, Value.equals_eq]
    cases u with
    | type s => simp only [Value.equalsBy, Ty.equals, hname]
    | _ => rfl
  exact ⟨(hright _).symm, (hleft _).symm, fun u _ => hleft u, fun u _ => hright u⟩

theorem conversions_respect : ∀ f ∈ conversions, f.Respects x p (Agrees x p) := by
  have hrest : conversions.filter (fun f => !f.isBare) = conversions.drop 8 := rfl
  refine Func.all_respect agrees_lax hrest ?_
  simp only [conversions, List.drop_succ_cons, List.drop_zero, List.forall_mem_cons,
    List.not_mem_nil, false_implies, implies_true, and_true]
  refine ⟨?type, ?dyn⟩
  case type =>
    refine List.forall_mem_singleton.mpr (respects_single agrees_lax fun node v w halike => ?_)
    exact .some (.values (type_interchange halike.single.ty_name_eq))
  case dyn =>
    refine List.forall_mem_singleton.mpr (respects_single agrees_lax fun node v w halike => ?_)
    refine .some (.values (halike.single.interchange fun hshared => ?_))
    exact (hshared v (by simp)).listUses

variable (named? : String → Option ZoneRule)

theorem timeParts_respect : ∀ f ∈ timeParts named?, f.Respects x p (Agrees x p) := by
  have hrest : (timeParts named?).filter (fun f => !f.isBare) = [] := rfl
  exact Func.all_respect agrees_lax hrest nofun

theorem standardFunctions_respect :
    ∀ f ∈ standardFunctions named?, f.Respects x p (Agrees x p) := by
  simp only [standardFunctions, List.forall_mem_append]
  exact ⟨⟨⟨⟨comparisons_respect, contents_respect⟩, arithmetic_respect⟩, conversions_respect⟩,
    timeParts_respect named?⟩

end Library

end CommonExpr
