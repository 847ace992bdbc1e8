import CommonExpr.Proofs.Fault
import CommonExpr.Proofs.Value.Equivalence
import CommonExpr.Value.Access

/-!
Wrappers around scalars and around elements of lists.

Equality takes a scalar out of its wrapper wherever it meets one, in arguments and in elements.
Main statement: values that differ only in such wrappers are equal to the same values.
-/

namespace CommonExpr

/-- What was read, without the wrapper of a scalar. -/
def bare (o : Outcome Value) : Outcome Value := Value.unwrap <$> o

/-! Lists that differ in wrappers -/

/-- Whether lists read as the same elements, but for wrappers. -/
def Items.SameBare (xs ys : Items) : Prop := ∀ id, (xs.read id).map bare = (ys.read id).map bare

/-- Whether a value is no list, or a list that is read by the shared schemas. -/
def Value.ListUses (x : Option Protobuf.Schema) (p : Protobuf.Schema) : Value → Prop
  | .list _ items => items.Uses x p
  | _ => True

/-- Whether a value and the lists among its elements are read by the shared schemas. -/
def Value.ListsUse (x : Option Protobuf.Schema) (p : Protobuf.Schema) : Value → Prop
  | .list _ items => items.Uses x p ∧ ∀ id v, .ok v ∈ items.read id → v.ListUses x p
  | _ => True

/-- Lists that differ in wrappers around their elements.  A list of values is rewritten in
place; any other list may be given in another form if the schemas are shared. -/
inductive Items.Alike (x : Option Protobuf.Schema) (p : Protobuf.Schema) (shared : Prop) :
    Items → Items → Prop
  | values {vs ws : List Value} (hbare : vs.map Value.unwrap = ws.map Value.unwrap) :
      Items.Alike x p shared (.values vs) (.values ws)
  | read {xs ys : Items} (hshared : shared) (hxs : xs.Uses x p) (hys : ys.Uses x p)
      (hbare : xs.SameBare ys) : Items.Alike x p shared xs ys

/-- Values that are the same, or lists that differ in wrappers around their elements. -/
inductive Value.Alike (x : Option Protobuf.Schema) (p : Protobuf.Schema) (shared : Prop) :
    Value → Value → Prop
  | same (v : Value) : Value.Alike x p shared v v
  | list {ty ty' : Ty} {xs ys : Items} (hty : ty.name = "list") (hty' : ty'.name = "list")
      (hitems : xs.Alike x p shared ys) : Value.Alike x p shared (.list ty xs) (.list ty' ys)

variable {x : Option Protobuf.Schema} {p : Protobuf.Schema} {shared : Prop}

theorem map_bare_ok (vs : List Value) :
    (vs.map .ok).map bare = (vs.map Value.unwrap).map .ok := by
  rw [List.map_map, List.map_map]
  rfl

theorem Items.Alike.sameBare {xs ys : Items} (halike : xs.Alike x p shared ys) :
    xs.SameBare ys := by
  intro id
  cases halike with
  | values hbare =>
      simp only [Items.read, map_bare_ok, hbare]
  | read hshared hxs hys hbare => exact hbare id

theorem Items.SameBare.length_eq {xs ys : Items} (hbare : xs.SameBare ys) :
    xs.length = ys.length := by
  have hlength := congrArg List.length (hbare 0)
  rw [List.length_map, List.length_map] at hlength
  cases xs <;> cases ys <;> simpa [Items.read, Items.length] using hlength

/-! Comparing what differs in wrappers -/

theorem equalRead_bare_left (o o' : Outcome Value) :
    equalRead Value.equals (bare o) o' = equalRead Value.equals o o' := by
  cases o with
  | error f => rfl
  | ok v =>
      cases o' with
      | error f => rfl
      | ok w => exact v.unwrap_equals w

theorem equalRead_bare_right (o o' : Outcome Value) :
    equalRead Value.equals o (bare o') = equalRead Value.equals o o' := by
  cases o with
  | error f => cases o' <;> rfl
  | ok v =>
      cases o' with
      | error f => rfl
      | ok w => exact v.equals_unwrap w

theorem equalLists_bare_left (os os' : List (Outcome Value)) :
    equalLists Value.equals (os.map bare) os' = equalLists Value.equals os os' := by
  induction os generalizing os' with
  | nil => rfl
  | cons o os ih =>
      cases os' with
      | nil => rfl
      | cons o' os' => rw [List.map_cons, equalLists, equalLists, equalRead_bare_left, ih]

theorem equalLists_bare_right (os os' : List (Outcome Value)) :
    equalLists Value.equals os (os'.map bare) = equalLists Value.equals os os' := by
  induction os generalizing os' with
  | nil => cases os' <;> rfl
  | cons o os ih =>
      cases os' with
      | nil => rfl
      | cons o' os' => rw [List.map_cons, equalLists, equalLists, equalRead_bare_right, ih]

/-- A left list stands for its elements without wrappers. -/
theorem Items.Alike.equals_left {xs ys zs : Items} (halike : xs.Alike x p shared ys)
    (hzs : shared → zs.Uses x p) : xs.equals Value.equals zs = ys.equals Value.equals zs := by
  cases halike with
  | @values vs ws hbare =>
      -- Lists of values are compared element by element with lists of every form.
      have hlists (others : List (Outcome Value)) :
          equalLists Value.equals (vs.map .ok) others =
            equalLists Value.equals (ws.map .ok) others := by
        rw [← equalLists_bare_left, map_bare_ok, hbare, ← map_bare_ok, equalLists_bare_left]
      cases zs <;> exact hlists _
  | read hshared hxs hys hbare =>
      -- Other forms may have a comparison of their own, which shared schemas make elementwise.
      rw [Items.equals_eq_equalsRead hxs (hzs hshared),
        Items.equals_eq_equalsRead hys (hzs hshared), Items.equalsRead, Items.equalsRead,
        ← equalLists_bare_left, hbare 0, equalLists_bare_left]

theorem Items.Alike.equals_right {xs ys zs : Items} (halike : xs.Alike x p shared ys)
    (hzs : shared → zs.Uses x p) : zs.equals Value.equals xs = zs.equals Value.equals ys := by
  cases halike with
  | @values vs ws hbare =>
      have hlists (others : List (Outcome Value)) :
          equalLists Value.equals others (vs.map .ok) =
            equalLists Value.equals others (ws.map .ok) := by
        rw [← equalLists_bare_right, map_bare_ok, hbare, ← map_bare_ok, equalLists_bare_right]
      cases zs <;> exact hlists _
  | read hshared hxs hys hbare =>
      rw [Items.equals_eq_equalsRead (hzs hshared) hxs,
        Items.equals_eq_equalsRead (hzs hshared) hys, Items.equalsRead, Items.equalsRead,
        ← equalLists_bare_right, hbare 0, equalLists_bare_right]

namespace Value

theorem ListsUse.listUses {v : Value} (hv : v.ListsUse x p) : v.ListUses x p := by
  cases v with
  | list ty items => exact hv.1
  | _ => trivial

/-- The declared types of lists do not matter to equality. -/
theorem list_equals_left {ty ty' : Ty} {xs ys : Items} (hitems : xs.Alike x p shared ys)
    {u : Value} (hu : shared → u.ListUses x p) :
    (Value.list ty xs).equals u = (Value.list ty' ys).equals u := by
  rw [equals_eq, equals_eq]
  cases u with
  | list ty items => exact hitems.equals_left hu
  | _ => rfl

theorem equals_list_right {ty ty' : Ty} {xs ys : Items} (hitems : xs.Alike x p shared ys)
    {u : Value} (hu : shared → u.ListUses x p) :
    u.equals (.list ty xs) = u.equals (.list ty' ys) := by
  rw [equals_eq, equals_eq]
  cases u with
  | list ty items => exact hitems.equals_right hu
  | _ => rfl

namespace Alike

variable {v w : Value}

/-- Values that are alike are two lists or one other value. -/
theorem lists_or_same (halike : v.Alike x p shared w) :
    (∃ ty ty' xs ys, v = .list ty xs ∧ w = .list ty' ys ∧ xs.SameBare ys) ∨
      v = w ∧ ∀ ty xs, v ≠ .list ty xs := by
  cases halike with
  | list hty hty' hitems => exact Or.inl ⟨_, _, _, _, rfl, rfl, hitems.sameBare⟩
  | same =>
      cases v with
      | list ty xs => exact Or.inl ⟨ty, ty, xs, xs, rfl, rfl, fun _ => rfl⟩
      | _ => exact Or.inr ⟨rfl, nofun⟩

theorem ty_name_eq (halike : v.Alike x p shared w) : v.ty.name = w.ty.name := by
  cases halike with
  | same => rfl
  | list hty hty' hitems => exact hty.trans hty'.symm

theorem listUses (halike : v.Alike x p shared w) (hv : shared → v.ListUses x p) :
    shared → w.ListUses x p := by
  intro hshared
  cases halike with
  | same => exact hv hshared
  | list hty hty' hitems =>
      cases hitems with
      | values hbare => trivial
      | read hshared hxs hys hbare => exact hys

theorem equals_left (halike : v.Alike x p shared w) {u : Value} (hu : shared → u.ListUses x p) :
    v.equals u = w.equals u := by
  cases halike with
  | same => rfl
  | list hty hty' hitems => exact list_equals_left hitems hu

theorem equals_right (halike : v.Alike x p shared w) {u : Value} (hu : shared → u.ListUses x p) :
    u.equals v = u.equals w := by
  cases halike with
  | same => rfl
  | list hty hty' hitems => exact equals_list_right hitems hu

/-- What is alike on both sides compares alike. -/
theorem equals_congr {v' w' : Value} (halike : v.Alike x p shared w)
    (halike' : v'.Alike x p shared w') (hv : shared → v.ListUses x p)
    (hv' : shared → v'.ListUses x p) : v.equals v' = w.equals w' := by
  rw [halike.equals_left hv', halike'.equals_right (halike.listUses hv)]

end Alike

end Value

/-! Collecting elements that differ in wrappers -/

theorem exists_values_of_bare {vs : List Value} {os : List (Outcome Value)}
    (hbare : (vs.map .ok).map bare = os.map bare) :
    ∃ ws : List Value, os = ws.map .ok ∧ vs.map Value.unwrap = ws.map Value.unwrap := by
  induction vs generalizing os with
  | nil => exact ⟨[], by simpa using hbare.symm, rfl⟩
  | cons v vs ih =>
      cases os with
      | nil => cases hbare
      | cons o os =>
          obtain ⟨hhead, htail⟩ := List.cons.inj hbare
          obtain ⟨ws, rfl, hws⟩ := ih htail
          cases o with
          | error f => cases hhead
          | ok w =>
              have hunwrap : v.unwrap = w.unwrap := Except.ok.inj hhead
              exact ⟨w :: ws, rfl, by rw [List.map_cons, List.map_cons, hunwrap, hws]⟩

/-- Elements that can all be read stay so, whatever wrappers come or go. -/
theorem collect_bare {os os' : List (Outcome Value)} (hbare : os.map bare = os'.map bare)
    {vs : List Value} (hvs : collect os = .ok vs) :
    ∃ ws, collect os' = .ok ws ∧ vs.map Value.unwrap = ws.map Value.unwrap := by
  obtain rfl := (collect_eq_ok_iff os vs).mp hvs
  obtain ⟨ws, rfl, hws⟩ := exists_values_of_bare hbare
  exact ⟨ws, (collect_eq_ok_iff _ ws).mpr rfl, hws⟩

/-! Calls whose arguments differ in wrappers -/

/-- Whether values are alike, one by one.  The schemas count as shared if all lists of the
first values and all lists among their elements are read by them. -/
def ArgsAlike (x : Option Protobuf.Schema) (p : Protobuf.Schema) (vs ws : List Value) : Prop :=
  List.Forall₂ (Value.Alike x p (∀ v ∈ vs, v.ListsUse x p)) vs ws

theorem ArgsAlike.single {v w : Value} (halike : ArgsAlike x p [v] [w]) :
    v.Alike x p (∀ u ∈ [v], u.ListsUse x p) w :=
  (List.forall₂_cons.mp halike).1

theorem ArgsAlike.pair {a b a' b' : Value} (halike : ArgsAlike x p [a, b] [a', b']) :
    a.Alike x p (∀ u ∈ [a, b], u.ListsUse x p) a' ∧
      b.Alike x p (∀ u ∈ [a, b], u.ListsUse x p) b' := by
  obtain ⟨ha, hrest⟩ := List.forall₂_cons.mp halike
  exact ⟨ha, (List.forall₂_cons.mp hrest).1⟩

/-- Whether arguments differ only in wrappers, around themselves or around elements. -/
def Rewrapped (x : Option Protobuf.Schema) (p : Protobuf.Schema) (args args' : List Value) : Prop :=
  ArgsAlike x p (args.map Value.unwrap) (args'.map Value.unwrap)

/-- Whether one value becomes the other by wrapping scalars or taking them out: itself, or
elements of a list of values. -/
inductive Value.Rewraps : Value → Value → Prop
  | scalar {v w : Value} (hunwrap : v.unwrap = w.unwrap) : Value.Rewraps v w
  | elements {ty : Ty} (hty : ty.name = "list") {vs ws : List Value}
      (hbare : vs.map Value.unwrap = ws.map Value.unwrap) :
      Value.Rewraps (.list ty (.values vs)) (.list ty (.values ws))

/-- Wrapping in place needs no schemas. -/
theorem Value.Rewraps.alike {v w : Value} (hrewraps : v.Rewraps w) :
    v.unwrap.Alike x p shared w.unwrap := by
  cases hrewraps with
  | scalar hunwrap =>
      rw [hunwrap]
      exact .same w.unwrap
  | elements hty hbare => exact .list hty hty (.values hbare)

theorem Rewrapped.of_rewraps {args args' : List Value}
    (hrewraps : List.Forall₂ Value.Rewraps args args') : Rewrapped x p args args' := by
  rw [Rewrapped, ArgsAlike, List.forall₂_map_left_iff, List.forall₂_map_right_iff]
  exact hrewraps.imp fun v w hrewrap => hrewrap.alike

end CommonExpr
