import CommonExpr.Proofs.Value.Depth
import CommonExpr.Value.Equality
import Mathlib.Data.List.Forall2

/-!
Equality of values, one level at a time.

The depth of the left value bounds a comparison.  What is compared next is less
deep, or an unset field, of which only the type is compared, so the bound is never
met.  Main statement: values are equal if their tops are and what they hold is equal.
-/

namespace CommonExpr

/-- Whether both were read, and as equal values. -/
def EqualOutcomes (eq : Value → Value → Bool) (x y : Outcome Value) : Prop :=
  ∃ v w, x = .ok v ∧ y = .ok w ∧ eq v w = true

theorem equalRead_iff {eq : Value → Value → Bool} {x y : Outcome Value} :
    equalRead eq x y = true ↔ EqualOutcomes eq x y := by
  unfold EqualOutcomes
  cases x with
  | error f => simp [equalRead]
  | ok v =>
      cases y with
      | error f => simp [equalRead]
      | ok w => simp [equalRead]

theorem equalLists_iff {eq : Value → Value → Bool} {xs ys : List (Outcome Value)} :
    equalLists eq xs ys = true ↔ List.Forall₂ (EqualOutcomes eq) xs ys := by
  induction xs generalizing ys with
  | nil => cases ys <;> simp [equalLists]
  | cons x xs ih =>
      cases ys with
      | nil => simp [equalLists]
      | cons y ys => rw [equalLists, Bool.and_eq_true, equalRead_iff, ih, List.forall₂_cons]

/-- Whether an entry has a partner: one with its key, and with an equal value. -/
def EqualEntry (eq : Value → Value → Bool) (right : List (Outcome Value × Outcome Value))
    (e : Outcome Value × Outcome Value) : Prop :=
  ∃ key w, Entries.keyOf? e.1 = some key ∧ Entries.valueAt? key right = some w ∧
    EqualOutcomes eq e.2 w

theorem equalEntries_iff {eq : Value → Value → Bool}
    {left right : List (Outcome Value × Outcome Value)} :
    equalEntries eq left right = true ↔ ∀ e ∈ left, EqualEntry eq right e := by
  rw [equalEntries, List.all_eq_true]
  refine forall₂_congr fun e _ => ?_
  unfold EqualEntry
  dsimp only
  cases Entries.keyOf? e.1 with
  | none => simp
  | some key =>
      dsimp only
      cases hvalue : Entries.valueAt? key right with
      | none => simp [hvalue]
      | some w => simp [hvalue, equalRead_iff]

/-! Comparing by functions that agree on what is compared -/

section Congruence

variable {eq eq' : Value → Value → Bool}

theorem equalRead_congr {x : Outcome Value} (y : Outcome Value)
    (heq : ∀ v, x = .ok v → ∀ w, eq v w = eq' v w) : equalRead eq x y = equalRead eq' x y := by
  cases x with
  | error f => rfl
  | ok v =>
      cases y with
      | error f => rfl
      | ok w => exact heq v rfl w

theorem equalLists_congr {xs : List (Outcome Value)} (ys : List (Outcome Value))
    (heq : ∀ v, .ok v ∈ xs → ∀ w, eq v w = eq' v w) :
    equalLists eq xs ys = equalLists eq' xs ys := by
  induction xs generalizing ys with
  | nil => cases ys <;> rfl
  | cons x xs ih =>
      cases ys with
      | nil => rfl
      | cons y ys =>
          rw [equalLists, equalLists, ih ys fun v hv => heq v (List.mem_cons_of_mem _ hv),
            equalRead_congr y fun v hv => heq v (hv ▸ List.mem_cons_self)]

theorem equalEntries_congr {left : List (Outcome Value × Outcome Value)}
    (right : List (Outcome Value × Outcome Value))
    (heq : ∀ k v, (k, .ok v) ∈ left → ∀ w, eq v w = eq' v w) :
    equalEntries eq left right = equalEntries eq' left right := by
  rw [equalEntries, equalEntries, Bool.eq_iff_iff, List.all_eq_true, List.all_eq_true]
  refine forall₂_congr fun e he => Bool.eq_iff_iff.mp ?_
  obtain ⟨k, v⟩ := e
  dsimp only
  split
  · rfl
  · split
    · rfl
    · next w _ => exact equalRead_congr w fun v hv => heq k v (hv ▸ he)

theorem Items.equals_congr {xs : Items} (ys : Items)
    (heq : ∀ v, .ok v ∈ xs.read 0 → ∀ w, eq v w = eq' v w) :
    xs.equals eq ys = xs.equals eq' ys := by
  have hlists (others : List (Outcome Value)) :
      equalLists eq (xs.read 0) others = equalLists eq' (xs.read 0) others :=
    equalLists_congr others heq
  cases xs with
  | values vs => cases ys <;> exact hlists _
  | json xs => cases ys <;> exact hlists _
  | exchange schema xs => cases ys <;> exact hlists _
  | protobuf schema xs => cases ys <;> exact hlists _

theorem Entries.equals_congr {es : Entries} (es' : Entries)
    (heq : ∀ k v, (k, .ok v) ∈ es.read 0 → ∀ w, eq v w = eq' v w) :
    es.equals eq es' = es.equals eq' es' := by
  have hentries (n : Nat) (others : List (Outcome Value × Outcome Value)) :
      (es.length == n && equalEntries eq (es.read 0) others) =
        (es.length == n && equalEntries eq' (es.read 0) others) := by
    rw [equalEntries_congr others heq]
  cases es with
  | values es => cases es' <;> exact hentries _ _
  | json es => cases es' <;> exact hentries _ _
  | exchange schema es => cases es' <;> exact hentries _ _
  | protobuf schema es => cases es' <;> exact hentries _ _

/-- Maps that are equal have as many entries, in whatever form they are. -/
theorem Entries.length_eq_of_equals {eq : Value → Value → Bool} {es es' : Entries}
    (hequal : es.equals eq es' = true) : es.length = es'.length := by
  have hlength (rest : Bool) (hboth : (es.length == es'.length && rest) = true) :
      es.length = es'.length :=
    beq_iff_eq.mp (Bool.and_eq_true_iff.mp hboth).1
  cases es <;> cases es' <;> exact hlength _ hequal

theorem equalMessages_congr (s s' : Protobuf.Schema) {m : Protobuf.Message} (m' : Protobuf.Message)
    (heq : ∀ field v, m.fieldValue s 0 field = .ok v → ∀ w, eq v w = eq' v w) :
    equalMessages eq s m s' m' = equalMessages eq' s m s' m' := by
  rw [equalMessages, equalMessages, Bool.eq_iff_iff, Bool.and_eq_true, Bool.and_eq_true,
    List.all_eq_true, List.all_eq_true]
  refine and_congr_right fun _ => forall₂_congr fun name _ => Bool.eq_iff_iff.mp ?_
  split
  · next x y hx hy =>
      obtain ⟨field, -, rfl⟩ := Option.map_eq_some_iff.mp hx
      exact equalRead_congr y fun v hv => heq field v hv
  · rfl

end Congruence

namespace Value

/-- What a value holds that is compared on its own: elements, the values of entries,
and fields. -/
inductive Holds : Value → Value → Prop
  | element {ty : Ty} {items : Items} {v : Value} (hv : .ok v ∈ items.read 0) :
      Holds (.list ty items) v
  | entry {ty : Ty} {entries : Entries} {k : Outcome Value} {v : Value}
      (hv : (k, .ok v) ∈ entries.read 0) : Holds (.map ty entries) v
  | field {schema : Protobuf.Schema} {m : Protobuf.Message} {field : Protobuf.Field} {v : Value}
      (hv : m.fieldValue schema 0 field = .ok v) : Holds (.object schema m) v

theorem equalsBy_congr {eq eq' : Value → Value → Bool} {a : Value} (b : Value)
    (heq : ∀ v, a.Holds v → ∀ w, eq v w = eq' v w) : a.equalsBy eq b = a.equalsBy eq' b := by
  unfold equalsBy
  split
  case h_8 => exact Items.equals_congr _ fun v hv => heq v (.element hv)
  case h_9 => exact Entries.equals_congr _ fun k v hv => heq v (.entry hv)
  case h_10 => exact equalMessages_congr _ _ _ fun field v hv => heq v (.field hv)
  all_goals rfl

/-- Whether a comparison with a bound reaches all of a value.  Of a null, which may
have a zero, only the top is compared. -/
def Within (v : Value) (n : Nat) : Prop := 0 < n ∧ (v.isNull = true ∨ v.depth ≤ n)

theorem within_of_depth_le {v : Value} {n : Nat} (hn : v.depth ≤ n) : v.Within n :=
  ⟨Nat.lt_of_lt_of_le v.depth_pos hn, Or.inr hn⟩

/-- What a value holds is reached with a bound that is less by one. -/
theorem Holds.within {a v : Value} {n : Nat} (hv : a.Holds v) (ha : a.Within (n + 1)) :
    v.Within n := by
  cases hv with
  | @element ty items v hv =>
      obtain ⟨-, hnull | hdepth⟩ := ha
      · cases hnull
      · have hitems := Nat.le_of_succ_le_succ hdepth
        exact within_of_depth_le (Nat.le_trans (Items.depth_of_read hv) hitems)
  | @entry ty entries k v hv =>
      obtain ⟨-, hnull | hdepth⟩ := ha
      · cases hnull
      · exact within_of_depth_le
          (Nat.le_trans (Entries.depth_of_read hv) (Nat.le_of_succ_le_succ hdepth))
  | @field schema m field v hv =>
      obtain ⟨-, hnull | hdepth⟩ := ha
      · cases hnull
      · have hm : m.depth ≤ n := Nat.le_of_succ_le_succ hdepth
        refine ⟨Nat.lt_of_lt_of_le m.depth_pos hm, ?_⟩
        exact (Protobuf.Message.depth_of_fieldValue hv).imp_right (Nat.le_trans · hm)

/-- Bounds that reach all of the left value give one answer. -/
theorem equalsWithin_eq {n n' : Nat} {a : Value} (hn : a.Within n) (hn' : a.Within n')
    (b : Value) : equalsWithin n a b = equalsWithin n' a b := by
  induction n generalizing n' a b with
  | zero => exact absurd hn.1 (Nat.lt_irrefl 0)
  | succ n ih =>
      cases n' with
      | zero => exact absurd hn'.1 (Nat.lt_irrefl 0)
      | succ n' => exact equalsBy_congr b fun v hv w => ih (hv.within hn) (hv.within hn') w

theorem equals_eq_within {n : Nat} {a : Value} (hn : a.Within n) (b : Value) :
    a.equals b = equalsWithin n a b :=
  equalsWithin_eq (within_of_depth_le (Nat.le_succ _)) hn b

/-- Values are equal if their tops are and what they hold is equal. -/
theorem equals_eq (a b : Value) : a.equals b = equalsBy equals a b := by
  have hwithin : a.Within (a.depth + 1) := within_of_depth_le (Nat.le_succ _)
  exact equalsBy_congr b fun v hv w => (equals_eq_within (hv.within hwithin) w).symm

theorem exists_map_of_equals_map {ty : Ty} {es : Entries} {w : Value}
    (hequal : (Value.map ty es).equals w = true) :
    ∃ ty' es', w = .map ty' es' ∧ es'.length = es.length := by
  rw [equals_eq] at hequal
  cases w with
  | map ty' es' => exact ⟨ty', es', rfl, (Entries.length_eq_of_equals hequal).symm⟩
  | _ => cases hequal

/-! A scalar in a wrapper is equal to what it is equal to without -/

@[simp] theorem unwrap_equals (a b : Value) : a.unwrap.equals b = a.equals b := by
  rw [equals_eq, equals_eq]
  cases a <;> cases b <;> rfl

@[simp] theorem equals_unwrap (a b : Value) : a.equals b.unwrap = a.equals b := by
  rw [equals_eq, equals_eq]
  cases a <;> cases b <;> rfl

end Value

end CommonExpr
