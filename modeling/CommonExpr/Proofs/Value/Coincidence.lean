import CommonExpr.Proofs.Value.Equality

/-!
Values that one and the same data are read as by different schemas.

A list, a map or a message keeps the schema that it reads its parts by, so that the same data
under two schemas are two values.  They coincide if their parts do, however deep, where only a
packed message asks the schema for anything.  Main statement: what coincides is equal to the same
values.
-/

namespace CommonExpr

/-- Whether both outcomes are faults, or both are values that are related. -/
inductive BothRead (R : Value → Value → Prop) : Outcome Value → Outcome Value → Prop
  | faults (f g : Fault) : BothRead R (.error f) (.error g)
  | values {v w : Value} (hvalues : R v w) : BothRead R (.ok v) (.ok w)

/-- Whether values differ at most in the schemas by which their parts are read, where all parts
that are compared can be read by both or by neither, and coincide again. -/
inductive Value.Coincide : Value → Value → Prop
  | refl (v : Value) : Coincide v v
  | exchangeList {ty ty' : Ty} {s s' : Option Protobuf.Schema} {xs : List Exchange.Value}
      (helements : ∀ x ∈ xs, BothRead Coincide (x.toValue s 0) (x.toValue s' 0)) :
      Coincide (.list ty (.exchange s xs)) (.list ty' (.exchange s' xs))
  | protobufList {ty ty' : Ty} {s s' : Protobuf.Schema} {xs : List Protobuf.Value}
      (helements : ∀ x ∈ xs, BothRead Coincide (x.toValue s 0) (x.toValue s' 0)) :
      Coincide (.list ty (.protobuf s xs)) (.list ty' (.protobuf s' xs))
  | exchangeMap {ty ty' : Ty} {s s' : Option Protobuf.Schema}
      {es : List (Exchange.Value × Exchange.Value)}
      (hkeys : ∀ e ∈ es, BothRead Coincide (e.1.toValue s 0) (e.1.toValue s' 0))
      (hvalues : ∀ e ∈ es, BothRead Coincide (e.2.toValue s 0) (e.2.toValue s' 0)) :
      Coincide (.map ty (.exchange s es)) (.map ty' (.exchange s' es))
  | protobufMap {ty ty' : Ty} {s s' : Protobuf.Schema} {es : List (Protobuf.Key × Protobuf.Value)}
      (hvalues : ∀ e ∈ es, BothRead Coincide (e.2.toValue s 0) (e.2.toValue s' 0)) :
      Coincide (.map ty (.protobuf s es)) (.map ty' (.protobuf s' es))
  /-- Messages that were decoded by two schemas are two messages, so fields are taken by name. -/
  | object {s s' : Protobuf.Schema} {m m' : Protobuf.Message} (hname : m.name = m'.name)
      (hfields : ∀ name, Option.Rel (BothRead Coincide) (m.fieldValue? s 0 name)
        (m'.fieldValue? s' 0 name)) :
      Coincide (.object s m) (.object s' m')
  /-- Of an unset field only the type is compared. -/
  | typedNull {type : String} {zero zero' : Value} :
      Coincide (.typedNull type zero) (.typedNull type zero')

open Value (Coincide)

theorem Value.Coincide.key?_eq {v w : Value} (hvw : v.Coincide w) : v.key? = w.key? := by
  cases hvw <;> rfl

theorem BothRead.refl (o : Outcome Value) : BothRead Coincide o o := by
  cases o with
  | error f => exact .faults f f
  | ok v => exact .values (.refl v)

theorem BothRead.keyOf?_eq {o o' : Outcome Value} (hread : BothRead Coincide o o') :
    Entries.keyOf? o = Entries.keyOf? o' := by
  cases hread with
  | faults f g => rfl
  | values hvalues => exact hvalues.key?_eq

/-- Related options are both there or both not. -/
theorem none_or_some_of_rel {α β : Type} {R : α → β → Prop} {o : Option α} {o' : Option β}
    (hrel : Option.Rel R o o') :
    (o = none ∧ o' = none) ∨ ∃ a b, o = some a ∧ o' = some b ∧ R a b := by
  cases hrel with
  | none => exact .inl ⟨rfl, rfl⟩
  | @some a b hab => exact .inr ⟨a, b, rfl, rfl, hab⟩

/-! Comparing with one or the other -/

/-- Whether all that is compared with the one outcome compares alike with the other. -/
def ComparesAlike (eq : Value → Value → Bool) (o o' : Outcome Value) : Prop :=
  ∀ other, equalRead eq other o = equalRead eq other o'

section Comparing

variable {eq : Value → Value → Bool} {α : Type}

theorem ComparesAlike.refl (o : Outcome Value) : ComparesAlike eq o o := fun _ => rfl

theorem ComparesAlike.of_eq {o o' : Outcome Value} (heq : o = o') : ComparesAlike eq o o' :=
  heq ▸ .refl o

theorem equalLists_comparesAlike {xs : List α} {f g : α → Outcome Value}
    (hread : ∀ x ∈ xs, ComparesAlike eq (f x) (g x)) (os : List (Outcome Value)) :
    equalLists eq os (xs.map f) = equalLists eq os (xs.map g) := by
  induction xs generalizing os with
  | nil => rfl
  | cons x xs ih =>
      obtain ⟨hx, hxs⟩ := List.forall_mem_cons.mp hread
      cases os with
      | nil => rfl
      | cons o os => rw [List.map_cons, List.map_cons, equalLists, equalLists, hx o, ih hxs os]

section Entries

variable {es : List α} {key key' value value' : α → Outcome Value}
  (hkeys : ∀ e ∈ es, Entries.keyOf? (key e) = Entries.keyOf? (key' e))
  (hvalues : ∀ e ∈ es, ComparesAlike eq (value e) (value' e))

include hkeys hvalues

/-- A key is found at the same place if the keys are the same. -/
theorem valueAt?_comparesAlike (k : Key) :
    Option.Rel (ComparesAlike eq) (Entries.valueAt? k (es.map fun e => (key e, value e)))
      (Entries.valueAt? k (es.map fun e => (key' e, value' e))) := by
  induction es with
  | nil => exact .none
  | cons e es ih =>
      obtain ⟨hkey, hkeys⟩ := List.forall_mem_cons.mp hkeys
      obtain ⟨hvalue, hvalues⟩ := List.forall_mem_cons.mp hvalues
      by_cases hfound : Entries.keyOf? (key e) = some k
      · simpa [Entries.valueAt?, hfound, hkey ▸ hfound] using Option.Rel.some hvalue
      · simpa [Entries.valueAt?, hfound, hkey ▸ hfound] using ih hkeys hvalues

theorem equalEntries_comparesAlike (left : List (Outcome Value × Outcome Value)) :
    equalEntries eq left (es.map fun e => (key e, value e)) =
      equalEntries eq left (es.map fun e => (key' e, value' e)) := by
  rw [equalEntries, equalEntries, Bool.eq_iff_iff, List.all_eq_true, List.all_eq_true]
  refine forall₂_congr fun e _ => Bool.eq_iff_iff.mp ?_
  dsimp only
  split
  · rfl
  · next k _ =>
      obtain ⟨hnone, hnone'⟩ | ⟨o, o', hfound, hfound', hvalue⟩ :=
        none_or_some_of_rel (valueAt?_comparesAlike hkeys hvalues k)
      · rw [hnone, hnone']
      · rw [hfound, hfound']
        exact hvalue e.2

/-- Maps are compared by their lengths first. -/
theorem equalMaps_comparesAlike (n : Nat) (left : List (Outcome Value × Outcome Value)) :
    (n == es.length && equalEntries eq left (es.map fun e => (key e, value e))) =
      (n == es.length && equalEntries eq left (es.map fun e => (key' e, value' e))) :=
  congrArg (n == es.length && ·) (equalEntries_comparesAlike hkeys hvalues left)

end Entries

end Comparing

section Step

variable {eq : Value → Value → Bool}
  (hsame : ∀ {v w : Value}, v.Coincide w → ∀ u, eq u v = eq u w)

include hsame

theorem BothRead.comparesAlike {o o' : Outcome Value} (hread : BothRead Coincide o o') :
    ComparesAlike eq o o' := by
  intro other
  cases hread with
  | faults f g => cases other <;> rfl
  | values hvalues =>
      cases other with
      | error f => rfl
      | ok u => exact hsame hvalues u

omit hsame in
/-- The fields of a type are those that can be read. -/
theorem mem_fields_iff {s : Protobuf.Schema} {m : Protobuf.Message} {name : String} :
    name ∈ m.type.fields.map Protobuf.Field.name ↔ (m.fieldValue? s 0 name).isSome := by
  rw [Protobuf.Message.fieldValue?, Option.isSome_map, Protobuf.MessageType.field?,
    List.find?_isSome, List.mem_map]
  simp only [beq_iff_eq]

theorem equalMessages_coincide {s s' : Protobuf.Schema} {m m' : Protobuf.Message}
    (hname : m.name = m'.name)
    (hfields : ∀ name, Option.Rel (BothRead Coincide) (m.fieldValue? s 0 name)
      (m'.fieldValue? s' 0 name)) (own : Protobuf.Schema) (other : Protobuf.Message) :
    equalMessages eq own other s m = equalMessages eq own other s' m' := by
  have hmem (name : String) : name ∈ m.type.fields.map Protobuf.Field.name ↔
      name ∈ m'.type.fields.map Protobuf.Field.name := by
    rw [mem_fields_iff (s := s), mem_fields_iff (s := s')]
    obtain ⟨hnone, hnone'⟩ | ⟨x, x', hfield, hfield', -⟩ := none_or_some_of_rel (hfields name)
    · rw [hnone, hnone']
    · rw [hfield, hfield']
      exact Iff.rfl
  rw [equalMessages, equalMessages, hname, Bool.eq_iff_iff, Bool.and_eq_true, Bool.and_eq_true,
    List.all_eq_true, List.all_eq_true, List.map_append, List.map_append]
  simp only [List.mem_append, hmem]
  refine and_congr_right fun _ => forall₂_congr fun name _ => Bool.eq_iff_iff.mp ?_
  obtain ⟨hnone, hnone'⟩ | ⟨x, x', hfield, hfield', hread⟩ := none_or_some_of_rel (hfields name)
  · rw [hnone, hnone']
  · rw [hfield, hfield']
    cases other.fieldValue? own 0 name with
    | none => rfl
    | some o => exact hread.comparesAlike hsame o

/-- Step: values that coincide compare alike if their parts do. -/
theorem Value.Coincide.equalsBy_eq {v w : Value} (hvw : v.Coincide w) (u : Value) :
    u.equalsBy eq v = u.equalsBy eq w := by
  cases hvw with
  | refl v => rfl
  | @exchangeList ty ty' s s' xs helements =>
      cases u with
      | list own items =>
          cases items with
          | exchange own zs => rfl
          | _ =>
              exact equalLists_comparesAlike (fun x hx => (helements x hx).comparesAlike hsame) _
      | _ => rfl
  | @protobufList ty ty' s s' xs helements =>
      cases u with
      | list own items =>
          cases items with
          | protobuf own zs => rfl
          | _ =>
              exact equalLists_comparesAlike (fun x hx => (helements x hx).comparesAlike hsame) _
      | _ => rfl
  | @exchangeMap ty ty' s s' es hkeys hvalues =>
      have hsameKeys := fun e he => (hkeys e he).keyOf?_eq
      cases u with
      | map own entries =>
          cases entries with
          | exchange own zs => exact equalMaps_comparesAlike hsameKeys (fun _ _ => .refl _) _ _
          | _ =>
              exact equalMaps_comparesAlike hsameKeys
                (fun e he => (hvalues e he).comparesAlike hsame) _ _
      | _ => rfl
  | @protobufMap ty ty' s s' es hvalues =>
      have hsameKeys : ∀ e ∈ es, Entries.keyOf? (e.1.toValue.toValue s 0) =
          Entries.keyOf? (e.1.toValue.toValue s' 0) := fun e _ => by cases e.1 <;> rfl
      cases u with
      | map own entries =>
          cases entries with
          | protobuf own zs => exact equalMaps_comparesAlike hsameKeys (fun _ _ => .refl _) _ _
          | _ =>
              exact equalMaps_comparesAlike hsameKeys
                (fun e he => (hvalues e he).comparesAlike hsame) _ _
      | _ => rfl
  | @object s s' m m' hname hfields =>
      cases u with
      | object own other => exact equalMessages_coincide hsame hname hfields own other
      | _ => rfl
  | typedNull => cases u <;> rfl

end Step

namespace Value

theorem Coincide.equalsWithin_eq {v w : Value} (hvw : v.Coincide w) (fuel : Nat) (u : Value) :
    equalsWithin fuel u v = equalsWithin fuel u w := by
  induction fuel generalizing u v w with
  | zero => rfl
  | succ fuel ih => exact hvw.equalsBy_eq (fun hparts u => ih hparts u) u

/-- What coincides is equal to the same values. -/
theorem Coincide.equals_eq {v w : Value} (hvw : v.Coincide w) (u : Value) :
    u.equals v = u.equals w :=
  hvw.equalsWithin_eq _ u

end Value

theorem BothRead.comparesAlike_equals {o o' : Outcome Value} (hread : BothRead Coincide o o') :
    ComparesAlike Value.equals o o' :=
  hread.comparesAlike fun hvw u => hvw.equals_eq u

end CommonExpr
