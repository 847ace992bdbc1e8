import CommonExpr.Proofs.Protobuf.Packing
import CommonExpr.Proofs.Value.Coincidence
import CommonExpr.Proofs.Value.Map

/-!
Data that ask a schema for nothing but what is packed in them.

Only a packed message is looked up in a schema.  Main statement: data in exchange form, and
protobuf data, are read as values that coincide by any two schemas that read what is packed in
the data as values that coincide.
-/

namespace CommonExpr

open Value (Coincide)

/-- Keys that coincide are all good or are not. -/
theorem checkKeys_coincide {id : Int} {keys keys' : List (Outcome Value)}
    (hkeys : List.Forall₂ (BothRead Coincide) keys keys') (seen : List Key) :
    checkKeys id seen keys = .ok () ↔ checkKeys id seen keys' = .ok () := by
  induction hkeys generalizing seen with
  | nil => exact Iff.rfl
  | cons hhead _ ih =>
      cases hhead with
      | faults f g => simp [checkKeys]
      | @values v w hvalues =>
          rw [checkKeys, checkKeys, hvalues.key?_eq]
          cases w.key? with
          | none => simp [fail]
          | some key =>
              by_cases hseen : key ∈ seen
              · simp [hseen, fail]
              · simpa [hseen] using ih (key :: seen)

/-- Entries that coincide make up maps that do. -/
theorem newMap_coincide {ty : Ty} {es es' : Entries}
    (hkeys : List.Forall₂ (BothRead Coincide) (es.keys 0) (es'.keys 0))
    (hmap : (Value.map ty es).Coincide (.map ty es')) :
    BothRead Coincide (Value.newMap 0 ty es) (Value.newMap 0 ty es') := by
  have hgood : checkKeys 0 [] (es.keys 0) = .ok () ↔ checkKeys 0 [] (es'.keys 0) = .ok () :=
    checkKeys_coincide hkeys []
  unfold Value.newMap
  split
  · next f hf =>
      split
      · next g hg => exact .faults f g
      · next hok => cases hf.symm.trans (hgood.mpr hok)
  · next hok =>
      split
      · next g hg => cases hg.symm.trans (hgood.mp hok)
      · exact .values hmap

namespace Exchange

/-- Whether a message is packed somewhere in exchanged data. -/
inductive Value.Packs (url : String) (payload : List UInt8) : Value → Prop
  | object : Packs url payload (.object url payload)
  | element {xs : List Value} {x : Value} (hx : x ∈ xs) (hpacks : Packs url payload x) :
      Packs url payload (.list xs)
  | key {entries : List MapEntry} {k : Value} {v : Option Value}
      (hentry : .mk (some k) v ∈ entries) (hpacks : Packs url payload k) :
      Packs url payload (.map entries)
  | value {entries : List MapEntry} {k : Option Value} {v : Value}
      (hentry : .mk k (some v) ∈ entries) (hpacks : Packs url payload v) :
      Packs url payload (.map entries)

theorem mem_of_wholeEntries? {entries : List MapEntry} {pairs : List (Value × Value)}
    (hwhole : wholeEntries? entries = some pairs) :
    ∀ p ∈ pairs, .mk (some p.1) (some p.2) ∈ entries := by
  fun_induction wholeEntries? entries generalizing pairs with
  | case1 =>
      cases hwhole
      exact fun _ hp => absurd hp List.not_mem_nil
  | case2 key value rest ih =>
      obtain ⟨others, hothers, rfl⟩ := Option.map_eq_some_iff.mp hwhole
      refine List.forall_mem_cons.mpr ⟨List.mem_cons_self, fun p hp => ?_⟩
      exact List.mem_cons_of_mem _ (ih hothers p hp)
  | case3 => cases hwhole

/-- Whether two schemas read what is packed in exchanged data as values that coincide. -/
def Value.PacksAlike (s s' : Option Protobuf.Schema) (x : Value) : Prop :=
  ∀ url payload, x.Packs url payload →
    BothRead Coincide (readObject s 0 url payload) (readObject s' 0 url payload)

variable {s s' : Option Protobuf.Schema}

theorem Value.PacksAlike.element {xs : List Value} (halike : (Value.list xs).PacksAlike s s') :
    ∀ x ∈ xs, x.PacksAlike s s' :=
  fun _ hx url payload hpacks => halike url payload (.element hx hpacks)

theorem Value.PacksAlike.pair {entries : List MapEntry} {pairs : List (Value × Value)}
    (halike : (Value.map entries).PacksAlike s s') (hwhole : wholeEntries? entries = some pairs) :
    ∀ p ∈ pairs, p.1.PacksAlike s s' ∧ p.2.PacksAlike s s' := by
  intro p hp
  have hentry := mem_of_wholeEntries? hwhole p hp
  exact ⟨fun url payload hpacks => halike url payload (.key hentry hpacks),
    fun url payload hpacks => halike url payload (.value hentry hpacks)⟩

theorem map_coincide {entries : List MapEntry} {pairs : List (Value × Value)}
    (hwhole : wholeEntries? entries = some pairs)
    (hparts : ∀ p ∈ pairs, BothRead Coincide (p.1.toValue s 0) (p.1.toValue s' 0) ∧
      BothRead Coincide (p.2.toValue s 0) (p.2.toValue s' 0)) :
    BothRead Coincide ((Value.map entries).toValue s 0) ((Value.map entries).toValue s' 0) := by
  have hkeys := fun p hp => (hparts p hp).1
  rw [toValue_map hwhole, toValue_map hwhole]
  refine newMap_coincide ?_ (.exchangeMap hkeys fun p hp => (hparts p hp).2)
  rw [Entries.keys, Entries.keys, Entries.read, Entries.read, List.map_map, List.map_map,
    List.forall₂_map_left_iff, List.forall₂_map_right_iff]
  exact List.forall₂_same.mpr hkeys

/-- Exchanged data are read alike if what is packed in them is. -/
theorem Value.PacksAlike.bothRead {x : Value} (halike : x.PacksAlike s s') :
    BothRead Coincide (x.toValue s 0) (x.toValue s' 0) := by
  induction hdepth : x.depth using Nat.strong_induction_on generalizing x with
  | _ d ih =>
      subst hdepth
      cases x with
      | object url payload => exact halike url payload .object
      | list xs =>
          refine .values (.exchangeList fun x hx => ih x.depth ?_ (halike.element x hx) rfl)
          exact Nat.lt_succ_of_le (Value.listDepth_le_iff.mp (Nat.le_refl _) x hx)
      | map entries =>
          cases hwhole : wholeEntries? entries with
          | none =>
              rw [toValue, toValue, hwhole]
              exact .faults _ _
          | some pairs =>
              refine map_coincide hwhole fun p hp => ?_
              obtain ⟨hkey, hvalue⟩ := halike.pair hwhole p hp
              obtain ⟨hkeyDepth, hvalueDepth⟩ := pairDepth_le_iff.mp (Nat.le_refl _) p hp
              have hlt : pairDepth pairs < (Value.map entries).depth :=
                depth_of_wholeEntries? hwhole ▸ Nat.lt_succ_self _
              exact ⟨ih _ (Nat.lt_of_le_of_lt hkeyDepth hlt) hkey rfl,
                ih _ (Nat.lt_of_le_of_lt hvalueDepth hlt) hvalue rfl⟩
      | _ => exact .refl _

end Exchange

namespace Protobuf

/-- Whether a packed message lies somewhere in protobuf data. -/
inductive Value.Packs (packed : Message) : Value → Prop
  | packed (hname : packed.name = WellKnown.any) : Packs packed (.message packed)
  | field {m : Message} {f : Nat × Value} (hf : f ∈ m.fields) (hpacks : Packs packed f.2) :
      Packs packed (.message m)
  | element {xs : List Value} {x : Value} (hx : x ∈ xs) (hpacks : Packs packed x) :
      Packs packed (.list xs)
  | entry {es : List (Key × Value)} {e : Key × Value} (he : e ∈ es)
      (hpacks : Packs packed e.2) : Packs packed (.map es)

/-- Whether two schemas read what is packed in protobuf data as values that coincide. -/
def Value.PacksAlike (s s' : Schema) (x : Value) : Prop :=
  ∀ packed, x.Packs packed → BothRead Coincide (packed.toValue s 0) (packed.toValue s' 0)

variable {s s' : Schema}

theorem Value.PacksAlike.field {m : Message} (halike : (Value.message m).PacksAlike s s')
    {number : Nat} {x : Value} (hstored : m.stored? number = some x) : x.PacksAlike s s' := by
  obtain ⟨before, after, hfields, -⟩ := List.lookup_eq_some_iff.mp hstored
  have hmem : (number, x) ∈ m.fields := by simp [hfields]
  exact fun packed hpacks => halike packed (.field hmem hpacks)

theorem Value.PacksAlike.element {xs : List Value} (halike : (Value.list xs).PacksAlike s s') :
    ∀ x ∈ xs, x.PacksAlike s s' :=
  fun _ hx packed hpacks => halike packed (.element hx hpacks)

theorem Value.PacksAlike.entry {es : List (Key × Value)}
    (halike : (Value.map es).PacksAlike s s') : ∀ e ∈ es, e.2.PacksAlike s s' :=
  fun _ he packed hpacks => halike packed (.entry he hpacks)

theorem mapValue_coincide {es : List (Key × Value)}
    (hvalues : ∀ e ∈ es, BothRead Coincide (e.2.toValue s 0) (e.2.toValue s' 0)) (ty : Ty) :
    BothRead Coincide (mapValue s 0 ty es) (mapValue s' 0 ty es) := by
  -- the keys are read without a schema
  unfold mapValue
  dsimp only
  split
  · exact .faults _ _
  · exact .values (.protobufMap hvalues)

/-- What an unset field stands for can be read by every schema. -/
theorem exists_zeroValue (schema own : Schema) (type : MessageType) :
    ∃ zero, zeroValue schema 0 own type = .ok zero := by
  unfold zeroValue
  split
  · exact ⟨_, rfl⟩
  · next htimestamp =>
      split
      · exact ⟨_, rfl⟩
      · next hduration =>
          split
          · exact ⟨_, rfl⟩
          · next hother =>
              obtain ⟨hvalue, hany⟩ := not_or.mp hother
              have hname : (Message.empty own type).name = type.name := rfl
              rw [Message.toValue, Message.read, hname, if_neg hany, if_neg htimestamp,
                if_neg hduration, if_neg hvalue]
              split
              · exact ⟨_, rfl⟩
              · split
                · exact ⟨_, rfl⟩
                · split <;> exact ⟨_, rfl⟩

theorem Kind.Fits.bothRead {kind : Kind} {x : Value} (hfits : kind.Fits x) :
    BothRead Coincide (x.toValue s 0) (x.toValue s' 0) := by
  obtain ⟨scalar, hscalar, -⟩ := hfits
  cases x with
  | message m => cases hscalar
  | list xs => cases hscalar
  | map es => cases hscalar
  | _ => exact .refl _

namespace Message

variable {m : Message}

theorem exists_stored_of_jsonField? {name : String} {x : Value}
    (hfield : m.jsonField? = some (name, x)) : ∃ number, m.stored? number = some x := by
  obtain ⟨f, hf, hname⟩ := List.exists_of_findSome?_eq_some hfield
  split at hname
  · obtain ⟨-, rfl⟩ := Prod.mk.inj (Option.some.inj hname)
    exact ⟨_, stored?_of_has (List.mem_filter.mp hf).2⟩
  · cases hname

section Parts

variable (halike : (Value.message m).PacksAlike s s')
  (hparts : ∀ x : Value, x.depth < m.depth → x.PacksAlike s s' →
    BothRead Coincide (x.toValue s 0) (x.toValue s' 0))

include halike hparts

theorem stored_bothRead {number : Nat} {x : Value} (hstored : m.stored? number = some x) :
    BothRead Coincide (x.toValue s 0) (x.toValue s' 0) :=
  hparts x (depth_of_stored? hstored) (halike.field hstored)

theorem jsonField_bothRead {name : String} {inner : Message}
    (hfield : m.jsonField? = some (name, .message inner)) :
    BothRead Coincide (inner.read s 0 m.depth) (inner.read s' 0 m.depth) := by
  have hdepth : inner.depth < m.depth := Nat.lt_of_succ_lt (depth_of_jsonField? hfield)
  obtain ⟨number, hstored⟩ := exists_stored_of_jsonField? hfield
  rw [read_eq_toValue hdepth, read_eq_toValue hdepth]
  exact stored_bothRead halike hparts hstored

theorem entriesAt_bothRead {number : Nat} {e : Key × Value} (he : e ∈ m.entriesAt number) :
    BothRead Coincide (e.2.toValue s 0) (e.2.toValue s' 0) := by
  have hdepth := Nat.lt_of_succ_lt (depth_of_mem_entriesAt he)
  unfold entriesAt at he
  split at he
  · next es hstored => exact hparts e.2 hdepth ((halike.field hstored).entry e he)
  · cases he

theorem listAt_bothRead {number : Nat} {x : Value} (hx : x ∈ m.listAt number) :
    BothRead Coincide (x.toValue s 0) (x.toValue s' 0) := by
  have hdepth := Nat.lt_of_succ_lt (depth_of_mem_listAt hx)
  unfold listAt at hx
  split at hx
  · next xs hstored => exact hparts x hdepth ((halike.field hstored).element x hx)
  · cases hx

omit hparts in
/-- Nothing is packed in the empty list and the empty map of an unset field. -/
theorem get_packsAlike {field : Field} (hshape : field.shape ≠ .singular) :
    (m.get field).PacksAlike s s' := by
  rcases m.get_cases field with hstored | ⟨-, hdefault⟩
  · exact halike.field hstored
  · rw [hdefault, Field.defaultValue]
    intro packed hpacks
    split at hpacks
    · cases hpacks with
      | element hx hpacks => cases hx
    · cases hpacks with
      | entry he hpacks => cases he
    · next hsingular => exact absurd hsingular hshape

theorem fieldValue_coincide (field : Field) :
    BothRead Coincide (m.fieldValue s 0 field) (m.fieldValue s' 0 field) := by
  have hget (hshape : field.shape ≠ .singular) : (m.get field).PacksAlike s s' :=
    get_packsAlike halike hshape
  unfold fieldValue
  split
  · next key es hshape hes =>
      have hne : field.shape ≠ .singular := by simp [hshape]
      have hes' := hes ▸ m.depth_get_le field hne
      refine mapValue_coincide (fun e he => hparts e.2 ?_ ((hes ▸ hget hne).entry e he)) _
      have hentry := Value.entryDepth_le_iff.mp (Nat.le_refl _) e he
      exact Nat.lt_of_le_of_lt hentry hes'
  · exact .faults _ _
  · next packed xs hshape hxs =>
      have hne : field.shape ≠ .singular := by simp [hshape]
      have hxs' := hxs ▸ m.depth_get_le field hne
      refine .values (.protobufList fun x hx => hparts x ?_ ((hxs ▸ hget hne).element x hx))
      have helement := Value.listDepth_le_iff.mp (Nat.le_refl _) x hx
      exact Nat.lt_of_le_of_lt helement hxs'
  · exact .values (.protobufList fun _ hx => absurd hx List.not_mem_nil)
  · next hshape =>
      split
      · split
        · next hhas => exact stored_bothRead halike hparts (stored?_of_has hhas)
        · obtain ⟨zero, hzero⟩ := exists_zeroValue s m.schema (m.schema.messageType _)
          obtain ⟨zero', hzero'⟩ := exists_zeroValue s' m.schema (m.schema.messageType _)
          rw [hzero, hzero']
          exact .values .typedNull
      · next hscalar =>
          rcases m.get_cases field with hstored | ⟨-, hdefault⟩
          · exact stored_bothRead halike hparts hstored
          · rw [hdefault]
            exact (Field.fits_defaultValue m.schema hshape hscalar).bothRead

/-- Step: a message is read alike if what is stored in it is. -/
theorem bothRead_of_parts : BothRead Coincide (m.toValue s 0) (m.toValue s' 0) := by
  by_cases hany : m.name = WellKnown.any
  · exact halike m (.packed hany)
  · rw [toValue, toValue, read, read, if_neg hany, if_neg hany]
    split
    · split <;> exact .refl _
    · split
      · split <;> exact .refl _
      · split
        · split
          · exact .refl _
          · exact .refl _
          · exact .refl _
          · next hfield => exact jsonField_bothRead halike hparts hfield
          · next hfield => exact jsonField_bothRead halike hparts hfield
          · exact .refl _
        · split
          · exact mapValue_coincide (fun e he => entriesAt_bothRead halike hparts he) _
          · split
            · exact .values (.protobufList fun x hx => listAt_bothRead halike hparts hx)
            · split
              · exact .refl _
              · refine .values (.object rfl fun name => ?_)
                rw [fieldValue?, fieldValue?]
                cases m.type.field? name with
                | none => exact .none
                | some field => exact .some (fieldValue_coincide halike hparts field)

end Parts

end Message

/-- Protobuf data are read alike if what is packed in them is. -/
theorem Value.PacksAlike.bothRead {x : Value} (halike : x.PacksAlike s s') :
    BothRead Coincide (x.toValue s 0) (x.toValue s' 0) := by
  induction hdepth : x.depth using Nat.strong_induction_on generalizing x with
  | _ d ih =>
      subst hdepth
      cases x with
      | message m =>
          refine Message.bothRead_of_parts halike fun part hpart hpacks => ?_
          exact ih part.depth (Nat.lt_succ_of_lt hpart) hpacks rfl
      | list xs =>
          refine .values (.protobufList fun x hx => ih x.depth ?_ (halike.element x hx) rfl)
          exact Nat.lt_succ_of_le (Value.listDepth_le_iff.mp (Nat.le_refl _) x hx)
      | map es =>
          refine mapValue_coincide (fun e he => ih e.2.depth ?_ (halike.entry e he) rfl) _
          exact Nat.lt_succ_of_le (Value.entryDepth_le_iff.mp (Nat.le_refl _) e he)
      | _ => exact .refl _

end Protobuf

/-! Lists and maps held in one form -/

/-- Whether what is packed in the elements on the right is read alike by the schemas of both
sides. -/
def Items.PacksAlike : Items → Items → Prop
  | .exchange s _, .exchange s' ys => ∀ y ∈ ys, y.PacksAlike s s'
  | .protobuf s _, .protobuf s' ys => ∀ y ∈ ys, y.PacksAlike s s'
  | _, _ => True

/-- Whether what is packed in the values on the right is read alike by the schemas of both
sides. -/
def Entries.PacksAlike : Entries → Entries → Prop
  | .exchange s _, .exchange s' es => ∀ e ∈ es, e.2.PacksAlike s s'
  | .protobuf s _, .protobuf s' es => ∀ e ∈ es, e.2.PacksAlike s s'
  | _, _ => True

/-- However deep the elements are, only what is packed in them tells the schemas apart. -/
theorem Items.PacksAlike.readsAlike {xs ys : Items} (halike : xs.PacksAlike ys) :
    xs.ReadsAlike Value.equals ys := by
  unfold Items.ReadsAlike
  split
  · exact fun y hy => (halike y hy).bothRead.comparesAlike_equals
  · exact fun y hy => (halike y hy).bothRead.comparesAlike_equals
  · trivial

theorem Entries.PacksAlike.readsAlike {es es' : Entries} (halike : es.PacksAlike es') :
    es.ReadsAlike Value.equals es' := by
  unfold Entries.ReadsAlike
  split
  · exact fun e he => (halike e he).bothRead.comparesAlike_equals
  · exact fun e he => (halike e he).bothRead.comparesAlike_equals
  · trivial

namespace Value

/-- Whether what is packed in the parts on the right is read alike by the schemas of both
sides. -/
def PacksAlike : Value → Value → Prop
  | .list _ xs, .list _ ys => xs.PacksAlike ys
  | .map _ es, .map _ es' => es.PacksAlike es'
  | _, _ => True

/-- Containers are compared as by their elements wherever what is packed in these is read alike
by the schemas of both. -/
theorem PacksAlike.readsAlike {v w : Value} (halike : v.PacksAlike w) : v.ReadsAlike w := by
  unfold ReadsAlike
  split
  · exact Items.PacksAlike.readsAlike halike
  · exact Entries.PacksAlike.readsAlike halike
  · trivial

end Value

end CommonExpr
