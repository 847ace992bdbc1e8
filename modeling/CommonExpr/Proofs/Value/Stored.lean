import CommonExpr.Proofs.Protobuf.WellKnown
import CommonExpr.Proofs.Value.WellFormed

/-!
What is read out of messages.

The fields of a valid message hold values of the kinds that its type declares.  Main
statement: what such a field, or a valid message itself, is read as is well-formed, and
is of the type that is declared for it.
-/

namespace CommonExpr

namespace Protobuf

theorem Value.toValue_of_widened? {x : Value} {s : Scalar} (hx : x.widened? = some s)
    (schema : Schema) (id : Int) : x.toValue schema id = .ok (.scalar s) := by
  cases x <;> cases hx <;> rfl

theorem Key.exists_widened? (k : Key) : ∃ s, k.toValue.widened? = some s := by
  cases k <;> exact ⟨_, rfl⟩

/-- The keys of a map field read as what the walk over them saw. -/
theorem keys_read (schema : Schema) (id : Int) (entries : List (Key × Value)) :
    (Entries.protobuf schema entries).keys id =
      entries.map fun (k, _) => .ok ((k.toValue.widened?).elim .null .scalar) := by
  rw [Entries.keys, Entries.read, List.map_map]
  refine List.map_congr_left fun (k, x) _ => ?_
  obtain ⟨s, hs⟩ := k.exists_widened?
  dsimp only [Function.comp]
  rw [Value.toValue_of_widened? hs schema id, hs]
  rfl

theorem eq_map_of_mapValue {schema : Schema} {id : Int} {ty : Ty} {entries : List (Key × Value)}
    {v : CommonExpr.Value} (hmap : mapValue schema id ty entries = .ok v) :
    v = .map ty (.protobuf schema entries) ∧ (Entries.protobuf schema entries).KeysDistinct := by
  simp only [mapValue] at hmap
  split at hmap
  · cases hmap
  · next hcheck =>
      obtain ⟨keys, hkeys, hnodup, -⟩ := CommonExpr.Value.exists_keys_of_checkKeys hcheck
      refine ⟨(Except.ok.inj hmap).symm, fun id' => ⟨keys, ?_, hnodup⟩⟩
      rw [keys_read]
      exact hkeys

end Protobuf

open Protobuf (Schema Message Kind)

/-! Reading closes up -/

namespace Value

/-- What is read out of a message: values without parts, and containers of values of
one kind with the type of this kind, if with any. -/
inductive Stored : Value → Prop
  | leaf {v : Value} (hsound : v.Sound) (hleaf : ∀ w, ¬ v.Part w) : Stored v
  | list {schema : Schema} {elem : Ty} {xs : List Protobuf.Value} {kind : Kind}
      (hschema : schema.Sound) (hproper : elem.Proper) (helem : elem = .dyn ∨ elem = kind.ty)
      (hxs : ∀ x ∈ xs, kind.Holds x) : Stored (.list (.list elem) (.protobuf schema xs))
  | map {schema : Schema} {key value : Ty} {es : List (Protobuf.Key × Protobuf.Value)}
      {keyKind kind : Kind} (hschema : schema.Sound) (hkey : key.Proper) (hvalue : value.Proper)
      (hkeyTy : key = .dyn ∨ key = keyKind.ty) (hvalueTy : value = .dyn ∨ value = kind.ty)
      (hdistinct : (Entries.protobuf schema es).KeysDistinct)
      (hkeys : ∀ e ∈ es, keyKind.Fits e.1.toValue) (hvalues : ∀ e ∈ es, kind.Holds e.2) :
      Stored (.map (.map key value) (.protobuf schema es))
  | zero {type : String} {zero : Value} (hzero : Stored zero) : Stored (.typedNull type zero)

theorem stored_scalar (s : Scalar) : (Value.scalar s).Stored :=
  .leaf trivial fun _ hpart => nomatch hpart

end Value

namespace Protobuf

variable {schema : Schema} {id : Int}

theorem Kind.Fits.stored {kind : Kind} {x : Value} (hfits : kind.Fits x) {v : CommonExpr.Value}
    (hread : x.toValue schema id = .ok v) : v.Stored ∧ kind.ty.Admits v := by
  obtain ⟨s, hs, hty⟩ := hfits
  rw [Value.toValue_of_widened? hs] at hread
  cases hread
  refine ⟨CommonExpr.Value.stored_scalar s, Or.inr ?_⟩
  rw [CommonExpr.Value.ty, hty]
  exact Ty.identical_refl _

theorem MessageType.Stores.valid_of_message {t : MessageType} {number : Nat} {m : Message}
    (hstores : t.Stores number (.message m)) : m.Valid := by
  cases hstores with
  | single hfield hshape hx =>
      cases hx with
      | scalar hfits =>
          obtain ⟨s, hs, -⟩ := hfits
          cases hs
      | message hkind hm => exact hm

theorem Message.Valid.of_jsonField? {m inner : Message} (hm : m.Valid) {name : String}
    (hfield : m.jsonField? = some (name, .message inner)) : inner.Valid := by
  obtain ⟨f, hf, hname⟩ := List.exists_of_findSome?_eq_some hfield
  split at hname
  · obtain ⟨-, hget⟩ := Prod.mk.inj (Option.some.inj hname)
    have hstored := Message.stored?_of_has (List.mem_filter.mp hf).2
    rw [hget] at hstored
    exact (hm.stored hstored).valid_of_message
  · cases hname

/-- A valid message is read as a value of the type that messages of its name have. -/
theorem Message.Reads.stored (hschema : schema.Sound) {m : Message} {v : CommonExpr.Value}
    (hreads : m.Reads schema id v) (hm : m.Valid) : v.Stored ∧ (Ty.ofMessage m.name).Admits v := by
  induction hreads with
  | @any m inner type v hname htype hdecode hread ih =>
      have hinner := (valid_of_decode? hschema htype hdecode).1
      rw [hname]
      exact ⟨(ih hinner).1, Ty.dyn_admits v⟩
  | @timestamp m t hname hnormal =>
      rw [hname]
      have hrange := Timestamp.inRange_of_normalize hnormal
      exact ⟨.leaf hrange fun _ hpart => (nomatch hpart), Or.inr rfl⟩
  | @duration m d hname hnormal =>
      rw [hname]
      have hrange := Duration.inRange_of_normalize hnormal
      exact ⟨.leaf hrange fun _ hpart => (nomatch hpart), Or.inr rfl⟩
  | @null m hname =>
      rw [hname]
      exact ⟨.leaf trivial fun _ hpart => (nomatch hpart), Ty.dyn_admits _⟩
  | @scalar m s hname =>
      rw [hname]
      exact ⟨CommonExpr.Value.stored_scalar s, Ty.dyn_admits _⟩
  | @nested m inner field v hname hfield hread ih =>
      rw [hname]
      exact ⟨(ih (hm.of_jsonField? hfield)).1, Ty.dyn_admits v⟩
  | @struct m v hname hmap =>
      have htype := hm.type_sound.eq_of_name WellKnown.structType (by decide) hname
      have hfield : m.type.fieldAt? 1 =
          some (.mapOf 1 "fields" .string (.message WellKnown.value)) := by
        rw [htype]
        rfl
      have hentries := hm.holds_of_entriesAt hfield rfl
      obtain ⟨rfl, hdistinct⟩ := eq_map_of_mapValue hmap
      rw [hname]
      exact ⟨.map hschema trivial trivial (Or.inr rfl) (Or.inl rfl) hdistinct
        (fun e he => (hentries e he).1) fun e he => (hentries e he).2, Or.inr rfl⟩
  | @list m hname =>
      have htype := hm.type_sound.eq_of_name WellKnown.listValueType (by decide) hname
      have hfield : m.type.fieldAt? 1 = some (.many 1 "values" (.message WellKnown.value)) := by
        rw [htype]
        rfl
      rw [hname]
      exact ⟨.list hschema trivial (Or.inl rfl) (hm.holds_of_listAt hfield), Or.inr rfl⟩
  | @wrapped m s hwrapped =>
      obtain ⟨kind, hkind, -⟩ := Option.bind_eq_some_iff.mp hwrapped
      obtain ⟨s', hs', hty⟩ := hm.wrapped? hkind
      cases hwrapped.symm.trans hs'
      refine ⟨.leaf trivial fun _ hpart => (nomatch hpart), Or.inr ?_⟩
      rw [Ty.ofMessage, ofWellKnown?_of_wrapperKind? hkind, CommonExpr.Value.ty, hty]
      exact Ty.identical_refl _
  | @object m hname hwrapped =>
      refine ⟨.leaf ⟨hschema, hm⟩ fun _ hpart => (nomatch hpart), Or.inr ?_⟩
      -- a message with a well-known name would have been read in another way
      have hunknown : Ty.ofWellKnown? m.name = none := by
        by_contra hknown
        have hsome : (Ty.ofWellKnown? m.name).isSome = true := Option.isSome_iff_ne_none.mpr hknown
        rcases mem_wellKnown_types (hm.type_sound.wellKnown hsome) with hspecial | ⟨kind, hkind, -⟩
        · exact hname (List.mem_map_of_mem hspecial)
        · obtain ⟨s, hs, -⟩ := hm.wrapped? hkind
          cases hwrapped.symm.trans hs
      rw [Ty.ofMessage, hunknown]
      exact Ty.identical_refl _

theorem Kind.Holds.stored (hschema : schema.Sound) {kind : Kind} {x : Value} (hx : kind.Holds x)
    {v : CommonExpr.Value} (hread : x.toValue schema id = .ok v) :
    v.Stored ∧ kind.ty.Admits v := by
  cases hx with
  | scalar hfits => exact hfits.stored hread
  | message hkind hm =>
      rw [hkind]
      exact (Message.reads_of_read hread).stored hschema hm

end Protobuf

namespace Value

variable {v w : Value}

theorem Stored.sound (hv : v.Stored) : v.Sound := by
  cases hv with
  | leaf hsound hleaf => exact hsound
  | zero hzero => trivial
  | @list schema elem xs kind hschema hproper helem hxs =>
      refine ⟨hproper, ?_⟩
      rintro _ ⟨⟩ id v hv
      obtain ⟨x, hx, hread⟩ := List.mem_map.mp hv
      have hadmits := ((hxs x hx).stored hschema hread).2
      rcases helem with rfl | rfl
      · exact Ty.dyn_admits v
      · exact hadmits
  | @map schema key value es keyKind kind hschema hkey hvalue hkeyTy hvalueTy hdistinct hkeys
      hvalues =>
      refine ⟨⟨hkey, hvalue⟩, hdistinct, ?_⟩
      rintro _ _ ⟨⟩ id
      constructor
      · intro k o hk
        obtain ⟨e, he, heq⟩ := List.mem_map.mp hk
        have hadmits := ((hkeys e he).stored (Prod.mk.inj heq).1).2
        rcases hkeyTy with rfl | rfl
        · exact Ty.dyn_admits k
        · exact hadmits
      · intro o v hv
        obtain ⟨e, he, heq⟩ := List.mem_map.mp hv
        have hadmits := ((hvalues e he).stored hschema (Prod.mk.inj heq).2).2
        rcases hvalueTy with rfl | rfl
        · exact Ty.dyn_admits v
        · exact hadmits

theorem Stored.part (hv : v.Stored) (hpart : v.Part w) : w.Stored := by
  cases hv with
  | leaf hsound hleaf => exact absurd hpart (hleaf w)
  | zero hzero =>
      cases hpart
      exact hzero
  | list hschema hproper helem hxs =>
      cases hpart with
      | element hw =>
          obtain ⟨x, hx, hread⟩ := List.mem_map.mp hw
          exact ((hxs x hx).stored hschema hread).1
  | map hschema hkey hvalue hkeyTy hvalueTy hdistinct hkeys hvalues =>
      cases hpart with
      | key hw =>
          obtain ⟨e, he, heq⟩ := List.mem_map.mp hw
          exact ((hkeys e he).stored (Prod.mk.inj heq).1).1
      | value hw =>
          obtain ⟨e, he, heq⟩ := List.mem_map.mp hw
          exact ((hvalues e he).stored hschema (Prod.mk.inj heq).2).1

theorem Stored.wellFormed (hv : v.Stored) : v.WellFormed :=
  wellFormed_of_closed (fun _ hv => hv.sound) (fun _ _ hv => hv.part) hv

end Value

/-! Fields -/

theorem Ty.ofWellKnown?_proper {name : String} {t : Ty} (ht : Ty.ofWellKnown? name = some t) :
    t.Proper := by
  unfold Ty.ofWellKnown? at ht
  split at ht
  case h_17 => cases ht
  all_goals
    cases ht
    simp [Ty.Proper, Ty.jsonObject, Ty.dynList]

theorem Ty.ofMessage_proper {name : String} (hname : '(' ∉ name.toList) :
    (Ty.ofMessage name).Proper := by
  unfold Ty.ofMessage
  cases hknown : Ty.ofWellKnown? name with
  | none => exact hname
  | some t => exact Ty.ofWellKnown?_proper hknown

namespace Protobuf

theorem Kind.ty_proper_of_isKey {key : Kind} (hkey : key.isKey = true) : key.ty.Proper := by
  cases key with
  | message name => cases hkey
  | _ => trivial

theorem Field.SoundIn.kind_proper {s : Schema} (hs : s.Sound) {field : Field}
    (hfield : field.SoundIn s) : field.kind.ty.Proper := by
  cases hkind : field.kind with
  | message name =>
      obtain ⟨t, ht, rfl⟩ := Option.map_eq_some_iff.mp (hfield.found name (by rw [hkind]; rfl))
      exact Ty.ofMessage_proper (hs.type ht).bracket
  | _ => trivial

variable {schema : Schema} {id : Int}

theorem stored_of_zeroValue (hschema : schema.Sound) {own : Schema} {type : MessageType}
    (hvalid : (Message.empty own type).Valid) {v : CommonExpr.Value}
    (hzero : zeroValue schema id own type = .ok v) : v.Stored := by
  unfold zeroValue at hzero
  split at hzero
  · cases hzero
    have hrange : (⟨0, 0⟩ : Timestamp).InRange := by decide
    exact .leaf hrange fun _ hpart => nomatch hpart
  · split at hzero
    · cases hzero
      exact .leaf Duration.inRange_zero fun _ hpart => nomatch hpart
    · split at hzero
      · cases hzero
        exact .leaf trivial fun _ hpart => nomatch hpart
      · exact ((Message.reads_of_read hzero).stored hschema hvalid).1

namespace Message.Valid

variable {m : Message} {field : Field}

theorem holds_of_get_map (hm : m.Valid) (hfield : field ∈ m.type.fields) {key : Kind}
    (hshape : field.shape = .map key) {entries : List (Key × Value)}
    (hget : m.get field = .map entries) :
    ∀ e ∈ entries, key.Fits e.1.toValue ∧ field.kind.Holds e.2 := by
  rcases m.get_cases field with hstored | ⟨-, hdefault⟩
  · rw [hget] at hstored
    exact (hm.stored hstored).holds_of_map (hm.type_sound.fieldAt? hfield) hshape
  · rw [hget, Field.defaultValue, hshape] at hdefault
    cases hdefault
    exact fun _ he => absurd he List.not_mem_nil

theorem holds_of_get_list (hm : m.Valid) (hfield : field ∈ m.type.fields) {packed : Bool}
    (hshape : field.shape = .repeated packed) {values : List Value}
    (hget : m.get field = .list values) : ∀ x ∈ values, field.kind.Holds x := by
  rcases m.get_cases field with hstored | ⟨-, hdefault⟩
  · rw [hget] at hstored
    exact (hm.stored hstored).holds_of_list (hm.type_sound.fieldAt? hfield)
  · rw [hget, Field.defaultValue, hshape] at hdefault
    cases hdefault
    exact fun _ hx => absurd hx List.not_mem_nil

/-- What a field of a valid message reads as. -/
theorem stored_of_fieldValue (hschema : schema.Sound) (hm : m.Valid)
    (hfield : field ∈ m.type.fields) {v : CommonExpr.Value}
    (hread : m.fieldValue schema id field = .ok v) : v.Stored := by
  have hsound := hm.type_sound.fields field hfield
  have hproper := hsound.kind_proper hm.schema_sound
  unfold Message.fieldValue at hread
  split at hread
  · next key entries hshape hget =>
      obtain ⟨rfl, hdistinct⟩ := eq_map_of_mapValue hread
      have hkey := Kind.ty_proper_of_isKey (hsound.key key (by rw [hshape]; rfl))
      have hentries := hm.holds_of_get_map hfield hshape hget
      rw [Field.ty, hshape]
      exact .map hschema hkey hproper (Or.inr rfl) (Or.inr rfl) hdistinct
        (fun e he => (hentries e he).1) fun e he => (hentries e he).2
  · cases hread
  · next packed values hshape hget =>
      cases hread
      rw [Field.ty, hshape]
      exact .list hschema hproper (Or.inr rfl) (hm.holds_of_get_list hfield hshape hget)
  · next packed hshape hget =>
      cases hread
      rw [Field.ty, hshape]
      exact .list hschema hproper (Or.inr rfl) fun _ hx => absurd hx List.not_mem_nil
  · next hshape =>
      split at hread
      · next name hkind =>
          split at hread
          · next hhas =>
              have hstored := hm.stored (Message.stored?_of_has hhas)
              have hholds := hstored.holds (hm.type_sound.fieldAt? hfield) hshape
              exact (hholds.stored hschema hread).1
          · split at hread
            · cases hread
            · next zero hzero =>
                cases hread
                have hvalid := (hsound.valid_empty hm.schema_sound hkind).1
                exact .zero (stored_of_zeroValue hschema hvalid hzero)
      · next hscalar => exact ((hm.fits_get hfield hshape hscalar).stored hread).1

end Message.Valid

end Protobuf

namespace Value

theorem WellFormed.byName? {v : Value} (hv : v.WellFormed) {id : Int} {name : String}
    {part : Value} (hpart : v.byName? id name = some (.ok part)) : part.WellFormed := by
  fun_induction Value.byName? id name v with
  | case1 => cases hpart
  | case2 ty entries w hget =>
      cases hpart
      obtain ⟨k, hk⟩ := Entries.mem_read_of_get hget
      exact hv.part (.value hk)
  | case3 => cases hpart
  | case4 schema m =>
      obtain ⟨field, hfield, hread⟩ := Option.map_eq_some_iff.mp hpart
      obtain ⟨hschema, hm⟩ := hv.sound
      have hmem := Protobuf.MessageType.mem_of_field? hfield
      exact (hm.stored_of_fieldValue hschema hmem hread).wellFormed
  | case5 type zero ih => exact ih (hv.part .zero) hpart
  | case6 => cases hpart

theorem WellFormed.field {v : Value} (hv : v.WellFormed) {id : Int} {name : String} {part : Value}
    (hpart : v.field id name = .ok part) : part.WellFormed := by
  unfold Value.field at hpart
  split at hpart
  · next result hresult => exact hv.byName? (hpart ▸ hresult)
  · split at hpart <;> cases hpart

end Value

end CommonExpr
