import CommonExpr.Proofs.Protobuf.Validity

/-!
Well-known types in sound schemas.

Some messages are read as values of their own, by the names of their types.  Main
statement: in a sound schema a type with such a name is the known one, and a valid
message of a wrapper type wraps a scalar of the kind that the name tells.
-/

namespace CommonExpr.Protobuf

theorem ofWellKnown?_of_wrapperKind? {name : String} {kind : Kind}
    (hkind : wrapperKind? name = some kind) : Ty.ofWellKnown? name = some (.wrapper kind.ty) := by
  unfold wrapperKind? at hkind
  split at hkind
  case h_10 => cases hkind
  all_goals
    cases hkind
    rfl

/-- The kinds that wrappers have. -/
inductive Kind.Wrappable : Kind → Prop
  | bool : Wrappable .bool
  | int32 : Wrappable .int32
  | int64 : Wrappable .int64
  | uint32 : Wrappable .uint32
  | uint64 : Wrappable .uint64
  | float : Wrappable .float
  | double : Wrappable .double
  | string : Wrappable .string
  | bytes : Wrappable .bytes

theorem Kind.Wrappable.of_wrapperKind? {name : String} {kind : Kind}
    (hkind : wrapperKind? name = some kind) : kind.Wrappable := by
  unfold wrapperKind? at hkind
  split at hkind
  case h_10 => cases hkind
  all_goals
    cases hkind
    constructor

theorem wrapperKind?_ne_message {name : String} {kind : Kind}
    (hkind : wrapperKind? name = some kind) (type : String) : kind ≠ .message type := by
  rintro rfl
  cases Kind.Wrappable.of_wrapperKind? hkind

theorem mem_wrapperTypes {t : MessageType} (ht : t ∈ wrapperTypes) :
    ∃ kind, wrapperKind? t.name = some kind ∧ t = ⟨t.name, [.one 1 "value" kind]⟩ := by
  obtain ⟨name, -, hname⟩ := List.mem_filterMap.mp ht
  obtain ⟨kind, hkind, rfl⟩ := Option.map_eq_some_iff.mp hname
  exact ⟨kind, hkind, rfl⟩

theorem mem_wellKnown_types {t : MessageType} (ht : t ∈ WellKnown.types) :
    t ∈ WellKnown.special ∨
      ∃ kind, wrapperKind? t.name = some kind ∧ t = ⟨t.name, [.one 1 "value" kind]⟩ :=
  (List.mem_append.mp ht).imp id mem_wrapperTypes

theorem special_names_nodup : (WellKnown.special.map (·.name)).Nodup := by decide

theorem special_wellKnown : ∀ t ∈ WellKnown.special,
    (Ty.ofWellKnown? t.name).isSome = true ∧ wrapperKind? t.name = none := by decide

theorem ne_special {name : String} (hne : ∀ known ∈ WellKnown.special, name ≠ known.name) :
    name ≠ WellKnown.any ∧ name ≠ WellKnown.timestamp ∧ name ≠ WellKnown.duration ∧
      name ≠ WellKnown.value ∧ name ≠ WellKnown.struct ∧ name ≠ WellKnown.listValue := by
  simp only [WellKnown.special, List.forall_mem_cons] at hne
  obtain ⟨hany, htimestamp, hduration, hvalue, hstruct, hlist, -⟩ := hne
  exact ⟨hany, htimestamp, hduration, hvalue, hstruct, hlist⟩

/-- A wrapper has none of the other names that are read in a way of their own. -/
theorem ne_special_of_wrapperKind? {name : String} {kind : Kind}
    (hkind : wrapperKind? name = some kind) :
    name ≠ WellKnown.any ∧ name ≠ WellKnown.timestamp ∧ name ≠ WellKnown.duration ∧
      name ≠ WellKnown.value ∧ name ≠ WellKnown.struct ∧ name ≠ WellKnown.listValue := by
  apply ne_special
  rintro known hknown rfl
  cases (special_wellKnown known hknown).2.symm.trans hkind

/-- A name without a reading of its own is none of those that have one. -/
theorem ne_special_of_plain {name : String} (hplain : Ty.ofWellKnown? name = none) :
    name ≠ WellKnown.any ∧ name ≠ WellKnown.timestamp ∧ name ≠ WellKnown.duration ∧
      name ≠ WellKnown.value ∧ name ≠ WellKnown.struct ∧ name ≠ WellKnown.listValue := by
  apply ne_special
  rintro known hknown rfl
  have hsome := (special_wellKnown known hknown).1
  rw [hplain] at hsome
  cases hsome

namespace MessageType.SoundIn

variable {s : Schema} {t : MessageType}

/-- A type with a well-known name is the known one. -/
theorem eq_of_name (ht : t.SoundIn s) (known : MessageType) (hknown : known ∈ WellKnown.special)
    (hname : t.name = known.name) : t = known := by
  obtain ⟨hsome, hnone⟩ := special_wellKnown known hknown
  rw [← hname] at hsome hnone
  rcases mem_wellKnown_types (ht.wellKnown hsome) with hspecial | ⟨kind, hkind, -⟩
  · exact List.inj_on_of_nodup_map special_names_nodup hspecial hknown hname
  · cases hnone.symm.trans hkind

/-- A type with the name of a wrapper has one field, of the kind that it wraps. -/
theorem eq_wrapper (ht : t.SoundIn s) {kind : Kind} (hkind : wrapperKind? t.name = some kind) :
    t = ⟨t.name, [.one 1 "value" kind]⟩ := by
  have hsome : (Ty.ofWellKnown? t.name).isSome = true := by
    rw [ofWellKnown?_of_wrapperKind? hkind]
    rfl
  rcases mem_wellKnown_types (ht.wellKnown hsome) with hspecial | ⟨kind', hkind', heq⟩
  · cases (special_wellKnown t hspecial).2.symm.trans hkind
  · cases hkind.symm.trans hkind'
    exact heq

theorem wrapper_field? (ht : t.SoundIn s) {kind : Kind} (hkind : wrapperKind? t.name = some kind) :
    t.field? "value" = some (.one 1 "value" kind) := by
  rw [ht.eq_wrapper hkind]
  rfl

end MessageType.SoundIn

/-- What a scalar field of a valid message is read as fits its kind. -/
theorem Message.Valid.fits_get {m : Message} (hm : m.Valid) {field : Field}
    (hfield : field ∈ m.type.fields) (hshape : field.shape = .singular)
    (hscalar : ∀ name, field.kind ≠ .message name) : field.kind.Fits (m.get field) := by
  rcases m.get_cases field with hstored | ⟨-, hdefault⟩
  · have hholds := (hm.stored hstored).holds (hm.type_sound.fieldAt? hfield) hshape
    exact hholds.fits hscalar
  · rw [hdefault]
    exact Field.fits_defaultValue m.schema hshape hscalar

/-- A valid message of a wrapper type wraps a scalar of its kind. -/
theorem Message.Valid.wrapped? {m : Message} (hm : m.Valid) {kind : Kind}
    (hkind : wrapperKind? m.name = some kind) : ∃ s, m.wrapped? = some s ∧ s.ty = kind.ty := by
  have hfield := hm.type_sound.wrapper_field? hkind
  have hmem := MessageType.mem_of_field? hfield
  obtain ⟨s, hs, hty⟩ := hm.fits_get hmem rfl (wrapperKind?_ne_message hkind)
  refine ⟨s, ?_, hty⟩
  simp [Message.wrapped?, hkind, hfield, hs]

end CommonExpr.Protobuf
