import CommonExpr.Proofs.Protobuf.Depth
import CommonExpr.Proofs.Protobuf.Reading
import Mathlib.Data.List.Nodup

/-!
Messages that are valid for their types.

A schema is sound if names resolve, numbers are distinct and the well-known types are
what they are known to be; a message is valid if each value that it stores is of the
kind that its type declares.  Main statement: reading bytes onto a valid message, and
hence decoding, gives a valid message.
-/

namespace CommonExpr.Protobuf

/-! Sound schemas -/

/-- The kinds that keys of maps can have. -/
def Kind.isKey : Kind → Bool
  | .double => false
  | .float => false
  | .bytes => false
  | .message _ => false
  | .enum _ => false
  | _ => true

/-- The name of the message type that values of a kind have. -/
def Kind.messageName? : Kind → Option String
  | .message name => some name
  | _ => none

/-- The kind of the keys of a map field. -/
def Shape.key? : Shape → Option Kind
  | .map key => some key
  | _ => none

/-- The types of messages that are read as values of their own. -/
def WellKnown.types : List MessageType := special ++ wrapperTypes

/-- Whether the message type of a field is there, under the name that the field gives,
and keys are of a kind for keys. -/
structure Field.SoundIn (s : Schema) (f : Field) : Prop where
  found : ∀ name ∈ f.kind.messageName?, (s.message? name).map (·.name) = some name
  key : ∀ key ∈ f.shape.key?, key.isKey = true

/-- Whether a message type is well made and, if its name is well known, the known one. -/
structure MessageType.SoundIn (s : Schema) (t : MessageType) : Prop where
  bracket : '(' ∉ t.name.toList
  dot : t.name.toList.head? ≠ some '.'
  wellKnown : (Ty.ofWellKnown? t.name).isSome = true → t ∈ WellKnown.types
  numbers : (t.fields.map Field.number).Nodup
  fields : ∀ f ∈ t.fields, f.SoundIn s

/-- Whether all message types of a schema are sound. -/
def Schema.Sound (s : Schema) : Prop := ∀ file ∈ s.files, ∀ t ∈ file.messages, t.SoundIn s

instance (s : Schema) (f : Field) : Decidable (f.SoundIn s) :=
  decidable_of_iff
    ((∀ name ∈ f.kind.messageName?, (s.message? name).map (·.name) = some name) ∧
      ∀ key ∈ f.shape.key?, key.isKey = true)
    ⟨fun h => ⟨h.1, h.2⟩, fun h => ⟨h.found, h.key⟩⟩

instance (s : Schema) (t : MessageType) : Decidable (t.SoundIn s) :=
  decidable_of_iff
    ('(' ∉ t.name.toList ∧ t.name.toList.head? ≠ some '.' ∧
      ((Ty.ofWellKnown? t.name).isSome = true → t ∈ WellKnown.types) ∧
      (t.fields.map Field.number).Nodup ∧ ∀ f ∈ t.fields, f.SoundIn s)
    ⟨fun ⟨h₁, h₂, h₃, h₄, h₅⟩ => ⟨h₁, h₂, h₃, h₄, h₅⟩,
      fun h => ⟨h.bracket, h.dot, h.wellKnown, h.numbers, h.fields⟩⟩

instance (s : Schema) : Decidable s.Sound :=
  inferInstanceAs (Decidable (∀ file ∈ s.files, ∀ t ∈ file.messages, t.SoundIn s))

namespace Schema

variable {s : Schema} {name : String} {t : MessageType}

theorem name_of_message? (hfound : s.message? name = some t) :
    t.name = withoutLeadingDot name := by
  obtain ⟨file, -, ht⟩ := List.exists_of_findSome?_eq_some hfound
  have hname := List.find?_some ht
  exact beq_iff_eq.mp hname

theorem Sound.type (hs : s.Sound) (hfound : s.message? name = some t) : t.SoundIn s := by
  obtain ⟨file, hfile, ht⟩ := List.exists_of_findSome?_eq_some hfound
  exact hs file hfile t (List.mem_of_find?_eq_some ht)

/-- A type that was found is found under its own name. -/
theorem Sound.message?_name (hs : s.Sound) (hfound : s.message? name = some t) :
    s.message? t.name = some t := by
  have hplain : withoutLeadingDot t.name = t.name := by
    unfold withoutLeadingDot
    split
    · next rest heq => exact absurd (by rw [heq]; rfl) (hs.type hfound).dot
    · rfl
  unfold Schema.message? at hfound ⊢
  rw [hplain, name_of_message? hfound]
  exact hfound

end Schema

namespace MessageType

variable {t : MessageType} {f : Field}

theorem mem_of_fieldAt? {number : Nat} (hfield : t.fieldAt? number = some f) :
    f ∈ t.fields ∧ f.number = number := by
  have hnumber := List.find?_some hfield
  exact ⟨List.mem_of_find?_eq_some hfield, beq_iff_eq.mp hnumber⟩

theorem mem_of_field? {name : String} (hfield : t.field? name = some f) : f ∈ t.fields :=
  List.mem_of_find?_eq_some hfield

/-- With distinct numbers, each field is found by its own. -/
theorem SoundIn.fieldAt? {s : Schema} (ht : t.SoundIn s) (hf : f ∈ t.fields) :
    t.fieldAt? f.number = some f := by
  cases hfound : t.fieldAt? f.number with
  | none => exact absurd (beq_self_eq_true f.number) (List.find?_eq_none.mp hfound f hf)
  | some g =>
      obtain ⟨hg, hnumber⟩ := mem_of_fieldAt? hfound
      rw [List.inj_on_of_nodup_map ht.numbers hg hf hnumber]

end MessageType

/-! Valid messages -/

mutual

/-- Whether a value is a scalar or a valid message of a kind. -/
inductive Kind.Holds : Kind → Value → Prop
  | scalar {kind : Kind} {x : Value} (hfits : kind.Fits x) : Kind.Holds kind x
  | message {kind : Kind} {m : Message} (hkind : kind = .message m.name)
      (hm : Message.Valid m) : Kind.Holds kind (.message m)

/-- Whether a value is of the shape and the kind of the field with a number. -/
inductive MessageType.Stores : MessageType → Nat → Value → Prop
  | single {t : MessageType} {number : Nat} {field : Field} {x : Value}
      (hfield : t.fieldAt? number = some field) (hshape : field.shape = .singular)
      (hx : Kind.Holds field.kind x) : MessageType.Stores t number x
  | list {t : MessageType} {number : Nat} {field : Field} {packed : Bool} {values : List Value}
      (hfield : t.fieldAt? number = some field) (hshape : field.shape = .repeated packed)
      (hvalues : ∀ x ∈ values, Kind.Holds field.kind x) : MessageType.Stores t number (.list values)
  | map {t : MessageType} {number : Nat} {field : Field} {key : Kind}
      {entries : List (Key × Value)} (hfield : t.fieldAt? number = some field)
      (hshape : field.shape = .map key) (hkeys : ∀ e ∈ entries, key.Fits e.1.toValue)
      (hvalues : ∀ e ∈ entries, Kind.Holds field.kind e.2) :
      MessageType.Stores t number (.map entries)

/-- Whether all that a message stores is of the kind that its type declares. -/
inductive Message.Valid : Message → Prop
  | mk {schema : Schema} {type : MessageType} {fields : List (Nat × Value)}
      {unknown : List RawField} (hschema : schema.Sound)
      (htype : schema.message? type.name = some type)
      (hfields : ∀ f ∈ fields, MessageType.Stores type f.1 f.2) :
      Message.Valid (.mk schema type fields unknown)

end

theorem Kind.Holds.fits {kind : Kind} {x : Value} (hx : kind.Holds x)
    (hscalar : ∀ name, kind ≠ .message name) : kind.Fits x := by
  cases hx with
  | scalar hfits => exact hfits
  | message hkind hm => exact absurd hkind (hscalar _)

namespace Message

variable {m : Message}

theorem Valid.schema_sound (hm : m.Valid) : m.schema.Sound := by
  cases hm with
  | mk hschema htype hfields => exact hschema

theorem Valid.message? (hm : m.Valid) : m.schema.message? m.name = some m.type := by
  cases hm with
  | mk hschema htype hfields => exact htype

theorem Valid.type_sound (hm : m.Valid) : m.type.SoundIn m.schema :=
  hm.schema_sound.type hm.message?

theorem Valid.stores (hm : m.Valid) : ∀ f ∈ m.fields, m.type.Stores f.1 f.2 := by
  cases hm with
  | mk hschema htype hfields => exact hfields

theorem valid_empty {s : Schema} {t : MessageType} (hs : s.Sound)
    (ht : s.message? t.name = some t) : (Message.empty s t).Valid :=
  .mk hs ht fun _ hf => absurd hf List.not_mem_nil

theorem Valid.stored (hm : m.Valid) {number : Nat} {x : Value}
    (hstored : m.stored? number = some x) : m.type.Stores number x := by
  obtain ⟨before, after, hfields, -⟩ := List.lookup_eq_some_iff.mp hstored
  exact hm.stores (number, x) (by simp [hfields])

/-- Setting a field to what it may store keeps a message valid. -/
theorem Valid.set (hm : m.Valid) {field : Field} {x : Value}
    (hx : m.type.Stores field.number x) : (m.set field x).Valid := by
  refine .mk hm.schema_sound hm.message? fun f (hf : f ∈ (m.set field x).fields) => ?_
  rcases mem_fields_set hf with rfl | hf
  · exact hx
  · exact hm.stores f hf

end Message

namespace MessageType.Stores

variable {t : MessageType} {number : Nat} {field : Field}

theorem holds {x : Value} (hstores : t.Stores number x) (hfield : t.fieldAt? number = some field)
    (hshape : field.shape = .singular) : field.kind.Holds x := by
  cases hstores with
  | single hfield' hshape' hx =>
      cases hfield.symm.trans hfield'
      exact hx
  | list hfield' hshape' hvalues =>
      cases hfield.symm.trans hfield'
      cases hshape.symm.trans hshape'
  | map hfield' hshape' hkeys hvalues =>
      cases hfield.symm.trans hfield'
      cases hshape.symm.trans hshape'

theorem holds_of_list {values : List Value} (hstores : t.Stores number (.list values))
    (hfield : t.fieldAt? number = some field) : ∀ x ∈ values, field.kind.Holds x := by
  cases hstores with
  | single hfield' hshape' hx =>
      cases hx with
      | scalar hfits => obtain ⟨s, hs, -⟩ := hfits; cases hs
  | list hfield' hshape' hvalues =>
      cases hfield.symm.trans hfield'
      exact hvalues

theorem holds_of_map {entries : List (Key × Value)} {key : Kind}
    (hstores : t.Stores number (.map entries)) (hfield : t.fieldAt? number = some field)
    (hshape : field.shape = .map key) :
    ∀ e ∈ entries, key.Fits e.1.toValue ∧ field.kind.Holds e.2 := by
  cases hstores with
  | single hfield' hshape' hx =>
      cases hx with
      | scalar hfits => obtain ⟨s, hs, -⟩ := hfits; cases hs
  | map hfield' hshape' hkeys hvalues =>
      cases hfield.symm.trans hfield'
      cases hshape.symm.trans hshape'
      exact fun e he => ⟨hkeys e he, hvalues e he⟩

end MessageType.Stores

namespace Message

variable {m : Message} {number : Nat} {field : Field}

theorem Valid.holds_of_listAt (hm : m.Valid) (hfield : m.type.fieldAt? number = some field) :
    ∀ x ∈ m.listAt number, field.kind.Holds x := by
  unfold Message.listAt
  split
  · next values hstored => exact (hm.stored hstored).holds_of_list hfield
  · exact fun _ hx => absurd hx List.not_mem_nil

theorem Valid.holds_of_entriesAt (hm : m.Valid) (hfield : m.type.fieldAt? number = some field)
    {key : Kind} (hshape : field.shape = .map key) :
    ∀ e ∈ m.entriesAt number, key.Fits e.1.toValue ∧ field.kind.Holds e.2 := by
  unfold Message.entriesAt
  split
  · next entries hstored => exact (hm.stored hstored).holds_of_map hfield hshape
  · exact fun _ he => absurd he List.not_mem_nil

end Message

/-! Reading valid messages -/

/-- The type of a message field is there, and an empty message of it is valid. -/
theorem Field.SoundIn.valid_empty {s : Schema} (hs : s.Sound) {field : Field}
    (hfield : field.SoundIn s) {name : String} (hkind : field.kind = .message name) :
    (Message.empty s (s.messageType name)).Valid ∧
      (Message.empty s (s.messageType name)).name = name := by
  have hfound := hfield.found name (by rw [hkind]; rfl)
  obtain ⟨t, ht, hname⟩ := Option.map_eq_some_iff.mp hfound
  have htype : s.messageType name = t := by rw [Schema.messageType, ht]; rfl
  rw [htype]
  exact ⟨Message.valid_empty hs (hs.message?_name ht), hname⟩

theorem Kind.fits_default_of_isKey (s : Schema) {key : Kind} (hkey : key.isKey = true) :
    key.Fits (key.default s) :=
  Kind.fits_default s fun name heq => by rw [heq] at hkey; cases hkey

theorem Field.SoundIn.holds_default {s : Schema} (hs : s.Sound) {field : Field}
    (hfield : field.SoundIn s) : field.kind.Holds (field.kind.default s) := by
  cases hkind : field.kind with
  | message name =>
      obtain ⟨hvalid, hname⟩ := hfield.valid_empty hs hkind
      exact .message (congrArg Kind.message hname.symm) hvalid
  | _ => exact .scalar (Kind.fits_default s fun name heq => nomatch heq)

/-- Whether reading onto a message keeps it valid and of its type. -/
def Nested.Keeps (nested : Nested) : Prop :=
  ∀ m bytes m', m.Valid → nested m bytes = some m' → m'.Valid ∧ m'.name = m.name

section Keeps

variable {nested : Nested} {m : Message} {field : Field} {number : Nat} {payload : Payload}

theorem Nested.Keeps.holds_of_merge (hnested : nested.Keeps) {s : Schema} (hs : s.Sound)
    (hfield : field.SoundIn s) {earlier : Option Value}
    (hearlier : ∀ x, earlier = some x → field.kind.Holds x) {x : Value}
    (hmerge : field.kind.merge nested s earlier payload = some x) : field.kind.Holds x := by
  unfold Kind.merge at hmerge
  split at hmerge
  · next name hkind =>
      split at hmerge
      · next b =>
          obtain ⟨m', hm', rfl⟩ := Option.map_eq_some_iff.mp hmerge
          split at hm'
          · next m =>
              cases hearlier (.message m) rfl with
              | scalar hfits =>
                  -- no scalar is a message
                  obtain ⟨s, hs, -⟩ := hfits
                  cases hs
              | message hkind' hm =>
                  obtain ⟨hvalid, hname⟩ := hnested _ _ _ hm hm'
                  exact .message (by rw [hkind', hname]) hvalid
          · obtain ⟨hvalid, hname⟩ := hfield.valid_empty hs hkind
            obtain ⟨hvalid', hname'⟩ := hnested _ _ _ hvalid hm'
            exact .message (by rw [hkind, hname', hname]) hvalid'
      · cases hmerge
  · exact .scalar (Kind.fits_of_read hmerge)

theorem Kind.fits_of_merge {key : Kind} (hkey : key.isKey = true) {s : Schema}
    {earlier : Option Value} {x : Value} (hmerge : key.merge nested s earlier payload = some x) :
    key.Fits x := by
  unfold Kind.merge at hmerge
  split at hmerge
  · cases hkey
  · exact Kind.fits_of_read hmerge

theorem Nested.Keeps.holds_of_readEntry (hnested : nested.Keeps) {s : Schema} (hs : s.Sound)
    (hfield : field.SoundIn s) {key : Kind} (hkey : key.isKey = true) {depth : Nat}
    {pair pair' : Value × Value} {raws : List RawField}
    (hread : readEntry nested depth s key field.kind pair raws = some pair')
    (hpair : key.Fits pair.1 ∧ field.kind.Holds pair.2) :
    key.Fits pair'.1 ∧ field.kind.Holds pair'.2 := by
  induction raws generalizing pair with
  | nil =>
      obtain rfl := Option.some.inj hread
      exact hpair
  | cons raw rest ih =>
      obtain ⟨number, payload⟩ := raw
      obtain ⟨k, v⟩ := pair
      rw [readEntry] at hread
      split at hread
      · obtain ⟨k', hk', hread⟩ := Option.bind_eq_some_iff.mp hread
        exact ih hread ⟨Kind.fits_of_merge hkey hk', hpair.2⟩
      · split at hread
        · obtain ⟨v', hv', hread⟩ := Option.bind_eq_some_iff.mp hread
          refine ih hread ⟨hpair.1, hnested.holds_of_merge hs hfield ?_ hv'⟩
          rintro x ⟨⟩
          exact hpair.2
        · split at hread
          · exact ih hread hpair
          · cases hread

theorem toValue_of_key? {x : Value} {k : Key} (hkey : x.key? = some k) : k.toValue = x := by
  cases x <;> cases hkey <;> rfl

/-- What is read for a field may be stored in it. -/
theorem Field.Reads.stores (hnested : nested.Keeps) (hm : m.Valid)
    (hfield : m.type.fieldAt? number = some field) {x : Value}
    (hreads : Field.Reads nested m field number payload x) : m.type.Stores number x := by
  have hs := hm.schema_sound
  have hsound := hm.type_sound.fields field (MessageType.mem_of_fieldAt? hfield).1
  cases hreads with
  | single hshape hmerge =>
      refine .single hfield hshape (hnested.holds_of_merge hs hsound (fun x hx => ?_) hmerge)
      exact (hm.stored hx).holds hfield hshape
  | @block packed b values hshape hpackable hread =>
      refine .list hfield hshape fun x hx => ?_
      rcases List.mem_append.mp hx with hx | hx
      · exact hm.holds_of_listAt hfield x hx
      · exact .scalar (Kind.fits_of_readPacked hread x hx)
  | @element packed payload x hshape hmerge =>
      refine .list hfield hshape fun y hy => ?_
      rcases List.mem_append.mp hy with hy | hy
      · exact hm.holds_of_listAt hfield y hy
      · rw [List.mem_singleton.mp hy]
        refine hnested.holds_of_merge hs hsound ?_ hmerge
        intro _ hx
        cases hx
  | @entry key b raws depth k v k' hshape hfields hread hkey =>
      have hiskey := hsound.key key (by rw [hshape]; rfl)
      obtain ⟨hk, hv⟩ := hnested.holds_of_readEntry hs hsound hiskey hread
        ⟨Kind.fits_default_of_isKey m.schema hiskey, hsound.holds_default hs⟩
      have hentry : ∀ e ∈ insertEntry k' v (m.entriesAt number),
          key.Fits e.1.toValue ∧ field.kind.Holds e.2 := by
        intro e he
        rcases mem_insertEntry he with rfl | he
        · exact ⟨toValue_of_key? hkey ▸ hk, hv⟩
        · exact hm.holds_of_entriesAt hfield hshape e he
      exact .map hfield hshape (fun e he => (hentry e he).1) fun e he => (hentry e he).2

theorem Nested.Keeps.mergeFields {unknowns : UnknownFields} (depth : Nat) (nested : Nested)
    (hnested : nested.Keeps) : Nested.Keeps (mergeFields unknowns depth nested) := by
  intro m bytes m' hm hmerge
  obtain ⟨raws, -, hfold⟩ := Option.bind_eq_some_iff.mp hmerge
  refine foldlM_keeps (P := fun m' => m'.Valid ∧ m'.name = m.name) (fun raw _ a a' ha hstep => ?_)
    ⟨hm, rfl⟩ hfold
  obtain ⟨number, payload⟩ := raw
  rcases mergeField_cases hstep with ⟨unknown, rfl⟩ | ⟨field, x, hfield, hreads, rfl⟩
  · exact ⟨.mk ha.1.schema_sound ha.1.message? ha.1.stores, ha.2⟩
  · have hx := hreads.stores hnested ha.1 hfield
    rw [← (MessageType.mem_of_fieldAt? hfield).2] at hx
    exact ⟨ha.1.set hx, ha.2⟩

end Keeps

theorem mergeBytes_valid (unknowns : UnknownFields) (depth : Nat) :
    Nested.Keeps (mergeBytes unknowns depth) := by
  refine mergeBytes_keeps ?_ Nested.Keeps.mergeFields depth
  intro _ _ _ _ hnone
  cases hnone

/-- What is decoded as a message of a type is valid. -/
theorem valid_of_decode? {s : Schema} (hs : s.Sound) {name : String} {t : MessageType}
    (ht : s.message? name = some t) {bytes : List UInt8} {m : Message}
    (hdecode : decode? s t bytes = some m) : m.Valid ∧ m.name = t.name :=
  mergeBytes_valid .kept nestingLimit _ bytes m (Message.valid_empty hs (hs.message?_name ht))
    hdecode

end CommonExpr.Protobuf
