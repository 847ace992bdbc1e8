import CommonExpr.Proofs.Protobuf.WellKnown
import CommonExpr.Proofs.Provider

/-!
Fields that a message type lacks.

A literal of a well-known type has its names checked against a list, one of any other type
against its type as the fields are stored; that of a packed message has the two fields
looked up that there are.  Main statement: a field that the message type lacks makes a
literal fail, except that a packed message passes over it.
-/

namespace CommonExpr

open Outcome

/-- An error of one node, whatever the values. -/
abbrev Outcome.Refuses {α : Type} (id : Int) (o : Outcome α) : Prop := Yields id (fun _ => False) o

theorem Outcome.Refuses.exists_error {α : Type} {id : Int} {o : Outcome α} (ho : Refuses id o) :
    ∃ f, f.At id ∧ o = .error f := by
  cases o with
  | ok a => exact (ho.value rfl).elim
  | error f => exact ⟨f, ho.fault rfl, rfl⟩

/-- Nothing follows what is refused. -/
theorem Outcome.Refuses.bind {α β : Type} {id : Int} {o : Outcome α} (ho : Refuses id o)
    (g : α → Outcome β) : Refuses id (o >>= g) :=
  Meets.bind ho fun _ hfalse => hfalse.elim

/-! Names that are checked -/

namespace Protobuf

theorem MessageType.field?_eq_none_iff {t : MessageType} {name : String} :
    t.field? name = none ↔ name ∉ t.fields.map Field.name := by
  simp [MessageType.field?]

theorem storeFields_refuses (schema : Schema) (id : Int) {m : Message}
    {fields : List (String × CommonExpr.Value)}
    (hforeign : ∃ e ∈ fields, m.type.field? e.1 = none) :
    Refuses id (storeFields schema id m fields) := by
  -- what is stored first changes the message but not its type
  induction fields generalizing m with
  | nil =>
      obtain ⟨e, he, -⟩ := hforeign
      cases he
  | cons e rest ih =>
      obtain ⟨name, v⟩ := e
      rw [storeFields]
      split
      · exact yields_fail
      · next field hfield =>
          have hrest : ∃ e ∈ rest, m.type.field? e.1 = none := by
            obtain ⟨e, he, hnone⟩ := hforeign
            rcases List.mem_cons.mp he with rfl | he
            · cases hnone.symm.trans hfield
            · exact ⟨e, he, hnone⟩
          have hvalue := field.ofValue_failsAt schema id v
          split
          · exact ih hrest
          · split
            · next f hf => exact meets_error.mpr (hvalue.fault hf)
            · exact ih hrest

/-- The names of well-known messages, and of one enum, are read in ways of their own. -/
theorem exists_wellKnown_type {name : String} (hname : (Ty.ofWellKnown? name).isSome = true) :
    name = WellKnown.nullValue ∨ ∃ t ∈ WellKnown.types, t.name = name := by
  unfold Ty.ofWellKnown? at hname
  split at hname
  case h_5 => exact Or.inl rfl
  case h_17 => cases hname
  all_goals
    right
    decide

theorem special_ne_nullValue : ∀ t ∈ WellKnown.special, t.name ≠ WellKnown.nullValue := by decide

theorem wellKnown_types_named {t : MessageType} (ht : t ∈ WellKnown.types) :
    (Ty.ofWellKnown? t.name).isSome = true ∧ t.name ≠ WellKnown.nullValue := by
  rcases mem_wellKnown_types ht with hspecial | ⟨kind, hkind, -⟩
  · exact ⟨(special_wellKnown t hspecial).1, special_ne_nullValue t hspecial⟩
  · refine ⟨by rw [ofWellKnown?_of_wrapperKind? hkind]; rfl, ?_⟩
    intro hnull
    rw [hnull] at hkind
    cases hkind

end Protobuf

open Protobuf

theorem checkFields_refuses (id : Int) (type : String) {allowed : List String}
    {fields : List (String × Value)} (hforeign : ∃ e ∈ fields, e.1 ∉ allowed) :
    Refuses id (checkFields id type allowed fields) := by
  unfold checkFields
  split
  · exact yields_fail
  · next hnone =>
      obtain ⟨e, he, hother⟩ := hforeign
      have hallowed := List.find?_eq_none.mp hnone e he
      simp [hother] at hallowed

theorem checkFields_eq_ok (id : Int) (type : String) {allowed : List String}
    {fields : List (String × Value)} (hfields : ∀ e ∈ fields, e.1 ∈ allowed) :
    checkFields id type allowed fields = .ok () := by
  unfold checkFields
  split
  · next name v hsome =>
      have hother := List.find?_some hsome
      have hallowed := hfields _ (List.mem_of_find?_eq_some hsome)
      simp [hallowed] at hother
  · rfl

/-- Of the well-known types that are no wrappers, all but packed messages have the names of
their fields checked first. -/
theorem wellKnownLiteral_checked {t : MessageType} (ht : t ∈ WellKnown.special)
    (hany : t.name ≠ WellKnown.any) (id : Int) (fields : List (String × Value)) :
    ∃ rest : Unit → Outcome Value, wellKnownLiteral id t.name fields =
      checkFields id t.name (t.fields.map Field.name) fields >>= rest := by
  simp only [WellKnown.special, List.mem_cons, List.not_mem_nil, or_false] at ht
  rcases ht with rfl | rfl | rfl | rfl | rfl | rfl
  · exact absurd rfl hany
  all_goals exact ⟨_, rfl⟩

/-- The literal of a well-known type fails on a field that the type lacks. -/
theorem wellKnownLiteral_refuses {t : MessageType} (ht : t ∈ WellKnown.types)
    (hany : t.name ≠ WellKnown.any) (id : Int) {fields : List (String × Value)}
    (hforeign : ∃ e ∈ fields, t.field? e.1 = none) :
    Refuses id (wellKnownLiteral id t.name fields) := by
  simp only [MessageType.field?_eq_none_iff] at hforeign
  rcases mem_wellKnown_types ht with hspecial | ⟨kind, hkind, htype⟩
  · obtain ⟨rest, hchecked⟩ := wellKnownLiteral_checked hspecial hany id fields
    rw [hchecked]
    exact (checkFields_refuses id t.name hforeign).bind rest
  · have hnames : t.fields.map Field.name = ["value"] := by
      rw [htype]
      rfl
    rw [hnames] at hforeign
    unfold wellKnownLiteral
    rw [hkind]
    refine Meets.bind (wrapperScalar_failsAt id kind _) fun s _ => ?_
    exact (checkFields_refuses id t.name hforeign).bind _

/-- Lookups are not concerned with pairs of other keys. -/
theorem lookup_filter_of_forall {β : Type} {p : String × β → Bool} {name : String}
    (hp : ∀ b, p (name, b) = true) (pairs : List (String × β)) :
    (pairs.filter p).lookup name = pairs.lookup name := by
  induction pairs with
  | nil => rfl
  | cons e rest ih =>
      obtain ⟨key, b⟩ := e
      by_cases hkey : name = key
      · subst hkey
        rw [List.filter_cons_of_pos (hp b), List.lookup_cons_self, List.lookup_cons_self]
      · have hother : (name == key) = false := beq_false_of_ne hkey
        rw [List.lookup_cons, hother, List.filter_cons]
        split
        · rw [List.lookup_cons, hother]
          exact ih
        · exact ih

namespace Provider

/-- The message type of a literal: the known one of a well-known name, and else the one in
the schema. -/
def literalType? (schema : Schema) (type : String) : Option MessageType :=
  (WellKnown.types.find? (·.name == type)).or (schema.message? type)

variable {schema : Schema} {type : String} {t : MessageType} {fields : List (String × Value)}

theorem literalType?_cases (ht : literalType? schema type = some t) :
    (t ∈ WellKnown.types ∧ t.name = type) ∨
      ((∀ known ∈ WellKnown.types, known.name ≠ type) ∧ schema.message? type = some t) := by
  rcases Option.or_eq_some_iff.mp ht with hknown | ⟨hnone, hfound⟩
  · left
    have hname := List.find?_some hknown
    exact ⟨List.mem_of_find?_eq_some hknown, beq_iff_eq.mp hname⟩
  · right
    refine ⟨?_, hfound⟩
    intro known hmem hname
    exact List.find?_eq_none.mp hnone known hmem (beq_iff_eq.mpr hname)

theorem newWellKnown_of_mem (ht : t ∈ WellKnown.types) (hany : t.name ≠ WellKnown.any) (id : Int)
    (fields : List (String × Value)) :
    newWellKnown id t.name fields = some (wellKnownLiteral id t.name fields) := by
  obtain ⟨hsome, hnull⟩ := wellKnown_types_named ht
  simp [newWellKnown, hany, hnull, Option.isSome_iff_ne_none.mp hsome]

theorem newMessage_wellKnown (ht : t ∈ WellKnown.types) (hany : t.name ≠ WellKnown.any)
    (schema : Schema) (id : Int) (fields : List (String × Value)) :
    newMessage schema id t.name fields = some (wellKnownLiteral id t.name fields) := by
  rw [newMessage, newWellKnown_of_mem ht hany]

/-- A type without a reading of its own is made by storing its fields. -/
theorem newMessage_stored (hplain : ∀ known ∈ WellKnown.types, known.name ≠ type)
    (ht : schema.message? type = some t) (id : Int) (fields : List (String × Value)) :
    newMessage schema id type fields =
      some (messageOfFields schema id t fields >>= fun m => m.toValue schema id) := by
  have hnone : newWellKnown id type fields = none := by
    unfold newWellKnown
    refine if_pos ?_
    by_cases hsome : (Ty.ofWellKnown? type).isSome = true
    · rcases exists_wellKnown_type hsome with hnull | ⟨known, hmem, hname⟩
      · exact Or.inr (Or.inr hnull)
      · exact absurd hname (hplain known hmem)
    · exact Or.inl (by simpa using hsome)
  have hany : type ≠ WellKnown.any := fun heq => hplain WellKnown.anyType (by decide) heq.symm
  rw [newMessage, hnone, ht]
  simp only [if_neg hany]

/-- A packed message has two fields looked up, whatever the others are. -/
theorem newMessage_any (schema : Schema) (id : Int) (fields : List (String × Value)) :
    newMessage schema id WellKnown.any fields =
      newMessage schema id WellKnown.any
        (fields.filter fun e => (WellKnown.anyType.field? e.1).isSome) := by
  have hknown (fields : List (String × Value)) : newWellKnown id WellKnown.any fields = none := rfl
  have hurl : (fields.filter fun e => (WellKnown.anyType.field? e.1).isSome).lookup "type_url" =
      fields.lookup "type_url" :=
    lookup_filter_of_forall (fun _ => rfl) fields
  have hvalue : (fields.filter fun e => (WellKnown.anyType.field? e.1).isSome).lookup "value" =
      fields.lookup "value" :=
    lookup_filter_of_forall (fun _ => rfl) fields
  simp only [newMessage, hknown, if_pos, hurl, hvalue]

/-- A field that the message type lacks makes a literal an error, whatever the values; only a
packed message is made as if such fields were not there. -/
theorem newValue_foreign_field (ht : literalType? schema type = some t)
    (hforeign : ∃ e ∈ fields, t.field? e.1 = none) (id : Int) :
    (type ≠ WellKnown.any →
      ∃ f, f.At id ∧ (ofSchema schema).newValue id type fields = some (.error f)) ∧
      (type = WellKnown.any → (ofSchema schema).newValue id type fields =
        (ofSchema schema).newValue id type (fields.filter fun e => (t.field? e.1).isSome)) := by
  have hmade : (ofSchema schema).newValue = newMessage schema := rfl
  rw [hmade]
  constructor
  · intro hany
    rcases literalType?_cases ht with ⟨hknown, rfl⟩ | ⟨hplain, hfound⟩
    · obtain ⟨f, hf, herror⟩ := (wellKnownLiteral_refuses hknown hany id hforeign).exists_error
      exact ⟨f, hf, by rw [newMessage_wellKnown hknown hany, herror]⟩
    · have hstored := storeFields_refuses schema id (m := .empty schema t) hforeign
      obtain ⟨f, hf, herror⟩ := (hstored.bind fun m => m.toValue schema id).exists_error
      exact ⟨f, hf, by rw [newMessage_stored hplain hfound, messageOfFields, herror]⟩
  · rintro rfl
    obtain rfl : WellKnown.anyType = t := Option.some.inj ht
    exact newMessage_any schema id fields

end Provider

namespace FieldsWitness

def emptyType : MessageType := ⟨"google.protobuf.Empty", []⟩

def schema : Schema :=
  ⟨[WellKnown.file "any" [] [WellKnown.anyType], WellKnown.file "empty" [] [emptyType]]⟩

/-- A packed message without fields. -/
def packed : List (String × Value) :=
  [("type_url", .string "type.googleapis.com/google.protobuf.Empty")]

/-- The same with a field that no packed message has. -/
def misspelled : List (String × Value) := packed ++ [("payload", .int 5)]

/-- A time with a field that no time has, between two that it has. -/
def mistimed : List (String × Value) :=
  [("seconds", .int 5), ("millis", .null), ("nanos", .int 7)]

/-- A time is refused for the field, and a packed message is made without it. -/
theorem misspelled_fields :
    (∃ f, f.At 1 ∧ (Provider.ofSchema schema).newValue 1 WellKnown.timestamp mistimed =
      some (.error f)) ∧
      (Provider.ofSchema schema).newValue 1 WellKnown.any misspelled =
        (Provider.ofSchema schema).newValue 1 WellKnown.any packed := by
  have htime : ∃ e ∈ mistimed, WellKnown.timestampType.field? e.1 = none :=
    ⟨("millis", .null), by simp [mistimed], rfl⟩
  have hpacked : ∃ e ∈ misspelled, WellKnown.anyType.field? e.1 = none :=
    ⟨("payload", .int 5), by simp [misspelled], rfl⟩
  constructor
  · exact (Provider.newValue_foreign_field rfl htime 1).1 (by decide)
  · exact (Provider.newValue_foreign_field rfl hpacked 1).2 rfl

/-- A literal is made although its message type lacks one of its fields. -/
theorem misspelled_packed_made :
    Provider.literalType? schema WellKnown.any = some WellKnown.anyType ∧
      (misspelled.map Prod.fst).Nodup ∧
      (∃ e ∈ misspelled, WellKnown.anyType.field? e.1 = none) ∧
      (Provider.ofSchema schema).newValue 1 WellKnown.any misspelled =
        some (.ok (.object schema (.empty schema emptyType))) :=
  ⟨rfl, by decide, ⟨("payload", .int 5), by simp [misspelled], rfl⟩, rfl⟩

end FieldsWitness

end CommonExpr
