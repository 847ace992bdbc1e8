import CommonExpr.Proofs.Convert.Field

/-!
Messages that are made of named values.

Each value is stored in the field of its name; what is stored under distinct numbers stays.
Main statement: a message is made just if every value fits its field, and then the fields that
were named are read as the values given, the others as in an empty message.
-/

namespace CommonExpr.Protobuf

open Outcome

/-- Whether a value can be stored and its field, if the type has one of the name, is outside
of oneofs and lossless. -/
structure MessageType.Suits (t : MessageType) (e : String × CommonExpr.Value) : Prop where
  givable : e.2.Givable
  oneof : ∀ field ∈ t.field? e.1, field.oneof = none
  lossless : ∀ field ∈ t.field? e.1, field.kind.Lossless

/-- Whether a type has a field of a name, and a value fits it. -/
def MessageType.Takes (t : MessageType) (e : String × CommonExpr.Value) : Prop :=
  ∃ field, t.field? e.1 = some field ∧ field.Takes e.2

theorem MessageType.name_of_field? {t : MessageType} {name : String} {field : Field}
    (hfield : t.field? name = some field) : field.name = name := by
  have hname := List.find?_some hfield
  exact beq_iff_eq.mp hname

namespace Message

/-- What becomes of a message in which named values are stored. -/
structure Filled (m : Message) (fields : List (String × CommonExpr.Value)) (m' : Message) : Prop
    where
  schema : m'.schema = m.schema
  type : m'.type = m.type
  named : ∀ e ∈ fields, ∃ field x, m.type.field? e.1 = some field ∧
    m'.stored? field.number = some x ∧ field.Keeps x e.2
  others : ∀ field ∈ m.type.fields, field.name ∉ fields.map (fun e => e.1) →
    m'.stored? field.number = m.stored? field.number

variable {schema : Schema} {m m' : Message} {field : Field} {x : Value} {name : String}
  {v : CommonExpr.Value} {rest : List (String × CommonExpr.Value)}

theorem Filled.refl (m : Message) : m.Filled [] m where
  schema := rfl
  type := rfl
  named := by
    intro e he
    cases he
  others := by
    intro field hfield hname
    rfl

/-- Step: what was stored first is kept, since the fields that follow have other numbers. -/
theorem Filled.cons (hm : m.type.SoundIn schema) (hfield : m.type.field? name = some field)
    (honeof : field.oneof = none) (hx : field.Keeps x v)
    (hname : name ∉ rest.map fun e => e.1) (hrest : (m.set field x).Filled rest m') :
    m.Filled ((name, v) :: rest) m' where
  schema := hrest.schema
  type := hrest.type
  named := by
    have hmem : field ∈ m.type.fields := MessageType.mem_of_field? hfield
    have hkept : m'.stored? field.number = some x := by
      rw [hrest.others field hmem (MessageType.name_of_field? hfield ▸ hname),
        stored?_set honeof, if_pos rfl]
    intro e he
    rcases List.mem_cons.mp he with rfl | he
    · exact ⟨field, x, hfield, hkept, hx⟩
    · exact hrest.named e he
  others := by
    intro other hother hnames
    rw [List.map_cons, List.mem_cons, not_or] at hnames
    obtain ⟨hne, hnames⟩ := hnames
    -- numbers are distinct in a type, so one number would make this the field that is set
    have hnumber : other.number ≠ field.number := by
      intro heq
      have hmem := MessageType.mem_of_field? hfield
      obtain rfl := List.inj_on_of_nodup_map hm.numbers hother hmem heq
      exact hne (MessageType.name_of_field? hfield)
    rw [hrest.others other hother hnames, stored?_set honeof, if_neg hnumber]

end Message

variable {schema : Schema} {id : Int}

theorem storeFields_cons {m : Message} {name : String} {field : Field} {v : CommonExpr.Value}
    (hfield : m.type.field? name = some field) (hnull : v.isNull = false)
    (rest : List (String × CommonExpr.Value)) :
    storeFields schema id m ((name, v) :: rest) =
      field.ofValue schema id v >>= fun x => storeFields schema id (m.set field x) rest := by
  rw [storeFields, hfield]
  simp only [hnull]
  cases field.ofValue schema id v <;> rfl

/-- Values are stored just if each fits its field. -/
theorem storeFields_decides (hs : schema.Sound) {m : Message} (hm : m.type.SoundIn schema)
    {fields : List (String × CommonExpr.Value)} (hnames : (fields.map fun e => e.1).Nodup)
    (hsuits : ∀ e ∈ fields, m.type.Suits e) (id : Int) :
    Decides (∀ e ∈ fields, m.type.Takes e) (m.Filled fields) (storeFields schema id m fields) := by
  induction fields generalizing m with
  | nil =>
      refine decides_ok ?_ (.refl m)
      intro e he
      cases he
  | cons e rest ih =>
      obtain ⟨name, v⟩ := e
      obtain ⟨hname, hrest⟩ := List.nodup_cons.mp hnames
      obtain ⟨hgiven, hsuits⟩ := List.forall_mem_cons.mp hsuits
      cases hfield : m.type.field? name with
      | none =>
          -- a name that the type lacks fails, and fits nothing
          rw [storeFields, hfield]
          apply decides_error
          intro htakes
          obtain ⟨field, hsome, -⟩ := htakes (name, v) List.mem_cons_self
          cases hfield.symm.trans hsome
      | some field =>
          have hsound := hm.fields field (MessageType.mem_of_field? hfield)
          have hvalue := Field.ofValue_decides hs hsound (hgiven.lossless field hfield)
            hgiven.givable id
          have hboth : Decides (field.Takes v ∧ ∀ e ∈ rest, m.type.Takes e)
              (m.Filled ((name, v) :: rest))
              (field.ofValue schema id v >>=
                fun x => storeFields schema id (m.set field x) rest) := by
            apply hvalue.bind
            intro x hx
            refine (ih (m := m.set field x) hm hrest hsuits).mono fun m' _ hfilled => ?_
            exact hfilled.cons hm hfield (hgiven.oneof field hfield) hx hname
          rw [storeFields_cons hfield hgiven.givable.storable.isNull]
          refine hboth.congr ?_
          rw [List.forall_mem_cons]
          refine and_congr_left fun _ => ?_
          constructor
          · intro htakes
            exact ⟨field, hfield, htakes⟩
          · rintro ⟨other, hother, htakes⟩
            obtain rfl := Option.some.inj (hfield.symm.trans hother)
            exact htakes

/-- Whether the field of a name is read as a value equal to the one given, a map with as many
entries; equal on the other side too where the fields of messages in it share the schema. -/
def Message.ReadsBack (m : Message) (schema : Schema) (id : Int)
    (e : String × CommonExpr.Value) : Prop :=
  ∃ w, (CommonExpr.Value.object schema m).byName? id e.1 = some (.ok w) ∧ e.2.equals w = true ∧
    (e.2.SchemasIn (fun _ => True) (· = schema) → w.equals e.2 = true) ∧
    ∀ ty entries, e.2 = .map ty entries →
      ∃ ty' entries', w = .map ty' entries' ∧ entries'.length = entries.length

theorem Message.Filled.readsBack {m m' : Message} {fields : List (String × CommonExpr.Value)}
    (hfilled : m.Filled fields m') {e : String × CommonExpr.Value} (he : e ∈ fields)
    (schema : Schema) (id : Int) : m'.ReadsBack schema id e := by
  obtain ⟨field, x, hfield, hstored, hkeeps⟩ := hfilled.named e he
  obtain ⟨w, hw, hequals, hback⟩ := hkeeps m' hstored schema id
  refine ⟨w, ?_, hequals, hback, ?_⟩
  · rw [CommonExpr.Value.byName?, Message.fieldValue?, hfilled.type, hfield]
    exact congrArg some hw
  · intro ty entries heq
    exact CommonExpr.Value.exists_map_of_equals_map (heq ▸ hequals)

theorem Message.Filled.byName?_other {m m' : Message} {fields : List (String × CommonExpr.Value)}
    (hfilled : m.Filled fields m') {name : String} (hname : name ∉ fields.map fun e => e.1)
    (schema : Schema) (id : Int) :
    (CommonExpr.Value.object schema m').byName? id name =
      (CommonExpr.Value.object schema m).byName? id name := by
  rw [CommonExpr.Value.byName?, CommonExpr.Value.byName?, Message.fieldValue?, Message.fieldValue?,
    hfilled.type]
  cases hfield : m.type.field? name with
  | none => rfl
  | some field =>
      have hmem := MessageType.mem_of_field? hfield
      have hother := MessageType.name_of_field? hfield ▸ hname
      exact congrArg some
        (Message.fieldValue_congr hfilled.schema (hfilled.others field hmem hother) schema id)

/-- A message is made of named values just if all fit their fields.  Then the fields that were
named are read as values equal to those given, the others as in an empty message. -/
theorem messageOfFields_reads_back {schema : Schema} {t : MessageType} (hs : schema.Sound)
    (ht : t.SoundIn schema) {fields : List (String × CommonExpr.Value)}
    (hnames : (fields.map fun e => e.1).Nodup) (hsuits : ∀ e ∈ fields, t.Suits e) (id : Int) :
    (∀ m, messageOfFields schema id t fields = .ok m → ∀ schema' id',
      (∀ e ∈ fields, m.ReadsBack schema' id' e) ∧
        ∀ name, name ∉ fields.map (fun e => e.1) →
          (CommonExpr.Value.object schema' m).byName? id' name =
            (CommonExpr.Value.object schema' (.empty schema t)).byName? id' name) ∧
      ((∃ f, messageOfFields schema id t fields = .error f) ↔ ∃ e ∈ fields, ¬ t.Takes e) := by
  have hdecides := storeFields_decides (m := .empty schema t) hs ht hnames hsuits id
  constructor
  · intro m hm schema' id'
    obtain ⟨-, hfilled⟩ := hdecides.holds hm
    constructor
    · intro e he
      exact hfilled.readsBack he schema' id'
    · intro name hname
      exact hfilled.byName?_other hname schema' id'
  · rw [messageOfFields, hdecides.exists_error_iff]
    simp

namespace ConstructionWitness

def noteType : MessageType := ⟨"google.protobuf.StringValue", [.one 1 "value" .string]⟩

/-- An order has a number, tags, how many of each there are, a time and a note. -/
def orderType : MessageType :=
  ⟨"shop.Order",
    [.one 1 "number" .uint32, .many 2 "tags" .string, .mapOf 3 "counts" .string .int32,
      .one 4 "placed" (.message WellKnown.timestamp), .one 5 "note" (.message noteType.name),
      .one 6 "paid" .bool]⟩

def shop : Schema :=
  ⟨[{ name := "shop.proto", messages := [WellKnown.timestampType, noteType, orderType] }]⟩

def tags : CommonExpr.Value := .ofList [.string "new", .string "gift"]

/-- `{"apple": 3u}` -/
def counts : CommonExpr.Value := .map .dynMap (.values [(.string "apple", .scalar (.uint 3))])

/-- All fields but whether it is paid, the number being signed and the counts unsigned. -/
def order : List (String × CommonExpr.Value) :=
  [("number", .int 7), ("tags", tags), ("counts", counts), ("placed", .timestamp ⟨1000, 5⟩),
    ("note", .string "ring twice")]

/-- The order as it is stored. -/
def placed : Message :=
  .mk shop orderType
    [(1, .uint32 7), (2, .list [.string "new", .string "gift"]),
      (3, .map [(.string "apple", .int32 3)]),
      (4, .message (timeMessage shop WellKnown.timestampType 1000 5)),
      (5, .message (single shop noteType "value" (.string "ring twice")))] []

/-- An order whose number is negative. -/
def misnumbered : List (String × CommonExpr.Value) := [("number", .int (-7))]

theorem shop_sound : shop.Sound := by decide +kernel

theorem orderType_sound : orderType.SoundIn shop := by decide +kernel

theorem suits_of_field? {e : String × CommonExpr.Value} {field : Field}
    (hfield : orderType.field? e.1 = some field) (hgivable : e.2.Givable)
    (honeof : field.oneof = none) (hkind : field.kind.Lossless) : orderType.Suits e where
  givable := hgivable
  oneof := by
    intro other hother
    obtain rfl := Option.some.inj (hfield.symm.trans hother)
    exact honeof
  lossless := by
    intro other hother
    obtain rfl := Option.some.inj (hfield.symm.trans hother)
    exact hkind

theorem tags_givable : tags.Givable := by
  intro id v hv
  simp only [Items.read, List.map_cons, List.map_nil, List.mem_cons, List.not_mem_nil,
    or_false] at hv
  rcases hv with ⟨⟨⟩⟩ | ⟨⟨⟩⟩ <;> trivial

theorem counts_givable : counts.Givable := by
  constructor
  · intro id
    exact ⟨[.string "apple"], rfl, by decide⟩
  · intro id k v hv
    cases List.mem_singleton.mp hv
    trivial

theorem order_suits : ∀ e ∈ order, orderType.Suits e := by
  simp only [order, List.forall_mem_cons]
  refine ⟨?_, ?_, ?_, ?_, ?_, fun _ h => absurd h List.not_mem_nil⟩
  · exact suits_of_field? rfl trivial rfl (.discrete rfl)
  · exact suits_of_field? rfl tags_givable rfl (.discrete rfl)
  · exact suits_of_field? rfl counts_givable rfl (.discrete rfl)
  · exact suits_of_field? rfl (by decide : Timestamp.InRange ⟨1000, 5⟩) rfl .timestamp
  · exact suits_of_field? rfl trivial rfl (.wrapper rfl rfl)

theorem misnumbered_suits : ∀ e ∈ misnumbered, orderType.Suits e :=
  List.forall_mem_singleton.mpr (suits_of_field? rfl trivial rfl (.discrete rfl))

theorem not_takes_negative : ¬ orderType.Takes ("number", .int (-7)) := by
  rintro ⟨field, hfield, htakes⟩
  obtain rfl := Option.some.inj hfield
  obtain ⟨i, hi, hlow, -⟩ := ((Field.takes_single_iff rfl).mp htakes).integer? rfl
  cases hi
  exact absurd hlow (by decide)

/-- An order is made and read back, but none whose number is negative. -/
theorem order_reads_back :
    messageOfFields shop 1 orderType order = .ok placed ∧
      (∀ e ∈ order, placed.ReadsBack shop 2 e) ∧
      (CommonExpr.Value.object shop placed).byName? 2 "paid" = some (.ok (.scalar (.bool false))) ∧
      ∃ f, messageOfFields shop 1 orderType misnumbered = .error f := by
  have hnames : (order.map fun e => e.1).Nodup := by decide
  have hnames' : (misnumbered.map fun e => e.1).Nodup := by decide
  obtain ⟨hmade, -⟩ := messageOfFields_reads_back shop_sound orderType_sound hnames order_suits 1
  obtain ⟨-, hfails⟩ :=
    messageOfFields_reads_back shop_sound orderType_sound hnames' misnumbered_suits 1
  obtain ⟨hnamed, hothers⟩ := hmade placed rfl shop 2
  exact ⟨rfl, hnamed, hothers "paid" (by decide),
    hfails.mpr ⟨_, List.mem_singleton_self _, not_takes_negative⟩⟩

end ConstructionWitness

end CommonExpr.Protobuf
