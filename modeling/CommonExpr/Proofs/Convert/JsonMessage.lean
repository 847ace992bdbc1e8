import CommonExpr.Proofs.Number.Rounding
import CommonExpr.Proofs.Protobuf.Storing

/-!
Values as JSON messages and back.

A message of JSON holds one of six fields, lists and structs in messages of their own, and is
read level by level.  Numbers of all types become doubles, which is exact for those of 53 bits.
Main statement: values that have a form in JSON are read back as equal ones, at any depth.
-/

namespace CommonExpr

/-- Scalars that a JSON message holds without loss. -/
def Scalar.JsonExact : Scalar → Prop
  | .bool _ => True
  | .int i => i.toInt.natAbs ≤ twoTo 53
  | .uint u => u.toNat ≤ twoTo 53
  | .double d => d.isNaN = false
  | .string _ => True
  | .bytes _ => False

/-- Values of the shape of JSON.  Scalars may be wrapped, names may not; lists and maps are in
any form that can be read. -/
inductive Value.JsonShaped : Value → Prop
  | null {v : Value} (hnull : v.isNull = true) : JsonShaped v
  | scalar {v : Value} {s : Scalar} (hscalar : v.scalar? = some s) (hexact : s.JsonExact) :
      JsonShaped v
  | list {ty : Ty} {items : Items} {vs : List Value} (hread : items.ReadsTo vs)
      (helements : ∀ v ∈ vs, JsonShaped v) : JsonShaped (.list ty items)
  | map {ty : Ty} {entries : Entries} {members : List (String × Value)}
      (hread : entries.ReadsTo (members.map fun e => (.string e.1, e.2)))
      (hnames : (members.map fun e => e.1).Nodup) (hvalues : ∀ e ∈ members, JsonShaped e.2) :
      JsonShaped (.map ty entries)

/-- Small integers are the doubles that are nearest to them. -/
theorem Scalar.meaning?_double_ofInt {i : Int} (hi : i.natAbs ≤ twoTo 53) :
    (Scalar.double (Double.ofInt i)).meaning? = some (Key.number i).meaning := by
  rw [meaning?, Double.ofInt_value? hi]
  rfl

theorem distinctKeys_of_names {members : List (String × Value)}
    (hnames : (members.map fun e => e.1).Nodup) :
    DistinctKeys (members.map fun e => (.string e.1, e.2)) where
  canonical := by
    intro e he
    obtain ⟨member, -, rfl⟩ := List.mem_map.mp he
    rfl
  nodup := by
    have hinj : Function.Injective fun name : String => some (Key.string name) := by
      intro name name' heq
      exact Key.string.inj (Option.some.inj heq)
    have hkeys := hnames.map hinj
    rw [List.map_map] at hkeys ⊢
    exact hkeys

namespace Protobuf

/-- Whether a schema has the messages of JSON. -/
structure Schema.HasJson (s : Schema) : Prop where
  value : s.message? WellKnown.value = some WellKnown.valueType
  struct : s.message? WellKnown.struct = some WellKnown.structType
  list : s.message? WellKnown.listValue = some WellKnown.listValueType

/-- Whether a message is read as a value that `v` matches, whatever schema reads it. -/
def Message.Shows (m : Message) (v : CommonExpr.Value) : Prop :=
  ∀ s id fuel, m.depth ≤ fuel →
    v.MatchesRead (v.SchemasIn (fun _ => True) (· = s)) (m.read s id fuel)

theorem Message.Shows.mirrors {m : Message} {v : CommonExpr.Value} (hm : m.Shows v) :
    (Value.message m).Mirrors v :=
  fun s id => hm s id (m.depth + 1) (Nat.le_succ m.depth)

theorem Message.shows_of_read {m : Message} {v : CommonExpr.Value}
    (hread : ∀ s id fuel, m.depth ≤ fuel + 1 →
      v.MatchesRead (v.SchemasIn (fun _ => True) (· = s)) (m.read s id (fuel + 1))) :
    m.Shows v := by
  intro s id fuel hfuel
  cases fuel with
  | zero => exact absurd m.depth_pos (Nat.not_lt.mpr hfuel)
  | succ fuel => exact hread s id fuel hfuel

variable {schema : Schema} {id : Int}

/-- What is converted to the type of JSON values is looked up once more at every level. -/
theorem lookupType_value (hknown : schema.HasJson) (id : Int)
    (convert : MessageType → CommonExpr.Value → Outcome Message) :
    (fun w => do
      let type ← lookupType schema id WellKnown.value
      convert type w) = convert WellKnown.valueType := by
  rw [lookupType, hknown.value]
  rfl

/-! Lists and structs -/

theorem listMessage_of_read (hknown : schema.HasJson) {type : MessageType}
    {convert : CommonExpr.Value → Outcome Message} {items : Items} {vs : List CommonExpr.Value}
    (hread : items.ReadsTo vs) : listMessage schema id type convert items =
      (fun ms => single schema type "values" (.list (ms.map .message))) <$> vs.mapM convert := by
  rw [listMessage, lookupType, hknown.value, hread.collect id]
  change (vs.mapM convert >>= fun ms => pure _) = _
  cases vs.mapM convert <;> rfl

/-- Elements that convert do so in a list. -/
theorem exists_listMessage (hknown : schema.HasJson) (id : Int)
    {convert : CommonExpr.Value → Outcome Message} {items : Items} {vs : List CommonExpr.Value}
    (hread : items.ReadsTo vs) (hvs : ∀ v ∈ vs, ∃ m, convert v = .ok m ∧ m.Shows v) (ty : Ty) :
    ∃ m, listMessage schema id WellKnown.listValueType convert items = .ok m ∧
      m.Shows (.list ty items) := by
  obtain ⟨ms, hms, hshows⟩ := exists_mapM_forall₂ hvs
  refine ⟨single schema WellKnown.listValueType "values" (.list (ms.map .message)), ?_, ?_⟩
  · rw [listMessage_of_read hknown hread, hms]
    rfl
  · have hmirror : List.Forall₂ (fun v y => y.Mirrors v) vs (ms.map Value.message) :=
      List.forall₂_map_right_iff.mpr (hshows.imp fun v m h => h.mirrors)
    refine Message.shows_of_read fun s id' fuel _ => ?_
    exact ⟨.list .dynList (.protobuf s (ms.map .message)), rfl,
      CommonExpr.Value.matches_list_protobuf hread hmirror⟩

/-- A member of a struct. -/
def structMember (id : Int) (convert : CommonExpr.Value → Outcome Message)
    (e : CommonExpr.Value × CommonExpr.Value) : Outcome (String × Message) :=
  match e.1 with
  | .string name => do return (name, ← convert e.2)
  | other => fail id (.typeMismatch "string" other.ty)

theorem structMessage_of_read (hknown : schema.HasJson) {type : MessageType}
    {convert : CommonExpr.Value → Outcome Message} {entries : Entries}
    {pairs : List (CommonExpr.Value × CommonExpr.Value)} (hread : entries.ReadsTo pairs) :
    structMessage schema id type convert entries =
      (fun fields => single schema type "fields"
        (.map (fields.foldl (fun acc f => insertEntry (.string f.1) (.message f.2) acc) []))) <$>
        pairs.mapM (structMember id convert) := by
  rw [structMessage, lookupType, hknown.value, hread.collectPairs id]
  change (pairs.mapM (structMember id convert) >>= fun fields => pure _) = _
  cases pairs.mapM (structMember id convert) <;> rfl

/-- Members that convert do so in a struct. -/
theorem exists_structMessage (hknown : schema.HasJson) (id : Int)
    {convert : CommonExpr.Value → Outcome Message} {entries : Entries}
    {members : List (String × CommonExpr.Value)}
    (hread : entries.ReadsTo (members.map fun e => (.string e.1, e.2)))
    (hnames : (members.map fun e => e.1).Nodup)
    (hvalues : ∀ e ∈ members, ∃ m, convert e.2 = .ok m ∧ m.Shows e.2) (ty : Ty) :
    ∃ m, structMessage schema id WellKnown.structType convert entries = .ok m ∧
      m.Shows (.map ty entries) := by
  have hmember : ∀ e ∈ members, ∃ f : String × Message,
      structMember id convert (.string e.1, e.2) = .ok f ∧ f.1 = e.1 ∧ f.2.Shows e.2 := by
    intro e he
    obtain ⟨m, hm, hshows⟩ := hvalues e he
    refine ⟨(e.1, m), ?_, rfl, hshows⟩
    rw [structMember, hm]
    rfl
  obtain ⟨fields, hfields, hrelated⟩ := exists_mapM_forall₂ hmember
  let es : List (Key × Value) := fields.map fun f => (.string f.1, .message f.2)
  let es' := es.foldl (fun acc e => insertEntry e.1 e.2 acc) []
  have hkeys : DistinctKeys (members.map fun e => (.string e.1, e.2)) :=
    distinctKeys_of_names hnames
  have hes : List.Forall₂ (fun e f => f.1.canonical? = e.1.key? ∧ f.2.Mirrors e.2)
      (members.map fun e => (CommonExpr.Value.string e.1, e.2)) es := by
    refine List.forall₂_map_left_iff.mpr (List.forall₂_map_right_iff.mpr ?_)
    refine hrelated.imp fun e f h => ⟨?_, h.2.mirrors⟩
    rw [h.1]
    rfl
  refine ⟨single schema WellKnown.structType "fields" (.map es'), ?_, ?_⟩
  · have hfold : es' =
        fields.foldl (fun acc f => insertEntry (.string f.1) (.message f.2) acc) [] :=
      List.foldl_map
    rw [structMessage_of_read hknown hread, List.mapM_map]
    change _ <$> members.mapM (fun e => structMember id convert (.string e.1, e.2)) = _
    rw [hfields, hfold]
    rfl
  · refine Message.shows_of_read fun s id' fuel _ => ?_
    exact matchesRead_mapValue hread hkeys hes s id' .jsonObject

/-! Values -/

/-- Whether a value converts, given as many levels as it has, to a message that shows it. -/
def ConvertsJson (schema : Schema) (v : CommonExpr.Value) : Prop :=
  ∀ id fuel, v.depth ≤ fuel →
    ∃ m, jsonMessageWithin schema id fuel WellKnown.valueType v = .ok m ∧ m.Shows v

theorem convertsJson_of_leaf {v w : CommonExpr.Value} {m : Message}
    (hconvert : ∀ id fuel, jsonMessageWithin schema id (fuel + 1) WellKnown.valueType v = .ok m)
    (hread : ∀ s id fuel, m.read s id (fuel + 1) = .ok w) (hmatch : ∀ c, v.Matches c w) :
    ConvertsJson schema v := by
  intro id fuel hfuel
  cases fuel with
  | zero => exact absurd v.depth_pos (Nat.not_lt.mpr hfuel)
  | succ fuel =>
      refine ⟨m, hconvert id fuel, Message.shows_of_read fun s id' fuel' _ => ?_⟩
      exact ⟨w, hread s id' fuel', hmatch _⟩

theorem convertsJson_null {v : CommonExpr.Value} (hnull : v.isNull = true) :
    ConvertsJson schema v := by
  apply convertsJson_of_leaf (m := single schema WellKnown.valueType "null_value" (.enum 0))
    ?_ (fun _ _ _ => rfl) (CommonExpr.Value.matches_null hnull)
  intro id fuel
  cases v with
  | null => rfl
  | typedNull type zero => rfl
  | _ => cases hnull

/-- Numbers are read back as doubles, the other scalars as themselves. -/
theorem convertsJson_scalar {v : CommonExpr.Value} {s : Scalar} (hv : v.scalar? = some s)
    (hexact : s.JsonExact) : ConvertsJson schema v := by
  cases s with
  | bool b =>
      apply convertsJson_of_leaf (m := single schema WellKnown.valueType "bool_value" (.bool b))
        ?_ (fun _ _ _ => rfl) (CommonExpr.Value.matches_scalar hv rfl rfl)
      intro id fuel
      cases v <;> cases hv <;> rfl
  | string text =>
      apply convertsJson_of_leaf
        (m := single schema WellKnown.valueType "string_value" (.string text)) ?_
        (fun _ _ _ => rfl) (CommonExpr.Value.matches_scalar hv rfl rfl)
      intro id fuel
      cases v <;> cases hv <;> rfl
  | double d =>
      apply convertsJson_of_leaf (m := single schema WellKnown.valueType "number_value" (.double d))
        ?_ (fun _ _ _ => rfl) (CommonExpr.Value.matches_scalar hv rfl hexact)
      intro id fuel
      cases v <;> cases hv <;> rfl
  | int i =>
      have hmeaning := Scalar.meaning?_double_ofInt hexact
      apply convertsJson_of_leaf
        (m := single schema WellKnown.valueType "number_value" (.double (Double.ofInt i.toInt)))
        ?_ (fun _ _ _ => rfl)
        (CommonExpr.Value.matches_of_meaning hv rfl (Scalar.meaning?_ofInt i.toInt) hmeaning)
      intro id fuel
      cases v <;> cases hv <;> rfl
  | uint u =>
      have hmeaning := Scalar.meaning?_double_ofInt (i := u.toNat) hexact
      apply convertsJson_of_leaf
        (m := single schema WellKnown.valueType "number_value" (.double (Double.ofInt u.toNat)))
        ?_ (fun _ _ _ => rfl)
        (CommonExpr.Value.matches_of_meaning hv rfl (Scalar.meaning?_ofInt u.toNat) hmeaning)
      intro id fuel
      cases v <;> cases hv <;> rfl
  | bytes b => cases hexact

theorem jsonMessageWithin_list (hknown : schema.HasJson) (fuel : Nat) (ty : Ty) (items : Items) :
    jsonMessageWithin schema id (fuel + 1) WellKnown.valueType (.list ty items) =
      (fun m => single schema WellKnown.valueType "list_value" (.message m)) <$>
        listMessage schema id WellKnown.listValueType
          (jsonMessageWithin schema id fuel WellKnown.valueType) items := by
  rw [← lookupType_value hknown id (jsonMessageWithin schema id fuel)]
  change (lookupType schema id WellKnown.listValue >>= fun type =>
    listMessage schema id type _ items >>= fun m => _) = _
  rw [lookupType, hknown.list]
  change (listMessage schema id WellKnown.listValueType _ items >>= fun m => _) = _
  cases listMessage schema id WellKnown.listValueType _ items <;> rfl

theorem jsonMessageWithin_map (hknown : schema.HasJson) (fuel : Nat) (ty : Ty) (entries : Entries) :
    jsonMessageWithin schema id (fuel + 1) WellKnown.valueType (.map ty entries) =
      (fun m => single schema WellKnown.valueType "struct_value" (.message m)) <$>
        structMessage schema id WellKnown.structType
          (jsonMessageWithin schema id fuel WellKnown.valueType) entries := by
  rw [← lookupType_value hknown id (jsonMessageWithin schema id fuel)]
  change (lookupType schema id WellKnown.struct >>= fun type =>
    structMessage schema id type _ entries >>= fun m => _) = _
  rw [lookupType, hknown.struct]
  change (structMessage schema id WellKnown.structType _ entries >>= fun m => _) = _
  cases structMessage schema id WellKnown.structType _ entries <;> rfl

/-- A JSON value that holds a list or a struct is read as this. -/
theorem shows_nested {inner m : Message} {v : CommonExpr.Value} (hinner : inner.Shows v)
    (hdepth : m.depth = inner.depth + 2)
    (hread : ∀ s id fuel, m.read s id (fuel + 1) = inner.read s id fuel) : m.Shows v := by
  refine Message.shows_of_read fun s id fuel hfuel => ?_
  rw [hread]
  exact hinner s id fuel (by omega)

/-- Step: elements that convert do so in a list. -/
theorem convertsJson_list (hknown : schema.HasJson) {ty : Ty} {items : Items}
    {vs : List CommonExpr.Value} (hread : items.ReadsTo vs)
    (hvs : ∀ v ∈ vs, ConvertsJson schema v) : ConvertsJson schema (.list ty items) := by
  intro id fuel hfuel
  cases fuel with
  | zero => exact absurd hfuel (Nat.not_succ_le_zero _)
  | succ fuel =>
      have hdepth : items.depth ≤ fuel := Nat.le_of_succ_le_succ hfuel
      obtain ⟨inner, hinner, hshows⟩ := exists_listMessage hknown id hread
        (fun v hv => hvs v hv id fuel (Nat.le_trans (hread.depth_le v hv) hdepth)) ty
      refine ⟨single schema WellKnown.valueType "list_value" (.message inner), ?_,
        shows_nested hshows rfl fun _ _ _ => rfl⟩
      rw [jsonMessageWithin_list hknown, hinner]
      rfl

/-- Step: members that convert do so in a struct. -/
theorem convertsJson_map (hknown : schema.HasJson) {ty : Ty} {entries : Entries}
    {members : List (String × CommonExpr.Value)}
    (hread : entries.ReadsTo (members.map fun e => (.string e.1, e.2)))
    (hnames : (members.map fun e => e.1).Nodup)
    (hvalues : ∀ e ∈ members, ConvertsJson schema e.2) : ConvertsJson schema (.map ty entries) := by
  intro id fuel hfuel
  cases fuel with
  | zero => exact absurd hfuel (Nat.not_succ_le_zero _)
  | succ fuel =>
      have hdepth : entries.depth ≤ fuel := Nat.le_of_succ_le_succ hfuel
      have hmembers : ∀ e ∈ members, ∃ m,
          jsonMessageWithin schema id fuel WellKnown.valueType e.2 = .ok m ∧ m.Shows e.2 := by
        intro e he
        have hlevel := hread.depth_le _ (List.mem_map_of_mem he)
        exact hvalues e he id fuel (Nat.le_trans hlevel hdepth)
      obtain ⟨inner, hinner, hshows⟩ :=
        exists_structMessage hknown id hread hnames hmembers ty
      refine ⟨single schema WellKnown.valueType "struct_value" (.message inner), ?_,
        shows_nested hshows rfl fun _ _ _ => rfl⟩
      rw [jsonMessageWithin_map hknown, hinner]
      rfl

theorem convertsJson_of_shaped (hknown : schema.HasJson) {v : CommonExpr.Value}
    (hv : v.JsonShaped) : ConvertsJson schema v := by
  induction hv with
  | null hnull => exact convertsJson_null hnull
  | scalar hscalar hexact => exact convertsJson_scalar hscalar hexact
  | list hread _ ih => exact convertsJson_list hknown hread ih
  | map hread hnames _ ih => exact convertsJson_map hknown hread hnames ih

theorem ConvertsJson.exists_jsonMessage {v : CommonExpr.Value} (hv : ConvertsJson schema v)
    (id : Int) : ∃ m, jsonMessage schema id WellKnown.valueType v = .ok m ∧ m.Shows v :=
  hv id (v.depth + 1) (Nat.le_succ v.depth)

/-- Whether a value becomes a message of a type that is read, by any schema, as an equal value;
equal on the other side too where the fields of messages in it share this schema. -/
def SurvivesAs (schema : Schema) (type : MessageType) (v : CommonExpr.Value) : Prop :=
  ∀ (schema' : Schema) (id id' : Int), ∃ m w, messageOf schema id type v = .ok m ∧
    m.toValue schema' id' = .ok w ∧ v.equals w = true ∧
    (v.SchemasIn (fun _ => True) (· = schema') → w.equals v = true)

theorem survivesAs_of_shows {type : MessageType} {v : CommonExpr.Value}
    (hmade : ∀ id, ∃ m, messageOf schema id type v = .ok m ∧ m.Shows v) :
    SurvivesAs schema type v := by
  intro schema' id id'
  obtain ⟨m, hm, hshows⟩ := hmade id
  obtain ⟨w, hw, hequals, hback⟩ := hshows.mirrors schema' id'
  exact ⟨m, w, hm, hw, hequals, hback⟩

/-- Values of the shape of JSON survive as JSON values, lists among them as lists and maps as
structs, in any schema that has these messages. -/
theorem json_survives {schema : Schema} (hknown : schema.HasJson) {v : CommonExpr.Value}
    (hv : v.JsonShaped) :
    SurvivesAs schema WellKnown.valueType v ∧
      (∀ ty items, v = .list ty items → SurvivesAs schema WellKnown.listValueType v) ∧
      ∀ ty entries, v = .map ty entries → SurvivesAs schema WellKnown.structType v := by
  have hinner (id : Int) := lookupType_value hknown id (jsonMessage schema id)
  refine ⟨?_, ?_, ?_⟩
  · apply survivesAs_of_shows
    intro id
    exact (convertsJson_of_shaped hknown hv).exists_jsonMessage id
  · rintro ty items rfl
    apply survivesAs_of_shows
    intro id
    have hmessage : messageOf schema id WellKnown.listValueType (.list ty items) =
        listMessage schema id WellKnown.listValueType (jsonMessage schema id WellKnown.valueType)
          items := by
      rw [← hinner]
      rfl
    rw [hmessage]
    cases hv with
    | null hnull => cases hnull
    | scalar hscalar => cases hscalar
    | list hread helements =>
        apply exists_listMessage hknown id hread
        intro v hv
        exact (convertsJson_of_shaped hknown (helements v hv)).exists_jsonMessage id
  · rintro ty entries rfl
    apply survivesAs_of_shows
    intro id
    have hmessage : messageOf schema id WellKnown.structType (.map ty entries) =
        structMessage schema id WellKnown.structType (jsonMessage schema id WellKnown.valueType)
          entries := by
      rw [← hinner]
      rfl
    rw [hmessage]
    cases hv with
    | null hnull => cases hnull
    | scalar hscalar => cases hscalar
    | map hread hnames hvalues =>
        apply exists_structMessage hknown id hread hnames
        intro e he
        exact (convertsJson_of_shaped hknown (hvalues e he)).exists_jsonMessage id

namespace JsonMessageWitness

/-- The file of JSON messages, and no other. -/
def structs : Schema :=
  ⟨[WellKnown.file "struct" [⟨WellKnown.nullValue, [("NULL_VALUE", 0)]⟩]
    [WellKnown.structType, WellKnown.valueType, WellKnown.listValueType]]⟩

def cells : List CommonExpr.Value := [.null, .uint 9007199254740992, .wrapped (.string "x")]

/-- `[null, 9007199254740992u, "x"]`, the string in a wrapper. -/
def row : CommonExpr.Value := .ofList cells

/-- `{"a": []}`, as it was parsed. -/
def parsed : CommonExpr.Value := .map .jsonObject (.json [("a", .array [])])

def members : List (String × CommonExpr.Value) := [("row", row), ("parsed", parsed)]

/-- `{"row": [null, 9007199254740992u, "x"], "parsed": {"a": []}}` -/
def document : CommonExpr.Value :=
  .map .jsonObject (.values (members.map fun e => (.string e.1, e.2)))

theorem row_shaped : row.JsonShaped := by
  have hread : (Items.values cells).ReadsTo cells := rfl
  refine .list hread ?_
  simp only [cells, List.forall_mem_cons]
  refine ⟨.null rfl, .scalar rfl ?_, .scalar rfl trivial, fun _ h => absurd h List.not_mem_nil⟩
  exact (by decide +kernel : (9007199254740992 : UInt64).toNat ≤ twoTo 53)

theorem parsed_shaped : parsed.JsonShaped := by
  have hread : (Entries.json [("a", .array [])]).ReadsTo
      ([("a", .list .dynList (.json []))].map fun e => (.string e.1, e.2)) := rfl
  have hempty : (Items.json []).ReadsTo [] := rfl
  refine .map hread (by decide) ?_
  exact List.forall_mem_singleton.mpr (.list hempty fun _ h => absurd h List.not_mem_nil)

theorem document_survives :
    document.JsonShaped ∧ SurvivesAs structs WellKnown.valueType document ∧
      SurvivesAs structs WellKnown.structType document ∧
      SurvivesAs structs WellKnown.listValueType row := by
  have hknown : structs.HasJson := ⟨by decide +kernel, by decide +kernel, by decide +kernel⟩
  have hread : (Entries.values (members.map fun e => (.string e.1, e.2))).ReadsTo
      (members.map fun e => (.string e.1, e.2)) := rfl
  have hdocument : document.JsonShaped := by
    refine .map hread (by decide) ?_
    simp only [members, List.forall_mem_cons]
    exact ⟨row_shaped, parsed_shaped, fun _ h => absurd h List.not_mem_nil⟩
  obtain ⟨hvalue, -, hstruct⟩ := json_survives hknown hdocument
  obtain ⟨-, hlist, -⟩ := json_survives hknown row_shaped
  exact ⟨hdocument, hvalue, hstruct _ _ rfl, hlist _ _ rfl⟩

end JsonMessageWitness

end Protobuf

end CommonExpr
