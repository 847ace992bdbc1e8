import CommonExpr.Proofs.Protobuf.Encoding
import CommonExpr.Proofs.Text.Search
import CommonExpr.Proofs.Text.Utf8
import CommonExpr.Proofs.Value.Depth

/-!
Messages packed in one another.

Reading a packed message goes on to what is packed in it, which is less deep.  Main statement: a
message that was packed any number of times is read as it is without, a packing without an address
or of a type that is not registered is an error at the node, and reading ends for all bytes.
-/

namespace CommonExpr.Protobuf

section Packing

variable {schema : Schema} {id : Int}

/-- A payload with its address, as a message. -/
def Message.packed (schema : Schema) (url : String) (payload : List UInt8) : Message :=
  .mk schema WellKnown.anyType [(1, .string url), (2, .bytes payload)] []

/-! Reading goes on -/

/-- The message that reading another goes on to: what is packed in it, or the object or array of
a JSON value. -/
inductive Message.Next (schema : Schema) : Message → Message → Prop
  | packed {m inner : Message} {type : MessageType} (hname : m.name = WellKnown.any)
      (hurl : m.textAt 1 ≠ "") (htype : schema.message? (typeName (m.textAt 1)) = some type)
      (hdecode : decode? schema type (m.bytesAt 2) = some inner) : Next schema inner m
  | json {m inner : Message} {field : String} (hname : m.name = WellKnown.value)
      (hfield : m.jsonField? = some (field, .message inner)) : Next schema inner m

namespace Message

theorem one_lt_depth_of_textAt {m : Message} {number : Nat} (htext : m.textAt number ≠ "") :
    1 < m.depth := by
  simp only [textAt, text?] at htext
  split at htext
  · next s hstored => exact depth_of_stored? hstored
  · exact absurd rfl htext

/-- What is packed is less deep than the packing, even where the payload has no bytes. -/
theorem Next.depth_lt {inner m : Message} (hnext : Next schema inner m) :
    inner.depth < m.depth := by
  cases hnext with
  | packed hname hurl htype hdecode =>
      have hinner := depth_of_mergeBytes hdecode
      have hpos := one_lt_depth_of_textAt hurl
      unfold bytesAt at hinner
      split at hinner
      · next b hstored =>
          have hstored := depth_of_stored? hstored
          rw [Value.depth] at hstored
          omega
      · simp only [List.length_nil] at hinner
        omega
  | json hname hfield =>
      have hinner := depth_of_jsonField? hfield
      rw [Value.depth] at hinner
      omega

theorem next_wellFounded (schema : Schema) : WellFounded (Next schema) :=
  Subrelation.wf Next.depth_lt (measure depth).wf

/-- A message is read by the message that reading goes on to. -/
theorem read_congr {fuel fuel' : Nat} {m : Message}
    (hnext : ∀ inner, Next schema inner m →
      inner.read schema id fuel = inner.read schema id fuel') :
    m.read schema id (fuel + 1) = m.read schema id (fuel' + 1) := by
  rw [Message.read, Message.read]
  split
  · next hname =>
      dsimp only
      split
      · rfl
      · next hurl =>
          split
          · rfl
          · next type htype =>
              split
              · rfl
              · next inner hdecode => exact hnext inner (.packed hname hurl htype hdecode)
  · split
    · rfl
    · split
      · rfl
      · split
        · next hname =>
            split
            · rfl
            · rfl
            · rfl
            · next inner hfield => exact hnext inner (.json hname hfield)
            · next inner hfield => exact hnext inner (.json hname hfield)
            · rfl
        · rfl

/-- As much fuel as a message is deep is enough to read it. -/
theorem read_eq_toValue {fuel : Nat} {m : Message} (hfuel : m.depth < fuel) :
    m.read schema id fuel = m.toValue schema id := by
  have hsame : ∀ fuel fuel', m.depth < fuel → m.depth < fuel' →
      m.read schema id fuel = m.read schema id fuel' := by
    clear hfuel
    induction m using (next_wellFounded schema).induction with
    | _ m ih =>
        intro fuel fuel' hfuel hfuel'
        obtain ⟨fuel, rfl⟩ := Nat.exists_eq_add_one_of_ne_zero (Nat.ne_zero_of_lt hfuel)
        obtain ⟨fuel', rfl⟩ := Nat.exists_eq_add_one_of_ne_zero (Nat.ne_zero_of_lt hfuel')
        refine read_congr fun inner hnext => ih inner hnext fuel fuel' ?_ ?_
        · exact Nat.lt_of_lt_of_le hnext.depth_lt (Nat.le_of_lt_succ hfuel)
        · exact Nat.lt_of_lt_of_le hnext.depth_lt (Nat.le_of_lt_succ hfuel')
  exact hsame fuel (m.depth + 1) hfuel (Nat.lt_succ_self _)

end Message

/-- Reading what is packed, in terms of reading messages. -/
theorem Message.toValue_any {m : Message} (hname : m.name = WellKnown.any) :
    m.toValue schema id =
      if m.textAt 1 = "" then fail id .emptyAnyUrl
      else match schema.message? (typeName (m.textAt 1)) with
        | none => fail id (.unregisteredAny (m.textAt 1))
        | some type =>
            match decode? schema type (m.bytesAt 2) with
            | none => undecodable id
            | some inner => inner.toValue schema id := by
  rw [Message.toValue, Message.read, if_pos hname]
  dsimp only
  split
  · rfl
  · next hurl =>
      cases htype : schema.message? (typeName (m.textAt 1)) with
      | none => rfl
      | some type =>
          dsimp only
          cases hdecode : decode? schema type (m.bytesAt 2) with
          | none => rfl
          | some inner => exact read_eq_toValue (Next.packed hname hurl htype hdecode).depth_lt

theorem unpackAny_eq (url : String) (payload : List UInt8) :
    unpackAny schema id url payload =
      if url = "" then fail id .emptyAnyUrl
      else match schema.message? (typeName url) with
        | none => fail id (.unregisteredAny url)
        | some type =>
            match decode? schema type payload with
            | none => undecodable id
            | some inner => inner.toValue schema id :=
  Message.toValue_any (m := .packed schema url payload) rfl

/-- A packed message is read by its address and payload alone. -/
theorem Message.toValue_eq_unpackAny {m : Message} (hname : m.name = WellKnown.any) :
    m.toValue schema id = unpackAny schema id (m.textAt 1) (m.bytesAt 2) := by
  rw [Message.toValue_any hname, unpackAny_eq]

/-! Packings written and read back -/

/-- The fields of a packed message that are not empty. -/
def packedFields (url : String) (payload : List UInt8) : List RawField :=
  (if url = "" then [] else [(1, .bytes (Utf8.encode url))]) ++
    if payload = [] then [] else [(2, .bytes payload)]

theorem encode_packed (schema : Schema) (url : String) (payload : List UInt8) :
    (Message.packed schema url payload).encode = putFields (packedFields url payload) := by
  have htype : WellKnown.anyType.fieldAt? 1 = some (.one 1 "type_url" .string) := rfl
  have hvalue : WellKnown.anyType.fieldAt? 2 = some (.one 2 "value" .bytes) := rfl
  refine Message.encode_eq_putFields ?_ ?_
  · by_cases hurl : url = "" <;> by_cases hpayload : payload = [] <;>
      simp [Message.encodeFields, htype, hvalue, packedFields, Value.isZero, hurl, hpayload,
        Field.one, Kind.isMessage, Value.encode, Kind.write]
  · by_cases hurl : url = "" <;> by_cases hpayload : payload = [] <;>
      simp [packedFields, hurl, hpayload]

theorem packedFields_plain {url : String} {payload : List UInt8}
    (hsize : (Message.packed schema url payload).encode.length < 18446744073709551616) :
    ∀ raw ∈ packedFields url payload, raw.Plain WellKnown.anyType.isMapField := by
  intro raw hraw
  rw [encode_packed] at hsize
  have hlength := Nat.lt_of_le_of_lt (size_le_putFields hraw) hsize
  rcases List.mem_append.mp hraw with hraw | hraw
  · split at hraw
    · cases hraw
    · obtain rfl := List.mem_singleton.mp hraw
      exact ⟨Nat.succ_pos _, by simp, rfl, hlength⟩
  · split at hraw
    · cases hraw
    · obtain rfl := List.mem_singleton.mp hraw
      exact ⟨Nat.succ_pos _, by simp, rfl, hlength⟩

/-- The message with this address. -/
def withUrl (m : Message) (url : String) : Message :=
  m.set (.one 1 "type_url" .string) (.string url)

/-- The message with this payload. -/
def withPayload (m : Message) (payload : List UInt8) : Message :=
  m.set (.one 2 "value" .bytes) (.bytes payload)

theorem mergeField_url (depth : Nat) (nested : Nested) {m : Message}
    (htype : m.type = WellKnown.anyType) (url : String) :
    mergeField .kept depth nested m (1, .bytes (Utf8.encode url)) = some (withUrl m url) := by
  have hfield : WellKnown.anyType.fieldAt? 1 = some (.one 1 "type_url" .string) := rfl
  simp only [mergeField, htype, hfield, Field.one, Kind.merge, Kind.read, Utf8.decode_encode]
  rfl

theorem mergeField_payload (depth : Nat) (nested : Nested) {m : Message}
    (htype : m.type = WellKnown.anyType) (payload : List UInt8) :
    mergeField .kept depth nested m (2, .bytes payload) = some (withPayload m payload) := by
  have hfield : WellKnown.anyType.fieldAt? 2 = some (.one 2 "value" .bytes) := rfl
  simp only [mergeField, htype, hfield, Field.one, Kind.merge, Kind.read]
  rfl

theorem foldlM_packedFields (depth : Nat) (nested : Nested) (url : String) (payload : List UInt8) :
    ∃ m : Message, (packedFields url payload).foldlM (mergeField .kept depth nested)
        (.empty schema WellKnown.anyType) = some m ∧
      m.name = WellKnown.any ∧ m.textAt 1 = url ∧ m.bytesAt 2 = payload := by
  let blank := Message.empty schema WellKnown.anyType
  have hfirst := mergeField_url depth nested (m := blank) rfl url
  have hsecond (m : Message) (htype : m.type = WellKnown.anyType) :=
    mergeField_payload depth nested htype payload
  by_cases hurl : url = ""
  · by_cases hpayload : payload = []
    · refine ⟨blank, ?_, rfl, hurl.symm, hpayload.symm⟩
      rw [packedFields, if_pos hurl, if_pos hpayload]
      rfl
    · refine ⟨withPayload blank payload, ?_, rfl, hurl.symm, rfl⟩
      rw [packedFields, if_pos hurl, if_neg hpayload]
      simpa using hsecond blank rfl
  · by_cases hpayload : payload = []
    · refine ⟨withUrl blank url, ?_, rfl, rfl, hpayload.symm⟩
      rw [packedFields, if_neg hurl, if_pos hpayload]
      simpa using hfirst
    · refine ⟨withPayload (withUrl blank url) payload, ?_, rfl, rfl, rfl⟩
      rw [packedFields, if_neg hurl, if_neg hpayload, List.singleton_append, List.foldlM_cons,
        hfirst]
      simpa using hsecond (withUrl blank url) rfl

/-- A packed message is read back with its address and payload. -/
theorem decode_packed {url : String} {payload : List UInt8}
    (hsize : (Message.packed schema url payload).encode.length < 18446744073709551616) :
    ∃ m, decode? schema WellKnown.anyType (Message.packed schema url payload).encode = some m ∧
      m.name = WellKnown.any ∧ m.textAt 1 = url ∧ m.bytesAt 2 = payload := by
  rw [encode_packed, decode?, nestingLimit,
    mergeBytes_putFields .kept 99 (packedFields_plain hsize)]
  exact foldlM_packedFields _ _ url payload

theorem length_le_encode_packed (schema : Schema) (url : String) (payload : List UInt8) :
    payload.length ≤ (Message.packed schema url payload).encode.length := by
  rw [encode_packed]
  by_cases hpayload : payload = []
  · simp [hpayload]
  · have hmem : (2, .bytes payload) ∈ packedFields url payload := by
      simp [packedFields, hpayload]
    exact size_le_putFields hmem

/-! Addresses -/

/-- What stands before the name in an address: nothing, or a text that ends in a slash. -/
structure UrlPrefix where
  text : String
  closed : text = "" ∨ ∃ start, text = start ++ "/"

/-- Whether a name may end an address. -/
structure IsTypeName (name : String) : Prop where
  some_char : name ≠ ""
  no_slash : '/' ∉ name.toList

/-- The name at the end of an address is found again. -/
theorem typeName_append (lead : UrlPrefix) {name : String} (hname : IsTypeName name) :
    typeName (lead.text ++ name) = name := by
  unfold typeName
  rcases lead.closed with hlead | ⟨start, hlead⟩
  · rw [hlead, String.empty_append, Text.cutLastChar?_of_notMem hname.no_slash]
  · have htext : (lead.text ++ name).toList = start.toList ++ '/' :: name.toList := by
      simp [hlead]
    rw [Text.cutLastChar?_of_append htext hname.no_slash]
    exact String.ofList_toList

/-! Packing again and again -/

/-- The address of a message: its name behind a prefix, or no address at all. -/
def Message.address (lead : Option UrlPrefix) (m : Message) : String :=
  match lead with
  | some lead => lead.text ++ m.name
  | none => ""

/-- A message packed once for each of the leads, the first one being the outermost. -/
def Message.packIn (schema : Schema) : List (Option UrlPrefix) → Message → Message
  | [], m => m
  | lead :: leads, m =>
      let inner := Message.packIn schema leads m
      .packed schema (inner.address lead) inner.encode

/-- What a packed message comes to, whether it is read as a message or, where it is packed at
all, as a payload. -/
structure Message.ComesTo (schema : Schema) (id : Int) (leads : List (Option UrlPrefix))
    (m : Message) (outcome : Outcome CommonExpr.Value) : Prop where
  message : (m.packIn schema leads).toValue schema id = outcome
  payload : ∀ lead rest, leads = lead :: rest →
    unpackAny schema id ((m.packIn schema rest).address lead) (m.packIn schema rest).encode =
      outcome

theorem Message.comesTo (schema : Schema) (id : Int) (leads : List (Option UrlPrefix))
    (m : Message) : m.ComesTo schema id leads ((m.packIn schema leads).toValue schema id) where
  message := rfl
  payload := by
    rintro lead rest rfl
    rfl

/-- The payload behind an address is read as its message. -/
theorem unpackAny_address (lead : UrlPrefix) {m inner : Message} (hname : IsTypeName m.name)
    (htype : schema.message? m.name = some m.type)
    (hdecode : decode? schema m.type m.encode = some inner) :
    unpackAny schema id (m.address (some lead)) m.encode = inner.toValue schema id := by
  have hurl : lead.text ++ m.name ≠ "" := by simp [hname.some_char]
  rw [unpackAny_eq, Message.address, if_neg hurl, typeName_append lead hname, htype]
  dsimp only
  rw [hdecode]

theorem unpackAny_unregistered (lead : UrlPrefix) {m : Message} (hname : IsTypeName m.name)
    (htype : schema.message? m.name = none) :
    unpackAny schema id (m.address (some lead)) m.encode =
      fail id (.unregisteredAny (m.address (some lead))) := by
  have hurl : lead.text ++ m.name ≠ "" := by simp [hname.some_char]
  rw [unpackAny_eq, Message.address, if_neg hurl, typeName_append lead hname, htype]

section

variable (hany : schema.message? WellKnown.any = some WellKnown.anyType)

include hany

/-- A packing of a packing is read as the inner one. -/
theorem Message.toValue_packIn_cons (lead : UrlPrefix) (inner : Option UrlPrefix)
    (leads : List (Option UrlPrefix)) (m : Message)
    (hsize : (m.packIn schema (inner :: leads)).encode.length < 18446744073709551616) :
    (m.packIn schema (some lead :: inner :: leads)).toValue schema id =
      (m.packIn schema (inner :: leads)).toValue schema id := by
  have hname : IsTypeName WellKnown.any := ⟨by decide, by decide⟩
  obtain ⟨decoded, hdecode, hdecoded, hurl, hpayload⟩ := decode_packed hsize
  calc (m.packIn schema (some lead :: inner :: leads)).toValue schema id
      = decoded.toValue schema id := unpackAny_address lead hname hany hdecode
    _ = unpackAny schema id ((m.packIn schema leads).address inner)
          (m.packIn schema leads).encode := by
        rw [toValue_eq_unpackAny hdecoded, hurl, hpayload]
    _ = (m.packIn schema (inner :: leads)).toValue schema id := rfl

variable {m : Message} (hname : IsTypeName m.name)

include hname

theorem Message.toValue_packIn {leads : List (Option UrlPrefix)} (hleads : none ∉ leads)
    (hsize : (m.packIn schema leads).encode.length < 18446744073709551616)
    (htype : schema.message? m.name = some m.type)
    (hdecode : decode? schema m.type m.encode = some m) :
    (m.packIn schema leads).toValue schema id = m.toValue schema id := by
  induction leads with
  | nil => rfl
  | cons lead leads ih =>
      obtain ⟨hlead, hrest⟩ := not_or.mp (List.mem_cons.not.mp hleads)
      obtain ⟨lead, rfl⟩ := Option.ne_none_iff_exists'.mp (Ne.symm hlead)
      have hinner := Nat.lt_of_le_of_lt (length_le_encode_packed schema _ _) hsize
      cases leads with
      | nil => exact unpackAny_address lead hname htype hdecode
      | cons inner leads =>
          rw [toValue_packIn_cons hany lead inner leads m hinner]
          exact ih hrest hinner

theorem Message.toValue_packIn_fails {leads : List (Option UrlPrefix)}
    (hsize : (m.packIn schema leads).encode.length < 18446744073709551616)
    (hbad : (leads ≠ [] ∧ schema.message? m.name = none) ∨ none ∈ leads) :
    ∃ cause, cause.kind = .unrecognizedAny ∧
      (m.packIn schema leads).toValue schema id = fail id cause := by
  induction leads with
  | nil => simp at hbad
  | cons lead leads ih =>
      cases lead with
      | none => exact ⟨.emptyAnyUrl, rfl, (unpackAny_eq "" _).trans (if_pos rfl)⟩
      | some lead =>
          have hinner := Nat.lt_of_le_of_lt (length_le_encode_packed schema _ _) hsize
          cases leads with
          | nil =>
              have hnone : schema.message? m.name = none := by simpa using hbad
              exact ⟨_, rfl, unpackAny_unregistered lead hname hnone⟩
          | cons inner leads =>
              rw [toValue_packIn_cons hany lead inner leads m hinner]
              exact ih hinner (by simpa using hbad)

end

/-- How reading messages ends: it goes from a message to less deep ones only, and what it takes for
a payload is bounded by the number of its bytes, whatever these encode. -/
structure Message.ReadingEnds (schema : Schema) (id : Int) : Prop where
  well_founded : WellFounded (Message.Next schema)
  next_only : ∀ (m : Message) (fuel fuel' : Nat),
    (∀ inner, Message.Next schema inner m →
      inner.read schema id fuel = inner.read schema id fuel') →
    m.read schema id (fuel + 1) = m.read schema id (fuel' + 1)
  bounded : ∀ (url : String) (payload : List UInt8) (fuel : Nat), 2 * payload.length + 3 < fuel →
    (Message.packed schema url payload).read schema id fuel = unpackAny schema id url payload

theorem Message.readingEnds (schema : Schema) (id : Int) : ReadingEnds schema id where
  well_founded := next_wellFounded schema
  next_only := fun _ _ _ => read_congr
  bounded := by
    intro url payload fuel hfuel
    have hdepth : (packed schema url payload).depth = 2 * payload.length + 3 := by
      simp [packed, Message.depth, Value.fieldDepth, Value.depth]
    exact read_eq_toValue (by omega)

/-- Packing a message changes nothing that is read of it, if its type is registered and every
packing has an address; otherwise it is an error at the node. -/
theorem packings_read (schema : Schema) (id : Int)
    (hany : schema.message? WellKnown.any = some WellKnown.anyType) {m : Message}
    (hname : IsTypeName m.name) {leads : List (Option UrlPrefix)}
    (hsize : (m.packIn schema leads).encode.length < 18446744073709551616) :
    (schema.message? m.name = some m.type → decode? schema m.type m.encode = some m →
      none ∉ leads → m.ComesTo schema id leads (m.toValue schema id)) ∧
    ((leads ≠ [] ∧ schema.message? m.name = none) ∨ none ∈ leads →
      ∃ cause, cause.kind = .unrecognizedAny ∧ m.ComesTo schema id leads (fail id cause)) ∧
    Message.ReadingEnds schema id := by
  have hcomes := Message.comesTo schema id leads m
  refine ⟨fun htype hdecode hleads => ?_, fun hbad => ?_, Message.readingEnds schema id⟩
  · rwa [Message.toValue_packIn hany hname hleads hsize htype hdecode] at hcomes
  · obtain ⟨cause, hkind, hfails⟩ : ∃ cause, cause.kind = .unrecognizedAny ∧
        (m.packIn schema leads).toValue schema id = fail id cause :=
      Message.toValue_packIn_fails hany hname hsize hbad
    rw [hfails] at hcomes
    exact ⟨cause, hkind, hcomes⟩

end Packing

namespace PackingWitness

def pointType : MessageType := ⟨"test.Point", [.one 1 "x" .int64]⟩

def schema : Schema := ⟨[{ name := "point.proto", messages := [WellKnown.anyType, pointType] }]⟩

def point : Message := .mk schema pointType [(1, .int64 5)] []

def hosted : UrlPrefix := ⟨"example.com/", .inr ⟨"example.com", rfl⟩⟩

def bare : UrlPrefix := ⟨"", .inl rfl⟩

theorem encode_point : point.encode = putFields [(1, .varint 5)] :=
  Message.encode_eq_putFields rfl (List.pairwise_singleton _ _)

theorem decode_point : decode? schema pointType point.encode = some point := by
  have hplain : ∀ raw ∈ [((1, .varint 5) : RawField)], RawField.Plain pointType.isMapField raw := by
    intro raw hraw
    obtain rfl := List.mem_singleton.mp hraw
    exact ⟨by decide, by decide, rfl, by simp [Payload.Plain]⟩
  rw [encode_point, decode?, nestingLimit, mergeBytes_putFields .kept 99 hplain]
  rfl

theorem length_encode_twice (inner : Option UrlPrefix)
    (hinner : inner = some hosted ∨ inner = none) :
    (point.packIn schema [some bare, inner]).encode.length < 18446744073709551616 := by
  simp only [Message.packIn, encode_packed, encode_point, packedFields, Utf8.encode_eq]
  rcases hinner with rfl | rfl <;> decide +kernel

/-- A message packed twice is read as it is, and is not where the inner address is missing. -/
theorem point_packed_twice :
    point.ComesTo schema 7 [some bare, some hosted] (.ok (.object schema point)) ∧
    ∃ cause, cause.kind = .unrecognizedAny ∧
      point.ComesTo schema 7 [some bare, none] (fail 7 cause) := by
  have hname : IsTypeName point.name := ⟨by decide, by decide⟩
  have hread := packings_read schema 7 rfl hname (length_encode_twice (some hosted) (.inl rfl))
  have hfails := packings_read schema 7 rfl hname (length_encode_twice none (.inr rfl))
  exact ⟨hread.1 rfl decode_point (by simp), hfails.2.1 (.inr (by simp))⟩

end PackingWitness

end CommonExpr.Protobuf
