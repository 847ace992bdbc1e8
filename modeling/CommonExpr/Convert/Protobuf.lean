import CommonExpr.Value.Access
import CommonExpr.Value.Coerce

/-!
Values as protobuf messages and fields.  A field takes only what fits it: words
of 32 bits are checked for range, lists and maps for their shape, and a message
field takes a message of exactly its type or a value with a well-known one.
-/

namespace CommonExpr.Protobuf

def typeUrl (name : String) : String := "type.googleapis.com/" ++ name

/-- A signed number as a 32-bit word. -/
def narrowInt (id : Int) (i : Int64) : Outcome Int32 :=
  orFail id (.overflow "conversion" .int) (int32? i.toInt)

/-- An unsigned number as a 32-bit word. -/
def narrowUInt (id : Int) (u : UInt64) : Outcome UInt32 :=
  orFail id (.overflow "conversion" .uint) (uint32? u.toNat)

/-- The message type of a name in the schema. -/
def lookupType (schema : Schema) (id : Int) (name : String) : Outcome MessageType :=
  orFail id (.typeNotFound name) (schema.message? name)

/-- A value as a field value of a kind other than messages. -/
def Kind.ofScalar (id : Int) (kind : Kind) (v : Option CommonExpr.Value) : Outcome Value :=
  match kind with
  | .double => .double <$> CommonExpr.Value.toDouble id v
  | .float => (.float ·.toSingle) <$> CommonExpr.Value.toDouble id v
  | .int32 => .int32 <$> (CommonExpr.Value.toInt64 id v >>= narrowInt id)
  | .sint32 => .int32 <$> (CommonExpr.Value.toInt64 id v >>= narrowInt id)
  | .sfixed32 => .int32 <$> (CommonExpr.Value.toInt64 id v >>= narrowInt id)
  | .int64 => .int64 <$> CommonExpr.Value.toInt64 id v
  | .sint64 => .int64 <$> CommonExpr.Value.toInt64 id v
  | .sfixed64 => .int64 <$> CommonExpr.Value.toInt64 id v
  | .uint32 => .uint32 <$> (CommonExpr.Value.toUInt64 id v >>= narrowUInt id)
  | .fixed32 => .uint32 <$> (CommonExpr.Value.toUInt64 id v >>= narrowUInt id)
  | .uint64 => .uint64 <$> CommonExpr.Value.toUInt64 id v
  | .fixed64 => .uint64 <$> CommonExpr.Value.toUInt64 id v
  | .bool => .bool <$> CommonExpr.Value.toBool id v
  | .string => .string <$> CommonExpr.Value.toText id v
  | .bytes => .bytes <$> CommonExpr.Value.toBytes id v
  | .enum _ => .enum <$> (CommonExpr.Value.toInt64 id v >>= narrowInt id)
  | .message name => fail id (.typeNotFound name)

/-- A value as a key of a map field. -/
def Kind.keyOf (id : Int) (kind : Kind) (v : CommonExpr.Value) : Outcome Key :=
  match kind with
  | .bool => .bool <$> CommonExpr.Value.toBool id (some v)
  | .int32 => .int32 <$> (CommonExpr.Value.toInt64 id (some v) >>= narrowInt id)
  | .sint32 => .int32 <$> (CommonExpr.Value.toInt64 id (some v) >>= narrowInt id)
  | .sfixed32 => .int32 <$> (CommonExpr.Value.toInt64 id (some v) >>= narrowInt id)
  | .int64 => .int64 <$> CommonExpr.Value.toInt64 id (some v)
  | .sint64 => .int64 <$> CommonExpr.Value.toInt64 id (some v)
  | .sfixed64 => .int64 <$> CommonExpr.Value.toInt64 id (some v)
  | .uint32 => .uint32 <$> (CommonExpr.Value.toUInt64 id (some v) >>= narrowUInt id)
  | .fixed32 => .uint32 <$> (CommonExpr.Value.toUInt64 id (some v) >>= narrowUInt id)
  | .uint64 => .uint64 <$> CommonExpr.Value.toUInt64 id (some v)
  | .fixed64 => .uint64 <$> CommonExpr.Value.toUInt64 id (some v)
  | _ => .string <$> CommonExpr.Value.toText id (some v)

/-- A message of a type with one stored field. -/
def single (schema : Schema) (type : MessageType) (field : String) (value : Value) : Message :=
  match type.field? field with
  | some f => (Message.empty schema type).set f value
  | none => .empty schema type

/-- A map with string keys as a JSON object message, its values converted by `convert`. -/
def structMessage (schema : Schema) (id : Int) (type : MessageType)
    (convert : CommonExpr.Value → Outcome Message) (entries : Entries) : Outcome Message := do
  let _ ← lookupType schema id WellKnown.value
  let pairs ← entries.collectPairs id
  let fields ← pairs.mapM fun (k, v) =>
    match k with
    | .string name => do return (name, ← convert v)
    | other => fail id (.typeMismatch "string" other.ty)
  return single schema type "fields"
    (.map (fields.foldl (fun acc (name, m) => insertEntry (.string name) (.message m) acc) []))

/-- A list as a JSON array message, its elements converted by `convert`. -/
def listMessage (schema : Schema) (id : Int) (type : MessageType)
    (convert : CommonExpr.Value → Outcome Message) (items : Items) : Outcome Message := do
  let _ ← lookupType schema id WellKnown.value
  let values ← items.collect id
  let messages ← values.mapM convert
  return single schema type "values" (.list (messages.map .message))

/-- A value at most `fuel` levels deep as a JSON value message. -/
def jsonMessageWithin (schema : Schema) (id : Int) :
    (fuel : Nat) → (type : MessageType) → CommonExpr.Value → Outcome Message
  | 0, type, v => fail id (.typeMismatch type.name v.ty)
  | fuel + 1, type, v =>
      let set (field : String) (value : Value) : Outcome Message :=
        .ok (single schema type field value)
      let inner (w : CommonExpr.Value) : Outcome Message := do
        let valueType ← lookupType schema id WellKnown.value
        jsonMessageWithin schema id fuel valueType w
      match v.unwrap with
      | .null => set "null_value" (.enum 0)
      | .typedNull _ _ => set "null_value" (.enum 0)
      | .bool b => set "bool_value" (.bool b)
      | .int i => set "number_value" (.double (Double.ofInt i.toInt))
      | .uint u => set "number_value" (.double (Double.ofInt u.toNat))
      | .double d => set "number_value" (.double d)
      | .string s => set "string_value" (.string s)
      | .timestamp t => set "string_value" (.string t.text)
      | .duration d => set "string_value" (.string d.text)
      | .list _ items => do
          let listType ← lookupType schema id WellKnown.listValue
          let m ← listMessage schema id listType inner items
          set "list_value" (.message m)
      | .map _ entries => do
          let structType ← lookupType schema id WellKnown.struct
          let m ← structMessage schema id structType inner entries
          set "struct_value" (.message m)
      | other => fail id (.typeMismatch type.name other.ty)

/-- A value as a JSON value message. -/
def jsonMessage (schema : Schema) (id : Int) (type : MessageType) (v : CommonExpr.Value) :
    Outcome Message :=
  jsonMessageWithin schema id (v.depth + 1) type v

/-- The fields of a time message. -/
def timeMessage (schema : Schema) (type : MessageType) (seconds nanos : Int) : Message :=
  let withField (m : Message) (name : String) (value : Value) : Message :=
    match type.field? name with
    | some f => m.set f value
    | none => m
  withField (withField (.empty schema type) "seconds" (.int64 (Int64.ofInt seconds)))
    "nanos" (.int32 (Int32.ofInt nanos))

/-- A value as a message of a type other than packed messages. -/
def plainMessage (schema : Schema) (id : Int) (type : MessageType) (v : CommonExpr.Value) :
    Outcome Message :=
  let mismatch : Outcome Message := fail id (.typeMismatch type.name v.ty)
  let inner (w : CommonExpr.Value) : Outcome Message := do
    let valueType ← lookupType schema id WellKnown.value
    jsonMessage schema id valueType w
  if type.name = WellKnown.timestamp then
    match v with
    | .timestamp t => .ok (timeMessage schema type t.seconds t.nanos)
    | _ => mismatch
  else if type.name = WellKnown.duration then
    match v with
    | .duration d => .ok (timeMessage schema type d.seconds d.nanos)
    | _ => mismatch
  else if type.name = WellKnown.value then jsonMessage schema id type v
  else if type.name = WellKnown.struct then
    match v with
    | .map _ entries => structMessage schema id type inner entries
    | _ => mismatch
  else if type.name = WellKnown.listValue then
    match v with
    | .list _ items => listMessage schema id type inner items
    | _ => mismatch
  else match wrapperKind? type.name with
    | some kind => single schema type "value" <$> kind.ofScalar id (some v)
    | none =>
        match v with
        | .object _ m => if m.sameType schema type then .ok m else mismatch
        | _ => mismatch

/-- The name of the wrapper message of a scalar. -/
def wrapperName : Scalar → String
  | .bool _ => "google.protobuf.BoolValue"
  | .int _ => "google.protobuf.Int64Value"
  | .uint _ => "google.protobuf.UInt64Value"
  | .double _ => "google.protobuf.DoubleValue"
  | .string _ => "google.protobuf.StringValue"
  | .bytes _ => "google.protobuf.BytesValue"

/-- The message type that a value packs into of its own. -/
def naturalType : CommonExpr.Value → String
  | .timestamp _ => WellKnown.timestamp
  | .duration _ => WellKnown.duration
  | .scalar s => wrapperName s
  | .wrapped s => wrapperName s
  | .list _ _ => WellKnown.listValue
  | .map _ _ => WellKnown.struct
  | _ => WellKnown.value

/-- The message that a value naturally is. -/
def naturalMessage (schema : Schema) (id : Int) (v : CommonExpr.Value) : Outcome Message :=
  match v with
  | .object _ m => .ok m
  | v => do
      let type ← lookupType schema id (naturalType v)
      plainMessage schema id type v

/-- A value packed with the address of its type. -/
def packAny (schema : Schema) (id : Int) (v : CommonExpr.Value) :
    Outcome (String × List UInt8) := do
  let packed ← naturalMessage schema id v
  return (typeUrl packed.name, packed.encode)

/-- A value as a message of a type. -/
def messageOf (schema : Schema) (id : Int) (type : MessageType) (v : CommonExpr.Value) :
    Outcome Message :=
  if type.name = WellKnown.any then do
    let (url, payload) ← packAny schema id v
    return .mk schema type [(1, .string url), (2, .bytes payload)] []
  else plainMessage schema id type v

/-- A value as a single field value of a kind. -/
def Kind.ofValue (schema : Schema) (id : Int) (kind : Kind) (v : CommonExpr.Value) :
    Outcome Value :=
  match kind with
  | .message name => .message <$> messageOf schema id (schema.messageType name) v
  | kind => kind.ofScalar id (some v)

/-- A value as the value of a field. -/
def Field.ofValue (schema : Schema) (id : Int) (field : Field) (v : CommonExpr.Value) :
    Outcome Value :=
  match field.shape, v with
  | .map key, .map _ entries => do
      let pairs ← entries.collectPairs id
      let converted ← pairs.mapM fun (k, w) => do
        let key ← key.keyOf id k
        let value ← field.kind.ofValue schema id w
        return (key, value)
      return .map (converted.foldl (fun acc (k, w) => insertEntry k w acc) [])
  | .map _, other => fail id (.typeMismatch "map" other.ty)
  | .repeated _, .list _ items => do
      let values ← items.collect id
      let converted ← values.mapM (field.kind.ofValue schema id)
      return .list converted
  | .repeated _, other => fail id (.typeMismatch "list" other.ty)
  | .singular, v => field.kind.ofValue schema id v

/-- Stores named values into a message; nulls leave their field unset. -/
def storeFields (schema : Schema) (id : Int) :
    Message → List (String × CommonExpr.Value) → Outcome Message
  | m, [] => .ok m
  | m, (name, v) :: rest =>
      match m.type.field? name with
      | none => fail id (.fieldNotFound name (some m.name))
      | some field =>
          if v.isNull then storeFields schema id m rest
          else
            match field.ofValue schema id v with
            | .error f => .error f
            | .ok value => storeFields schema id (m.set field value) rest

/-- A message of a type with these fields. -/
def messageOfFields (schema : Schema) (id : Int) (type : MessageType)
    (fields : List (String × CommonExpr.Value)) : Outcome Message :=
  storeFields schema id (.empty schema type) fields

/-- A value at most `fuel` levels deep as a field value. -/
def Value.ofValueWithin (schema : Schema) (id : Int) :
    (fuel : Nat) → CommonExpr.Value → Outcome Value
  | 0, v => .message <$> naturalMessage schema id v
  | fuel + 1, v =>
      match v.unwrap with
      | .bool b => .ok (.bool b)
      | .int i => .ok (.int64 i)
      | .uint u => .ok (.uint64 u)
      | .double d => .ok (.double d)
      | .string s => .ok (.string s)
      | .bytes b => .ok (.bytes b)
      | .list _ items => do
          let values ← items.collect id
          let converted ← values.mapM (Value.ofValueWithin schema id fuel)
          return .list converted
      | other => .message <$> naturalMessage schema id other

/-- A value as a field value. -/
def Value.ofValue (schema : Schema) (id : Int) (v : CommonExpr.Value) : Outcome Value :=
  Value.ofValueWithin schema id (v.depth + 1) v

end CommonExpr.Protobuf
