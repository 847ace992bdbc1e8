import CommonExpr.Protobuf.Codec
import CommonExpr.Value.Key

/-!
Reading host data as values: JSON, exchanged values and protobuf messages.

Reading goes one level deep.  A list or map keeps its elements as they are and
only checks the keys; messages with a meaning of their own, such as wrappers,
times and packed messages, become the values they stand for.
-/

namespace CommonExpr

/-- Reads JSON. -/
def Json.toValue (id : Int) : Json → Outcome Value
  | .null => .ok .null
  | .bool b => .ok (.bool b)
  | .integer i =>
      match int64? i.val with
      | some x => .ok (.int x)
      | none => .ok (.uint (UInt64.ofNat i.val.toNat))
  | .double d => .ok (.double d)
  | .string s => .ok (.string s)
  | .array items => .ok (.list .dynList (.json items))
  | .object members =>
      match checkKeys id [] (members.map fun (name, _) => .ok (.string name)) with
      | .error f => .error f
      | .ok () => .ok (.map .jsonObject (.json members))

namespace Protobuf

/-- The error of bytes that encode no message. -/
def undecodable {α : Type} (id : Int) : Outcome α :=
  fail id (.invalidArgument "decode" "malformed message")

/-- The scalar in a wrapper message, widened to 64 bits. -/
def Value.widened? : Value → Option Scalar
  | .bool b => some (.bool b)
  | .int32 i => some (.int (Int64.ofInt i.toInt))
  | .int64 i => some (.int i)
  | .uint32 u => some (.uint (UInt64.ofNat u.toNat))
  | .uint64 u => some (.uint u)
  | .float x => some (.double x.toDouble)
  | .double d => some (.double d)
  | .string s => some (.string s)
  | .bytes b => some (.bytes b)
  | .enum n => some (.int (Int64.ofInt n.toInt))
  | _ => none

/-- The value of a wrapper message, if it is one. -/
def Message.wrapped? (m : Message) : Option Scalar := do
  let _ ← wrapperKind? m.name
  let field ← m.type.field? "value"
  (m.get field).widened?

/-- The name after the last slash of a type address. -/
def typeName (url : String) : String :=
  match Text.cutLastChar? '/' url with
  | some (_, name) => name
  | none => url

/-- A map over entries of a map field. -/
def mapValue (schema : Schema) (id : Int) (ty : Ty) (entries : List (Key × Value)) :
    Outcome CommonExpr.Value :=
  let keys : List (Outcome CommonExpr.Value) := entries.map fun (k, _) =>
    .ok ((k.toValue.widened?).elim .null .scalar)
  match checkKeys id [] keys with
  | .error f => .error f
  | .ok () => .ok (.map ty (.protobuf schema entries))

/-- The set field of a message that stands for a JSON value. -/
def Message.jsonField? (m : Message) : Option (String × Value) :=
  (m.type.fields.filter m.has).findSome? fun f =>
    if ["null_value", "number_value", "string_value", "bool_value", "struct_value",
        "list_value"].contains f.name then some (f.name, m.get f) else none

/-- Reads a message.  Packed messages are looked up in the schema; as each is
shorter than the one it is packed in, `fuel` bounds how many are unpacked. -/
def Message.read (schema : Schema) (id : Int) : (fuel : Nat) → Message → Outcome CommonExpr.Value
  | 0, _ => undecodable id
  | fuel + 1, m =>
      if m.name = WellKnown.any then
        let url := m.textAt 1
        if url = "" then fail id .emptyAnyUrl
        else match schema.message? (typeName url) with
          | none => fail id (.unregisteredAny url)
          | some type =>
              match decode? schema type (m.bytesAt 2) with
              | none => undecodable id
              | some inner => Message.read schema id fuel inner
      else if m.name = WellKnown.timestamp then
        match timed id (Timestamp.normalize (m.intAt 1) (m.intAt 2)) with
        | .error f => .error f
        | .ok t => .ok (.timestamp t)
      else if m.name = WellKnown.duration then
        match timed id (Duration.normalize (m.intAt 1) (m.intAt 2)) with
        | .error f => .error f
        | .ok d => .ok (.duration d)
      else if m.name = WellKnown.value then
        match m.jsonField? with
        | some ("number_value", .double d) => .ok (.double d)
        | some ("string_value", .string s) => .ok (.string s)
        | some ("bool_value", .bool b) => .ok (.bool b)
        | some ("struct_value", .message inner) => Message.read schema id fuel inner
        | some ("list_value", .message inner) => Message.read schema id fuel inner
        | _ => .ok .null
      else if m.name = WellKnown.struct then mapValue schema id .jsonObject (m.entriesAt 1)
      else if m.name = WellKnown.listValue then
        .ok (.list .dynList (.protobuf schema (m.listAt 1)))
      else match m.wrapped? with
        | some s => .ok (.wrapped s)
        | none => .ok (.object schema m)

/-- Reads a message as a value. -/
def Message.toValue (schema : Schema) (id : Int) (m : Message) : Outcome CommonExpr.Value :=
  m.read schema id (m.depth + 1)

/-- Reads a packed message. -/
def unpackAny (schema : Schema) (id : Int) (url : String) (payload : List UInt8) :
    Outcome CommonExpr.Value :=
  (Message.mk schema WellKnown.anyType [(1, .string url), (2, .bytes payload)] []).toValue schema id

/-- Reads a field value. -/
def Value.toValue (schema : Schema) (id : Int) : Value → Outcome CommonExpr.Value
  | .message m => m.toValue schema id
  | .list values => .ok (.list .dynList (.protobuf schema values))
  | .map entries => mapValue schema id .dynMap entries
  | v =>
      match v.widened? with
      | some s => .ok (.scalar s)
      | none => .ok .null

/-- What an unset field of a message type stands for. -/
def zeroValue (schema : Schema) (id : Int) (own : Schema) (type : MessageType) :
    Outcome CommonExpr.Value :=
  if type.name = WellKnown.timestamp then .ok (.timestamp ⟨0, 0⟩)
  else if type.name = WellKnown.duration then .ok (.duration .zero)
  else if type.name = WellKnown.value ∨ type.name = WellKnown.any then .ok .null
  else (Message.empty own type).toValue schema id

/-- Reads a field of a message. -/
def Message.fieldValue (schema : Schema) (id : Int) (m : Message) (field : Field) :
    Outcome CommonExpr.Value :=
  match field.shape, m.get field with
  | .map _, .map entries => mapValue schema id field.ty entries
  | .map _, _ => fail id (.typeMismatch "map" .dyn)
  | .repeated _, .list values => .ok (.list field.ty (.protobuf schema values))
  | .repeated _, _ => .ok (.list field.ty (.protobuf schema []))
  | .singular, value =>
      match field.kind with
      | .message name =>
          if m.has field then value.toValue schema id
          else
            match zeroValue schema id m.schema (m.schema.messageType name) with
            | .error f => .error f
            | .ok zero => .ok (.typedNull name zero)
      | _ => value.toValue schema id

/-- Reads the field of a name, `none` when the type has no such field. -/
def Message.fieldValue? (schema : Schema) (id : Int) (m : Message) (name : String) :
    Option (Outcome CommonExpr.Value) :=
  (m.type.field? name).map (m.fieldValue schema id)

/-- Whether the field of a name is set. -/
def Message.isSet (id : Int) (m : Message) (name : String) : Outcome Bool :=
  match m.type.field? name with
  | some field => .ok (m.has field)
  | none => fail id (.fieldNotFound name (some m.name))

end Protobuf

namespace Exchange

def timestampUrl := "type.googleapis.com/google.protobuf.Timestamp"

def durationUrl := "type.googleapis.com/google.protobuf.Duration"

/-- Reads a packed message.  Times are understood without any schema. -/
def readObject (schema : Option Protobuf.Schema) (id : Int) (url : String)
    (payload : List UInt8) : Outcome CommonExpr.Value :=
  if url = timestampUrl then
    match Protobuf.decodeKnown? format Protobuf.WellKnown.timestampType payload with
    | none => Protobuf.undecodable id
    | some m => m.toValue format id
  else if url = durationUrl then
    match Protobuf.decodeKnown? format Protobuf.WellKnown.durationType payload with
    | none => Protobuf.undecodable id
    | some m => m.toValue format id
  else match schema with
    | some schema => Protobuf.unpackAny schema id url payload
    | none => fail id (.unrecognizedAny url)

/-- The pairs of entries that have both parts. -/
def wholeEntries? : List MapEntry → Option (List (Value × Value))
  | [] => some []
  | .mk (some key) (some value) :: rest => (wholeEntries? rest).map ((key, value) :: ·)
  | _ :: _ => none

mutual

/-- Reads an exchanged value. -/
def Value.toValue (schema : Option Protobuf.Schema) (id : Int) : Value → Outcome CommonExpr.Value
  | .unset => .ok .null
  | .null _ => .ok .null
  | .bool b => .ok (.bool b)
  | .int i => .ok (.int i)
  | .uint u => .ok (.uint u)
  | .double d => .ok (.double d)
  | .string s => .ok (.string s)
  | .bytes b => .ok (.bytes b)
  | .enum _ n => .ok (.int (Int64.ofInt n.toInt))
  | .object url payload => readObject schema id url payload
  | .list values => .ok (.list .dynList (.exchange schema values))
  | .map entries =>
      match wholeEntries? entries with
      | none => fail id (.invalidArgument "map" "entry without key or value")
      | some pairs =>
          match checkKeys id [] (MapEntry.readKeys schema id entries) with
          | .error f => .error f
          | .ok () => .ok (.map .dynMap (.exchange schema pairs))
  | .type name => .ok (.type ((Ty.builtin? name).getD (.message name)))

/-- Reads the keys of entries. -/
def MapEntry.readKeys (schema : Option Protobuf.Schema) (id : Int) :
    List MapEntry → List (Outcome CommonExpr.Value)
  | [] => []
  | .mk key _ :: rest => Value.readKey schema id key :: MapEntry.readKeys schema id rest

def Value.readKey (schema : Option Protobuf.Schema) (id : Int) :
    Option Value → Outcome CommonExpr.Value
  | none => .ok .null
  | some key => key.toValue schema id

end

end Exchange

/-! Elements and entries as values -/

namespace Items

/-- Reads every element. -/
def read (id : Int) : Items → List (Outcome Value)
  | .values vs => vs.map .ok
  | .json xs => xs.map (·.toValue id)
  | .exchange schema xs => xs.map (·.toValue schema id)
  | .protobuf schema xs => xs.map (·.toValue schema id)

/-- Reads one element. -/
def get? (items : Items) (id : Int) (i : Nat) : Option (Outcome Value) := (items.read id)[i]?

end Items

namespace Entries

/-- Reads every entry. -/
def read (id : Int) : Entries → List (Outcome Value × Outcome Value)
  | .values es => es.map fun (k, v) => (.ok k, .ok v)
  | .json es => es.map fun (k, v) => (.ok (.string k), v.toValue id)
  | .exchange schema es => es.map fun (k, v) => (k.toValue schema id, v.toValue schema id)
  | .protobuf schema es =>
      es.map fun (k, v) => (k.toValue.toValue schema id, v.toValue schema id)

def keys (id : Int) (entries : Entries) : List (Outcome Value) := (entries.read id).map (·.1)

/-- The canonical key of a read key. -/
def keyOf? : Outcome Value → Option Key
  | .ok v => v.key?
  | .error _ => none

/-- The value of the entry with a canonical key, if there is one. -/
def valueAt? (key : Key) (read : List (Outcome Value × Outcome Value)) : Option (Outcome Value) :=
  (read.find? fun e => keyOf? e.1 = some key).map (·.2)

/-- The value at a canonical key, if there is such an entry. -/
def find? (entries : Entries) (id : Int) (key : Key) : Option (Outcome Value) :=
  valueAt? key (entries.read id)

end Entries

/-- A map over entries whose keys are canonical and distinct. -/
def Value.newMap (id : Int) (ty : Ty) (entries : Entries) : Outcome Value :=
  match checkKeys id [] (entries.keys id) with
  | .error f => .error f
  | .ok () => .ok (.map ty entries)

/-- A map of values of any type. -/
def Value.ofEntries (id : Int) (es : List (Value × Value)) : Outcome Value :=
  Value.newMap id .dynMap (.values es)

end CommonExpr
