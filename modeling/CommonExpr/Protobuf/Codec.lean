import CommonExpr.Protobuf.Message
import CommonExpr.Text.Utf8

/-!
Messages from and to bytes.

Reading merges fields in the order in which they come: a later scalar replaces
an earlier one, messages merge, lists grow.  Fields that the type does not know
are kept or skipped.  Writing goes by ascending field number and leaves out what
is unset.
-/

namespace CommonExpr.Protobuf

/-- The low 32 bits of a number as a signed word. -/
def low32 (n : Nat) : Int32 := Int32.ofInt (n % 4294967296 : Nat)

/-- A single value of a kind other than messages. -/
def Kind.read (kind : Kind) (payload : Payload) : Option Value :=
  match kind, payload with
  | .double, .fixed64 n => some (.double ⟨UInt64.ofNat n⟩)
  | .float, .fixed32 n => some (.float ⟨UInt32.ofNat n⟩)
  | .int32, .varint n => some (.int32 (low32 n))
  | .int64, .varint n => some (.int64 (Int64.ofInt n))
  | .uint32, .varint n => some (.uint32 (UInt32.ofNat n))
  | .uint64, .varint n => some (.uint64 (UInt64.ofNat n))
  | .sint32, .varint n => some (.int32 (Int32.ofInt (unzigzag (n % 4294967296))))
  | .sint64, .varint n => some (.int64 (Int64.ofInt (unzigzag n)))
  | .fixed32, .fixed32 n => some (.uint32 (UInt32.ofNat n))
  | .fixed64, .fixed64 n => some (.uint64 (UInt64.ofNat n))
  | .sfixed32, .fixed32 n => some (.int32 (low32 n))
  | .sfixed64, .fixed64 n => some (.int64 (Int64.ofInt n))
  | .bool, .varint n => some (.bool (n != 0))
  | .string, .bytes b => (Utf8.decode b).toOption.map .string
  | .bytes, .bytes b => some (.bytes b)
  | .enum _, .varint n => some (.enum (low32 n))
  | _, _ => none

/-- Reads one untagged payload of a packable kind. -/
def Kind.takePacked (kind : Kind) (bytes : List UInt8) : Option (Payload × List UInt8) :=
  match kind with
  | .double => (getFixed 8 bytes).map fun (n, rest) => (.fixed64 n, rest)
  | .fixed64 => (getFixed 8 bytes).map fun (n, rest) => (.fixed64 n, rest)
  | .sfixed64 => (getFixed 8 bytes).map fun (n, rest) => (.fixed64 n, rest)
  | .float => (getFixed 4 bytes).map fun (n, rest) => (.fixed32 n, rest)
  | .fixed32 => (getFixed 4 bytes).map fun (n, rest) => (.fixed32 n, rest)
  | .sfixed32 => (getFixed 4 bytes).map fun (n, rest) => (.fixed32 n, rest)
  | _ => (getVarint bytes).map fun (n, rest) => (.varint n, rest)

/-- All values of a packed block; each takes a byte at least. -/
def Kind.readPacked (kind : Kind) : (fuel : Nat) → List UInt8 → Option (List Value)
  | _, [] => some []
  | 0, _ => none
  | fuel + 1, block => do
      let (payload, rest) ← kind.takePacked block
      let value ← kind.read payload
      return value :: (← kind.readPacked fuel rest)

/-- How nested messages are read: onto a message, from bytes. -/
abbrev Nested := Message → List UInt8 → Option Message

/-- A value of any kind, merged onto an earlier one where it is a message. -/
def Kind.merge (nested : Nested) (schema : Schema) (kind : Kind) (earlier : Option Value)
    (payload : Payload) : Option Value :=
  match kind with
  | .message name =>
      match payload with
      | .bytes b =>
          let onto := match earlier with
            | some (.message m) => m
            | _ => .empty schema (schema.messageType name)
          (nested onto b).map .message
      | _ => none
  | kind => kind.read payload

/-- A value as a map key. -/
def Value.key? : Value → Option Key
  | .bool b => some (.bool b)
  | .int32 i => some (.int32 i)
  | .int64 i => some (.int64 i)
  | .uint32 u => some (.uint32 u)
  | .uint64 u => some (.uint64 u)
  | .string s => some (.string s)
  | _ => none

/-- Key and value of a map entry, from its fields 1 and 2.  Other fields are skipped. -/
def readEntry (nested : Nested) (depth : Nat) (schema : Schema) (key value : Kind) :
    Value × Value → List RawField → Option (Value × Value)
  | pair, [] => some pair
  | (k, v), (number, payload) :: rest => do
      if number = 1 then
        let k ← key.merge nested schema (some k) payload
        readEntry nested depth schema key value (k, v) rest
      else if number = 2 then
        let v ← value.merge nested schema (some v) payload
        readEntry nested depth schema key value (k, v) rest
      else if payload.fits .skipped depth then
        readEntry nested depth schema key value (k, v) rest
      else none

/-- Takes note of a field that the type of a message does not know. -/
def mergeUnknown (unknowns : UnknownFields) (depth : Nat) (m : Message) (raw : RawField) :
    Option Message :=
  if raw.2.fits unknowns depth then
    match unknowns with
    | .kept => some (.mk m.schema m.type m.fields (m.unknown ++ [raw]))
    | .skipped => some m
  else none

/-- Merges one field into a message. -/
def mergeField (unknowns : UnknownFields) (depth : Nat) (nested : Nested) (m : Message)
    (raw : RawField) : Option Message :=
  let (number, payload) := raw
  match m.type.fieldAt? number with
  | none => mergeUnknown unknowns depth m raw
  | some field =>
      match field.shape with
      | .singular =>
          (field.kind.merge nested m.schema (m.stored? number) payload).map (m.set field)
      | .repeated _ =>
          match field.kind.packable, payload with
          | true, .bytes b =>
              (field.kind.readPacked b.length b).map fun values =>
                m.set field (.list (m.listAt number ++ values))
          | _, _ =>
              (field.kind.merge nested m.schema none payload).map fun value =>
                m.set field (.list (m.listAt number ++ [value]))
      | .map key =>
          match payload with
          | .bytes b => do
              let raws ← readFields (fun _ => false) b
              let blank := (key.default m.schema, field.kind.default m.schema)
              let (k, v) ← readEntry nested depth m.schema key field.kind blank raws
              let k ← k.key?
              return m.set field (.map (insertEntry k v (m.entriesAt number)))
          | _ => none

/-- Whether a number is that of a map field. -/
def MessageType.isMapField (t : MessageType) (number : Nat) : Bool :=
  match t.fieldAt? number with
  | some field =>
      match field.shape with
      | .map _ => true
      | _ => false
  | none => false

/-- Merges encoded fields into a message; `nested` reads the messages in it. -/
def mergeFields (unknowns : UnknownFields) (depth : Nat) (nested : Nested) (m : Message)
    (bytes : List UInt8) : Option Message := do
  let raws ← readFields m.type.isMapField bytes
  raws.foldlM (mergeField unknowns depth nested) m

/-- Merges encoded fields into a message with messages in it at most `depth` levels deep. -/
def mergeBytes (unknowns : UnknownFields) : (depth : Nat) → Message → List UInt8 → Option Message
  | 0, m, bytes => mergeFields unknowns 0 (fun _ _ => none) m bytes
  | depth + 1, m, bytes => mergeFields unknowns (depth + 1) (mergeBytes unknowns depth) m bytes

/-- Reads a message of a type, `none` when the bytes do not encode one. -/
def decode? (schema : Schema) (type : MessageType) (bytes : List UInt8) : Option Message :=
  mergeBytes .kept nestingLimit (.empty schema type) bytes

/-- Reads a message and drops the fields that its type does not know. -/
def decodeKnown? (schema : Schema) (type : MessageType) (bytes : List UInt8) : Option Message :=
  mergeBytes .skipped nestingLimit (.empty schema type) bytes

/-! Writing -/

/-- The payload of a value, read off its kind, for everything but messages,
lists and maps. -/
def Kind.write (kind : Kind) (value : Value) : Option Payload :=
  match value with
  | .bool b => some (.varint (if b then 1 else 0))
  | .int32 i =>
      match kind with
      | .sint32 => some (.varint (zigzag i.toInt))
      | .sfixed32 => some (.fixed32 ((i.toInt % 4294967296).toNat))
      | _ => some (.varint (signedPattern i.toInt))
  | .int64 i =>
      match kind with
      | .sint64 => some (.varint (zigzag i.toInt))
      | .sfixed64 => some (.fixed64 (signedPattern i.toInt))
      | _ => some (.varint (signedPattern i.toInt))
  | .uint32 u =>
      match kind with
      | .fixed32 => some (.fixed32 u.toNat)
      | _ => some (.varint u.toNat)
  | .uint64 u =>
      match kind with
      | .fixed64 => some (.fixed64 u.toNat)
      | _ => some (.varint u.toNat)
  | .float x => some (.fixed32 x.bits.toNat)
  | .double d => some (.fixed64 d.bits.toNat)
  | .string s => some (.bytes (Utf8.encode s))
  | .bytes b => some (.bytes b)
  | .enum n => some (.varint (signedPattern n.toInt))
  | _ => none

/-- A payload without its tag, as it stands in a packed block. -/
def putPacked : Payload → List UInt8
  | .varint n => putVarint n
  | .fixed64 n => putFixed 8 n
  | .bytes b => putBlock b
  | .group fields => putFields fields
  | .fixed32 n => putFixed 4 n

mutual

/-- The bytes of a message. -/
def Message.encode : Message → List UInt8
  | .mk schema type fields unknown =>
      let known := Message.encodeFields schema type fields
      let others := unknown.map fun (n, payload) => (n, putField n payload)
      ((known ++ others).mergeSort fun a b => a.1 ≤ b.1).flatMap (·.2)

/-- The set fields, each as its number and its bytes. -/
def Message.encodeFields (schema : Schema) (type : MessageType) :
    List (Nat × Value) → List (Nat × List UInt8)
  | [] => []
  | (number, value) :: rest =>
      match type.fieldAt? number with
      | none => Message.encodeFields schema type rest
      | some field =>
          if field.shape = .singular && (field.presence || !value.isZero) ||
              field.shape ≠ .singular && !value.isZero then
            (number, Value.encode field value) :: Message.encodeFields schema type rest
          else Message.encodeFields schema type rest

/-- A field with its tags. -/
def Value.encode (field : Field) : Value → List UInt8
  | .message m => putField field.number (.bytes m.encode)
  | .list values =>
      match field.shape with
      | .repeated true => putField field.number (.bytes (Value.encodePacked field values))
      | _ => Value.encodeList field values
  | .map entries => Value.encodeEntries field entries
  | value => ((field.kind.write value).map (putField field.number)).getD []

def Value.encodeList (field : Field) : List Value → List UInt8
  | [] => []
  | v :: rest => Value.encode field v ++ Value.encodeList field rest

def Value.encodePacked (field : Field) : List Value → List UInt8
  | [] => []
  | v :: rest =>
      ((field.kind.write v).map putPacked).getD [] ++ Value.encodePacked field rest

/-- Map entries; a key or value that is the default is left out, a message never. -/
def Value.encodeEntries (field : Field) : List (Key × Value) → List UInt8
  | [] => []
  | (k, v) :: rest =>
      let keyKind := match field.shape with
        | .map kind => kind
        | _ => .string
      let key := k.toValue
      let keyBytes := if key.isZero then []
        else ((keyKind.write key).map (putField 1)).getD []
      let valueBytes := if v.isZero then []
        else Value.encode { field with number := 2, shape := .singular } v
      putField field.number (.bytes (keyBytes ++ valueBytes)) ++ Value.encodeEntries field rest

end

end CommonExpr.Protobuf
