import CommonExpr.Protobuf.Schema
import CommonExpr.Protobuf.Wire

/-!
Messages whose type is known at run time only.  A message carries its own
schema, so that messages of different schemas can meet in one evaluation.
-/

namespace CommonExpr.Protobuf

/-- A key of a map field. -/
inductive Key where
  | bool (b : Bool)
  | int32 (i : Int32)
  | int64 (i : Int64)
  | uint32 (u : UInt32)
  | uint64 (u : UInt64)
  | string (s : String)
  deriving DecidableEq, Repr

mutual

/-- A field value. -/
inductive Value where
  | bool (b : Bool)
  | int32 (i : Int32)
  | int64 (i : Int64)
  | uint32 (u : UInt32)
  | uint64 (u : UInt64)
  | float (x : Single)
  | double (d : Double)
  | string (s : String)
  | bytes (b : List UInt8)
  | enum (n : Int32)
  | message (m : Message)
  | list (values : List Value)
  | map (entries : List (Key × Value))

/-- A message: its schema and type, the stored values by field number, and the
fields that its type does not know. -/
inductive Message where
  | mk (schema : Schema) (type : MessageType) (fields : List (Nat × Value))
      (unknown : List RawField)

end

namespace Key

/-- Kinds come in declaration order. -/
def rank : Key → Nat
  | .bool _ => 0
  | .int32 _ => 1
  | .int64 _ => 2
  | .uint32 _ => 3
  | .uint64 _ => 4
  | .string _ => 5

/-- Keys in order: by kind, then by value. -/
def less : Key → Key → Bool
  | .bool a, .bool b => !a && b
  | .int32 a, .int32 b => a < b
  | .int64 a, .int64 b => a < b
  | .uint32 a, .uint32 b => a < b
  | .uint64 a, .uint64 b => a < b
  | .string a, .string b => a < b
  | a, b => a.rank < b.rank

/-- The key as a value. -/
def toValue : Key → Value
  | .bool b => .bool b
  | .int32 i => .int32 i
  | .int64 i => .int64 i
  | .uint32 u => .uint32 u
  | .uint64 u => .uint64 u
  | .string s => .string s

end Key

/-- Puts an entry into an ascending list, replacing one with the same key. -/
def insertEntry (key : Key) (value : Value) : List (Key × Value) → List (Key × Value)
  | [] => [(key, value)]
  | (k, v) :: rest =>
      if k = key then (key, value) :: rest
      else if key.less k then (key, value) :: (k, v) :: rest
      else (k, v) :: insertEntry key value rest

namespace Message

def schema : Message → Schema
  | .mk schema _ _ _ => schema

def type : Message → MessageType
  | .mk _ type _ _ => type

def fields : Message → List (Nat × Value)
  | .mk _ _ fields _ => fields

def unknown : Message → List RawField
  | .mk _ _ _ unknown => unknown

def name (m : Message) : String := m.type.name

def empty (schema : Schema) (type : MessageType) : Message := .mk schema type [] []

/-- Whether two messages have one and the same type. -/
def sameType (m : Message) (schema : Schema) (type : MessageType) : Bool :=
  m.type == type && m.schema == schema

/-- The stored value of a field number. -/
def stored? (m : Message) (number : Nat) : Option Value := m.fields.lookup number

/-- Puts a value at a number, keeping the numbers ascending. -/
def putValue (number : Nat) (value : Value) : List (Nat × Value) → List (Nat × Value)
  | [] => [(number, value)]
  | (n, v) :: rest =>
      if n = number then (number, value) :: rest
      else if number < n then (number, value) :: (n, v) :: rest
      else (n, v) :: putValue number value rest

/-- Stores a field's value.  The other members of its oneof are cleared. -/
def set (m : Message) (field : Field) (value : Value) : Message :=
  let rivals : List Nat := match field.oneof with
    | none => []
    | some name => (m.type.fields.filter fun (f : Field) =>
        f.oneof == some name && f.number != field.number).map Field.number
  .mk m.schema m.type
    (putValue field.number value (m.fields.filter fun (n, _) => !rivals.contains n))
    (m.unknown.filter (·.1 != field.number))

end Message

/-- The value of an unset field of a kind. -/
def Kind.default (schema : Schema) : Kind → Value
  | .double => .double .zero
  | .float => .float .zero
  | .int32 => .int32 0
  | .sint32 => .int32 0
  | .sfixed32 => .int32 0
  | .int64 => .int64 0
  | .sint64 => .int64 0
  | .sfixed64 => .int64 0
  | .uint32 => .uint32 0
  | .fixed32 => .uint32 0
  | .uint64 => .uint64 0
  | .fixed64 => .uint64 0
  | .bool => .bool false
  | .string => .string ""
  | .bytes => .bytes []
  | .message name => .message (.empty schema (schema.messageType name))
  | .enum name =>
      match (schema.enum? name).bind (·.values.head?) with
      | some (_, n) => .enum (Int32.ofInt n)
      | none => .enum 0

/-- A declared default as a value of the kind. -/
def Kind.declared (kind : Kind) (s : Scalar) : Option Value :=
  match kind, s with
  | .double, .double d => some (.double d)
  | .float, .double d => some (.float d.toSingle)
  | .int32, .int i => some (.int32 (Int32.ofInt i.toInt))
  | .sint32, .int i => some (.int32 (Int32.ofInt i.toInt))
  | .sfixed32, .int i => some (.int32 (Int32.ofInt i.toInt))
  | .int64, .int i => some (.int64 i)
  | .sint64, .int i => some (.int64 i)
  | .sfixed64, .int i => some (.int64 i)
  | .uint32, .uint u => some (.uint32 (UInt32.ofNat u.toNat))
  | .fixed32, .uint u => some (.uint32 (UInt32.ofNat u.toNat))
  | .uint64, .uint u => some (.uint64 u)
  | .fixed64, .uint u => some (.uint64 u)
  | .bool, .bool b => some (.bool b)
  | .string, .string s => some (.string s)
  | .bytes, .bytes b => some (.bytes b)
  | .enum _, .int i => some (.enum (Int32.ofInt i.toInt))
  | _, _ => none

/-- What an unset field reads as. -/
def Field.defaultValue (f : Field) (schema : Schema) : Value :=
  match f.shape with
  | .repeated _ => .list []
  | .map _ => .map []
  | .singular => (f.default.bind f.kind.declared).getD (f.kind.default schema)

/-- Whether a stored value equals the default of an implicit field. -/
def Value.isZero : Value → Bool
  | .bool b => !b
  | .int32 i => i == 0
  | .int64 i => i == 0
  | .uint32 u => u == 0
  | .uint64 u => u == 0
  | .float x => x.isZero
  | .double d => d.isZero
  | .string s => s == ""
  | .bytes b => b.isEmpty
  | .enum n => n == 0
  | .message _ => false
  | .list values => values.isEmpty
  | .map entries => entries.isEmpty

namespace Message

/-- The stored string at a number. -/
def text? (m : Message) (number : Nat) : Option String :=
  match m.stored? number with
  | some (.string s) => some s
  | _ => none

/-- The stored string at a number, empty by default. -/
def textAt (m : Message) (number : Nat) : String := (m.text? number).getD ""

/-- The stored bytes at a number, empty by default. -/
def bytesAt (m : Message) (number : Nat) : List UInt8 :=
  match m.stored? number with
  | some (.bytes b) => b
  | _ => []

/-- A signed number, enums included. -/
def signed? : Value → Option Int
  | .int32 i => some i.toInt
  | .int64 i => some i.toInt
  | .enum n => some n.toInt
  | _ => none

/-- The stored signed number, enums included. -/
def int? (m : Message) (number : Nat) : Option Int := (m.stored? number).bind signed?

/-- The stored signed number, enums included, zero by default. -/
def intAt (m : Message) (number : Nat) : Int := (m.int? number).getD 0

def bool? (m : Message) (number : Nat) : Option Bool :=
  match m.stored? number with
  | some (.bool b) => some b
  | _ => none

def boolAt (m : Message) (number : Nat) : Bool := (m.bool? number).getD false

/-- The stored message at a number. -/
def messageAt? (m : Message) (number : Nat) : Option Message :=
  match m.stored? number with
  | some (.message inner) => some inner
  | _ => none

/-- The stored list at a number, empty by default. -/
def listAt (m : Message) (number : Nat) : List Value :=
  match m.stored? number with
  | some (.list values) => values
  | _ => []

/-- The stored map at a number, empty by default. -/
def entriesAt (m : Message) (number : Nat) : List (Key × Value) :=
  match m.stored? number with
  | some (.map entries) => entries
  | _ => []

/-- The messages in the stored list at a number. -/
def messagesAt (m : Message) (number : Nat) : List Message :=
  (m.listAt number).filterMap fun
    | .message inner => some inner
    | _ => none

/-- The strings in the stored list at a number. -/
def textsAt (m : Message) (number : Nat) : List String :=
  (m.listAt number).filterMap fun
    | .string s => some s
    | _ => none

/-- The signed numbers in the stored list at a number. -/
def intsAt (m : Message) (number : Nat) : List Int := (m.listAt number).filterMap signed?

/-- Whether a field counts as set. -/
def has (m : Message) (field : Field) : Bool :=
  match m.stored? field.number with
  | none => false
  | some value =>
      match field.shape with
      | .singular => field.presence || !value.isZero
      | _ => !value.isZero

/-- The stored value of a field, or its default. -/
def get (m : Message) (field : Field) : Value :=
  (m.stored? field.number).getD (field.defaultValue m.schema)

end Message

mutual

/-- How many levels a value nests.  Bytes count twice their length, since they may
hold a message in encoded form, where two bytes can open three levels: that of a
list, of an element in it and of the element's fields. -/
def Value.depth : Value → Nat
  | .bytes b => 2 * b.length + 2
  | .message m => m.depth + 1
  | .list values => Value.listDepth values + 1
  | .map entries => Value.entryDepth entries + 1
  | _ => 1

def Value.listDepth : List Value → Nat
  | [] => 0
  | v :: rest => max v.depth (Value.listDepth rest)

def Value.entryDepth : List (Key × Value) → Nat
  | [] => 0
  | (_, v) :: rest => max v.depth (Value.entryDepth rest)

def Value.fieldDepth : List (Nat × Value) → Nat
  | [] => 0
  | (_, v) :: rest => max v.depth (Value.fieldDepth rest)

def Message.depth : Message → Nat
  | .mk _ _ fields _ => Value.fieldDepth fields + 1

end

end CommonExpr.Protobuf
