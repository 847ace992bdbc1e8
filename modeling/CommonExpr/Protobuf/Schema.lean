import CommonExpr.Scalar
import CommonExpr.Text.Search

/-!
Message and enum types by full name, in the files that declare them.
-/

namespace CommonExpr.Protobuf

/-- The type of a single field value. -/
inductive Kind where
  | double
  | float
  | int32
  | int64
  | uint32
  | uint64
  | sint32
  | sint64
  | fixed32
  | fixed64
  | sfixed32
  | sfixed64
  | bool
  | string
  | bytes
  | message (name : String)
  | enum (name : String)
  deriving DecidableEq, Repr

/-- How many values a field holds. -/
inductive Shape where
  | singular
  | repeated (packed : Bool)
  /-- A map from keys of a kind; the field's own kind is that of the values. -/
  | map (key : Kind)
  deriving DecidableEq, Repr

/-- A field of a message type. -/
structure Field where
  name : String
  number : Nat
  kind : Kind
  shape : Shape := .singular
  /-- Whether an unset field differs from one that holds the default. -/
  presence : Bool := false
  /-- The group of fields of which at most one is set. -/
  oneof : Option String := none
  default : Option Scalar := none
  deriving DecidableEq, Repr

/-- A message type; its fields are in ascending order of their numbers. -/
structure MessageType where
  name : String
  fields : List Field
  deriving DecidableEq, Repr

/-- An enum type; the first value is its default. -/
structure EnumType where
  name : String
  values : List (String × Int)
  deriving DecidableEq, Repr

/-- A run of field numbers: the first, and the one after the last. -/
structure NumberRange where
  first : Int
  stop : Int
  deriving DecidableEq, Repr

def NumberRange.holds (r : NumberRange) (n : Int) : Bool := r.first ≤ n && n < r.stop

/-- A field that is declared for a message of another place. -/
structure Extension where
  /-- The full name of the extension. -/
  name : String
  /-- The message that it is for. -/
  extendee : String
  field : Field
  deriving DecidableEq, Repr

/-- A file of declarations. -/
structure File where
  name : String
  package : String := ""
  /-- The files that are seen through an import of this one. -/
  exports : List String := []
  messages : List MessageType := []
  enums : List EnumType := []
  /-- The messages that are the entries of maps. -/
  entries : List String := []
  /-- The field numbers of messages that are left to extensions. -/
  extensible : List (String × NumberRange) := []
  /-- The field numbers of messages that must not be used. -/
  reserved : List (String × NumberRange) := []
  extensions : List Extension := []
  services : List String := []
  /-- The full names of all that is no type, extension or service: fields, oneofs,
  enum values and methods. -/
  members : List String := []
  deriving DecidableEq, Repr

/-- The files with all types that there are. -/
structure Schema where
  files : List File := []
  deriving DecidableEq, Repr

def MessageType.field? (t : MessageType) (name : String) : Option Field :=
  t.fields.find? (·.name == name)

def MessageType.fieldAt? (t : MessageType) (number : Nat) : Option Field :=
  t.fields.find? (·.number == number)

/-- Puts fields into ascending order of their numbers. -/
def MessageType.ofFields (name : String) (fields : List Field) : MessageType :=
  ⟨name, fields.mergeSort fun a b => a.number ≤ b.number⟩

namespace EnumType

/-- Whether no earlier value has the number of a value. -/
def isFirst (e : EnumType) (value : String × Int) : Bool :=
  e.values.find? (·.2 == value.2) == some value

/-- The values in ascending order of their numbers.  Of values that share a number
the one that is declared first comes last. -/
def listed (e : EnumType) : List (String × Int) :=
  let (firsts, others) := e.values.partition e.isFirst
  (others ++ firsts).mergeSort fun a b => a.2 ≤ b.2

end EnumType

/-- A full name without the dot that may mark it as such. -/
def withoutLeadingDot (name : String) : String :=
  match name.toList with
  | '.' :: rest => String.ofList rest
  | _ => name

namespace Schema

/-- The message type of a full name, which may start with a dot. -/
def message? (s : Schema) (name : String) : Option MessageType :=
  let full := withoutLeadingDot name
  s.files.findSome? (·.messages.find? (·.name == full))

/-- The enum type of a full name, which may start with a dot. -/
def enum? (s : Schema) (name : String) : Option EnumType :=
  let full := withoutLeadingDot name
  s.files.findSome? (·.enums.find? (·.name == full))

/-- The type of a map's entries that has a full name. -/
def entryType? (s : Schema) (name : String) : Option MessageType :=
  if s.files.any (·.entries.contains name) then s.message? name else none

/-- The extension of a full name. -/
def extension? (s : Schema) (name : String) : Option Extension :=
  s.files.findSome? (·.extensions.find? (·.name == name))

/-- The message type of a name, without fields if there is none. -/
def messageType (s : Schema) (name : String) : MessageType :=
  (s.message? name).getD ⟨name, []⟩

/-- The number of an enum constant. -/
def enumValue? (s : Schema) (enum value : String) : Option Int := do
  let e ← s.enum? enum
  e.values.lookup value

/-- The number of a constant written as enum name, dot and value name. -/
def enumConstant? (s : Schema) (qualified : String) : Option Int := do
  let (enum, value) ← Text.cutLastChar? '.' qualified
  s.enumValue? enum value

/-- The schema with more files. -/
def add (s : Schema) (files : List File) : Schema := ⟨s.files ++ files⟩

end Schema

/-- A list of entries is a map from their first field to their second; `entryType?` gives
the types of entries. -/
def Field.joined (entryType? : String → Option MessageType) (f : Field) : Field :=
  match f.shape, f.kind with
  | .repeated _, .message name =>
      match (entryType? name).map fun t => (t.fieldAt? 1, t.fieldAt? 2) with
      | some (some key, some value) => { f with kind := value.kind, shape := .map key.kind }
      | _ => f
  | _, _ => f

/-- The file with maps in place of lists of entries. -/
def File.joined (entryType? : String → Option MessageType) (file : File) : File :=
  { file with
    messages := file.messages.map fun t => { t with fields := t.fields.map (·.joined entryType?) }
    extensions := file.extensions.map fun e => { e with field := e.field.joined entryType? } }

/-- The type of a value of this kind. -/
def Kind.ty : Kind → Ty
  | .bool => .bool
  | .int32 => .int
  | .sint32 => .int
  | .sfixed32 => .int
  | .int64 => .int
  | .sint64 => .int
  | .sfixed64 => .int
  | .uint32 => .uint
  | .fixed32 => .uint
  | .uint64 => .uint
  | .fixed64 => .uint
  | .float => .double
  | .double => .double
  | .string => .string
  | .bytes => .bytes
  | .message name => Ty.ofMessage name
  | .enum _ => .int

/-- The type of a field, lists and maps included. -/
def Field.ty (f : Field) : Ty :=
  match f.shape with
  | .singular => f.kind.ty
  | .repeated _ => .list f.kind.ty
  | .map key => .map key.ty f.kind.ty

/-- Kinds whose values can stand one after the other without tags. -/
def Kind.packable : Kind → Bool
  | .string => false
  | .bytes => false
  | .message _ => false
  | _ => true

end CommonExpr.Protobuf
