/-!
The types of values.  Types are data: `type(x)` yields them, overloads are
guarded by them and messages name them.  They are compared at two strengths,
by base name alone or by the whole parameterized name.
-/

namespace CommonExpr

/-- A runtime type. -/
inductive Ty where
  | dyn
  | null
  | bool
  | int
  | uint
  | double
  | string
  | bytes
  /-- A wrapper message around a scalar. -/
  | wrapper (inner : Ty)
  | timestamp
  | duration
  | list (elem : Ty)
  | map (key value : Ty)
  /-- The type of types, without a parameter. -/
  | type
  /-- The type of one type. -/
  | typeOf (inner : Ty)
  | message (name : String)
  deriving DecidableEq, Repr, Inhabited

namespace Ty

def dynList : Ty := .list .dyn

def dynMap : Ty := .map .dyn .dyn

/-- The type of a JSON object. -/
def jsonObject : Ty := .map .string .dyn

/-- The base name, which loose comparison and overload guards look at. -/
def name : Ty → String
  | .dyn => "dyn"
  | .null => "null_type"
  | .bool => "bool"
  | .int => "int"
  | .uint => "uint"
  | .double => "double"
  | .string => "string"
  | .bytes => "bytes"
  | .wrapper inner => "wrapper(" ++ inner.name ++ ")"
  | .timestamp => "google.protobuf.Timestamp"
  | .duration => "google.protobuf.Duration"
  | .list _ => "list"
  | .map _ _ => "map"
  | .type => "type"
  | .typeOf _ => "type"
  | .message name => name

/-- The name with all parameters. -/
def fullName : Ty → String
  | .wrapper inner => "wrapper(" ++ inner.fullName ++ ")"
  | .list elem => "list(" ++ elem.fullName ++ ")"
  | .map key value => "map(" ++ key.fullName ++ ", " ++ value.fullName ++ ")"
  | .typeOf inner => "type(" ++ inner.fullName ++ ")"
  | t => t.name

/-- Loose equality: the base names agree. -/
def equals (a b : Ty) : Bool := a.name = b.name

/-- Strict equality: base names and parameters agree. -/
def identical (a b : Ty) : Bool := a.name = b.name && a.fullName = b.fullName

/-- Orders types by base name. -/
def order (a b : Ty) : Ordering := compareOfLessAndEq a.name b.name

def isNumeric : Ty → Bool
  | .int => true
  | .uint => true
  | .double => true
  | _ => false

/-- The element type of a list type. -/
def elem? : Ty → Option Ty
  | .list elem => some elem
  | _ => none

/-- Key and value type of a map type. -/
def entry? : Ty → Option (Ty × Ty)
  | .map key value => some (key, value)
  | _ => none

/-- The type that a well-known message is read as. -/
def ofWellKnown? : String → Option Ty
  | "google.protobuf.Value" => some .dyn
  | "google.protobuf.Any" => some .dyn
  | "google.protobuf.Struct" => some jsonObject
  | "google.protobuf.ListValue" => some dynList
  | "google.protobuf.NullValue" => some .null
  | "google.protobuf.BoolValue" => some (.wrapper .bool)
  | "google.protobuf.UInt32Value" => some (.wrapper .uint)
  | "google.protobuf.UInt64Value" => some (.wrapper .uint)
  | "google.protobuf.Int32Value" => some (.wrapper .int)
  | "google.protobuf.Int64Value" => some (.wrapper .int)
  | "google.protobuf.FloatValue" => some (.wrapper .double)
  | "google.protobuf.DoubleValue" => some (.wrapper .double)
  | "google.protobuf.StringValue" => some (.wrapper .string)
  | "google.protobuf.BytesValue" => some (.wrapper .bytes)
  | "google.protobuf.Timestamp" => some .timestamp
  | "google.protobuf.Duration" => some .duration
  | _ => none

/-- The type of a message: its well-known reading, or a message type of its name. -/
def ofMessage (name : String) : Ty := (ofWellKnown? name).getD (.message name)

/-- The type that a bare type name denotes in expressions. -/
def builtin? : String → Option Ty
  | "int" => some .int
  | "uint" => some .uint
  | "double" => some .double
  | "bool" => some .bool
  | "string" => some .string
  | "bytes" => some .bytes
  | "list" => some dynList
  | "map" => some dynMap
  | "null_type" => some .null
  | "type" => some .type
  | "dyn" => some .dyn
  | name => ofWellKnown? name

end Ty

example : (Ty.map .int (.list .string)).fullName = "map(int, list(string))" := by decide
example : (Ty.list .int).equals .dynList = true := by decide

end CommonExpr
