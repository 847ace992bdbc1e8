import CommonExpr.Exchange.Value
import CommonExpr.Json
import CommonExpr.Time.Written

/-!
Runtime values.

A list or map keeps the data it was made from together with the means to read
it; an element becomes a value only when it is read, and reading may fail.
Values made by evaluation itself hold values.
-/

namespace CommonExpr

mutual

/-- A runtime value. -/
inductive Value where
  | null
  | scalar (s : Scalar)
  | timestamp (t : Timestamp)
  | duration (d : Duration)
  /-- A scalar in a wrapper message. -/
  | wrapped (s : Scalar)
  /-- An unset message field: null, but with the zero value of its type. -/
  | typedNull (type : String) (zero : Value)
  | list (ty : Ty) (items : Items)
  | map (ty : Ty) (entries : Entries)
  /-- A message and the schema that packed messages in it are read by. -/
  | object (schema : Protobuf.Schema) (message : Protobuf.Message)
  | type (t : Ty)

/-- The elements of a list, in the form they were given. -/
inductive Items where
  | values (vs : List Value)
  | json (xs : List Json)
  | exchange (schema : Option Protobuf.Schema) (xs : List Exchange.Value)
  | protobuf (schema : Protobuf.Schema) (xs : List Protobuf.Value)

/-- The entries of a map, in the form they were given. -/
inductive Entries where
  | values (es : List (Value × Value))
  | json (es : List (String × Json))
  | exchange (schema : Option Protobuf.Schema) (es : List (Exchange.Value × Exchange.Value))
  | protobuf (schema : Protobuf.Schema) (es : List (Protobuf.Key × Protobuf.Value))

end

namespace Value

@[match_pattern] abbrev bool (b : Bool) : Value := .scalar (.bool b)
@[match_pattern] abbrev int (i : Int64) : Value := .scalar (.int i)
@[match_pattern] abbrev uint (u : UInt64) : Value := .scalar (.uint u)
@[match_pattern] abbrev double (d : Double) : Value := .scalar (.double d)
@[match_pattern] abbrev string (s : String) : Value := .scalar (.string s)
@[match_pattern] abbrev bytes (b : List UInt8) : Value := .scalar (.bytes b)

/-- A list of values of any type. -/
def ofList (vs : List Value) : Value := .list .dynList (.values vs)

def ofLiteral : Literal → Value
  | .null => .null
  | .scalar s => .scalar s

/-- The type of a value. -/
def ty : Value → Ty
  | .null => .null
  | .scalar s => s.ty
  | .timestamp _ => .timestamp
  | .duration _ => .duration
  | .wrapped s => .wrapper s.ty
  | .typedNull _ zero => zero.ty
  | .list ty _ => ty
  | .map ty _ => ty
  | .object _ m => .message m.name
  | .type t => .typeOf t

/-- Null or an unset message field. -/
def isNull : Value → Bool
  | .null => true
  | .typedNull _ _ => true
  | _ => false

/-- Takes a scalar out of its wrapper. -/
def unwrap : Value → Value
  | .wrapped s => .scalar s
  | v => v

end Value

def Items.length : Items → Nat
  | .values vs => vs.length
  | .json xs => xs.length
  | .exchange _ xs => xs.length
  | .protobuf _ xs => xs.length

def Entries.length : Entries → Nat
  | .values es => es.length
  | .json es => es.length
  | .exchange _ es => es.length
  | .protobuf _ es => es.length

/-- Text for messages: scalars in full, containers by their size. -/
def Value.display : Value → String
  | .null => "null"
  | .scalar s => s.display
  | .timestamp t => "timestamp(" ++ Text.quoted t.text ++ ")"
  | .duration d => "duration(" ++ Text.quoted d.text ++ ")"
  | .wrapped s => s.display
  | .typedNull name _ => "null(" ++ name ++ ")"
  | .list _ items => s!"<list of {items.length}>"
  | .map _ entries => s!"<map of {entries.length}>"
  | .object _ m => "<" ++ m.name ++ ">"
  | .type t => t.fullName

/-- The depth of a list of exchanged pairs. -/
def pairDepth : List (Exchange.Value × Exchange.Value) → Nat
  | [] => 0
  | (k, v) :: rest => max (max k.depth v.depth) (pairDepth rest)

mutual

/-- How many levels of elements and fields a value has at most. -/
def Value.depth : Value → Nat
  | .typedNull _ zero => zero.depth + 1
  | .list _ items => items.depth + 1
  | .map _ entries => entries.depth + 1
  | .object _ m => m.depth + 1
  | _ => 1

def Items.depth : Items → Nat
  | .values vs => Value.listDepth vs
  | .json xs => Json.listDepth xs
  | .exchange _ xs => Exchange.Value.listDepth xs
  | .protobuf _ xs => Protobuf.Value.listDepth xs

def Entries.depth : Entries → Nat
  | .values es => Value.entryDepth es
  | .json es => Json.memberDepth es
  | .exchange _ es => pairDepth es
  | .protobuf _ es => Protobuf.Value.entryDepth es

def Value.listDepth : List Value → Nat
  | [] => 0
  | v :: rest => max v.depth (Value.listDepth rest)

def Value.entryDepth : List (Value × Value) → Nat
  | [] => 0
  | (k, v) :: rest => max (max k.depth v.depth) (Value.entryDepth rest)

end

end CommonExpr
