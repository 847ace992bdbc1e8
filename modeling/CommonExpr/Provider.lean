import CommonExpr.Convert.Protobuf

/-!
Providers build the values of message literals and resolve the names of types
and constants that no variable shadows.
-/

namespace CommonExpr

/-- Knows types by name. -/
structure Provider where
  /-- The value of a message literal, `none` for a type it does not know. -/
  newValue : (id : Int) → (type : String) → List (String × Value) → Option (Outcome Value)
  findType : String → Option Ty
  /-- The value of a name that is no variable. -/
  findIdent : (id : Int) → String → Option (Outcome Value)

/-- Refuses the first field that is not allowed. -/
def checkFields (id : Int) (type : String) (allowed : List String)
    (fields : List (String × Value)) : Outcome Unit :=
  match fields.find? fun (name, _) => !allowed.contains name with
  | some (name, _) => fail id (.fieldNotFound name (some type))
  | none => .ok ()

/-- The scalar that a wrapper literal holds; 32-bit and float wrappers hold it
with full width. -/
def wrapperScalar (id : Int) (kind : Protobuf.Kind) (v : Option Value) : Outcome Scalar :=
  match kind with
  | .bool => .bool <$> Value.toBool id v
  | .int32 => .int <$> Value.toInt64 id v
  | .int64 => .int <$> Value.toInt64 id v
  | .uint32 => .uint <$> Value.toUInt64 id v
  | .uint64 => .uint <$> Value.toUInt64 id v
  | .float => .double <$> Value.toDouble id v
  | .double => .double <$> Value.toDouble id v
  | .string => .string <$> Value.toText id v
  | _ => .bytes <$> Value.toBytes id v

/-- The value of a literal of a well-known message type. -/
def wellKnownLiteral (id : Int) (type : String) (fields : List (String × Value)) :
    Outcome Value :=
  match Protobuf.wrapperKind? type with
  | some kind => do
      let s ← wrapperScalar id kind (fields.lookup "value")
      checkFields id type ["value"] fields
      return .wrapped s
  | none =>
      if type = Protobuf.WellKnown.timestamp ∨ type = Protobuf.WellKnown.duration then do
        checkFields id type ["seconds", "nanos"] fields
        let seconds ← Value.toInt64 id (fields.lookup "seconds")
        let nanos ← Value.toInt64 id (fields.lookup "nanos")
        if type = Protobuf.WellKnown.timestamp then
          .timestamp <$> timed id (Timestamp.normalize seconds.toInt nanos.toInt)
        else .duration <$> timed id (Duration.normalize seconds.toInt nanos.toInt)
      else if type = Protobuf.WellKnown.value then do
        checkFields id type ["null_value", "number_value", "string_value", "bool_value",
          "struct_value", "list_value"] fields
        match fields with
        | [] => .ok .null
        | (name, v) :: _ => .ok (if name = "null_value" then .null else v)
      else if type = Protobuf.WellKnown.struct then do
        checkFields id type ["fields"] fields
        match fields.lookup "fields" with
        | some (.map ty entries) => .ok (.map ty entries)
        | some other => fail id (.typeMismatch "map" other.ty)
        | none => Value.ofEntries id []
      else if type = Protobuf.WellKnown.listValue then do
        checkFields id type ["values"] fields
        match fields.lookup "values" with
        | some (.list ty items) => .ok (.list ty items)
        | some other => fail id (.typeMismatch "list" other.ty)
        | none => .ok (.ofList [])
      else fail id (.typeNotFound type)

namespace Provider

/-- Literals of well-known types other than packed messages and null. -/
def newWellKnown (id : Int) (type : String) (fields : List (String × Value)) :
    Option (Outcome Value) :=
  if (Ty.ofWellKnown? type).isNone ∨ type = Protobuf.WellKnown.any ∨
      type = Protobuf.WellKnown.nullValue then none
  else some (wellKnownLiteral id type fields)

/-- Knows the built-in and the well-known types only. -/
def empty : Provider where
  newValue := newWellKnown
  findType := Ty.builtin?
  findIdent _ name := (Ty.builtin? name).map fun t => .ok (.type t)

/-- A literal of a type of the schema. -/
def newMessage (schema : Protobuf.Schema) (id : Int) (type : String)
    (fields : List (String × Value)) : Option (Outcome Value) :=
  match newWellKnown id type fields with
  | some result => some result
  | none =>
      match schema.message? type with
      | none => none
      | some t =>
          if type = Protobuf.WellKnown.any then
            some do
              let url ← Value.toText id (fields.lookup "type_url")
              let payload ← Value.toBytes id (fields.lookup "value")
              Protobuf.unpackAny schema id url payload
          else
            some do
              let m ← Protobuf.messageOfFields schema id t fields
              m.toValue schema id

/-- A built-in type or a message type of the schema. -/
def typeIn (schema : Protobuf.Schema) (name : String) : Option Ty :=
  match Ty.builtin? name with
  | some t => some t
  | none => (schema.message? name).map fun t => Ty.ofMessage t.name

/-- Knows the types and enum constants of a schema as well. -/
def ofSchema (schema : Protobuf.Schema) : Provider where
  newValue := newMessage schema
  findType := typeIn schema
  findIdent _ name :=
    match schema.enumConstant? name with
    | some n => some (.ok (.int (Int64.ofInt n)))
    | none => (typeIn schema name).map fun t => .ok (.type t)

end Provider

end CommonExpr
