import CommonExpr.Protobuf.Descriptor.Types

/-!
Options that a descriptor holds as they were written, as a name and the text of a
value, and the fields of the options message that they set.

A name has parts: all but the last lead from message to message, and the last is the
field that is set.  A part is the name of a field or, if it is marked so, the name of an
extension of the message.  A single field can be set once, and a list grows.
-/

namespace CommonExpr.Protobuf.Descriptor

/-- What the names of options are looked up in. -/
structure Lookup where
  schema : Schema
  names : Names
  visible : List String

namespace WrittenOption

/-- The parts of the name of an option. -/
def parts (option : Message) : List Message := option.messagesAt 2

/-- A value that is a word. -/
def word? (option : Message) : Option String := option.text? 3

/-- A value that is a whole number. -/
def whole? (option : Message) : Option Int :=
  match option.stored? 4, option.stored? 5 with
  | some (.uint64 u), _ => some u.toNat
  | _, some (.int64 i) => some i.toInt
  | _, _ => none

/-- A value that is a whole number between two bounds. -/
def wholeWithin? (lo hi : Int) (option : Message) : Option Int :=
  (whole? option).filter fun n => lo ≤ n && n ≤ hi

/-- A value that is a number. -/
def number? (option : Message) : Option Double :=
  match option.stored? 6 with
  | some (.double d) => some d
  | _ => (whole? option).map Double.ofInt

/-- A value that is quoted text. -/
def quoted? (option : Message) : Option (List UInt8) :=
  match option.stored? 7 with
  | some (.bytes b) => some b
  | _ => none

/-- A value that is a truth value. -/
def truth? (option : Message) : Option Bool :=
  match word? option with
  | some "true" => some true
  | some "false" => some false
  | _ => none

/-- The value that an option gives to a field of a kind; messages have none. -/
def value? (schema : Schema) (kind : Kind) (option : Message) : Option Value :=
  match kind with
  | .double => (number? option).map .double
  | .float => (number? option).map fun d => .float d.toSingle
  | .int32 | .sint32 | .sfixed32 =>
      (wholeWithin? (-2147483648) 2147483647 option).map fun n => .int32 (Int32.ofInt n)
  | .int64 | .sint64 | .sfixed64 =>
      (wholeWithin? (-9223372036854775808) 9223372036854775807 option).map fun n =>
        .int64 (Int64.ofInt n)
  | .uint32 | .fixed32 =>
      (wholeWithin? 0 4294967295 option).map fun n => .uint32 (UInt32.ofNat n.toNat)
  | .uint64 | .fixed64 =>
      (wholeWithin? 0 18446744073709551615 option).map fun n => .uint64 (UInt64.ofNat n.toNat)
  | .bool => (truth? option).map .bool
  | .string => (quoted? option).bind fun b => (Utf8.decode b).toOption.map .string
  | .bytes => (quoted? option).map .bytes
  | .enum name => (word? option).bind fun word =>
      (schema.enumValue? name word).map fun n => .enum (Int32.ofInt n)
  | .message _ => none

/-- The field of a message that a part of a name used in a scope means. -/
def fieldNamed (look : Lookup) (scope : String) (m part : Message) : Except Fault Field :=
  let name := part.textAt 1
  let field? := if part.boolAt 2 then do
      let entry ← look.names.resolve? look.visible (· = .extension) scope name
      let e ← look.schema.extension? entry.name
      if e.extendee = m.name then some e.field else none
    else m.type.field? name
  match field? with
  | some field => .ok field
  | none => .error (.unknownOption name)

/-- Sets a field of a message to the value of an option. -/
def assign (schema : Schema) (option : Message) (field : Field) (m : Message) :
    Except Fault Message :=
  match value? schema field.kind option with
  | none => .error (.badOption field.name)
  | some value =>
      match field.shape with
      | .singular =>
          if m.has field then .error (.duplicateOption field.name) else .ok (m.set field value)
      | _ => .ok (m.set field (.list (m.listAt field.number ++ [value])))

/-- Sets the field of a message that the parts of a name lead to. -/
def apply (look : Lookup) (scope : String) (option : Message) :
    (parts : List Message) → Message → Except Fault Message
  | [], m => .ok m
  | [part], m => do
      let field ← fieldNamed look scope m part
      assign look.schema option field m
  | part :: rest, m => do
      let field ← fieldNamed look scope m part
      match field.kind, field.shape with
      | .message name, .singular =>
          let inner := (m.messageAt? field.number).getD
            (.empty look.schema (look.schema.messageType name))
          return m.set field (.message (← apply look scope option rest inner))
      | _, _ => throw (.badOption field.name)

end WrittenOption

/-- The options with all that are written out set. -/
def Options.settle (look : Lookup) (options : Options) : Except Fault Message :=
  (options.values.messagesAt 999).foldlM (fun m option =>
    WrittenOption.apply look options.scope option (WrittenOption.parts option) m) options.values

/-- The declarations of a file with their options settled. -/
def FileDecl.settle (look : Lookup) (file : FileDecl) : Except Fault FileDecl := do
  let settled (scope : String) (values : Option Message) : Except Fault (Option Message) :=
    values.mapM fun values => Options.settle look ⟨scope, values⟩
  let messages ← file.messages.mapM fun m => do
    return { m with options := ← settled m.fullName m.options }
  let enums ← file.enums.mapM fun e => do
    return { e with options := ← settled e.fullName e.options }
  let options ← file.options.mapM fun o => do
    return { o with values := ← o.settle look }
  return { file with messages, enums, options }

end CommonExpr.Protobuf.Descriptor
