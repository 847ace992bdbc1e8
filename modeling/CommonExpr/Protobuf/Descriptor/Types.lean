import CommonExpr.Protobuf.Descriptor.Default
import CommonExpr.Protobuf.Descriptor.Names

/-!
The types that declarations stand for, and the rules that declarations keep.
-/

namespace CommonExpr.Protobuf.Descriptor

/-- What the declarations of one file can refer to. -/
structure Context where
  names : Names
  visible : List String
  /-- Whether the file is of the first version of the language. -/
  older : Bool
  /-- The values of all enums. -/
  enumValues : String → List (String × Int)
  /-- The field numbers of a message that are left to extensions. -/
  extensible : String → List NumberRange
  /-- The field numbers of a message that must not be used. -/
  reserved : String → List NumberRange

/-- The kind that a type number stands for; unknown numbers stand for the first one. -/
def scalarKind? : Int → Option Kind
  | 2 => some .float
  | 3 => some .int64
  | 4 => some .uint64
  | 5 => some .int32
  | 6 => some .fixed64
  | 7 => some .fixed32
  | 8 => some .bool
  | 9 => some .string
  | 10 => none
  | 11 => none
  | 12 => some .bytes
  | 13 => some .uint32
  | 14 => none
  | 15 => some .sfixed32
  | 16 => some .sfixed64
  | 17 => some .sint32
  | 18 => some .sint64
  | _ => some .double

def isTypeRole (role : Role) : Bool := role = .message || role = .enum

/-- The kind of a field: that of its named type, else that of its type number. -/
def fieldKind (ctx : Context) (f : FieldDecl) : Except Fault Kind :=
  match f.typeName with
  | some name =>
      match ctx.names.resolve? ctx.visible isTypeRole f.fullName name with
      | none => .error (.unknownType name)
      | some entry =>
          .ok (if entry.role = .message then .message entry.name else .enum entry.name)
  | none =>
      match scalarKind? f.type with
      | some kind => .ok kind
      | none => .error (.notAType f.fullName)

/-- The message that a name used in a scope means. -/
def messageNamed (ctx : Context) (scope name : String) : Except Fault String :=
  match ctx.names.resolve? ctx.visible (· = .message) scope name with
  | none => .error (.unknownType name)
  | some entry => .ok entry.name

/-- The declared default of a field, if it declares one. -/
def fieldDefault (ctx : Context) (kind : Kind) (f : FieldDecl) : Except Fault (Option Scalar) :=
  match f.default with
  | none => .ok none
  | some text =>
      let values := match kind with
        | .enum name => ctx.enumValues name
        | _ => []
      match defaultOf? kind values text with
      | none => .error (.badDefault f.fullName text)
      | some s => .ok (some s)

/-- The name of the group that a field belongs to. -/
def oneofOf (owner : MessageDecl) (f : FieldDecl) : Except Fault (Option String) :=
  match f.oneof with
  | none => .ok none
  | some i =>
      if i < 0 then .error (.badOneof f.fullName)
      else
        match owner.oneofs[i.toNat]? with
        | some group => .ok (some group)
        | none => .error (.badOneof f.fullName)

/-- Whether a list is packed; the newer version packs unless told not to. -/
def isPacked (ctx : Context) (kind : Kind) (f : FieldDecl) : Bool :=
  kind.packable && f.packed.getD !ctx.older

/-- The numbers that a field can have. -/
def isFieldNumber (n : Int) : Bool :=
  1 ≤ n && n < 536870912 && !(19000 ≤ n && n < 20000)

/-- The number of a field is one that fields can have and that the message does not
reserve.  Numbers left to extensions are for fields that name what they extend, and
only for those. -/
def checkNumber (ctx : Context) (owner : String) (f : FieldDecl) : Except Fault Unit :=
  if !isFieldNumber f.number then .error (.badNumber f.fullName f.number)
  else if (ctx.reserved owner).any (·.holds f.number) then
    .error (.reservedNumber f.fullName f.number)
  else
    match f.extendee.isSome, (ctx.extensible owner).any (·.holds f.number) with
    | true, false => .error (.notExtensible f.fullName f.number)
    | false, true => .error (.reservedNumber f.fullName f.number)
    | _, _ => .ok ()

/-- The field that a declaration of a message stands for; maps are still lists of
their entries. -/
def fieldOf (ctx : Context) (owner : MessageDecl) (f : FieldDecl) : Except Fault Field := do
  checkNumber ctx owner.fullName f
  let kind ← fieldKind ctx f
  let oneof ← oneofOf owner f
  let default ← fieldDefault ctx kind f
  let field : Field := { name := f.name, number := f.number.toNat, kind }
  if f.repeated then return { field with shape := .repeated (isPacked ctx kind f) }
  else
    return { field with
      presence := ctx.older || kind.isMessage || oneof.isSome || f.explicit
      oneof
      default }

/-- The first element that occurs a second time. -/
def repeated? {α : Type} [BEq α] : (seen : List α) → List α → Option α
  | _, [] => none
  | seen, a :: rest => if seen.contains a then some a else repeated? (a :: seen) rest

/-- The name with words joined: underscores go and the letter after one is a capital. -/
def camelCase : List Char → List Char
  | [] => []
  | '_' :: [] => []
  | '_' :: c :: rest => if c = '_' then camelCase ('_' :: rest) else c.toUpper :: camelCase rest
  | c :: rest => c :: camelCase rest

/-- The name of a field in JSON, where its declaration gives none. -/
def FieldDecl.json (f : FieldDecl) : String :=
  f.jsonName.getD (String.ofList (camelCase f.name.toList))

/-- What is left of a name when neither case nor underscores count. -/
def plainName (name : String) : String :=
  String.ofList ((name.toList.filter (· != '_')).map Char.toLower)

/-- No two fields share a number or a name in JSON, nor, in the newer version, a
name up to case and underscores. -/
def checkFields (ctx : Context) (m : MessageDecl) : Except Fault Unit := do
  match repeated? [] (m.fields.map (·.number)) with
  | some n => throw (.duplicateNumber m.fullName n)
  | none => pure ()
  match repeated? [] (m.fields.map FieldDecl.json) with
  | some name => throw (.duplicateJsonName m.fullName name)
  | none => pure ()
  if ctx.older then return ()
  match repeated? [] (m.fields.map fun f => plainName f.name) with
  | some name => throw (.duplicateJsonName m.fullName name)
  | none => return ()

/-- The message type that a declaration stands for. -/
def messageOf (ctx : Context) (m : MessageDecl) : Except Fault MessageType := do
  checkFields ctx m
  let fields ← m.fields.mapM (fieldOf ctx m)
  return .ofFields m.fullName fields

/-- The enum type that a declaration stands for: there is a value, the first one is
zero in the newer version, and no number is reserved. -/
def enumOf (ctx : Context) (e : EnumDecl) : Except Fault EnumType := do
  match e.values with
  | [] => throw (.emptyEnum e.fullName)
  | (_, n) :: _ => if n ≠ 0 ∧ !ctx.older then throw (.nonzeroDefault e.fullName)
  match e.values.find? fun (_, n) => e.reserved.any (·.holds n) with
  | some (_, n) => throw (.reservedNumber e.fullName n)
  | none => pure ()
  return ⟨e.fullName, e.values⟩

/-- Values share a number only where the options of the enum allow it. -/
def checkAliases (e : EnumDecl) : Except Fault Unit :=
  match repeated? [] (e.values.map (·.2)) with
  | some n => if e.aliases then .ok () else .error (.duplicateNumber e.fullName n)
  | none => .ok ()

/-- The extension that a declaration stands for.  Unset always differs from default. -/
def extensionOf (ctx : Context) (f : FieldDecl) : Except Fault Extension := do
  let extendee ← messageNamed ctx f.fullName (f.extendee.getD "")
  checkNumber ctx extendee f
  let kind ← fieldKind ctx f
  let default ← fieldDefault ctx kind f
  let field : Field := { name := f.name, number := f.number.toNat, kind }
  return {
    name := f.fullName
    extendee
    field := if f.repeated then { field with shape := .repeated (isPacked ctx kind f) }
      else { field with presence := true, default } }

/-- The methods of a service take and give messages. -/
def checkService (ctx : Context) (s : ServiceDecl) : Except Fault Unit :=
  s.methods.forM fun method => do
    let _ ← messageNamed ctx method.fullName method.input
    let _ ← messageNamed ctx method.fullName method.output

end CommonExpr.Protobuf.Descriptor
