import CommonExpr.Protobuf.Schema

/-!
Short forms for declaring fields and files.
-/

namespace CommonExpr.Protobuf

def Kind.isMessage : Kind → Bool
  | .message _ => true
  | _ => false

namespace Field

/-- A single value; only messages tell unset from default. -/
def one (number : Nat) (name : String) (kind : Kind) : Field :=
  { name, number, kind, presence := kind.isMessage }

/-- A single value with explicit presence and perhaps a declared default. -/
def optional (number : Nat) (name : String) (kind : Kind) (default : Option Scalar := none) :
    Field :=
  { name, number, kind, presence := true, default }

/-- A list, packed where the kind allows it. -/
def many (number : Nat) (name : String) (kind : Kind) : Field :=
  { name, number, kind, shape := .repeated kind.packable }

/-- A list that is never packed. -/
def unpacked (number : Nat) (name : String) (kind : Kind) : Field :=
  { name, number, kind, shape := .repeated false }

def mapOf (number : Nat) (name : String) (key kind : Kind) : Field :=
  { name, number, kind, shape := .map key }

/-- A member of a oneof. -/
def choice (oneof : String) (number : Nat) (name : String) (kind : Kind) : Field :=
  { name, number, kind, presence := true, oneof := some oneof }

end Field

/-- The name of the entry type of a map field: each word capitalized, then `Entry`. -/
def entryName (field : String) : String :=
  let capital (w : List Char) : List Char :=
    match w with
    | [] => []
    | c :: rest => c.toUpper :: rest
  let words := Text.split field.toList ['_'] (Text.allCuts field.toList)
  String.ofList (words.map capital).flatten ++ "Entry"

/-- The message types of the map fields' entries. -/
def MessageType.entryTypes (t : MessageType) : List MessageType :=
  t.fields.filterMap fun f =>
    match f.shape with
    | .map key => some ⟨t.name ++ "." ++ entryName f.name,
        [{ name := "key", number := 1, kind := key },
          { name := "value", number := 2, kind := f.kind, presence := f.kind.isMessage }]⟩
    | _ => none

/-- A name inside a scope. -/
def within (scope name : String) : String := if scope = "" then name else scope ++ "." ++ name

/-- The scope that a full name stands in. -/
def scopeOf (name : String) : String := ((Text.cutLastChar? '.' name).map (·.1)).getD ""

/-- The full names of what a message holds: its fields and its oneofs. -/
def MessageType.members (t : MessageType) : List String :=
  (t.fields.map (·.name) ++ (t.fields.filterMap (·.oneof)).eraseDups).map (within t.name)

/-- The full names of an enum's values, which stand beside the enum. -/
def EnumType.members (e : EnumType) : List String :=
  e.values.map fun (name, _) => within (scopeOf e.name) name

/-- A file of types, with the entry types of their map fields. -/
def File.ofTypes (name package : String) (enums : List EnumType) (types : List MessageType) :
    File :=
  let entries := types.flatMap MessageType.entryTypes
  let messages := types ++ entries
  { name, package, messages, enums
    entries := entries.map (·.name)
    members := messages.flatMap MessageType.members ++ enums.flatMap EnumType.members }

end CommonExpr.Protobuf
