import CommonExpr.Protobuf.Codec
import CommonExpr.Protobuf.WellKnown

/-!
The declarations of a described file, read off the message that describes it.

Types that stand in other types are listed beside them under their full names, so
a file is a flat list of messages, enums, services and extensions.
-/

namespace CommonExpr.Protobuf.Descriptor

/-- A field, or an extension, as it is declared. -/
structure FieldDecl where
  fullName : String
  name : String
  number : Int
  repeated : Bool
  /-- The number of the type, zero if there is none. -/
  type : Int
  /-- The name of the type, perhaps relative to the field. -/
  typeName : Option String
  default : Option String
  packed : Option Bool
  /-- The place of the field's group among those of the message. -/
  oneof : Option Int
  jsonName : Option String
  /-- Whether unset differs from default although the syntax says otherwise. -/
  explicit : Bool
  /-- The message that an extension is for. -/
  extendee : Option String

/-- The options of a declaration and the scope that names in them are used in. -/
structure Options where
  scope : String
  values : Message

structure MessageDecl where
  fullName : String
  fields : List FieldDecl
  oneofs : List String
  extensions : List FieldDecl
  /-- Field numbers left to extensions. -/
  extensible : List NumberRange
  /-- Field numbers that must not be used. -/
  reserved : List NumberRange
  options : Option Message

structure EnumDecl where
  fullName : String
  values : List (String × Int)
  reserved : List NumberRange
  options : Option Message

structure MethodDecl where
  fullName : String
  input : String
  output : String

structure ServiceDecl where
  fullName : String
  methods : List MethodDecl

structure FileDecl where
  name : String
  package : String
  imports : List String
  /-- The places of imports that are seen by importers too. -/
  publicImports : List Int
  /-- The places of imports that may go unused. -/
  weakImports : List Int
  languageLevel : Option String
  messages : List MessageDecl
  enums : List EnumDecl
  services : List ServiceDecl
  extensions : List FieldDecl
  /-- The options of all but messages and enums. -/
  options : List Options

/-- Whether a message is the entry of a map. -/
def MessageDecl.isEntry (m : MessageDecl) : Bool :=
  (m.options.bind (·.bool? 7)).getD false

/-- Whether the values of an enum may share a number. -/
def EnumDecl.aliases (e : EnumDecl) : Bool := (e.options.bind (·.bool? 2)).getD false

/-- The name of a descriptor, which is its first field. -/
def nameOf (m : Message) : String := m.textAt 1

def fieldDecl (scope : String) (m : Message) : FieldDecl where
  fullName := within scope (nameOf m)
  name := nameOf m
  number := m.intAt 3
  repeated := m.intAt 4 = 3
  type := m.intAt 5
  typeName := m.text? 6
  default := m.text? 7
  packed := (m.messageAt? 8).bind (·.bool? 2)
  oneof := m.int? 9
  jsonName := m.text? 10
  explicit := m.boolAt 17
  extendee := m.text? 2

/-- Numbers from the first field to before the second. -/
def rangeOf (m : Message) : NumberRange := ⟨m.intAt 1, m.intAt 2⟩

/-- Numbers from the first field up to the second. -/
def closedRangeOf (m : Message) : NumberRange := ⟨m.intAt 1, m.intAt 2 + 1⟩

def messageDecl (scope : String) (m : Message) : MessageDecl :=
  let fullName := within scope (nameOf m)
  { fullName
    fields := (m.messagesAt 2).map (fieldDecl fullName)
    oneofs := (m.messagesAt 8).map nameOf
    extensions := (m.messagesAt 6).map (fieldDecl fullName)
    extensible := (m.messagesAt 5).map rangeOf
    reserved := (m.messagesAt 9).map rangeOf
    options := m.messageAt? 7 }

def enumDecl (scope : String) (m : Message) : EnumDecl where
  fullName := within scope (nameOf m)
  values := (m.messagesAt 2).map fun v => (nameOf v, v.intAt 2)
  reserved := (m.messagesAt 4).map closedRangeOf
  options := m.messageAt? 3

def serviceDecl (scope : String) (m : Message) : ServiceDecl :=
  let fullName := within scope (nameOf m)
  { fullName
    methods := (m.messagesAt 2).map fun method =>
      ⟨within fullName (nameOf method), method.textAt 2, method.textAt 3⟩ }

/-- The messages of a list and those nested in them, each with its full name. -/
def nestedMessages : (fuel : Nat) → (scope : String) → List Message → List (String × Message)
  | 0, _, _ => []
  | fuel + 1, scope, ms => ms.flatMap fun m =>
      (scope, m) :: nestedMessages fuel (within scope (nameOf m)) (m.messagesAt 3)

/-- The options at a field of a descriptor, if there are any. -/
def optionsAt (number : Nat) (scope : String) (m : Message) : List Options :=
  (m.messageAt? number).toList.map (⟨scope, ·⟩)

/-- The options at a field of descriptors whose names stand in a scope. -/
def optionsOfAll (number : Nat) (scope : String) (ms : List Message) : List Options :=
  ms.flatMap fun m => optionsAt number (within scope (nameOf m)) m

/-- The options of the parts of a message: fields, extensions, oneofs, and the numbers
left to extensions. -/
def optionsInMessage (scope : String) (m : Message) : List Options :=
  let fullName := within scope (nameOf m)
  optionsOfAll 8 fullName (m.messagesAt 2 ++ m.messagesAt 6) ++
    optionsOfAll 2 fullName (m.messagesAt 8) ++ (m.messagesAt 5).flatMap (optionsAt 3 fullName)

/-- The options of a service and its methods. -/
def optionsOfService (scope : String) (m : Message) : List Options :=
  let fullName := within scope (nameOf m)
  optionsAt 3 fullName m ++ optionsOfAll 4 fullName (m.messagesAt 2)

/-- What a file declares. -/
def FileDecl.ofMessage (m : Message) : FileDecl :=
  let package := m.textAt 2
  let messages := nestedMessages (m.depth + 1) package (m.messagesAt 4)
  let enums := (m.messagesAt 5).map (package, ·) ++ messages.flatMap fun (scope, inner) =>
    (inner.messagesAt 4).map (within scope (nameOf inner), ·)
  { name := nameOf m
    package
    imports := m.textsAt 3
    publicImports := m.intsAt 10
    weakImports := m.intsAt 11
    languageLevel := m.text? 12
    messages := messages.map fun (scope, inner) => messageDecl scope inner
    enums := enums.map fun (scope, inner) => enumDecl scope inner
    services := (m.messagesAt 6).map (serviceDecl package)
    extensions := (m.messagesAt 7).map (fieldDecl package)
    options := optionsAt 8 package m ++ optionsOfAll 8 package (m.messagesAt 7) ++
      messages.flatMap (fun (scope, inner) => optionsInMessage scope inner) ++
      enums.flatMap (fun (scope, inner) => optionsOfAll 3 scope (inner.messagesAt 2)) ++
      (m.messagesAt 6).flatMap (optionsOfService package) }

namespace FileDecl

/-- All extensions of a file. -/
def allExtensions (file : FileDecl) : List FieldDecl :=
  file.extensions ++ file.messages.flatMap (·.extensions)

/-- The messages of a file that are the entries of maps. -/
def entries (file : FileDecl) : List String :=
  (file.messages.filter (·.isEntry)).map (·.fullName)

/-- Whether unset fields differ from defaults throughout, as they do in the first
version of the language, which is also that of files that name none. -/
def isOlder (file : FileDecl) : Bool := file.languageLevel.getD "proto2" = "proto2"

/-- The imports that importers see too. -/
def exports (file : FileDecl) : List String :=
  file.publicImports.filterMap fun i => file.imports[i.toNat]?

end FileDecl

/-- Why a set of descriptors is refused. -/
inductive Fault where
  | malformed
  | unknownLevel (name : String)
  | duplicateFile (name : String)
  | missingImport (name : String)
  | badImport (file : String) (index : Int)
  | duplicateName (name : String)
  | badNumber (field : String) (number : Int)
  | duplicateNumber (name : String) (number : Int)
  | reservedNumber (name : String) (number : Int)
  | duplicateJsonName (field : String) (name : String)
  | unknownType (name : String)
  | notAType (field : String)
  | badDefault (field : String) (text : String)
  | emptyEnum (name : String)
  | nonzeroDefault (name : String)
  | badOneof (field : String)
  | notExtensible (field : String) (number : Int)
  | unknownOption (name : String)
  | badOption (name : String)
  | duplicateOption (name : String)
  deriving DecidableEq, Repr

namespace Fault

/-- Whether the bytes themselves could not be read. -/
def isMalformed : Fault → Bool
  | .malformed => true
  | _ => false

def issue : Fault → String
  | .malformed => "malformed bytes"
  | .unknownLevel level => s!"unknown syntax '{level}'"
  | .duplicateFile name => s!"a file named '{name}' has already been added"
  | .missingImport name => s!"imported file '{name}' has not been added"
  | .badImport file index => s!"'{file}' has no import {index}"
  | .duplicateName name => s!"'{name}' is already defined"
  | .badNumber field number => s!"invalid number {number} of '{field}'"
  | .duplicateNumber name number => s!"number {number} of '{name}' is already used"
  | .reservedNumber name number => s!"number {number} of '{name}' is reserved"
  | .duplicateJsonName field name => s!"'{field}' shares the name '{name}' with another field"
  | .unknownType name => s!"name '{name}' is not defined"
  | .notAType field => s!"'{field}' has an invalid type"
  | .badDefault field text => s!"invalid default value '{text}' of '{field}'"
  | .emptyEnum name => s!"enum '{name}' has no value"
  | .nonzeroDefault name => s!"the first value of enum '{name}' must be zero"
  | .badOneof field => s!"'{field}' belongs to no known group"
  | .notExtensible field number => s!"number {number} of '{field}' is not left to extensions"
  | .unknownOption name => s!"option '{name}' is not defined"
  | .badOption name => s!"invalid value of option '{name}'"
  | .duplicateOption name => s!"option '{name}' has already been set"

def message (f : Fault) : String :=
  (if f.isMalformed then "failed to decode file descriptor set: " else "invalid descriptor: ") ++
    f.issue

end Fault

end CommonExpr.Protobuf.Descriptor
