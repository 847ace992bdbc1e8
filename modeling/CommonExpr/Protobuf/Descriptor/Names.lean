import CommonExpr.Namespace
import CommonExpr.Protobuf.Descriptor.Basic

/-!
What full names stand for, and which of them a reference means.

Every declaration of every file takes its full name; only packages may share one.
A reference is looked up from the inside out: `x.y` used in `a.b` means `a.b.x.y`
if `a.b` has an `x`, else `a.x.y` if `a` has one, else `x.y`.
-/

namespace CommonExpr.Protobuf.Descriptor

/-- What a name stands for. -/
inductive Role where
  | package
  | message
  | enum
  | service
  | extension
  /-- A part of something else: a field, a value, a method. -/
  | member
  deriving DecidableEq, Repr

/-- Whether other names can stand inside. -/
def Role.isScope : Role → Bool
  | .extension => false
  | .member => false
  | _ => true

/-- A name, what it stands for, and the file that declares it. -/
structure NameEntry where
  name : String
  role : Role
  file : String
  deriving DecidableEq, Repr

/-- All names of some files. -/
abbrev Names := List NameEntry

namespace Names

def find? (names : Names) (name : String) : Option NameEntry :=
  List.find? (·.name == name) names

/-- The packages around and including one. -/
def ofPackage (package file : String) : Names :=
  if package = "" then []
  else (Namespace.containers package).map fun name => ⟨name, .package, file⟩

/-- The names of a file of a schema. -/
def ofFile (file : File) : Names :=
  let named (role : Role) (names : List String) : Names := names.map (⟨·, role, file.name⟩)
  ofPackage file.package file.name ++ named .message (file.messages.map (·.name)) ++
    named .enum (file.enums.map (·.name)) ++ named .service file.services ++
    named .extension (file.extensions.map (·.name)) ++ named .member file.members

/-- Adds names; a name that is taken can only be a package again. -/
def addAll : Names → List NameEntry → Except Fault Names
  | names, [] => .ok names
  | names, entry :: rest =>
      match names.find? entry.name with
      | none => addAll (entry :: names) rest
      | some earlier =>
          if earlier.role = .package ∧ entry.role = .package then addAll names rest
          else .error (.duplicateName entry.name)

/-- The entry of a full name, if it has a role that is wanted and its file is visible. -/
def full? (names : Names) (visible : List String) (wanted : Role → Bool) (name : String) :
    Option NameEntry :=
  match names.find? name with
  | some entry => if wanted entry.role && visible.contains entry.file then some entry else none
  | none => none

/-- The scope and those around it, innermost first, the last one without a name. -/
def scopes (scope : String) : List String :=
  if scope = "" then [""] else Namespace.containers scope ++ [""]

/-- What a name means that is used in a scope; a leading dot marks a full name. -/
def resolve? (names : Names) (visible : List String) (wanted : Role → Bool)
    (scope name : String) : Option NameEntry :=
  match name.toList with
  | '.' :: rest => names.full? visible wanted (String.ofList rest)
  | _ =>
      let first := (Namespace.firstSegment name).1
      if first = name then
        (scopes scope).findSome? fun outer => names.full? visible wanted (within outer name)
      else
        match (scopes scope).find? fun outer =>
            ((names.find? (within outer first)).map (·.role.isScope)).getD false with
        | some outer => names.full? visible wanted (within outer name)
        | none => none

end Names

/-- The names of what a message declares besides itself. -/
def MessageDecl.members (m : MessageDecl) : List String :=
  m.fields.map (·.fullName) ++ m.oneofs.map (within m.fullName)

/-- The names of an enum's values, which stand beside the enum. -/
def EnumDecl.members (e : EnumDecl) : List String :=
  e.values.map fun (name, _) => within (scopeOf e.fullName) name

namespace FileDecl

/-- The full names of all that is no type, extension or service. -/
def members (file : FileDecl) : List String :=
  file.messages.flatMap MessageDecl.members ++ file.enums.flatMap EnumDecl.members ++
    file.services.flatMap fun s => s.methods.map (·.fullName)

/-- The names that a file declares. -/
def names (file : FileDecl) : Names :=
  let named (role : Role) (names : List String) : Names := names.map (⟨·, role, file.name⟩)
  Names.ofPackage file.package file.name ++ named .message (file.messages.map (·.fullName)) ++
    named .enum (file.enums.map (·.fullName)) ++
    named .service (file.services.map (·.fullName)) ++
    named .extension (file.allExtensions.map (·.fullName)) ++ named .member file.members

end FileDecl

/-- Adds what importers of a file see through it to what they see.  A file that it
exports is added; what that file exports in turn only if it was seen before, as it is
when it is imported too.  The fuel bounds the steps from file to exported file. -/
def seeThrough (exports : String → List String) :
    (fuel : Nat) → (seen : List String) → (file : String) → List String
  | 0, seen, _ => seen
  | fuel + 1, seen, file =>
      (exports file).foldl (fun seen name =>
        if seen.contains name then seeThrough exports fuel seen name else name :: seen) seen

/-- The files whose names a file may use: itself, its imports and what is seen
through them. -/
def FileDecl.visible (file : FileDecl) (known : List (String × List String)) : List String :=
  let exports := fun name => (known.lookup name).getD []
  file.imports.foldl (fun seen name =>
    seeThrough exports known.length (if seen.contains name then seen else name :: seen) name)
    [file.name]

end CommonExpr.Protobuf.Descriptor
