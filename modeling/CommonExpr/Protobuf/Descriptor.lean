import CommonExpr.Protobuf.Descriptor.Options

/-!
Serialized sets of file descriptors, and the types they add to a schema.

A set is added as a whole or not at all.  Files that the schema already has are
left out.  `extend` is the only way to add described types, so every type of a
schema keeps the rules that are checked here.
-/

namespace CommonExpr.Protobuf.Descriptor

/-- An import index is the place of an import. -/
def checkIndex (file : FileDecl) (i : Int) : Except Fault Unit :=
  if 0 ≤ i ∧ i < file.imports.length then .ok () else .error (.badImport file.name i)

/-- A file has a known version of the language, and its imports exist. -/
def checkFile (known : List String) (file : FileDecl) : Except Fault Unit := do
  match file.languageLevel with
  | some "proto2" => pure ()
  | some "proto3" => pure ()
  | some other => throw (.unknownLevel other)
  | none => pure ()
  match file.imports.find? fun name => !known.contains name with
  | some name => throw (.missingImport name)
  | none => pure ()
  file.publicImports.forM (checkIndex file)
  file.weakImports.forM (checkIndex file)

/-- What the declarations of a file can refer to, given all new files. -/
def contextOf (schema : Schema) (files : List FileDecl) (names : Names) (file : FileDecl) :
    Context :=
  let exports := schema.files.map (fun f => (f.name, f.exports)) ++
    files.map fun f => (f.name, f.exports)
  let declared (name : String) := files.findSome? (·.messages.find? (·.fullName = name))
  let ranges (of : File → List (String × NumberRange)) (name : String) : List NumberRange :=
    schema.files.flatMap fun f => ((of f).filter (·.1 = name)).map (·.2)
  { names
    visible := file.visible exports
    older := file.isOlder
    enumValues := fun name =>
      match (files.flatMap (·.enums)).find? (·.fullName = name) with
      | some e => e.values
      | none => ((schema.enum? name).map (·.values)).getD []
    extensible := fun name =>
      ((declared name).map (·.extensible)).getD (ranges (·.extensible) name)
    reserved := fun name => ((declared name).map (·.reserved)).getD (ranges (·.reserved) name) }

/-- The file that a declared file stands for; maps are still lists of their entries. -/
def fileOf (ctx : Context) (file : FileDecl) : Except Fault File := do
  let messages ← file.messages.mapM (messageOf ctx)
  let enums ← file.enums.mapM (enumOf ctx)
  let extensions ← file.allExtensions.mapM (extensionOf ctx)
  file.services.forM (checkService ctx)
  return {
    name := file.name
    package := file.package
    exports := file.exports
    messages
    enums
    extensible := file.messages.flatMap fun m => m.extensible.map (m.fullName, ·)
    reserved := file.messages.flatMap fun m => m.reserved.map (m.fullName, ·)
    extensions
    services := file.services.map (·.fullName)
    members := file.members }

/-- The files of a schema that has none of them yet. -/
def filesOf (schema : Schema) (files : List FileDecl) : Except Fault (List File) := do
  let newNames := files.map (·.name)
  match repeated? [] newNames with
  | some name => throw (.duplicateFile name)
  | none => pure ()
  files.forM (checkFile (schema.files.map (·.name) ++ newNames))
  let declared := files.flatMap FileDecl.names
  let names ← Names.addAll (schema.files.flatMap Names.ofFile) declared
  let contexts := files.map (contextOf schema files names)
  let plain ← (contexts.zip files).mapM fun (ctx, file) => fileOf ctx file
  let typed := schema.add plain
  let settled ← (contexts.zip files).mapM fun (ctx, file) => file.settle ⟨typed, names, ctx.visible⟩
  settled.forM (·.enums.forM checkAliases)
  let marked := plain.zipWith (fun file decl => { file with entries := decl.entries }) settled
  return marked.map (·.joined (schema.add marked).entryType?)

/-- Adds a serialized set of file descriptors to a schema. -/
def extend (schema : Schema) (bytes : List UInt8) : Except Fault Schema :=
  match decodeKnown? .wellKnown Meta.fileSetType bytes with
  | none => .error .malformed
  | some set =>
      let present := schema.files.map (·.name)
      let fresh := (set.messagesAt 1).map FileDecl.ofMessage |>.filter fun file =>
        !present.contains file.name
      match filesOf schema fresh with
      | .error fault => .error fault
      | .ok files => .ok (schema.add files)

end CommonExpr.Protobuf.Descriptor
