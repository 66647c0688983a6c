import IfaceGen.ImportTable
import IfaceGen.MethodSet.Descriptor
import IfaceGen.Spelling.Basic
import IfaceGen.Syntax.File

/-!
# Building files

A builder collects the structs and imports of one file. `FileBuilder.build` writes one interface
per struct: its type parameters with their constraints and its methods with their signatures.
-/

namespace IfaceGen

/-- Why no interface is generated for a struct. -/
inductive SkipReason where
  | noMethods
deriving DecidableEq, Repr

/-- The reason in words, as `Added` is reported. -/
def SkipReason.text : SkipReason → String
  | .noMethods => "no methods"

/-- What became of a struct that was offered to a `FileBuilder`. -/
inductive Added where
  | interface (name : String) (methodCount : Nat)
  | skipped (reason : SkipReason)
deriving DecidableEq, Repr

/-- Why a file could not be built: the interface at fault (`owner`) and its method or type
    parameter. -/
inductive BuildError where
  | method (owner name : String) (cause : SpellError)
  | typeParam (owner name : String) (cause : SpellError)
deriving DecidableEq, Repr

namespace BuildError

/-- The type that could not be spelled. -/
def cause : BuildError → SpellError
  | .method _ _ cause | .typeParam _ _ cause => cause

/-- What the failure says. -/
def diagnostic (error : BuildError) : Diagnostic where
  message := match error with
    | .method owner name _ => "translating method " ++ owner ++ "." ++ name
    | .typeParam owner name _ => "translating type parameter " ++ name ++ " of " ++ owner
  code := match error with
    | .method .. => "B-001"
    | .typeParam .. => "B-002"
  sources := error.cause.diagnostic.chain

end BuildError

/-- The interfaces and imports of one file, before their types are spelled. -/
structure FileBuilder where
  package : String
  /-- What is appended to the name of a struct to name its interface. -/
  suffix : String
  structs : List StructDescriptor
  imports : List ImportEntry

/-- The import declaration of a registered package. The alias is written unless it is both the
    package's own name and the last segment of its path (`lastSegment`). -/
def ImportEntry.spec (entry : ImportEntry) : Import :=
  let implied := entry.name = entry.localName && lastSegment entry.path = entry.localName
  ⟨if implied then none else some entry.localName, entry.path⟩

/-- The interface of a struct: its type parameters with their constraints, and its methods in the
    order of the descriptor. -/
def StructDescriptor.interface (qualify : Qualifier) (name : String)
    (descriptor : StructDescriptor) : Except BuildError InterfaceDecl := do
  let typeParams ← descriptor.typeParams.zipIdx.mapM fun (param, index) => do
    -- A failure says which type parameter it is in, by its name and by its position.
    let constraint ← (Spelled.inside (.typeParam index) (param.constraint.spellConstraint qualify)
      ).mapError (.typeParam name param.name)
    return Param.ofName param.name constraint
  let methods ← descriptor.methods.mapM fun method => do
    let type ← (method.signature.spell qualify).mapError (.method name method.name)
    return (⟨method.name, type⟩ : MethodSpec)
  return ⟨name, typeParams, methods⟩

namespace FileBuilder

/-- A builder without structs and imports. -/
def empty (package suffix : String) : FileBuilder := ⟨package, suffix, [], []⟩

/-- The name of the interface of a struct: the struct's name with the `suffix`. -/
def interfaceName (builder : FileBuilder) (descriptor : StructDescriptor) : String :=
  descriptor.name ++ builder.suffix

/-- What becomes of a struct that is offered to `FileBuilder.addStruct`. -/
def outcome (builder : FileBuilder) (descriptor : StructDescriptor) : Added :=
  if descriptor.hasMethods then
    .interface (builder.interfaceName descriptor) descriptor.methods.length
  else .skipped .noMethods

/-- Adds a struct if it has methods (`StructDescriptor.hasMethods`). -/
def addStruct (builder : FileBuilder) (descriptor : StructDescriptor) : FileBuilder :=
  if descriptor.hasMethods then { builder with structs := builder.structs ++ [descriptor] }
  else builder

/-- Adds an import. If no declaration uses it, `File.organizeImports` drops it. -/
def addImport (builder : FileBuilder) (entry : ImportEntry) : FileBuilder :=
  { builder with imports := builder.imports ++ [entry] }

/-- Whether there is an interface to write. -/
def hasInterfaces (builder : FileBuilder) : Bool :=
  !builder.structs.isEmpty

/-- The file with all interfaces, in the order in which their structs were added, each by
    `StructDescriptor.interface`. -/
def build (builder : FileBuilder) (qualify : Qualifier) : Except BuildError File := do
  let decls ← builder.structs.mapM fun descriptor =>
    descriptor.interface qualify (builder.interfaceName descriptor)
  return ⟨builder.package, builder.imports.map (·.spec), decls⟩

end FileBuilder

end IfaceGen
