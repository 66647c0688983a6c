import IfaceGen.Ident
import IfaceGen.Types.Basic

/-!
# Packages and programs

A package as a type checker reports it: its type declarations with the methods declared on them, and
the errors found in it. A program is what a loader returns.
-/

namespace IfaceGen

/-- A type parameter of a declaration, with its constraint. -/
structure TypeParam where
  name : String
  constraint : GoType

/-- A type declaration with the methods declared on the type or on a pointer to it. -/
structure TypeDecl where
  name : String
  typeParams : List TypeParam
  underlying : GoType
  methods : List Method

/-- A type-checked package. A package with `errors` is not generated from. -/
structure Package where
  path : String
  name : String
  types : List TypeDecl
  errors : List String

/-- The packages a loader returned, in loading order. Of two packages with the same path the later
    one counts (`Program.get?`). -/
abbrev Program := List Package

/-- Whether the method is visible outside its package. -/
def Method.isExported (method : Method) : Bool :=
  IfaceGen.isExported method.name

/-- Whether the type is visible outside its package. -/
def TypeDecl.isExported (decl : TypeDecl) : Bool :=
  IfaceGen.isExported decl.name

/-- The fields of a struct declaration. -/
def TypeDecl.structFields? (decl : TypeDecl) : Option (List Field) :=
  match decl.underlying with
  | .struct fields => some fields
  | _ => none

/-- The reference by which other packages refer to the package: its path and name. -/
def Package.ref (package : Package) : PackageRef :=
  ⟨package.path, package.name⟩

/-- The first declaration of the given name among `Package.types`. -/
def Package.lookup? (package : Package) (name : String) : Option TypeDecl :=
  package.types.find? (·.name = name)

/-- Whether `ref` refers to the package. -/
def Package.owns (package : Package) (ref : PackageRef) : Bool :=
  ref.path = package.path

/-- The package with the given path, which is the last one of several. -/
def Program.get? : Program → String → Option Package
  | [], _ => none
  | package :: program, path =>
    (Program.get? program path).or (if package.path = path then some package else none)

end IfaceGen
