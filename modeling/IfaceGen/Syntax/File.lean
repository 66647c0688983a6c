import IfaceGen.Ident
import IfaceGen.Syntax.Expr

/-!
# Go source files

A generated file has a package clause, imports and interface declarations.

Main definitions:

* `Import.localName`        the name by which a file refers to an imported package
* `File.organizeImports`    drops imports that nothing refers to and sorts the others
* `File.invalidIdentifier?` the first declared name that Go would not accept
-/

namespace IfaceGen

/-- An import, with a local name if the last segment of the path does not serve (`lastSegment`). -/
structure Import where
  name : Option String
  path : String
deriving DecidableEq, Repr

/-- A method of an interface. -/
structure MethodSpec where
  name : String
  type : FuncType

/-- An interface declaration. -/
structure InterfaceDecl where
  name : String
  typeParams : List Param
  methods : List MethodSpec

/-- A source file. -/
structure File where
  package : String
  imports : List Import
  decls : List InterfaceDecl

/-- The part of a path behind its last slash. -/
def lastSegment (path : String) : String :=
  String.ofList (path.toList.reverse.takeWhile (· ≠ '/')).reverse

/-- The name by which declarations refer to the imported package: the one that is given, or the
    `lastSegment` of the path. -/
def Import.localName (spec : Import) : String :=
  spec.name.getD (lastSegment spec.path)

/-- The package qualifiers of a declaration: its constraints', then its methods'. -/
def InterfaceDecl.qualifiers (decl : InterfaceDecl) : List String :=
  paramsQualifiers decl.typeParams ++ decl.methods.flatMap (·.type.qualifiers)

/-- The package qualifiers of all declarations. -/
def File.qualifiers (file : File) : List String :=
  file.decls.flatMap (·.qualifiers)

/-- The file with the imports its declarations refer to (`File.qualifiers`), sorted by path. -/
def File.organizeImports (file : File) : File :=
  let used := file.imports.filter (file.qualifiers.contains ·.localName)
  { file with imports := used.mergeSort (fun a b => a.path ≤ b.path) }

/-- The names a declaration declares: its own, its type parameters and its methods. -/
def InterfaceDecl.declaredNames (decl : InterfaceDecl) : List String :=
  decl.name :: decl.typeParams.filterMap (·.name) ++ decl.methods.map (·.name)

/-- The names a file declares: package, local names of imports, declarations. -/
def File.declaredNames (file : File) : List String :=
  file.package :: file.imports.filterMap (·.name) ++ file.decls.flatMap (·.declaredNames)

/-- The first of the `File.declaredNames` that is not an identifier. -/
def File.invalidIdentifier? (file : File) : Option String :=
  file.declaredNames.find? (!isIdentifier ·)

end IfaceGen
