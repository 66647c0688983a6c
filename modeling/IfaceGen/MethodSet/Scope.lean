import IfaceGen.Log
import IfaceGen.Package.Basic
import IfaceGen.Types.Subst

/-!
# Embedded types

The types that a struct or an interface embeds are named types or pointers to them. A scope says
where their declarations are found: in the package at hand or in the loaded program. The
predeclared interface `error` is known everywhere.
-/

namespace IfaceGen

/-- Where named types are looked up while the method sets of one package are computed: the `package`
    itself before the rest of the `program`. -/
structure Scope where
  package : Package
  program : Program

/-- A declared type is known by the path of its package and its name; `("", "error")` stands for the
    predeclared interface. -/
abbrev TypeKey := String × String

instance : LawfulBEq TypeKey := inferInstance

/-- A type reached through embedding, with the type arguments it was embedded with (`subst`). -/
structure Embedding where
  pkg : String
  decl : TypeDecl
  subst : Subst
  /-- Whether the type was reached on more than one way at the same depth. -/
  multiple : Bool

/-- The key of an embedded type: the package that declares it, whatever it was embedded through. -/
def Embedding.key (embedding : Embedding) : TypeKey :=
  (embedding.pkg, embedding.decl.name)

/-- The declaration of the predeclared interface `error`. -/
def errorDecl : TypeDecl where
  name := "error"
  typeParams := []
  underlying := .interface [] [⟨"Error", ⟨[], [⟨"", .basic "string"⟩], false⟩⟩]
  methods := []

/-- The name and the type arguments of an embedded type: a named type, an alias or a pointer to
    either. A type of another form, such as a pointer to a pointer, cannot be embedded. -/
def GoType.embeddedName? : GoType → Option (TypeName × List GoType)
  | .named name args | .alias name args => some (name, args)
  | .pointer (.named name args) | .pointer (.alias name args) => some (name, args)
  | _ => none

/-- The keys of the types a package declares, in the order of `Package.types`. -/
def Package.keys (package : Package) : List TypeKey :=
  package.types.map fun decl => (package.path, decl.name)

namespace Scope

/-- The keys of all types that can be reached through embedding: `error`, those of the package and
    those of the program. -/
def keys (scope : Scope) : List TypeKey :=
  ("", errorDecl.name) :: scope.package.keys ++ scope.program.flatMap Package.keys

/-- The package that a reference refers to. The package at hand counts even when the program has
    none of its path, or another one. -/
def package? (scope : Scope) (ref : PackageRef) : Option Package :=
  if scope.package.owns ref then some scope.package else scope.program.get? ref.path

/-- The declaration of an embedded type, with its type parameters bound to the arguments. What is
    missing is logged, and nothing is embedded then. -/
def resolve (scope : Scope) (type : GoType) : Logged (Option Embedding) :=
  match type.embeddedName? with
  | none => pure none
  | some (⟨none, name⟩, _) =>
    if name = errorDecl.name then
      pure (some ⟨"", errorDecl, [], false⟩)
    else do
      Logged.tell .methodSets .debug s!"Embedded predeclared type {name} has no methods"
      return none
  | some (⟨some ref, name⟩, args) =>
    match scope.package? ref with
    | none => do
      Logged.tell .methodSets .warn ("Methods promoted from " ++ ref.name ++ "." ++ name
        ++ " are not included: package " ++ ref.path ++ " was not loaded")
      return none
    | some package =>
      match package.lookup? name with
      | none => do
        Logged.tell .methodSets .warn ("Embedded type " ++ ref.name ++ "." ++ name
          ++ " is not declared in " ++ ref.path)
        return none
      | some decl =>
        pure (some ⟨package.path, decl, (decl.typeParams.map (·.name)).zip args, false⟩)

end Scope

end IfaceGen
