import IfaceGen.Package.Basic
import IfaceGen.Types.Codec

/-!
# Packages as documents

A package is a record around the types of its declarations. Its own records are read field by
field, and unknown fields among them are passed over without a look inside; the nesting limit
concerns the types only.
-/

namespace IfaceGen

open Data (Part)

/-! ## Writing -/

/-- A type parameter as a record. -/
def TypeParam.encode (param : TypeParam) : Data :=
  .record [("name", .str param.name), ("constraint", param.constraint.encode)]

/-- A method as a record. -/
def Method.encode (method : Method) : Data :=
  .record [("name", .str method.name), ("signature", method.signature.encode)]

/-- A declaration as a record. -/
def TypeDecl.encode (decl : TypeDecl) : Data :=
  .record [("name", .str decl.name), ("type_params", .list (decl.typeParams.map TypeParam.encode)),
    ("underlying", decl.underlying.encode), ("methods", .list (decl.methods.map Method.encode))]

/-- A package as a record. -/
def Package.encode (package : Package) : Data :=
  .record [("path", .str package.path), ("name", .str package.name),
    ("types", .list (package.types.map TypeDecl.encode)),
    ("errors", .list (package.errors.map Data.str))]

/-! ## Reading -/

/-- Reads a type parameter. -/
def TypeParam.decodeWithin (limit : Nat) (whole : Data) : Option TypeParam := do
  match ← whole.slots ["name", "constraint"] with
  | [name, constraint] =>
    return ⟨← Data.required? (·.val.str?) name,
      ← Data.required? (GoType.decodeWithin (limit - 1) ·.val) constraint⟩
  | _ => none

/-- Reads a declared method. Four lists and records are open around the types of its signature. -/
def Method.decodeWithin (limit : Nat) (whole : Data) : Option Method :=
  Method.decodeWith whole (GoType.decodeWithin (limit - 4) ·.val)

/-- Reads a type declaration. -/
def TypeDecl.decodeWithin (limit : Nat) (whole : Data) : Option TypeDecl := do
  let readParam (part : Part whole) := TypeParam.decodeWithin (limit - 2) part.val
  let readMethod (part : Part whole) := Method.decodeWithin (limit - 2) part.val
  match ← whole.slots ["name", "type_params", "underlying", "methods"] with
  | [name, typeParams, underlying, methods] =>
    return ⟨← Data.required? (·.val.str?) name,
      ← Data.field? [] (·.mapItems? readParam) typeParams,
      ← Data.required? (GoType.decodeWithin (limit - 1) ·.val) underlying,
      ← Data.field? [] (·.mapItems? readMethod) methods⟩
  | _ => none

/-- Reads a package whose types may nest until `limit` lists and records are open. -/
def Package.decodeWithin (limit : Nat) (whole : Data) : Option Package := do
  let readDecl (part : Part whole) := TypeDecl.decodeWithin (limit - 2) part.val
  match ← whole.slots ["path", "name", "types", "errors"] with
  | [path, name, types, errors] =>
    return ⟨← Data.required? (·.val.str?) path, ← Data.required? (·.val.str?) name,
      ← Data.field? [] (·.mapItems? readDecl) types,
      ← Data.field? [] (·.mapItems? (·.val.str?)) errors⟩
  | _ => none

end IfaceGen
