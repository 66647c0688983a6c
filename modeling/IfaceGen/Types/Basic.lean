/-!
# Semantic Go types

The types a type checker reports. The grammar is closed: a kind it does not know is `unknown`.

Main definitions:

* `GoType`            the types; `Signature`, `Var`, `Method`, `Term` and `Field` are their parts
* `GoType.kindName`   the name of a kind in diagnostics
* `ChanDir.join`      the capabilities of two channels together
-/

namespace IfaceGen

/-- The package that owns a named type. -/
structure PackageRef where
  /-- The full import path. -/
  path : String
  /-- The name of the package clause. -/
  name : String
deriving DecidableEq, Repr

/-- What a channel can be used for: its direction in `GoType.chan`. -/
inductive ChanDir where
  | send
  | recv
  | both
deriving DecidableEq, Repr

/-- The name of a declared type. Predeclared names such as `error` have no package. -/
structure TypeName where
  pkg : Option PackageRef
  name : String
deriving DecidableEq, Repr

mutual
/-- A semantic type. -/
inductive GoType where
  /-- A predeclared type such as `int`. -/
  | basic (name : String)
  | array (len : UInt64) (elem : GoType)
  | slice (elem : GoType)
  | map (key elem : GoType)
  | chan (dir : ChanDir) (elem : GoType)
  | pointer (elem : GoType)
  /-- An interface literal. -/
  | interface (embeddeds : List GoType) (methods : List Method)
  | func (signature : Signature)
  /-- A defined type with its type arguments. -/
  | named (name : TypeName) (args : List GoType)
  /-- An aliased type with its type arguments. -/
  | alias (name : TypeName) (args : List GoType)
  /-- A type parameter of the enclosing declaration. -/
  | typeParam (name : String)
  /-- A constraint such as `~int | string`. -/
  | union (terms : List Term)
  /-- A struct literal. -/
  | struct (fields : List Field)
  /-- A kind outside this grammar. -/
  | unknown

/-- Parameters and results. The last parameter of a `variadic` signature is reported as a slice. -/
structure Signature where
  params : List Var
  results : List Var
  variadic : Bool

/-- A parameter or result. Without a name, the name is empty. -/
structure Var where
  name : String
  type : GoType

/-- A method with its signature. -/
structure Method where
  name : String
  signature : Signature

/-- A term of a union (`GoType.union`), with or without a tilde. -/
structure Term where
  tilde : Bool
  type : GoType

/-- A struct field, which is `embedded` if it has no name of its own. -/
structure Field where
  name : String
  type : GoType
  embedded : Bool
end

instance : Inhabited GoType := ⟨.unknown⟩

/-- The signature without parameters and results. -/
def Signature.empty : Signature := ⟨[], [], false⟩

/-- Directions join like capabilities: sending and receiving together are both. -/
def ChanDir.join (a b : ChanDir) : ChanDir :=
  if a = b then a else .both

/-- The interface without members, which every type implements. It is spelled `any`. -/
def GoType.any : GoType := .interface [] []

/-- The name of the kind of a type in diagnostics. -/
def GoType.kindName : GoType → String
  | .basic _ => "basic type"
  | .array .. => "array"
  | .slice _ => "slice"
  | .map .. => "map"
  | .chan .. => "channel"
  | .pointer _ => "pointer"
  | .interface [] [] => "empty interface"
  | .interface .. => "non-empty interface"
  | .func _ => "function signature"
  | .named .. => "named type"
  | .alias .. => "type alias"
  | .typeParam _ => "type parameter"
  | .union _ => "union"
  | .struct _ => "anonymous struct"
  | .unknown => "unrecognized type kind"

end IfaceGen
