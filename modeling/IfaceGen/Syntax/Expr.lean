import IfaceGen.Types.Basic

/-!
# Go type expressions

The expressions by which types are spelled in a source file. `Expr.qualifiers` lists the package
qualifiers of an expression in the order of the text.
-/

namespace IfaceGen

mutual
/-- A type expression. -/
inductive Expr where
  | ident (name : String)
  /-- A type of another package, such as `ctx.Context`. -/
  | selector (qualifier name : String)
  /-- An array, or without a length a slice. -/
  | array (len : Option UInt64) (elem : Expr)
  | map (key value : Expr)
  | chan (dir : ChanDir) (value : Expr)
  | star (elem : Expr)
  | func (type : FuncType)
  /-- The type of the last parameter of a variadic function. -/
  | ellipsis (elem : Expr)
  /-- A generic type with one argument. -/
  | index (base arg : Expr)
  /-- A generic type with several arguments. -/
  | indexList (base : Expr) (args : List Expr)
  | or (left right : Expr)
  | tilde (elem : Expr)

/-- The parameters and results of a function or method; in a variadic one the last parameter is an
    `ellipsis`. -/
structure FuncType where
  params : List Param
  results : List Param

/-- A parameter, result or type parameter with an optional name. -/
structure Param where
  name : Option String
  type : Expr
end

instance : Inhabited Expr := ⟨.ident ""⟩

/-- A parameter of the given name, or without a name if the name is empty. -/
def Param.ofName (name : String) (type : Expr) : Param :=
  ⟨if name.isEmpty then none else some name, type⟩

mutual
/-- The package qualifiers of an expression, with repetitions: that of each `selector`. -/
def Expr.qualifiers : Expr → List String
  | .ident _ => []
  | .selector qualifier _ => [qualifier]
  | .array _ elem | .chan _ elem | .star elem | .ellipsis elem | .tilde elem => elem.qualifiers
  | .map key value => key.qualifiers ++ value.qualifiers
  | .func type => type.qualifiers
  | .index base arg => base.qualifiers ++ arg.qualifiers
  | .indexList base args => base.qualifiers ++ exprsQualifiers args
  | .or left right => left.qualifiers ++ right.qualifiers

/-- The package qualifiers (`Expr.qualifiers`) of the parameters, then those of the results. -/
def FuncType.qualifiers : FuncType → List String
  | ⟨params, results⟩ => paramsQualifiers params ++ paramsQualifiers results

/-- The package qualifiers of the expressions, one after the other. -/
def exprsQualifiers : List Expr → List String
  | [] => []
  | expr :: exprs => expr.qualifiers ++ exprsQualifiers exprs

/-- The package qualifiers of the parameter types. -/
def paramsQualifiers : List Param → List String
  | [] => []
  | ⟨_, type⟩ :: params => type.qualifiers ++ paramsQualifiers params
end

end IfaceGen
