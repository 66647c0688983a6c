import IfaceGen.Spelling.Error
import IfaceGen.Syntax.Expr

/-!
# Spelling types

`GoType.spell` writes a semantic type as a type expression. How a package is called in the file at
hand is given by a `Qualifier`. Struct literals, interfaces with members and unknown kinds have no
spelling; the first of them in reading order is reported.
-/

namespace IfaceGen

/-- The local name of a package, or `none` if its types are written without a qualifier. -/
abbrev Qualifier := PackageRef → Option String

/-- The result of spelling: an expression or a `SpellError`. -/
abbrev Spelled (α : Type) := Except SpellError α

/-- Says where inside a type a failure occurred (`SpellError.inside`). -/
def Spelled.inside {α : Type} (position : Position) (result : Spelled α) : Spelled α :=
  result.mapError (.inside position)

/-- The expression of a name without its type arguments. A predeclared name has no package and no
    qualifier. -/
def TypeName.spell (qualify : Qualifier) (name : TypeName) : Expr :=
  match name.pkg.bind qualify with
  | some qualifier => .selector qualifier name.name
  | none => .ident name.name

/-- A generic type applied to its arguments: `index` for one, `indexList` for several. -/
def Expr.applied (base : Expr) : List Expr → Expr
  | [] => base
  | [arg] => .index base arg
  | args => .indexList base args

/-- The union of the terms, grouped to the left, if there are any. -/
def Expr.union? : List Expr → Option Expr
  | [] => none
  | first :: rest => some (rest.foldl .or first)

/-- The last parameter of a variadic signature becomes an ellipsis. `last` is the parameter it was
    spelled from. -/
def variadicParams (last : Option Var) (params : List Param) : Spelled (List Param) :=
  match params.getLast? with
  | none => .error (.invalidVariadic "no parameters")
  | some ⟨name, .array _ elem⟩ => .ok (params.dropLast ++ [⟨name, .ellipsis elem⟩])
  | some _ => .error (.invalidVariadic (last.elim "no parameters" (·.type.kindName)))

mutual
/-- The expression of a type, whose packages are written as `qualify` says. The first part without
    an expression is the one that the failure names. -/
def GoType.spell (qualify : Qualifier) : GoType → Spelled Expr
  | .basic name => .ok (.ident name)
  | .array len elem => do
    let elem ← Spelled.inside .arrayElem (elem.spell qualify)
    return .array (some len) elem
  | .slice elem => do
    let elem ← Spelled.inside .sliceElem (elem.spell qualify)
    return .array none elem
  | .map key elem => do
    let key ← Spelled.inside .mapKey (key.spell qualify)
    let elem ← Spelled.inside .mapValue (elem.spell qualify)
    return .map key elem
  | .chan dir elem => do
    let elem ← Spelled.inside .chanElem (elem.spell qualify)
    return .chan dir elem
  | .pointer elem => do
    let elem ← Spelled.inside .pointerElem (elem.spell qualify)
    return .star elem
  | .interface [] [] => .ok (.ident "any")
  | .func signature => do
    let type ← signature.spell qualify
    return .func type
  | .named name args | .alias name args => do
    let args ← spellArgs qualify 0 args
    return (name.spell qualify).applied args
  | .typeParam name => .ok (.ident name)
  | .union terms => do
    let terms ← spellTerms qualify 0 terms
    match Expr.union? terms with
    | some expr => return expr
    | none => throw .emptyUnion
  -- The empty interface has been spelled above.
  | type@(.interface ..) | type@(.struct _) | type@.unknown => .error (.unsupported type.kindName)

/-- The parameters and results of a signature. The last parameter of a variadic one is written as an
    ellipsis, if its expression is an array. -/
def Signature.spell (qualify : Qualifier) : Signature → Spelled FuncType
  | ⟨params, results, variadic⟩ => do
    let spelledParams ← spellVars qualify .param 0 params
    let spelledResults ← spellVars qualify .result 0 results
    if variadic then
      return ⟨← variadicParams params.getLast? spelledParams, spelledResults⟩
    else
      return ⟨spelledParams, spelledResults⟩

/-- The type arguments from the given index on, which the positions of failures count. -/
def spellArgs (qualify : Qualifier) (index : Nat) : List GoType → Spelled (List Expr)
  | [] => .ok []
  | arg :: args => do
    let expr ← Spelled.inside (.typeArg index) (arg.spell qualify)
    let exprs ← spellArgs qualify (index + 1) args
    return expr :: exprs

/-- The variables from the given index on; `position` tells parameters from results. -/
def spellVars (qualify : Qualifier) (position : Nat → Position) (index : Nat) :
    List Var → Spelled (List Param)
  | [] => .ok []
  | ⟨name, type⟩ :: vars => do
    let expr ← Spelled.inside (position index) (type.spell qualify)
    let params ← spellVars qualify position (index + 1) vars
    return Param.ofName name expr :: params

/-- The terms of a union from the given index on, each with its tilde. -/
def spellTerms (qualify : Qualifier) (index : Nat) : List Term → Spelled (List Expr)
  | [] => .ok []
  | ⟨tilde, type⟩ :: terms => do
    let expr ← Spelled.inside (.unionTerm index) (type.spell qualify)
    let exprs ← spellTerms qualify (index + 1) terms
    return (if tilde then .tilde expr else expr) :: exprs
end

/-- The expression of a constraint. An interface that only embeds one element is written as that
    element, without `interface`. -/
def GoType.spellConstraint (qualify : Qualifier) (constraint : GoType) : Spelled Expr :=
  match constraint with
  | .interface [embedded] [] => embedded.spell qualify
  | constraint => constraint.spell qualify

end IfaceGen
