import IfaceGen.Proofs.Except
import IfaceGen.Spelling.Basic
import IfaceGen.Types.Refs

/-!
# The names in a type and in its spelling

`GoType.mentions` lists the names that a type consists of, in reading order, with the packages that
own them; `Expr.names` lists the names in an expression, with their qualifiers. Spelling keeps the
order and adds or drops nothing: each name is written as the qualifier for its package says.

## Key results

- `GoType.refs_eq_filterMap`: the packages a type refers to are those of its names
- `Expr.qualifiers_eq_filterMap`: the qualifiers of an expression are those of its names
- `GoType.names_spell` / `Signature.names_spell`: the names of a spelling, one for one
-/

namespace IfaceGen

/-- A name in an expression, with the qualifier before it: an identifier or a selector. -/
structure WrittenName where
  qualifier : Option String
  name : String
deriving DecidableEq

/-- A name in a type: that of a type parameter, or that of a declared type. -/
inductive Mention where
  | typeParam (name : String)
  | declared (name : TypeName)
deriving DecidableEq

/-- The package that owns what is mentioned. Type parameters and predeclared types have none. -/
def Mention.pkg : Mention → Option PackageRef
  | .typeParam _ => none
  | .declared name => name.pkg

def Mention.name : Mention → String
  | .typeParam name => name
  | .declared name => name.name

/-- How a name is written: with the qualifier of its package, if it has one. -/
def Mention.written (qualify : Qualifier) (mention : Mention) : WrittenName :=
  ⟨mention.pkg.bind qualify, mention.name⟩

/-! ## Names in expressions -/

mutual
/-- The names in an expression, from left to right. -/
def Expr.names : Expr → List WrittenName
  | .ident name => [⟨none, name⟩]
  | .selector qualifier name => [⟨some qualifier, name⟩]
  | .array _ elem | .chan _ elem | .star elem | .ellipsis elem | .tilde elem => elem.names
  | .map key value => key.names ++ value.names
  | .func type => type.names
  | .index base arg => base.names ++ arg.names
  | .indexList base args => base.names ++ exprsNames args
  | .or left right => left.names ++ right.names

/-- The names in the types of the parameters, then those of the results. -/
def FuncType.names : FuncType → List WrittenName
  | ⟨params, results⟩ => paramsNames params ++ paramsNames results

/-- The names in the expressions, one after the other. -/
def exprsNames : List Expr → List WrittenName
  | [] => []
  | expr :: exprs => expr.names ++ exprsNames exprs

/-- The names in the parameter types. -/
def paramsNames : List Param → List WrittenName
  | [] => []
  | ⟨_, type⟩ :: params => type.names ++ paramsNames params
end

mutual
/-- `Expr.qualifiers` are those of the names of an expression. -/
theorem Expr.qualifiers_eq_filterMap : (expr : Expr) →
    expr.qualifiers = expr.names.filterMap (·.qualifier)
  | .ident _ | .selector _ _ => rfl
  | .array _ elem | .chan _ elem | .star elem | .ellipsis elem | .tilde elem => by
    rw [Expr.qualifiers, Expr.names, elem.qualifiers_eq_filterMap]
  | .map left right | .index left right | .or left right => by
    rw [Expr.qualifiers, Expr.names, List.filterMap_append, left.qualifiers_eq_filterMap,
      right.qualifiers_eq_filterMap]
  | .func type => by rw [Expr.qualifiers, Expr.names, type.qualifiers_eq_filterMap]
  | .indexList base args => by
    rw [Expr.qualifiers, Expr.names, List.filterMap_append, base.qualifiers_eq_filterMap,
      exprsQualifiers_eq_filterMap]

theorem FuncType.qualifiers_eq_filterMap : (type : FuncType) →
    type.qualifiers = type.names.filterMap (·.qualifier)
  | ⟨params, results⟩ => by
    rw [FuncType.qualifiers, FuncType.names, List.filterMap_append, paramsQualifiers_eq_filterMap,
      paramsQualifiers_eq_filterMap]

theorem exprsQualifiers_eq_filterMap : (exprs : List Expr) →
    exprsQualifiers exprs = (exprsNames exprs).filterMap (·.qualifier)
  | [] => rfl
  | expr :: exprs => by
    rw [exprsQualifiers, exprsNames, List.filterMap_append, expr.qualifiers_eq_filterMap,
      exprsQualifiers_eq_filterMap]

theorem paramsQualifiers_eq_filterMap : (params : List Param) →
    paramsQualifiers params = (paramsNames params).filterMap (·.qualifier)
  | [] => rfl
  | ⟨_, type⟩ :: params => by
    rw [paramsQualifiers, paramsNames, List.filterMap_append, type.qualifiers_eq_filterMap,
      paramsQualifiers_eq_filterMap]
end

@[simp] theorem paramsNames_append (xs ys : List Param) :
    paramsNames (xs ++ ys) = paramsNames xs ++ paramsNames ys := by
  induction xs with
  | nil => rfl
  | cons x xs ih =>
    obtain ⟨name, type⟩ := x
    rw [List.cons_append, paramsNames, paramsNames, ih, List.append_assoc]

/-- What `Expr.applied` makes has the names of the generic type and of its arguments. -/
theorem Expr.names_applied (base : Expr) (args : List Expr) :
    (base.applied args).names = base.names ++ exprsNames args := by
  match args with
  | [] => exact (List.append_nil _).symm
  | [arg] =>
    rw [Expr.applied, Expr.names, exprsNames, exprsNames, List.append_nil]
  | _ :: _ :: _ => rfl

/-- What `Expr.union?` makes has the names of its terms. -/
theorem Expr.names_union? {exprs : List Expr} {expr : Expr} (h : Expr.union? exprs = some expr) :
    expr.names = exprsNames exprs := by
  cases exprs with
  | nil => exact nomatch h
  | cons first rest =>
    cases h
    rw [exprsNames]
    induction rest generalizing first with
    | nil => exact (List.append_nil _).symm
    | cons second rest ih =>
      rw [List.foldl_cons, ih (.or first second), Expr.names, exprsNames, List.append_assoc]

/-- `variadicParams` keeps the names, since an ellipsis has those of the list. -/
theorem names_variadicParams {last : Option Var} {params variadic : List Param}
    (h : variadicParams last params = .ok variadic) :
    paramsNames variadic = paramsNames params := by
  unfold variadicParams at h
  split at h
  · exact nomatch h
  · -- The last parameter is a list, and only its brackets are replaced.
    rename_i name len elem hlast
    cases h
    obtain ⟨front, rfl⟩ := List.getLast?_eq_some_iff.1 hlast
    rw [List.dropLast_concat, paramsNames_append, paramsNames_append]
    rfl
  · exact nomatch h

/-! ## Names in types -/

mutual
/-- The names that a type consists of. The interface without members is called `any`; struct
    literals and unknown kinds have no spelling and are not looked into. -/
def GoType.mentions : GoType → List Mention
  | .basic name => [.declared ⟨none, name⟩]
  | .typeParam name => [.typeParam name]
  | .array _ elem | .slice elem | .chan _ elem | .pointer elem => elem.mentions
  | .map key elem => key.mentions ++ elem.mentions
  | .interface [] [] => [.declared ⟨none, "any"⟩]
  | .interface embeddeds methods => typesMentions embeddeds ++ methodsMentions methods
  | .func signature => signature.mentions
  | .named name args | .alias name args => .declared name :: typesMentions args
  | .union terms => termsMentions terms
  | .struct _ | .unknown => []

/-- The names in the parameters, then those in the results. -/
def Signature.mentions : Signature → List Mention
  | ⟨params, results, _⟩ => varsMentions params ++ varsMentions results

/-- The names in the types, one after the other. -/
def typesMentions : List GoType → List Mention
  | [] => []
  | type :: types => type.mentions ++ typesMentions types

/-- The names in the types of the variables. -/
def varsMentions : List Var → List Mention
  | [] => []
  | ⟨_, type⟩ :: vars => type.mentions ++ varsMentions vars

/-- The names in the signatures. -/
def methodsMentions : List Method → List Mention
  | [] => []
  | ⟨_, signature⟩ :: methods => signature.mentions ++ methodsMentions methods

/-- The names in the terms. -/
def termsMentions : List Term → List Mention
  | [] => []
  | ⟨_, type⟩ :: terms => type.mentions ++ termsMentions terms
end

/-- The `mentions` of an interface with members are those of its elements and methods. -/
theorem GoType.mentions_interface {embeddeds : List GoType} {methods : List Method}
    (h : embeddeds ≠ [] ∨ methods ≠ []) :
    (GoType.interface embeddeds methods).mentions =
      typesMentions embeddeds ++ methodsMentions methods := by
  match embeddeds, methods, h with
  | _ :: _, _, _ => rw [GoType.mentions]; simp
  | [], _ :: _, _ => rw [GoType.mentions]; simp

mutual
/-- The packages in `GoType.refs` are those of the names of a type. -/
theorem GoType.refs_eq_filterMap : (type : GoType) →
    type.refs = type.mentions.filterMap (·.pkg)
  | .basic _ | .typeParam _ | .struct _ | .unknown => rfl
  | .array _ elem | .slice elem | .chan _ elem | .pointer elem => by
    rw [GoType.refs, GoType.mentions, elem.refs_eq_filterMap]
  | .map key elem => by
    rw [GoType.refs, GoType.mentions, List.filterMap_append, key.refs_eq_filterMap,
      elem.refs_eq_filterMap]
  | .interface embeddeds methods => by
    -- The empty interface is `any`, a name without a package.
    by_cases h : embeddeds ≠ [] ∨ methods ≠ []
    · rw [GoType.refs, GoType.mentions_interface h, List.filterMap_append,
        typesRefs_eq_filterMap, methodsRefs_eq_filterMap]
    · obtain ⟨rfl, rfl⟩ : embeddeds = [] ∧ methods = [] := by simpa using h
      rfl
  | .func signature => by rw [GoType.refs, GoType.mentions, signature.refs_eq_filterMap]
  | .named name args | .alias name args => by
    rw [GoType.refs, GoType.mentions, List.filterMap_cons, typesRefs_eq_filterMap, Mention.pkg]
    cases name.pkg with
    | none => rfl
    | some ref => rfl
  | .union terms => by rw [GoType.refs, GoType.mentions, termsRefs_eq_filterMap]

theorem Signature.refs_eq_filterMap : (signature : Signature) →
    signature.refs = signature.mentions.filterMap (·.pkg)
  | ⟨params, results, _⟩ => by
    rw [Signature.refs, Signature.mentions, List.filterMap_append, varsRefs_eq_filterMap,
      varsRefs_eq_filterMap]

theorem typesRefs_eq_filterMap : (types : List GoType) →
    typesRefs types = (typesMentions types).filterMap (·.pkg)
  | [] => rfl
  | type :: types => by
    rw [typesRefs, typesMentions, List.filterMap_append, type.refs_eq_filterMap,
      typesRefs_eq_filterMap]

theorem varsRefs_eq_filterMap : (vars : List Var) →
    varsRefs vars = (varsMentions vars).filterMap (·.pkg)
  | [] => rfl
  | ⟨_, type⟩ :: vars => by
    rw [varsRefs, varsMentions, List.filterMap_append, type.refs_eq_filterMap,
      varsRefs_eq_filterMap]

theorem methodsRefs_eq_filterMap : (methods : List Method) →
    methodsRefs methods = (methodsMentions methods).filterMap (·.pkg)
  | [] => rfl
  | ⟨_, signature⟩ :: methods => by
    rw [methodsRefs, methodsMentions, List.filterMap_append, signature.refs_eq_filterMap,
      methodsRefs_eq_filterMap]

theorem termsRefs_eq_filterMap : (terms : List Term) →
    termsRefs terms = (termsMentions terms).filterMap (·.pkg)
  | [] => rfl
  | ⟨_, type⟩ :: terms => by
    rw [termsRefs, termsMentions, List.filterMap_append, type.refs_eq_filterMap,
      termsRefs_eq_filterMap]
end

/-! ## Spelling -/

@[simp] theorem TypeName.names_spell (qualify : Qualifier) (name : TypeName) :
    (name.spell qualify).names = [(Mention.declared name).written qualify] := by
  unfold TypeName.spell Mention.written Mention.pkg
  cases name.pkg.bind qualify with
  | none => rfl
  | some qualifier => rfl

theorem inside_eq_ok {α : Type} {position : Position} {x : Spelled α} {a : α} :
    Spelled.inside position x = .ok a ↔ x = .ok a := mapError_eq_ok

theorem paramsNames_ofName (name : String) (type : Expr) (params : List Param) :
    paramsNames (Param.ofName name type :: params) = type.names ++ paramsNames params := rfl

mutual
/-- The spelling of a type has the names that `GoType.mentions` lists, in order. -/
theorem GoType.names_spell {qualify : Qualifier} : (type : GoType) → {expr : Expr} →
    type.spell qualify = .ok expr → expr.names = type.mentions.map (·.written qualify)
  | .basic name, expr, h | .typeParam name, expr, h => by
    rw [GoType.spell] at h
    cases h
    rfl
  | .array _ elem, expr, h | .slice elem, expr, h | .chan _ elem, expr, h
  | .pointer elem, expr, h => by
    simp only [GoType.spell, bind_eq_ok, inside_eq_ok, pure_eq_ok] at h
    obtain ⟨spelled, helem, rfl⟩ := h
    rw [Expr.names, GoType.mentions, elem.names_spell helem]
  | .map key elem, expr, h => by
    simp only [GoType.spell, bind_eq_ok, inside_eq_ok, pure_eq_ok] at h
    obtain ⟨spelledKey, hkey, spelledElem, helem, rfl⟩ := h
    rw [Expr.names, GoType.mentions, List.map_append, key.names_spell hkey, elem.names_spell helem]
  | .interface [] [], expr, h => by
    rw [GoType.spell] at h
    cases h
    rfl
  | .interface (_ :: _) _, expr, h | .interface [] (_ :: _), expr, h
  | .struct _, expr, h | .unknown, expr, h => by
    simp only [GoType.spell, reduceCtorEq] at h
  | .func signature, expr, h => by
    simp only [GoType.spell, bind_eq_ok, pure_eq_ok] at h
    obtain ⟨type, htype, rfl⟩ := h
    rw [Expr.names, GoType.mentions, signature.names_spell htype]
  | .named name args, expr, h | .alias name args, expr, h => by
    simp only [GoType.spell, bind_eq_ok, pure_eq_ok] at h
    obtain ⟨spelled, hargs, rfl⟩ := h
    -- The name of the type comes before the names of its arguments.
    rw [Expr.names_applied, TypeName.names_spell, GoType.mentions, List.map_cons,
      names_spellArgs args hargs]
    rfl
  | .union terms, expr, h => by
    simp only [GoType.spell, bind_eq_ok] at h
    obtain ⟨spelled, hterms, h⟩ := h
    -- A union without terms has no spelling.
    split at h
    · rename_i union hunion
      rw [pure_eq_ok] at h
      rw [← h, Expr.names_union? hunion, GoType.mentions, names_spellTerms terms hterms]
    · exact nomatch h

/-- The spelling of a signature has the names that `Signature.mentions` lists, in order. -/
theorem Signature.names_spell {qualify : Qualifier} : (signature : Signature) →
    {type : FuncType} → signature.spell qualify = .ok type →
    type.names = signature.mentions.map (·.written qualify)
  | ⟨params, results, variadic⟩, type, h => by
    simp only [Signature.spell, bind_eq_ok] at h
    obtain ⟨spelledParams, hparams, spelledResults, hresults, h⟩ := h
    have hparams := names_spellVars params hparams
    have hresults := names_spellVars results hresults
    rw [Signature.mentions, List.map_append, ← hparams, ← hresults]
    -- An ellipsis at the end has the names of the list in its place.
    split at h
    · simp only [bind_eq_ok, pure_eq_ok] at h
      obtain ⟨variadicParams, hvariadic, rfl⟩ := h
      rw [FuncType.names, names_variadicParams hvariadic]
    · rw [pure_eq_ok] at h
      rw [← h, FuncType.names]

theorem names_spellArgs {qualify : Qualifier} {index : Nat} : (args : List GoType) →
    {exprs : List Expr} → spellArgs qualify index args = .ok exprs →
    exprsNames exprs = (typesMentions args).map (·.written qualify)
  | [], exprs, h => by
    rw [spellArgs] at h
    cases h
    rfl
  | arg :: args, exprs, h => by
    simp only [spellArgs, bind_eq_ok, inside_eq_ok, pure_eq_ok] at h
    obtain ⟨spelled, harg, others, hargs, rfl⟩ := h
    rw [exprsNames, typesMentions, List.map_append, arg.names_spell harg,
      names_spellArgs args hargs]

theorem names_spellVars {qualify : Qualifier} {position : Nat → Position} {index : Nat} :
    (vars : List Var) → {params : List Param} →
    spellVars qualify position index vars = .ok params →
    paramsNames params = (varsMentions vars).map (·.written qualify)
  | [], params, h => by
    rw [spellVars] at h
    cases h
    rfl
  | ⟨name, type⟩ :: vars, params, h => by
    simp only [spellVars, bind_eq_ok, inside_eq_ok, pure_eq_ok] at h
    obtain ⟨spelled, htype, others, hvars, rfl⟩ := h
    rw [paramsNames_ofName, varsMentions, List.map_append, type.names_spell htype,
      names_spellVars vars hvars]

theorem names_spellTerms {qualify : Qualifier} {index : Nat} : (terms : List Term) →
    {exprs : List Expr} → spellTerms qualify index terms = .ok exprs →
    exprsNames exprs = (termsMentions terms).map (·.written qualify)
  | [], exprs, h => by
    rw [spellTerms] at h
    cases h
    rfl
  | ⟨tilde, type⟩ :: terms, exprs, h => by
    simp only [spellTerms, bind_eq_ok, inside_eq_ok, pure_eq_ok] at h
    obtain ⟨spelled, htype, others, hterms, rfl⟩ := h
    rw [exprsNames, termsMentions, List.map_append, ← type.names_spell htype,
      names_spellTerms terms hterms]
    -- A tilde mentions what is behind it.
    cases tilde with
    | false => rfl
    | true => rfl
end

/-- A constraint that `GoType.spellConstraint` writes as its only element has the same names. -/
theorem GoType.names_spellConstraint {qualify : Qualifier} {constraint : GoType} {expr : Expr}
    (h : constraint.spellConstraint qualify = .ok expr) :
    expr.names = constraint.mentions.map (·.written qualify) := by
  unfold GoType.spellConstraint at h
  split at h
  · rename_i embedded
    rw [embedded.names_spell h, GoType.mentions_interface (.inl (List.cons_ne_nil _ _)),
      typesMentions, typesMentions, methodsMentions, List.append_nil, List.append_nil]
  · exact constraint.names_spell h

end IfaceGen
