import IfaceGen.Proofs.Spelling.Mentions

/-!
# Canonical forms of types

Some types are written alike. An alias is written like a defined type, a package is known by its
path, a predeclared type, a type parameter and a name without a package are all written as the bare
name, the interface without members is called `any`, and the last parameter of a variadic signature
may be an array or a slice. `GoType.canonical` chooses one form for each of these, in all parts of
a type, and changes nothing else.

## Key results

- `variadicParams_eq_ok`: only a list at the end of the parameters becomes an ellipsis
- `GoType.spell_canonical`: the canonical form has the same spelling
-/

namespace IfaceGen

/-! ## Canonical forms -/

/-- The name with nothing of its package but the path. -/
def TypeName.canonical (name : TypeName) : TypeName :=
  ⟨name.pkg.map fun ref => ⟨ref.path, ""⟩, name.name⟩

/-- A slice in place of an array with the same elements. -/
def GoType.asSlice : GoType → GoType
  | .array _ elem => .slice elem
  | type => type

/-- The variables with a slice in place of an array at the end, as in a variadic signature. -/
def sliceLast : List Var → List Var
  | [] => []
  | [var] => [⟨var.name, var.type.asSlice⟩]
  | var :: next :: vars => var :: sliceLast (next :: vars)

mutual
/-- The type with one form chosen for what `GoType.spell` writes alike, in all of its parts. -/
def GoType.canonical : GoType → GoType
  | .basic name | .typeParam name => .named ⟨none, name⟩ []
  | .array len elem => .array len elem.canonical
  | .slice elem => .slice elem.canonical
  | .map key elem => .map key.canonical elem.canonical
  | .chan dir elem => .chan dir elem.canonical
  | .pointer elem => .pointer elem.canonical
  | .interface [] [] => .named ⟨none, "any"⟩ []
  | .interface embeddeds methods =>
    .interface (canonicalTypes embeddeds) (canonicalMethods methods)
  | .func signature => .func signature.canonical
  | .named name args | .alias name args => .named name.canonical (canonicalTypes args)
  | .union terms => .union (canonicalTerms terms)
  | .struct fields => .struct (canonicalFields fields)
  | .unknown => .unknown

/-- The canonical form of a signature. The last parameter of a variadic one is a slice
    (`sliceLast`). -/
def Signature.canonical : Signature → Signature
  | ⟨params, results, variadic⟩ =>
    ⟨if variadic then sliceLast (canonicalVars params) else canonicalVars params,
      canonicalVars results, variadic⟩

/-- `GoType.canonical` on each type. -/
def canonicalTypes : List GoType → List GoType
  | [] => []
  | type :: types => type.canonical :: canonicalTypes types

/-- `GoType.canonical` on each variable. -/
def canonicalVars : List Var → List Var
  | [] => []
  | ⟨name, type⟩ :: vars => ⟨name, type.canonical⟩ :: canonicalVars vars

/-- `Signature.canonical` on each method. -/
def canonicalMethods : List Method → List Method
  | [] => []
  | ⟨name, signature⟩ :: methods => ⟨name, signature.canonical⟩ :: canonicalMethods methods

/-- `GoType.canonical` on each term. -/
def canonicalTerms : List Term → List Term
  | [] => []
  | ⟨tilde, type⟩ :: terms => ⟨tilde, type.canonical⟩ :: canonicalTerms terms

/-- `GoType.canonical` on each field. -/
def canonicalFields : List Field → List Field
  | [] => []
  | ⟨name, type, embedded⟩ :: fields => ⟨name, type.canonical, embedded⟩ :: canonicalFields fields
end

theorem sliceLast_concat (vars : List Var) (name : String) (type : GoType) :
    sliceLast (vars ++ [⟨name, type⟩]) = vars ++ [⟨name, type.asSlice⟩] := by
  induction vars with
  | nil => rfl
  | cons var vars ih =>
    -- There is always another variable behind the first one.
    cases vars with
    | nil => rfl
    | cons next vars => exact congrArg (var :: ·) ih

/-! ## Spelling a canonical form -/

/-- `variadicParams` makes an ellipsis of a list at the end of the parameters, whatever its
    length. -/
theorem variadicParams_concat (last : Option Var) (params : List Param) (name : Option String)
    (len : Option UInt64) (elem : Expr) :
    variadicParams last (params ++ [⟨name, .array len elem⟩]) =
      .ok (params ++ [⟨name, .ellipsis elem⟩]) := by
  simp only [variadicParams, List.getLast?_concat, List.dropLast_concat]

/-- `variadicParams` makes an ellipsis of nothing but a list at the end of the parameters. -/
theorem variadicParams_eq_ok {last : Option Var} {params variadic : List Param}
    (h : variadicParams last params = .ok variadic) :
    ∃ front name len elem, params = front ++ [⟨name, .array len elem⟩] ∧
      variadic = front ++ [⟨name, .ellipsis elem⟩] := by
  unfold variadicParams at h
  split at h
  · exact nomatch h
  · rename_i name len elem hlast
    cases h
    obtain ⟨front, rfl⟩ := List.getLast?_eq_some_iff.1 hlast
    rw [List.dropLast_concat]
    exact ⟨front, name, len, elem, rfl, rfl⟩
  · exact nomatch h

section Canonical

variable {qualify : Qualifier}

/-- What `GoType.asSlice` puts in place of an array is still written as a list of the same
    elements. -/
theorem GoType.spell_asSlice {type : GoType} {len : Option UInt64} {elem : Expr}
    (h : type.spell qualify = .ok (.array len elem)) :
    ∃ len', type.asSlice.spell qualify = .ok (.array len' elem) := by
  cases type with
  | array _ inner =>
    simp only [GoType.spell, bind_eq_ok, inside_eq_ok, pure_eq_ok, Expr.array.injEq] at h
    obtain ⟨spelled, hinner, -, rfl⟩ := h
    refine ⟨none, ?_⟩
    simp only [GoType.asSlice, GoType.spell, bind_eq_ok, inside_eq_ok, pure_eq_ok]
    exact ⟨spelled, hinner, rfl⟩
  | _ => exact ⟨len, h⟩

/-- Variables that end in a list still do so under `sliceLast`. -/
theorem spellVars_sliceLast {position : Nat → Position} {index : Nat} {vars : List Var}
    {front : List Param} {name : Option String} {len : Option UInt64} {elem : Expr}
    (h : spellVars qualify position index vars = .ok (front ++ [⟨name, .array len elem⟩])) :
    ∃ len', spellVars qualify position index (sliceLast vars) =
      .ok (front ++ [⟨name, .array len' elem⟩]) := by
  induction vars generalizing index front with
  | nil =>
    cases front with
    | nil => cases h
    | cons _ _ => cases h
  | cons var vars ih =>
    obtain ⟨varName, type⟩ := var
    simp only [spellVars, bind_eq_ok, inside_eq_ok, pure_eq_ok] at h
    obtain ⟨spelled, htype, others, hothers, heq⟩ := h
    cases vars with
    | nil =>
      -- The variable is the last one.
      cases hothers
      rw [← List.nil_append [_]] at heq
      obtain ⟨rfl, hlast⟩ := List.append_inj' heq rfl
      cases hlast
      obtain ⟨len', hslice⟩ := GoType.spell_asSlice htype
      refine ⟨len', ?_⟩
      simp only [sliceLast, spellVars, bind_eq_ok, inside_eq_ok, pure_eq_ok]
      exact ⟨_, hslice, [], rfl, rfl⟩
    | cons next vars =>
      cases front with
      | nil =>
        -- Two variables are not written as one parameter.
        obtain ⟨nextName, nextType⟩ := next
        simp only [spellVars, bind_eq_ok, inside_eq_ok, pure_eq_ok] at hothers
        obtain ⟨_, -, _, -, rfl⟩ := hothers
        cases heq
      | cons first front =>
        cases heq
        obtain ⟨len', hrest⟩ := ih hothers
        refine ⟨len', ?_⟩
        simp only [sliceLast, spellVars, bind_eq_ok, inside_eq_ok, pure_eq_ok]
        exact ⟨_, htype, _, hrest, rfl⟩

/-- Packages are known by their paths: the names in references do not matter. -/
def Qualifier.ByPath (qualify : Qualifier) : Prop :=
  ∀ ref, qualify ⟨ref.path, ""⟩ = qualify ref

theorem TypeName.spell_canonical (hqualify : qualify.ByPath) (name : TypeName) :
    name.canonical.spell qualify = name.spell qualify := by
  obtain ⟨pkg?, text⟩ := name
  cases pkg? with
  | none => rfl
  | some ref => simp only [TypeName.spell, TypeName.canonical, Option.map_some, Option.bind_some,
      hqualify ref]

mutual
/-- The `canonical` form of a type has the same spelling. -/
theorem GoType.spell_canonical (hqualify : qualify.ByPath) : (type : GoType) → {expr : Expr} →
    type.spell qualify = .ok expr → type.canonical.spell qualify = .ok expr
  | .basic name, expr, h | .typeParam name, expr, h | .interface [] [], expr, h => by
    rw [GoType.spell] at h
    cases h
    rfl
  -- In each form of type the parts are replaced by their canonical forms.
  | .array _ elem, expr, h | .slice elem, expr, h | .chan _ elem, expr, h
  | .pointer elem, expr, h => by
    simp only [GoType.canonical, GoType.spell, bind_eq_ok, inside_eq_ok, pure_eq_ok] at h ⊢
    obtain ⟨spelled, helem, rfl⟩ := h
    exact ⟨spelled, elem.spell_canonical hqualify helem, rfl⟩
  | .map key elem, expr, h => by
    simp only [GoType.canonical, GoType.spell, bind_eq_ok, inside_eq_ok, pure_eq_ok] at h ⊢
    obtain ⟨spelledKey, hkey, spelledElem, helem, rfl⟩ := h
    exact ⟨spelledKey, key.spell_canonical hqualify hkey,
      spelledElem, elem.spell_canonical hqualify helem, rfl⟩
  | .interface (_ :: _) _, expr, h | .interface [] (_ :: _), expr, h
  | .struct _, expr, h | .unknown, expr, h => by
    simp only [GoType.spell, reduceCtorEq] at h
  | .func signature, expr, h => by
    simp only [GoType.canonical, GoType.spell, bind_eq_ok, pure_eq_ok] at h ⊢
    obtain ⟨type, htype, rfl⟩ := h
    exact ⟨type, signature.spell_canonical hqualify htype, rfl⟩
  | .named name args, expr, h | .alias name args, expr, h => by
    simp only [GoType.canonical, GoType.spell, bind_eq_ok, pure_eq_ok] at h ⊢
    obtain ⟨spelled, hargs, rfl⟩ := h
    rw [name.spell_canonical hqualify]
    exact ⟨spelled, spellArgs_canonical hqualify args hargs, rfl⟩
  | .union terms, expr, h => by
    simp only [GoType.canonical, GoType.spell, bind_eq_ok] at h ⊢
    obtain ⟨spelled, hterms, h⟩ := h
    exact ⟨spelled, spellTerms_canonical hqualify terms hterms, h⟩

theorem Signature.spell_canonical (hqualify : qualify.ByPath) : (signature : Signature) →
    {type : FuncType} → signature.spell qualify = .ok type →
    signature.canonical.spell qualify = .ok type
  | ⟨params, results, variadic⟩, type, h => by
    simp only [Signature.spell, Signature.canonical, bind_eq_ok] at h ⊢
    obtain ⟨spelledParams, hparams, spelledResults, hresults, h⟩ := h
    have hparams := spellVars_canonical hqualify params hparams
    have hresults := spellVars_canonical hqualify results hresults
    cases variadic with
    | true =>
      simp only [if_true, bind_eq_ok, pure_eq_ok] at h ⊢
      obtain ⟨variadic, hvariadic, rfl⟩ := h
      -- The length of the last parameter is lost in both spellings.
      obtain ⟨front, name, len, elem, rfl, rfl⟩ := variadicParams_eq_ok hvariadic
      obtain ⟨len', hsliced⟩ := spellVars_sliceLast hparams
      exact ⟨_, hsliced, spelledResults, hresults, _, variadicParams_concat _ _ _ len' _, rfl⟩
    | false =>
      simp only [Bool.false_eq_true, if_false] at h ⊢
      exact ⟨spelledParams, hparams, spelledResults, hresults, h⟩

theorem spellArgs_canonical (hqualify : qualify.ByPath) {index : Nat} : (args : List GoType) →
    {exprs : List Expr} → spellArgs qualify index args = .ok exprs →
    spellArgs qualify index (canonicalTypes args) = .ok exprs
  | [], exprs, h => h
  | arg :: args, exprs, h => by
    simp only [canonicalTypes, spellArgs, bind_eq_ok, inside_eq_ok, pure_eq_ok] at h ⊢
    obtain ⟨spelled, harg, others, hargs, rfl⟩ := h
    exact ⟨spelled, arg.spell_canonical hqualify harg,
      others, spellArgs_canonical hqualify args hargs, rfl⟩

theorem spellVars_canonical (hqualify : qualify.ByPath) {position : Nat → Position}
    {index : Nat} : (vars : List Var) → {params : List Param} →
    spellVars qualify position index vars = .ok params →
    spellVars qualify position index (canonicalVars vars) = .ok params
  | [], params, h => h
  | ⟨name, type⟩ :: vars, params, h => by
    simp only [canonicalVars, spellVars, bind_eq_ok, inside_eq_ok, pure_eq_ok] at h ⊢
    obtain ⟨spelled, htype, others, hvars, rfl⟩ := h
    exact ⟨spelled, type.spell_canonical hqualify htype,
      others, spellVars_canonical hqualify vars hvars, rfl⟩

theorem spellTerms_canonical (hqualify : qualify.ByPath) {index : Nat} : (terms : List Term) →
    {exprs : List Expr} → spellTerms qualify index terms = .ok exprs →
    spellTerms qualify index (canonicalTerms terms) = .ok exprs
  | [], exprs, h => h
  | ⟨tilde, type⟩ :: terms, exprs, h => by
    simp only [canonicalTerms, spellTerms, bind_eq_ok, inside_eq_ok, pure_eq_ok] at h ⊢
    obtain ⟨spelled, htype, others, hterms, rfl⟩ := h
    exact ⟨spelled, type.spell_canonical hqualify htype,
      others, spellTerms_canonical hqualify terms hterms, rfl⟩
end

end Canonical

end IfaceGen
