import IfaceGen.Proofs.Imports.Aliases
import IfaceGen.Proofs.Spelling.Canonical

/-!
# What a spelling says about its type

An expression can be read back: `Expr.terms` gives the terms that it consists of, where a type that
is no union is a term of its own. The meaning of a spelling is the canonical form of the type that
was spelled, so that nothing is lost but what the canonical form leaves out.

## Key results

- `GoType.terms_spell`: a spelling is read back as the canonical form of its type
- `ImportTable.tells_registerAll`: the alias of a package tells its path
- `GoType.spell_eq_spell_iff`: two types have one spelling if and only if they have one canonical
  form
-/

namespace IfaceGen

/-! ## Unions as they are reported -/

/-- Whether a type is a union. -/
def GoType.isUnion : GoType → Bool
  | .union _ => true
  | _ => false

mutual
/-- No union inside the type has a union as a term (`GoType.isUnion`) or consists of one term
    without a tilde. Struct literals and interfaces with members have no spelling and are not looked
    into. -/
def GoType.PlainUnions : GoType → Prop
  | .basic _ | .typeParam _ | .interface .. | .struct _ | .unknown => True
  | .array _ elem | .slice elem | .chan _ elem | .pointer elem => elem.PlainUnions
  | .map key elem => key.PlainUnions ∧ elem.PlainUnions
  | .func signature => signature.PlainUnions
  | .named _ args | .alias _ args => typesPlainUnions args
  | .union terms => (∀ type, terms ≠ [⟨false, type⟩]) ∧ termsPlainUnions terms

/-- `GoType.PlainUnions` for all parameters and results. -/
def Signature.PlainUnions : Signature → Prop
  | ⟨params, results, _⟩ => varsPlainUnions params ∧ varsPlainUnions results

/-- `GoType.PlainUnions` for each type. -/
def typesPlainUnions : List GoType → Prop
  | [] => True
  | type :: types => type.PlainUnions ∧ typesPlainUnions types

/-- `GoType.PlainUnions` for each variable. -/
def varsPlainUnions : List Var → Prop
  | [] => True
  | ⟨_, type⟩ :: vars => type.PlainUnions ∧ varsPlainUnions vars

/-- No term is a union, and `GoType.PlainUnions` for each of them. -/
def termsPlainUnions : List Term → Prop
  | [] => True
  | ⟨_, type⟩ :: terms => type.isUnion = false ∧ type.PlainUnions ∧ termsPlainUnions terms
end

/-! ## Reading an expression -/

/-- The terms of a union; any other type is a term of its own. -/
def GoType.asTerms : GoType → List Term
  | .union terms => terms
  | type => [⟨false, type⟩]

/-- The type that consists of the terms: one term without a tilde is no union. It undoes
    `GoType.asTerms`. -/
def GoType.ofTerms : List Term → GoType
  | [⟨false, type⟩] => type
  | terms => .union terms

/-- A generic type with its arguments. -/
def GoType.withArgs (args : List GoType) : GoType → GoType
  | .named name _ => .named name args
  | type => type

/-- Whether an expression stands for further parameters, as only `variadicParams` makes them. -/
def Expr.isEllipsis : Expr → Bool
  | .ellipsis _ => true
  | _ => false

mutual
/-- The terms that an expression consists of, where `pathOf` is the package that a qualifier stands
    for. -/
def Expr.terms (pathOf : String → String) : Expr → List Term
  | .ident name => [⟨false, .named ⟨none, name⟩ []⟩]
  | .selector qualifier name => [⟨false, .named ⟨some ⟨pathOf qualifier, ""⟩, name⟩ []⟩]
  | .array (some len) elem => [⟨false, .array len (.ofTerms (elem.terms pathOf))⟩]
  | .array none elem | .ellipsis elem => [⟨false, .slice (.ofTerms (elem.terms pathOf))⟩]
  | .map key value =>
    [⟨false, .map (.ofTerms (key.terms pathOf)) (.ofTerms (value.terms pathOf))⟩]
  | .chan dir value => [⟨false, .chan dir (.ofTerms (value.terms pathOf))⟩]
  | .star elem => [⟨false, .pointer (.ofTerms (elem.terms pathOf))⟩]
  | .func type => [⟨false, .func (type.signature pathOf)⟩]
  | .index base arg =>
    [⟨false, (GoType.ofTerms (base.terms pathOf)).withArgs [.ofTerms (arg.terms pathOf)]⟩]
  | .indexList base args =>
    [⟨false, (GoType.ofTerms (base.terms pathOf)).withArgs (exprsTypes pathOf args)⟩]
  | .or left right => left.terms pathOf ++ right.terms pathOf
  | .tilde elem => [⟨true, .ofTerms (elem.terms pathOf)⟩]

/-- The signature that a function type stands for: the inverse of `Signature.spell`, up to canonical
    forms. -/
def FuncType.signature (pathOf : String → String) : FuncType → Signature
  | ⟨params, results⟩ =>
    ⟨paramsVars pathOf params, paramsVars pathOf results,
      params.getLast?.any (·.type.isEllipsis)⟩

/-- The types that expressions stand for. -/
def exprsTypes (pathOf : String → String) : List Expr → List GoType
  | [] => []
  | expr :: exprs => .ofTerms (expr.terms pathOf) :: exprsTypes pathOf exprs

/-- The variables that parameters stand for. -/
def paramsVars (pathOf : String → String) : List Param → List Var
  | [] => []
  | ⟨name, type⟩ :: params =>
    ⟨name.getD "", .ofTerms (type.terms pathOf)⟩ :: paramsVars pathOf params
end

/-- A type that is no union is the only term of its `canonical` form. -/
theorem GoType.asTerms_canonical {type : GoType} (h : type.isUnion = false) :
    type.canonical.asTerms = [⟨false, type.canonical⟩] := by
  cases type with
  | union terms => exact nomatch h
  | interface embeddeds methods =>
    match embeddeds, methods with
    | [], [] => rfl
    | [], _ :: _ => rfl
    | _ :: _, _ => rfl
  | _ => rfl

/-- Canonical forms are made of their terms: `GoType.ofTerms` undoes `GoType.asTerms`. -/
theorem GoType.ofTerms_asTerms {type : GoType} (h : type.PlainUnions) :
    GoType.ofTerms type.canonical.asTerms = type.canonical := by
  cases hunion : type.isUnion with
  | false =>
    rw [asTerms_canonical hunion]
    rfl
  | true =>
    cases type with
    | union terms =>
      -- A single term has a tilde.
      rw [GoType.PlainUnions] at h
      match terms, h.1 with
      | [], _ => rfl
      | [⟨true, _⟩], _ => rfl
      | [⟨false, type⟩], hsingle => exact absurd rfl (hsingle type)
      | ⟨tilde, _⟩ :: ⟨_, _⟩ :: _, _ => cases tilde <;> rfl
    | _ => exact nomatch hunion

/-- Every reference is written with a qualifier that tells its package: `pathOf` finds the path. -/
def Qualifier.Tells (qualify : Qualifier) (pathOf : String → String) (refs : List PackageRef) :
    Prop :=
  ∀ ref ∈ refs, ∃ qualifier, qualify ref = some qualifier ∧ pathOf qualifier = ref.path

section Reading

variable {qualify : Qualifier} {pathOf : String → String}

theorem Qualifier.Tells.left {refs others : List PackageRef}
    (h : qualify.Tells pathOf (refs ++ others)) : qualify.Tells pathOf refs :=
  fun ref hmem => h ref (List.mem_append_left _ hmem)

theorem Qualifier.Tells.right {refs others : List PackageRef}
    (h : qualify.Tells pathOf (refs ++ others)) : qualify.Tells pathOf others :=
  fun ref hmem => h ref (List.mem_append_right _ hmem)

/-- The spelling of a name is read back by `Expr.terms` with the path of its package. -/
theorem TypeName.terms_spell {name : TypeName} (h : qualify.Tells pathOf name.pkg.toList) :
    (name.spell qualify).terms pathOf = [⟨false, .named name.canonical []⟩] := by
  obtain ⟨pkg?, text⟩ := name
  cases pkg? with
  | none => rfl
  | some ref =>
    obtain ⟨qualifier, hqualify, hpath⟩ := h ref (List.mem_singleton_self ref)
    simp only [TypeName.spell, Option.bind_some, hqualify, Expr.terms, hpath]
    rfl

/-- The expression that `Expr.applied` makes of a generic type is read back with its arguments. -/
theorem Expr.terms_applied {base : Expr} {name : TypeName}
    (hbase : base.terms pathOf = [⟨false, .named name []⟩]) (args : List Expr) :
    (base.applied args).terms pathOf = [⟨false, .named name (exprsTypes pathOf args)⟩] := by
  match args with
  -- Without arguments the name stands alone; with one or more it is indexed.
  | [] => exact hbase
  | [arg] =>
    rw [Expr.applied, Expr.terms, hbase]
    rfl
  | _ :: _ :: _ =>
    rw [Expr.applied, Expr.terms, hbase]
    · rfl
    all_goals exact nofun

/-- The expression that `Expr.union?` makes is read back term by term. -/
theorem Expr.terms_union? {exprs : List Expr} {expr : Expr} (h : Expr.union? exprs = some expr) :
    expr.terms pathOf = exprs.flatMap (·.terms pathOf) := by
  cases exprs with
  | nil => exact nomatch h
  | cons first rest =>
    cases h
    rw [List.flatMap_cons]
    -- The chain of terms grows to the left, so the first term varies.
    induction rest generalizing first with
    | nil => exact (List.append_nil _).symm
    | cons second rest ih =>
      rw [List.foldl_cons, ih (.or first second), Expr.terms, List.flatMap_cons,
        List.append_assoc]

theorem paramsVars_append (params others : List Param) :
    paramsVars pathOf (params ++ others) =
      paramsVars pathOf params ++ paramsVars pathOf others := by
  induction params with
  | nil => rfl
  | cons param params ih =>
    obtain ⟨name, type⟩ := param
    rw [List.cons_append, paramsVars, paramsVars, ih, List.cons_append]

/-- What `Param.ofName` makes is read back with its name, which may be empty. -/
theorem paramsVars_ofName (name : String) (type : Expr) (params : List Param) :
    paramsVars pathOf (Param.ofName name type :: params) =
      ⟨name, .ofTerms (type.terms pathOf)⟩ :: paramsVars pathOf params := by
  rw [Param.ofName, paramsVars]
  split
  · rename_i hempty
    rw [String.isEmpty_iff.1 hempty]
    rfl
  · rfl

/-- What `variadicParams` makes is read back with a slice at the end. -/
theorem paramsVars_variadicParams (pathOf : String → String) {last : Option Var}
    {params variadic : List Param}
    (h : variadicParams last params = .ok variadic) :
    paramsVars pathOf variadic = sliceLast (paramsVars pathOf params) ∧
      variadic.getLast?.any (·.type.isEllipsis) = true := by
  obtain ⟨front, name, len, elem, rfl, rfl⟩ := variadicParams_eq_ok h
  rw [paramsVars_append, paramsVars_append, List.getLast?_concat]
  refine ⟨?_, rfl⟩
  -- The length of an array at the end is lost: both are read back as a slice.
  cases len with
  | none =>
    simp only [paramsVars, Expr.terms, sliceLast_concat]
    rfl
  | some len =>
    simp only [paramsVars, Expr.terms, sliceLast_concat]
    rfl

/-- No `Expr.ellipsis` comes from a generic type. -/
theorem Expr.isEllipsis_applied (name : TypeName) (args : List Expr) :
    ((name.spell qualify).applied args).isEllipsis = false := by
  match args with
  | [] =>
    rw [Expr.applied, TypeName.spell]
    cases name.pkg.bind qualify with
    | none => rfl
    | some qualifier => rfl
  | [_] => rfl
  | _ :: _ :: _ => rfl

/-- No `Expr.ellipsis` comes from a chain of terms. -/
theorem Expr.isEllipsis_foldl_or (first : Expr) (rest : List Expr)
    (h : first.isEllipsis = false) : (rest.foldl .or first).isEllipsis = false := by
  induction rest generalizing first with
  | nil => exact h
  | cons second rest ih => exact ih _ rfl

/-- No `Expr.ellipsis` comes from a union, unless it is nothing but a type. -/
theorem isEllipsis_union (terms : List Term) (hplain : ∀ type, terms ≠ [⟨false, type⟩])
    {expr : Expr} (h : (GoType.union terms).spell qualify = .ok expr) :
    expr.isEllipsis = false := by
  simp only [GoType.spell, bind_eq_ok] at h
  obtain ⟨spelled, hterms, h⟩ := h
  cases terms with
  | nil =>
    cases hterms
    cases h
  | cons term terms =>
    obtain ⟨tilde, type⟩ := term
    cases terms with
    -- One term: it has a tilde, as a plain type is excluded.
    | nil =>
      cases tilde with
      | false => exact absurd rfl (hplain type)
      | true =>
        simp only [spellTerms, bind_eq_ok, inside_eq_ok, pure_eq_ok, Except.ok.injEq] at hterms
        obtain ⟨elem, -, _, rfl, rfl⟩ := hterms
        cases h
        rfl
    | cons next terms =>
      obtain ⟨_, _⟩ := next
      simp only [spellTerms, bind_eq_ok, inside_eq_ok, pure_eq_ok] at hterms
      obtain ⟨first, -, _, ⟨second, -, rest, -, rfl⟩, rfl⟩ := hterms
      cases h
      exact Expr.isEllipsis_foldl_or _ rest rfl

/-- No `Expr.ellipsis` comes from a type: only the last parameter of a variadic signature is written
    so. -/
theorem GoType.isEllipsis_spell : (type : GoType) → {expr : Expr} → type.PlainUnions →
    type.spell qualify = .ok expr → expr.isEllipsis = false
  -- Each form of type has an expression of another form.
  | .basic name, expr, _, h | .typeParam name, expr, _, h | .interface [] [], expr, _, h => by
    rw [GoType.spell] at h
    cases h
    rfl
  | .array _ elem, expr, _, h | .slice elem, expr, _, h | .chan _ elem, expr, _, h
  | .pointer elem, expr, _, h => by
    simp only [GoType.spell, bind_eq_ok, inside_eq_ok, pure_eq_ok] at h
    obtain ⟨spelled, -, rfl⟩ := h
    rfl
  | .map key elem, expr, _, h => by
    simp only [GoType.spell, bind_eq_ok, inside_eq_ok, pure_eq_ok] at h
    obtain ⟨spelledKey, -, spelledElem, -, rfl⟩ := h
    rfl
  | .interface (_ :: _) _, expr, _, h | .interface [] (_ :: _), expr, _, h
  | .struct _, expr, _, h | .unknown, expr, _, h => by
    simp only [GoType.spell, reduceCtorEq] at h
  | .func signature, expr, _, h => by
    simp only [GoType.spell, bind_eq_ok, pure_eq_ok] at h
    obtain ⟨type, -, rfl⟩ := h
    rfl
  | .named name args, expr, _, h | .alias name args, expr, _, h => by
    simp only [GoType.spell, bind_eq_ok, pure_eq_ok] at h
    obtain ⟨spelled, -, rfl⟩ := h
    exact Expr.isEllipsis_applied name spelled
  | .union terms, expr, hplain, h => by
    rw [GoType.PlainUnions] at hplain
    exact isEllipsis_union terms hplain.1 h

mutual
/-- The spelling of a type is read back by `Expr.terms` as the canonical form of the type. -/
theorem GoType.terms_spell : (type : GoType) → {expr : Expr} → type.PlainUnions →
    qualify.Tells pathOf type.refs → type.spell qualify = .ok expr →
    expr.terms pathOf = type.canonical.asTerms
  -- A name without a package, and `any` for the empty interface.
  | .basic name, expr, _, _, h | .typeParam name, expr, _, _, h
  | .interface [] [], expr, _, _, h => by
    rw [GoType.spell] at h
    cases h
    rfl
  -- The element is read back as a type, since its canonical form is made of its terms.
  | .array _ elem, expr, hplain, htells, h | .slice elem, expr, hplain, htells, h
  | .chan _ elem, expr, hplain, htells, h | .pointer elem, expr, hplain, htells, h => by
    rw [GoType.PlainUnions] at hplain
    rw [GoType.refs] at htells
    simp only [GoType.spell, bind_eq_ok, inside_eq_ok, pure_eq_ok] at h
    obtain ⟨spelled, helem, rfl⟩ := h
    rw [Expr.terms, elem.terms_spell hplain htells helem, elem.ofTerms_asTerms hplain]
    rfl
  | .map key elem, expr, hplain, htells, h => by
    rw [GoType.PlainUnions] at hplain
    rw [GoType.refs] at htells
    simp only [GoType.spell, bind_eq_ok, inside_eq_ok, pure_eq_ok] at h
    obtain ⟨spelledKey, hkey, spelledElem, helem, rfl⟩ := h
    rw [Expr.terms, key.terms_spell hplain.1 htells.left hkey, key.ofTerms_asTerms hplain.1,
      elem.terms_spell hplain.2 htells.right helem, elem.ofTerms_asTerms hplain.2]
    rfl
  -- These have no spelling.
  | .interface (_ :: _) _, expr, _, _, h | .interface [] (_ :: _), expr, _, _, h
  | .struct _, expr, _, _, h | .unknown, expr, _, _, h => by
    simp only [GoType.spell, reduceCtorEq] at h
  | .func signature, expr, hplain, htells, h => by
    rw [GoType.PlainUnions] at hplain
    rw [GoType.refs] at htells
    simp only [GoType.spell, bind_eq_ok, pure_eq_ok] at h
    obtain ⟨type, htype, rfl⟩ := h
    rw [Expr.terms, signature.signature_spell hplain htells htype]
    rfl
  | .named name args, expr, hplain, htells, h | .alias name args, expr, hplain, htells, h => by
    rw [GoType.PlainUnions] at hplain
    rw [GoType.refs] at htells
    simp only [GoType.spell, bind_eq_ok, pure_eq_ok] at h
    obtain ⟨spelled, hargs, rfl⟩ := h
    rw [Expr.terms_applied (TypeName.terms_spell htells.left),
      exprsTypes_spellArgs args hplain htells.right hargs]
    rfl
  -- The terms of a union become those of the expression, none of them being a union.
  | .union terms, expr, hplain, htells, h => by
    rw [GoType.PlainUnions] at hplain
    rw [GoType.refs] at htells
    simp only [GoType.spell, bind_eq_ok] at h
    obtain ⟨spelled, hterms, h⟩ := h
    split at h
    · rename_i union hunion
      rw [pure_eq_ok] at h
      rw [← h, Expr.terms_union? hunion, terms_spellTerms terms hplain.2 htells hterms]
      rfl
    · exact nomatch h

/-- The spelling of a signature is read back by `FuncType.signature` as its canonical form. -/
theorem Signature.signature_spell : (signature : Signature) → {type : FuncType} →
    signature.PlainUnions → qualify.Tells pathOf signature.refs →
    signature.spell qualify = .ok type → type.signature pathOf = signature.canonical
  | ⟨params, results, variadic⟩, type, hplain, htells, h => by
    rw [Signature.PlainUnions] at hplain
    rw [Signature.refs] at htells
    simp only [Signature.spell, bind_eq_ok] at h
    obtain ⟨spelledParams, hparams, spelledResults, hresults, h⟩ := h
    have hreadParams := paramsVars_spellVars params hplain.1 htells.left hparams
    have hreadResults := paramsVars_spellVars results hplain.2 htells.right hresults
    -- A variadic signature is known by the ellipsis at its end, and any other one has none.
    cases variadic with
    | true =>
      simp only [if_true, bind_eq_ok, pure_eq_ok] at h
      obtain ⟨variadicParams, hvariadic, rfl⟩ := h
      obtain ⟨hread, hlast⟩ := paramsVars_variadicParams pathOf hvariadic
      rw [FuncType.signature, hread, hlast, hreadParams.1, hreadResults.1]
      rfl
    | false =>
      simp only [Bool.false_eq_true, if_false, pure_eq_ok] at h
      rw [← h, FuncType.signature, hreadParams.1, hreadResults.1, hreadParams.2]
      rfl

theorem exprsTypes_spellArgs {index : Nat} : (args : List GoType) → {exprs : List Expr} →
    typesPlainUnions args → qualify.Tells pathOf (typesRefs args) →
    spellArgs qualify index args = .ok exprs → exprsTypes pathOf exprs = canonicalTypes args
  | [], exprs, _, _, h => by
    rw [spellArgs] at h
    cases h
    rfl
  | arg :: args, exprs, hplain, htells, h => by
    rw [typesPlainUnions] at hplain
    rw [typesRefs] at htells
    simp only [spellArgs, bind_eq_ok, inside_eq_ok, pure_eq_ok] at h
    obtain ⟨spelled, harg, others, hargs, rfl⟩ := h
    -- The argument is read back as a type, which its canonical form consists of.
    rw [exprsTypes, arg.terms_spell hplain.1 htells.left harg, arg.ofTerms_asTerms hplain.1,
      exprsTypes_spellArgs args hplain.2 htells.right hargs]
    rfl

/-- What `spellVars` makes is read back, and none of it as a parameter that stands for further
    ones. -/
theorem paramsVars_spellVars {position : Nat → Position} {index : Nat} : (vars : List Var) →
    {params : List Param} → varsPlainUnions vars → qualify.Tells pathOf (varsRefs vars) →
    spellVars qualify position index vars = .ok params →
    paramsVars pathOf params = canonicalVars vars ∧
      params.getLast?.any (·.type.isEllipsis) = false
  | [], params, _, _, h => by
    rw [spellVars] at h
    cases h
    exact ⟨rfl, rfl⟩
  | ⟨name, type⟩ :: vars, params, hplain, htells, h => by
    rw [varsPlainUnions] at hplain
    rw [varsRefs] at htells
    simp only [spellVars, bind_eq_ok, inside_eq_ok, pure_eq_ok] at h
    obtain ⟨spelled, htype, others, hvars, rfl⟩ := h
    obtain ⟨hread, hlast⟩ := paramsVars_spellVars vars hplain.2 htells.right hvars
    rw [paramsVars_ofName, type.terms_spell hplain.1 htells.left htype,
      type.ofTerms_asTerms hplain.1, hread]
    refine ⟨rfl, ?_⟩
    -- The last parameter is this one, or one behind it.
    cases others with
    | nil => exact type.isEllipsis_spell hplain.1 htype
    | cons other others => exact hlast

theorem terms_spellTerms {index : Nat} : (terms : List Term) → {exprs : List Expr} →
    termsPlainUnions terms → qualify.Tells pathOf (termsRefs terms) →
    spellTerms qualify index terms = .ok exprs →
    exprs.flatMap (·.terms pathOf) = canonicalTerms terms
  | [], exprs, _, _, h => by
    rw [spellTerms] at h
    cases h
    rfl
  | ⟨tilde, type⟩ :: terms, exprs, hplain, htells, h => by
    rw [termsPlainUnions] at hplain
    obtain ⟨hunion, htype, hterms⟩ := hplain
    rw [termsRefs] at htells
    simp only [spellTerms, bind_eq_ok, inside_eq_ok, pure_eq_ok] at h
    obtain ⟨spelled, hspelled, others, hothers, rfl⟩ := h
    have hread := type.terms_spell htype htells.left hspelled
    rw [List.flatMap_cons, terms_spellTerms terms hterms htells.right hothers]
    -- A tilde stands before the type, and without one the type is the only term.
    cases tilde with
    | true =>
      rw [if_pos rfl, Expr.terms, hread, type.ofTerms_asTerms htype]
      rfl
    | false =>
      rw [if_neg Bool.false_ne_true, hread, type.asTerms_canonical hunion]
      rfl
end

end Reading

/-! ## Types with one spelling -/

namespace ImportTable

/-- The path of the package that an alias stands for: `ImportTable.alias?` read backwards. -/
def pathOf (table : ImportTable) (localName : String) : String :=
  ((table.entries.find? (·.localName = localName)).map (·.path)).getD ""

/-- In a `WellFormed` table an alias stands for the package that it was given to. -/
theorem WellFormed.pathOf_eq {table : ImportTable} (h : table.WellFormed) {path localName : String}
    (halias : table.alias? path = some localName) : table.pathOf localName = path := by
  obtain ⟨entry, hentry, rfl, rfl⟩ := h.alias?_eq_some_iff.1 halias
  have hfind : table.entries.find? (·.localName = entry.localName) = some entry :=
    find?_key_eq_some h.aliases_nodup hentry
  rw [pathOf, hfind]
  rfl

/-- The aliases of packages that went through `registerAll` tell their paths. -/
theorem tells_registerAll {registered refs : List PackageRef}
    (h : ∀ ref ∈ refs, ref.path ∈ registered.map (·.path)) :
    Qualifier.Tells (empty.registerAll registered).qualify (empty.registerAll registered).pathOf
      refs := by
  intro ref href
  obtain ⟨known, hknown, hpath⟩ := List.mem_map.1 (h ref href)
  obtain ⟨localName, halias⟩ := wellFormed_empty.exists_alias?_registerAll hknown
  rw [hpath] at halias
  exact ⟨localName, halias, (wellFormed_empty.registerAll registered).pathOf_eq halias⟩

end ImportTable

/-- Two types that can be spelled have one spelling if and only if they have one `canonical` form.
    Their packages are registered, in whatever order and among whatever others. -/
theorem GoType.spell_eq_spell_iff (registered : List PackageRef) {a b : GoType}
    (ha : a.PlainUnions) (hb : b.PlainUnions)
    (hrefs : ∀ ref ∈ a.refs ++ b.refs, ref.path ∈ registered.map (·.path)) {e f : Expr}
    (he : a.spell (ImportTable.empty.registerAll registered).qualify = .ok e)
    (hf : b.spell (ImportTable.empty.registerAll registered).qualify = .ok f) :
    e = f ↔ a.canonical = b.canonical := by
  have htells := ImportTable.tells_registerAll hrefs
  constructor
  · -- What the expression is read as is the canonical form of both types.
    rintro rfl
    have hterms := (a.terms_spell ha htells.left he).symm.trans (b.terms_spell hb htells.right hf)
    rw [← a.ofTerms_asTerms ha, hterms, b.ofTerms_asTerms hb]
  · intro hcanonical
    have hbyPath : Qualifier.ByPath (ImportTable.empty.registerAll registered).qualify :=
      fun _ => rfl
    have he := a.spell_canonical hbyPath he
    rw [hcanonical, b.spell_canonical hbyPath hf] at he
    exact (Except.ok.inj he).symm

/-! ## Three reports of a constraint -/

namespace Constraint

/-- Two packages named `util`. -/
def registered : List PackageRef :=
  [⟨"example.com/a/util", "util"⟩, ⟨"example.com/b/util", "util"⟩]

/-- How the `registered` packages are called. -/
def qualify : Qualifier := (ImportTable.empty.registerAll registered).qualify

/-- A constraint with a variadic signature, in which `key` stands for a type of a package. -/
def type (key rest error : GoType) : GoType :=
  .union [⟨true, .basic "int"⟩,
    ⟨false, .func ⟨[⟨"key", key⟩, ⟨"", rest⟩], [⟨"", error⟩], true⟩⟩]

/-- The spelling of the constraint. -/
def expr (package : String) : Expr :=
  .or (.tilde (.ident "int")) (.func ⟨[⟨some "key", .index (.selector package "Key") (.ident "T")⟩,
    ⟨none, .ellipsis (.ident "any")⟩], [⟨none, .ident "error"⟩]⟩)

def first : GoType :=
  type (.alias ⟨some ⟨"example.com/b/util", "util"⟩, "Key"⟩ [.typeParam "T"]) (.array 3 .any)
    (.basic "error")

/-- The type `first`, reported in another way wherever that is possible. -/
def second : GoType :=
  type (.named ⟨some ⟨"example.com/b/util", "tools"⟩, "Key"⟩ [.basic "T"]) (.slice (.basic "any"))
    (.named ⟨none, "error"⟩ [])

/-- The type `first` with the other package in place of the one. -/
def third : GoType :=
  type (.named ⟨some ⟨"example.com/a/util", "util"⟩, "Key"⟩ [.typeParam "T"]) (.slice .any)
    (.basic "error")

theorem plainUnions_type {key rest error : GoType} (hkey : key.PlainUnions)
    (hrest : rest.PlainUnions) (herror : error.PlainUnions) :
    (type key rest error).PlainUnions := by
  simp [type, GoType.PlainUnions, termsPlainUnions, Signature.PlainUnions, varsPlainUnions,
    GoType.isUnion, hkey, hrest, herror]

theorem plainUnions_first : first.PlainUnions :=
  plainUnions_type ⟨trivial, trivial⟩ trivial trivial

/-- The first two reports have one spelling and one `canonical` form, and the third one has
    others. -/
theorem spell_eq_spell_reports :
    (first.spell qualify = .ok (expr "util1") ∧ second.spell qualify = .ok (expr "util1") ∧
      first.canonical = second.canonical) ∧
    third.spell qualify = .ok (expr "util") ∧ first.canonical ≠ third.canonical := by
  have hfirst : first.spell qualify = .ok (expr "util1") := by rfl
  have hsecond : second.spell qualify = .ok (expr "util1") := by rfl
  have hthird : third.spell qualify = .ok (expr "util") := by rfl
  have hplain : second.PlainUnions := plainUnions_type ⟨trivial, trivial⟩ trivial trivial
  have hplain' : third.PlainUnions := plainUnions_type ⟨trivial, trivial⟩ trivial trivial
  -- One spelling, so one canonical form; another spelling, so another form.
  have hsame := GoType.spell_eq_spell_iff registered plainUnions_first hplain (by decide) hfirst
    hsecond
  have hother := GoType.spell_eq_spell_iff registered plainUnions_first hplain' (by decide) hfirst
    hthird
  refine ⟨⟨hfirst, hsecond, hsame.1 rfl⟩, hthird, fun hcanonical => ?_⟩
  exact absurd (hother.2 hcanonical) (by simp [expr])

end Constraint

end IfaceGen
