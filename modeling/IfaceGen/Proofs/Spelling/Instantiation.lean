import IfaceGen.Proofs.Spelling.Canonical
import IfaceGen.Proofs.Spelling.Culprit
import IfaceGen.Proofs.Types.FreeParams

/-!
# Spelling after a substitution

Type parameters may be replaced before a type is spelled or afterwards: spelling a type under a
substitution gives the spelling of the type with the type parameters replaced by the spellings of
what they are bound to. This is so as long as no other name in the expression looks like a type
parameter that is bound. Whether there is a spelling at all does not depend on names: a type that
can be spelled can be spelled with arguments that can be spelled.

## Key results

- `GoType.yields_subst` / `Signature.yields_subst`: the spelling under a substitution, part by part
- `Signature.fault?_subst`: a variadic signature still ends with a list
- `spell_instantiated`: substitution and spelling commute, and instances can be spelled
-/

namespace IfaceGen

/-! ## Replacing identifiers -/

mutual
/-- The expression with other expressions in the place of identifiers. Selectors stay as they
    are. -/
def Expr.replace (f : String → Option Expr) : Expr → Expr
  | .ident name => (f name).getD (.ident name)
  | .selector package name => .selector package name
  | .array len elem => .array len (elem.replace f)
  | .map key value => .map (key.replace f) (value.replace f)
  | .chan dir value => .chan dir (value.replace f)
  | .star elem => .star (elem.replace f)
  | .func type => .func (type.replace f)
  | .ellipsis elem => .ellipsis (elem.replace f)
  | .index base arg => .index (base.replace f) (arg.replace f)
  | .indexList base args => .indexList (base.replace f) (replaceExprs f args)
  | .or left right => .or (left.replace f) (right.replace f)
  | .tilde elem => .tilde (elem.replace f)

/-- `Expr.replace` on parameters and results. -/
def FuncType.replace (f : String → Option Expr) : FuncType → FuncType
  | ⟨params, results⟩ => ⟨replaceParams f params, replaceParams f results⟩

/-- `Expr.replace` on each expression. -/
def replaceExprs (f : String → Option Expr) : List Expr → List Expr
  | [] => []
  | expr :: exprs => expr.replace f :: replaceExprs f exprs

/-- `Expr.replace` on the type of each parameter. -/
def replaceParams (f : String → Option Expr) : List Param → List Param
  | [] => []
  | ⟨name, type⟩ :: params => ⟨name, type.replace f⟩ :: replaceParams f params
end

section Replace

variable (f : String → Option Expr)

theorem replaceParams_append (xs ys : List Param) :
    replaceParams f (xs ++ ys) = replaceParams f xs ++ replaceParams f ys := by
  induction xs with
  | nil => rfl
  | cons x xs ih =>
    obtain ⟨name, type⟩ := x
    rw [List.cons_append, replaceParams, replaceParams, ih, List.cons_append]

theorem Expr.replace_applied (base : Expr) (args : List Expr) :
    (base.applied args).replace f = (base.replace f).applied (replaceExprs f args) := by
  match args with
  | [] => rfl
  | [_] => rfl
  | _ :: _ :: _ => rfl

theorem Expr.replace_foldl_or (first : Expr) (exprs : List Expr) :
    (exprs.foldl .or first).replace f = (replaceExprs f exprs).foldl .or (first.replace f) := by
  induction exprs generalizing first with
  | nil => rfl
  | cons second exprs ih => exact ih (.or first second)

end Replace

/-! ## Names that a substitution leaves alone -/

/-- What the type parameters of a substitution are replaced by in expressions, for
    `Expr.replace`. -/
def Subst.replacing (s : Subst) (images : String → Expr) (name : String) : Option Expr :=
  (s.get? name).map fun _ => images name

/-- `images` gives the spellings of what the type parameters in `params` are bound to. -/
def Subst.SpelledAs (s : Subst) (qualify : Qualifier) (images : String → Expr)
    (params : List String) : Prop :=
  ∀ param ∈ params, ∀ bound, s.get? param = some bound → bound.spell qualify = .ok (images param)

/-- No bare name but that of a type parameter is bound by the substitution. -/
def Subst.Spares (s : Subst) (qualify : Qualifier) (mentions : List Mention) : Prop :=
  ∀ name, Mention.declared name ∈ mentions → name.pkg.bind qualify = none →
    s.get? name.name = none

section Spares

variable {s : Subst} {qualify : Qualifier} {images : String → Expr}

theorem Subst.spelledAs_append {xs ys : List String} :
    s.SpelledAs qualify images (xs ++ ys) ↔
      s.SpelledAs qualify images xs ∧ s.SpelledAs qualify images ys :=
  List.forall_mem_append

theorem Subst.spares_append {xs ys : List Mention} :
    s.Spares qualify (xs ++ ys) ↔ s.Spares qualify xs ∧ s.Spares qualify ys := by
  simp only [Spares, List.mem_append, or_imp, forall_and]

theorem Subst.spares_cons {name : TypeName} {mentions : List Mention} :
    s.Spares qualify (.declared name :: mentions) ↔
      (name.pkg.bind qualify = none → s.get? name.name = none) ∧ s.Spares qualify mentions := by
  simp only [Spares, List.mem_cons, Mention.declared.injEq, or_imp, forall_and, forall_eq]

/-- A name that a substitution spares (`Subst.Spares`) stays under `Expr.replace`. -/
theorem TypeName.replace_spell {name : TypeName}
    (h : name.pkg.bind qualify = none → s.get? name.name = none) :
    (name.spell qualify).replace (s.replacing images) = name.spell qualify := by
  rw [TypeName.spell]
  cases hqualify : name.pkg.bind qualify with
  | none => simp only [Expr.replace, Subst.replacing, h hqualify, Option.map_none, Option.getD_none]
  | some qualifier => rfl

end Spares

/-! ## Spelling part by part -/

/-- The computation succeeds, and its result is the one expected if `spared` holds. -/
def Yields {α : Type} (spared : Prop) (computation : Spelled α) (expected : α) : Prop :=
  ∃ result, computation = .ok result ∧ (spared → result = expected)

namespace Yields

variable {α β γ : Type} {spared : Prop} {x : Spelled α} {y : Spelled β} {a : α} {b : β}

theorem ok {expected : α} (h : spared → a = expected) : Yields spared (.ok a) expected :=
  ⟨a, rfl, h⟩

theorem inside (h : Yields spared x a) (position : Position) :
    Yields spared (Spelled.inside position x) a := by
  obtain ⟨result, hresult, heq⟩ := h
  exact ⟨result, inside_eq_ok.2 hresult, heq⟩

theorem bind_pure (h : Yields spared x a) (f : α → β) :
    Yields spared (do let a ← x; return f a) (f a) := by
  obtain ⟨result, rfl, heq⟩ := h
  exact ⟨f result, rfl, fun hspared => by rw [heq hspared]⟩

theorem bind_bind_pure (hx : Yields spared x a) (hy : Yields spared y b) (f : α → β → γ) :
    Yields spared (do let a ← x; let b ← y; return f a b) (f a b) := by
  obtain ⟨first, rfl, hfirst⟩ := hx
  obtain ⟨second, rfl, hsecond⟩ := hy
  exact ⟨f first second, rfl, fun hspared => by rw [hfirst hspared, hsecond hspared]⟩

end Yields

/-! ## Variadic signatures under a substitution -/

/-- A substitution keeps lists in the sense of `GoType.isList`. -/
theorem GoType.isList_subst (s : Subst) {type : GoType} (h : type.isList = true) :
    (type.subst s).isList = true := by
  induction type using GoType.isList.induct with
  | case1 len elem | case2 elem => rfl
  | case3 type ih => exact ih h
  | case4 type harray hslice hunion =>
    rw [GoType.isList.eq_4 type harray hslice hunion] at h
    cases h

theorem getLast?_substVars (s : Subst) (vars : List Var) :
    (substVars s vars).getLast? = vars.getLast?.map fun var => ⟨var.name, var.type.subst s⟩ := by
  have hmap : substVars s vars = vars.map fun var => ⟨var.name, var.type.subst s⟩ := by
    induction vars with
    | nil => rfl
    | cons var vars ih =>
      obtain ⟨name, type⟩ := var
      rw [substVars, ih, List.map_cons]
  rw [hmap, List.getLast?_map]

/-- A variadic signature that ends with a list still does so under a substitution: no `fault?` comes
    in. -/
theorem Signature.fault?_subst (s : Subst) {signature : Signature} (h : signature.fault? = none) :
    (signature.subst s).fault? = none := by
  obtain ⟨params, results, variadic⟩ := signature
  cases variadic with
  | false => rfl
  | true =>
    rw [Signature.subst, Signature.fault?, getLast?_substVars]
    rw [Signature.fault?] at h
    cases hlast : params.getLast? with
    | none =>
      rw [hlast] at h
      cases h
    | some last =>
      rw [hlast] at h
      -- There is no fault, so the last parameter is a list.
      have hlist : last.type.isList = true := by
        by_contra hother
        simp only [hother, if_false, reduceCtorEq] at h
      simp only [Option.map_some, GoType.isList_subst s hlist, if_true]

/-- The parameters of a variadic signature are written alike, whether the type parameters are
    replaced before or after `variadicParams`. -/
theorem yields_variadicParams {s : Subst} {qualify : Qualifier} {images : String → Expr}
    {params : List Var} {spelled variadic spelled' : List Param} {spared : Prop}
    (hspelled : spellVars qualify .param 0 params = .ok spelled)
    (hvariadic : variadicParams params.getLast? spelled = .ok variadic)
    (hspelled' : spellVars qualify .param 0 (substVars s params) = .ok spelled')
    (hsame : spared → spelled' = replaceParams (s.replacing images) spelled) :
    Yields spared (variadicParams (substVars s params).getLast? spelled')
      (replaceParams (s.replacing images) variadic) := by
  -- The last parameter is a list before the substitution, and hence afterwards.
  have hfault : Signature.fault? ⟨params, [], true⟩ = none := by
    rw [← error?_variadicParams [] hspelled, hvariadic]
    rfl
  have hfault' : Signature.fault? ⟨substVars s params, [], true⟩ = none :=
    Signature.fault?_subst s hfault
  rw [← error?_variadicParams [] hspelled', error?_eq_none_iff] at hfault'
  obtain ⟨variadic', hvariadic'⟩ := hfault'
  refine ⟨variadic', hvariadic', fun hspared => ?_⟩
  obtain ⟨front, name, len, elem, rfl, rfl⟩ := variadicParams_eq_ok hvariadic
  rw [hsame hspared, replaceParams_append] at hvariadic'
  have hexpected := variadicParams_concat (substVars s params).getLast?
    (replaceParams (s.replacing images) front) name len (elem.replace (s.replacing images))
  rw [replaceParams_append]
  exact Except.ok.inj (hvariadic'.symm.trans hexpected)

/-! ## Types under a substitution -/

section Subst

variable {s : Subst} {qualify : Qualifier} {images : String → Expr} {spared : Prop}

mutual
/-- The spelling of a type under a substitution is that of the type under `Expr.replace`, if the
    names are spared. -/
theorem GoType.yields_subst : (type : GoType) → {expr : Expr} → type.spell qualify = .ok expr →
    s.SpelledAs qualify images type.freeParams → (spared → s.Spares qualify type.mentions) →
    Yields spared ((type.subst s).spell qualify) (expr.replace (s.replacing images))
  | .basic name, expr, h, _, hspares => by
    cases h
    refine .ok fun hspared => ?_
    have hname : s.get? name = none := hspares hspared ⟨none, name⟩ List.mem_cons_self rfl
    simp only [Expr.replace, Subst.replacing, hname, Option.map_none, Option.getD_none]
  | .interface [] [], expr, h, _, hspares => by
    cases h
    refine .ok fun hspared => ?_
    have hname : s.get? "any" = none := hspares hspared ⟨none, "any"⟩ List.mem_cons_self rfl
    simp only [Expr.replace, Subst.replacing, hname, Option.map_none, Option.getD_none]
  | .typeParam name, expr, h, himages, _ => by
    cases h
    rw [GoType.subst, Expr.replace, Subst.replacing]
    -- A parameter that is not bound stays as it is.
    cases hget : s.get? name with
    | none => exact .ok fun _ => rfl
    | some bound =>
      have hbound := himages name List.mem_cons_self bound hget
      exact ⟨images name, hbound, fun _ => rfl⟩
  | .array _ elem, expr, h, himages, hspares | .slice elem, expr, h, himages, hspares
  | .chan _ elem, expr, h, himages, hspares | .pointer elem, expr, h, himages, hspares => by
    simp only [GoType.spell, bind_eq_ok, inside_eq_ok, pure_eq_ok] at h
    obtain ⟨spelled, helem, rfl⟩ := h
    exact ((elem.yields_subst helem himages hspares).inside _).bind_pure _
  | .map key elem, expr, h, himages, hspares => by
    simp only [GoType.spell, bind_eq_ok, inside_eq_ok, pure_eq_ok] at h
    obtain ⟨spelledKey, hkey, spelledElem, helem, rfl⟩ := h
    have himages := Subst.spelledAs_append.1 himages
    have hkey' := key.yields_subst hkey himages.1 fun h => (Subst.spares_append.1 (hspares h)).1
    have helem' := elem.yields_subst helem himages.2 fun h => (Subst.spares_append.1 (hspares h)).2
    exact (hkey'.inside _).bind_bind_pure (helem'.inside _) Expr.map
  | .interface (_ :: _) _, expr, h, _, _ | .interface [] (_ :: _), expr, h, _, _
  | .struct _, expr, h, _, _ | .unknown, expr, h, _, _ => by
    simp only [GoType.spell, reduceCtorEq] at h
  | .func signature, expr, h, himages, hspares => by
    simp only [GoType.spell, bind_eq_ok, pure_eq_ok] at h
    obtain ⟨type, htype, rfl⟩ := h
    exact (signature.yields_subst htype himages hspares).bind_pure Expr.func
  | .named name args, expr, h, himages, hspares | .alias name args, expr, h, himages, hspares => by
    simp only [GoType.spell, bind_eq_ok, pure_eq_ok] at h
    obtain ⟨spelled, hargs, rfl⟩ := h
    have hargs' := yields_substTypes args hargs himages fun h =>
      (Subst.spares_cons.1 (hspares h)).2
    -- The arguments are replaced; the name itself is spared.
    obtain ⟨result, hresult, heq⟩ := hargs'.bind_pure (name.spell qualify).applied
    refine ⟨result, hresult, fun hspared => ?_⟩
    rw [heq hspared, Expr.replace_applied,
      TypeName.replace_spell (Subst.spares_cons.1 (hspares hspared)).1]
  | .union terms, expr, h, himages, hspares => by
    simp only [GoType.spell, bind_eq_ok] at h
    obtain ⟨spelled, hterms, h⟩ := h
    obtain ⟨spelled', hterms', heq⟩ := yields_substTerms terms hterms himages hspares
    rw [GoType.subst, GoType.spell]
    simp only [hterms']
    cases terms with
    | nil =>
      cases hterms
      cases h
    | cons term terms =>
      -- There is a first term, so that there is a union before and afterwards.
      obtain ⟨tilde, type⟩ := term
      simp only [spellTerms, substTerms, bind_eq_ok, inside_eq_ok, pure_eq_ok] at hterms hterms'
      obtain ⟨first, -, rest, -, rfl⟩ := hterms
      obtain ⟨first', -, rest', -, rfl⟩ := hterms'
      cases h
      refine ⟨_, rfl, fun hspared => ?_⟩
      obtain ⟨hfirst, hrest⟩ := List.cons.inj (heq hspared)
      rw [Expr.replace_foldl_or, ← hfirst, ← hrest]

/-- The spelling of a signature under a substitution is that of the signature under
    `FuncType.replace`, if the names are spared. -/
theorem Signature.yields_subst : (signature : Signature) → {type : FuncType} →
    signature.spell qualify = .ok type → s.SpelledAs qualify images signature.freeParams →
    (spared → s.Spares qualify signature.mentions) →
    Yields spared ((signature.subst s).spell qualify) (type.replace (s.replacing images))
  | ⟨params, results, variadic⟩, type, h, himages, hspares => by
    simp only [Signature.spell, bind_eq_ok] at h
    obtain ⟨spelledParams, hparams, spelledResults, hresults, h⟩ := h
    have himages := Subst.spelledAs_append.1 himages
    have hparams' := yields_substVars params hparams himages.1 fun h =>
      (Subst.spares_append.1 (hspares h)).1
    have hresults' := yields_substVars results hresults himages.2 fun h =>
      (Subst.spares_append.1 (hspares h)).2
    cases variadic with
    | false =>
      cases h
      exact hparams'.bind_bind_pure hresults' FuncType.mk
    | true =>
      simp only [if_true, bind_eq_ok, pure_eq_ok] at h
      obtain ⟨variadicParams, hvariadic, rfl⟩ := h
      obtain ⟨params', hparams', hsame⟩ := hparams'
      obtain ⟨results', hresults', hsameResults⟩ := hresults'
      -- The ellipsis at the end comes after the substitution on the one side, and before on the
      -- other.
      obtain ⟨last', hlast', hsameLast⟩ :=
        yields_variadicParams hparams hvariadic hparams' hsame
      refine ⟨⟨last', results'⟩, ?_, fun hspared => ?_⟩
      · simp only [Signature.subst, Signature.spell, bind_eq_ok, if_true, pure_eq_ok]
        exact ⟨params', hparams', results', hresults', last', hlast', rfl⟩
      · rw [hsameLast hspared, hsameResults hspared, FuncType.replace]

theorem yields_substTypes {index : Nat} : (types : List GoType) → {exprs : List Expr} →
    spellArgs qualify index types = .ok exprs →
    s.SpelledAs qualify images (typesFreeParams types) →
    (spared → s.Spares qualify (typesMentions types)) →
    Yields spared (spellArgs qualify index (substTypes s types))
      (replaceExprs (s.replacing images) exprs)
  | [], exprs, h, _, _ => by
    cases h
    exact .ok fun _ => rfl
  | type :: types, exprs, h, himages, hspares => by
    simp only [spellArgs, bind_eq_ok, inside_eq_ok, pure_eq_ok] at h
    obtain ⟨expr, htype, others, htypes, rfl⟩ := h
    have himages := Subst.spelledAs_append.1 himages
    have hfirst := type.yields_subst htype himages.1 fun h =>
      (Subst.spares_append.1 (hspares h)).1
    have hrest := yields_substTypes types htypes himages.2 fun h =>
      (Subst.spares_append.1 (hspares h)).2
    exact (hfirst.inside _).bind_bind_pure hrest List.cons

theorem yields_substVars {position : Nat → Position} {index : Nat} : (vars : List Var) →
    {params : List Param} → spellVars qualify position index vars = .ok params →
    s.SpelledAs qualify images (varsFreeParams vars) →
    (spared → s.Spares qualify (varsMentions vars)) →
    Yields spared (spellVars qualify position index (substVars s vars))
      (replaceParams (s.replacing images) params)
  | [], params, h, _, _ => by
    cases h
    exact .ok fun _ => rfl
  | ⟨name, type⟩ :: vars, params, h, himages, hspares => by
    simp only [spellVars, bind_eq_ok, inside_eq_ok, pure_eq_ok] at h
    obtain ⟨expr, htype, others, hvars, rfl⟩ := h
    have himages := Subst.spelledAs_append.1 himages
    -- The type of the first variable, then the variables behind it.
    have hfirst := type.yields_subst htype himages.1 fun h =>
      (Subst.spares_append.1 (hspares h)).1
    have hrest := yields_substVars vars hvars himages.2 fun h =>
      (Subst.spares_append.1 (hspares h)).2
    exact (hfirst.inside _).bind_bind_pure hrest fun expr params => .ofName name expr :: params

theorem yields_substTerms {index : Nat} : (terms : List Term) → {exprs : List Expr} →
    spellTerms qualify index terms = .ok exprs →
    s.SpelledAs qualify images (termsFreeParams terms) →
    (spared → s.Spares qualify (termsMentions terms)) →
    Yields spared (spellTerms qualify index (substTerms s terms))
      (replaceExprs (s.replacing images) exprs)
  | [], exprs, h, _, _ => by
    cases h
    exact .ok fun _ => rfl
  | ⟨tilde, type⟩ :: terms, exprs, h, himages, hspares => by
    simp only [spellTerms, bind_eq_ok, inside_eq_ok, pure_eq_ok] at h
    obtain ⟨expr, htype, others, hterms, rfl⟩ := h
    have himages := Subst.spelledAs_append.1 himages
    have hfirst := type.yields_subst htype himages.1 fun h =>
      (Subst.spares_append.1 (hspares h)).1
    have hrest := yields_substTerms terms hterms himages.2 fun h =>
      (Subst.spares_append.1 (hspares h)).2
    -- The tilde of a term is kept.
    have hterm : (if tilde then Expr.tilde expr else expr).replace (s.replacing images) =
        if tilde then .tilde (expr.replace (s.replacing images))
          else expr.replace (s.replacing images) := by
      cases tilde <;> rfl
    rw [replaceExprs, hterm]
    exact (hfirst.inside _).bind_bind_pure hrest fun expr exprs =>
      (if tilde then .tilde expr else expr) :: exprs
end

end Subst

/-! ## The square -/

/-- Whether a name is that of a type parameter. -/
def Mention.isTypeParam : Mention → Bool
  | .typeParam _ => true
  | .declared _ => false

/-- The names of an expression tell which bare names a substitution has to spare
    (`Subst.Spares`). -/
theorem Subst.spares_of_names {s : Subst} {qualify : Qualifier} {names : List WrittenName}
    {mentions : List Mention} (hnames : names = mentions.map (·.written qualify))
    (h : ∀ pair ∈ names.zip mentions, pair.1.qualifier = none → (s.get? pair.1.name).isSome →
      pair.2.isTypeParam) : s.Spares qualify mentions := by
  subst hnames
  intro name hname hbare
  by_contra hbound
  -- The name stands in the expression at the place where it is mentioned.
  have hpair : (Mention.written qualify (.declared name), Mention.declared name) ∈
      (mentions.map (·.written qualify)).zip mentions := by
    rw [← List.map_id mentions, List.map_map, List.zip_map', List.mem_map]
    exact ⟨_, hname, rfl⟩
  have hparam := h _ hpair hbare (Option.isSome_iff_ne_none.2 hbound)
  cases hparam

/-- Substitution and spelling commute: where every type parameter of a type that is bound is bound
    to a type with a spelling, and no other bare name of its expression is bound, the type is
    spelled under the substitution like itself, with the spellings in the place of the type
    parameters. A signature can be spelled under every substitution by types with spellings. -/
theorem spell_instantiated (s : Subst) (qualify : Qualifier) :
    (∀ (type : GoType) (expr : Expr) (images : String → Expr), type.spell qualify = .ok expr →
      (∀ param ∈ type.freeParams, ∀ bound, s.get? param = some bound →
        bound.spell qualify = .ok (images param)) →
      (∀ pair ∈ expr.names.zip type.mentions, pair.1.qualifier = none →
        (s.get? pair.1.name).isSome → pair.2.isTypeParam) →
      (type.subst s).spell qualify =
        .ok (expr.replace (s.replacing images))) ∧
    ∀ (signature : Signature) (type : FuncType), signature.spell qualify = .ok type →
      (∀ param ∈ signature.freeParams, ∀ bound, s.get? param = some bound →
        ∃ image, bound.spell qualify = .ok image) →
      ∃ instantiated, (signature.subst s).spell qualify = .ok instantiated := by
  refine ⟨fun type expr images hspell himages hnames => ?_,
    fun signature type hspell hbound => ?_⟩
  · have hspares := Subst.spares_of_names (GoType.names_spell type hspell) hnames
    obtain ⟨result, hresult, heq⟩ := type.yields_subst hspell himages fun _ : True => hspares
    rw [hresult, heq trivial]
  · -- Without a word about names the result is not known, but there is one.
    choose! image himage using hbound
    have himages : s.SpelledAs qualify
        (fun param => image param ((s.get? param).getD .unknown)) signature.freeParams := by
      intro param hparam bound hget
      simp only [himage param hparam bound hget, hget, Option.getD_some]
    have hnothing : False → s.Spares qualify signature.mentions := False.elim
    obtain ⟨result, hresult, -⟩ := signature.yields_subst hspell himages hnothing
    exact ⟨result, hresult⟩

/-! ## A variadic method of a generic type -/

namespace Cabinet

/-- A method that takes a key and any number of pairs. -/
def signature : Signature :=
  ⟨[⟨"key", .typeParam "K"⟩,
      ⟨"rest", .slice (.named ⟨some ⟨"example.com/pair", "pair"⟩, "Pair"⟩
        [.typeParam "K", .typeParam "V"])⟩],
    [⟨"", .map (.typeParam "K") (.typeParam "V")⟩, ⟨"", .named ⟨none, "error"⟩ []⟩], true⟩

/-- Keys are strings, and values are pointers to a type of another package. -/
def args : Subst :=
  [("K", .basic "string"), ("V", .pointer (.named ⟨some ⟨"example.com/item", "item"⟩, "Item"⟩ []))]

/-- How the types in `args` are written. -/
def images (param : String) : Expr :=
  if param = "K" then .ident "string" else .star (.selector "item" "Item")

/-- The parameters and results of the method where the key and the value are written so. -/
def written (key value : Expr) : FuncType :=
  ⟨[⟨some "key", key⟩,
      ⟨some "rest", .ellipsis (.indexList (.selector "pair" "Pair") [key, value])⟩],
    [⟨none, .map key value⟩, ⟨none, .ident "error"⟩]⟩

/-- The method of the instance is the method with the arguments in the place of `K` and `V`. -/
theorem spell_instantiated_signature :
    (GoType.func signature).spell (fun ref => some ref.name) =
        .ok (.func (written (.ident "K") (.ident "V"))) ∧
      ((GoType.func signature).subst args).spell (fun ref => some ref.name) =
        .ok (.func (written (.ident "string") (.star (.selector "item" "Item")))) ∧
      ∃ instantiated, (signature.subst args).spell (fun ref => some ref.name) =
        .ok instantiated := by
  have hspell : (GoType.func signature).spell (fun ref => some ref.name) =
      .ok (.func (written (.ident "K") (.ident "V"))) := rfl
  have himages : ∀ param ∈ (GoType.func signature).freeParams, ∀ bound,
      args.get? param = some bound →
        bound.spell (fun ref => some ref.name) = .ok (images param) := by
    intro param hparam bound hbound
    -- The signature refers to two type parameters, some of them several times.
    have hparams : param = "K" ∨ param = "V" := by
      have hmem : param ∈ ["K", "K", "V", "K", "V"] := hparam
      simp only [List.mem_cons, List.not_mem_nil, or_false] at hmem
      tauto
    rcases hparams with rfl | rfl
    · cases hbound
      rfl
    · cases hbound
      rfl
  obtain ⟨hcommutes, hsucceeds⟩ := spell_instantiated args fun ref => some ref.name
  refine ⟨hspell, hcommutes (.func signature) _ images hspell himages ?_,
    hsucceeds signature _ rfl fun param hparam bound hbound => ?_⟩
  · decide
  · exact ⟨images param, himages param hparam bound hbound⟩

end Cabinet

end IfaceGen
