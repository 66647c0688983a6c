import IfaceGen.Generate.Error
import IfaceGen.Proofs.List
import IfaceGen.Proofs.Spelling.Mentions

/-!
# What failures of spelling are about

A type is spelled after its parts, from left to right, so that several things may be wrong with one
type while only one of them is reported. The failure says where: its positions lead to the first
type with which something is wrong, and its root says what that is. The only thing that is wrong
with a signature is looked for in an expression, but depends on the type of the last parameter
alone; so nothing of a failure depends on how packages are called.

## Key results

- `GoType.error?_spell`: a type fails as the first of its parts does, or else by its own fault
- `GoType.isArray_spell`: the types whose expressions are lists
- `GoType.exists_blames`: every failure names the first culprit
- `GoType.error?_spell_eq`: the failure does not depend on the qualifier
- `GoType.spell_blames`: which types fail to be spelled, and what is to blame
-/

namespace IfaceGen

/-! ## The parts of a type -/

/-- Types with their positions, counted from the given number on. -/
def numbered (position : Nat → Position) (index : Nat) (types : List GoType) :
    List (Position × GoType) :=
  (types.zipIdx index).map fun (type, index) => (position index, type)

/-- The parts of a type that `GoType.spell` spells first, in the order in which they are. -/
def GoType.parts : GoType → List (Position × GoType)
  | .array _ elem => [(.arrayElem, elem)]
  | .slice elem => [(.sliceElem, elem)]
  | .map key elem => [(.mapKey, key), (.mapValue, elem)]
  | .chan _ elem => [(.chanElem, elem)]
  | .pointer elem => [(.pointerElem, elem)]
  | .func ⟨params, results, _⟩ =>
    numbered .param 0 (params.map (·.type)) ++ numbered .result 0 (results.map (·.type))
  | .named _ args | .alias _ args => numbered .typeArg 0 args
  | .union terms => numbered .unionTerm 0 (terms.map (·.type))
  | .basic _ | .typeParam _ | .interface .. | .struct _ | .unknown => []

/-- Whether a type is spelled as a list: an array, a slice, or a union of nothing but a list.
    `GoType.isArray_spell` says that it is so. -/
def GoType.isList : GoType → Bool
  | .array .. | .slice _ => true
  | .union [⟨false, type⟩] => type.isList
  | _ => false

/-- What is wrong with a signature itself: a variadic one has to end with a list, as
    `variadicParams` demands. -/
def Signature.fault? : Signature → Option SpellError
  | ⟨_, _, false⟩ => none
  | ⟨params, _, true⟩ =>
    match params.getLast? with
    | none => some (.invalidVariadic "no parameters")
    | some last =>
      if last.type.isList then none else some (.invalidVariadic last.type.kindName)

/-- What is wrong with a type itself, its parts aside. -/
def GoType.fault? : GoType → Option SpellError
  | .basic _ | .array .. | .slice _ | .map .. | .chan .. | .pointer _ | .named .. | .alias ..
  | .typeParam _ | .interface [] [] => none
  | type@(.interface ..) | type@(.struct _) | type@.unknown => some (.unsupported type.kindName)
  | .func signature => signature.fault?
  | .union terms => if terms.isEmpty then some .emptyUnion else none

/-! ## What the failure of a type comes from -/

/-- The failure of a part, with its position: an error of `GoType.spell` inside of it. -/
def failure (qualify : Qualifier) (part : Position × GoType) : Option SpellError :=
  (error? (part.2.spell qualify)).map (.inside part.1)

section Steps

variable {α β γ : Type}

@[simp] theorem error?_inside (position : Position) (x : Spelled α) :
    error? (Spelled.inside position x) = (error? x).map (.inside position) := by
  cases x with
  | error error => rfl
  | ok a => rfl

/-- A step that is the last one to fail decides `error?`. -/
theorem error?_bind_pure (x : Spelled α) (f : α → β) :
    error? (do let a ← x; return f a) = error? x := by
  cases x with
  | error error => rfl
  | ok a => rfl

/-- Of two steps the first one that fails is reported by `error?`. -/
theorem error?_bind_bind_pure (x : Spelled α) (y : Spelled β) (f : α → β → γ) :
    error? (do let a ← x; let b ← y; return f a b) = (error? x).or (error? y) := by
  cases x with
  | error error => rfl
  | ok a => exact error?_bind_pure y (f a)

end Steps

/-- Of `numbered` parts the first one that fails is reported. -/
theorem findSome?_numbered_cons (qualify : Qualifier) (position : Nat → Position) (index : Nat)
    (type : GoType) (types : List GoType) :
    (numbered position index (type :: types)).findSome? (failure qualify) =
      ((error? (type.spell qualify)).map (.inside (position index))).or
        ((numbered position (index + 1) types).findSome? (failure qualify)) := by
  rw [numbered, List.zipIdx_cons, List.map_cons, List.findSome?_cons, failure]
  cases (error? (type.spell qualify)).map (SpellError.inside (position index)) with
  | none => rfl
  | some error => rfl

theorem error?_spellArgs (qualify : Qualifier) (index : Nat) (args : List GoType) :
    error? (spellArgs qualify index args) =
      (numbered .typeArg index args).findSome? (failure qualify) := by
  induction args generalizing index with
  | nil => rfl
  | cons arg args ih =>
    rw [spellArgs, error?_bind_bind_pure, error?_inside, ih, findSome?_numbered_cons]

theorem error?_spellVars (qualify : Qualifier) (position : Nat → Position) (index : Nat)
    (vars : List Var) :
    error? (spellVars qualify position index vars) =
      (numbered position index (vars.map (·.type))).findSome? (failure qualify) := by
  induction vars generalizing index with
  | nil => rfl
  | cons var vars ih =>
    obtain ⟨name, type⟩ := var
    rw [spellVars, error?_bind_bind_pure, error?_inside, ih, List.map_cons,
      findSome?_numbered_cons]

theorem error?_spellTerms (qualify : Qualifier) (index : Nat) (terms : List Term) :
    error? (spellTerms qualify index terms) =
      (numbered .unionTerm index (terms.map (·.type))).findSome? (failure qualify) := by
  induction terms generalizing index with
  | nil => rfl
  | cons term terms ih =>
    obtain ⟨tilde, type⟩ := term
    rw [spellTerms, error?_bind_bind_pure, error?_inside, ih, List.map_cons,
      findSome?_numbered_cons]

/-! ## Variadic signatures -/

/-- Whether an expression is that of an array or a slice, which Go code writes alike. -/
def Expr.isArray : Expr → Bool
  | .array .. => true
  | _ => false

theorem Expr.isArray_applied (qualify : Qualifier) (name : TypeName) (args : List Expr) :
    ((name.spell qualify).applied args).isArray = false := by
  match args with
  | [] =>
    rw [Expr.applied, TypeName.spell]
    cases name.pkg.bind qualify with
    | none => rfl
    | some qualifier => rfl
  | [_] => rfl
  | _ :: _ :: _ => rfl

/-- A union of several terms is no list (`Expr.isArray`), whatever the terms are. -/
theorem Expr.isArray_foldl_or (first second : Expr) (exprs : List Expr) :
    ((second :: exprs).foldl .or first).isArray = false := by
  induction exprs generalizing first second with
  | nil => rfl
  | cons third exprs ih => exact ih (.or first second) third

/-- The expression that `Expr.union?` makes of some terms is a list only if there is one term,
    without a tilde, and that is spelled so. -/
theorem exists_term_of_isArray {qualify : Qualifier} {terms : List Term} {exprs : List Expr}
    {expr : Expr} (hterms : spellTerms qualify 0 terms = .ok exprs)
    (hunion : Expr.union? exprs = some expr) (harray : expr.isArray = true) :
    ∃ type, terms = [⟨false, type⟩] ∧ type.spell qualify = .ok expr := by
  match terms with
  | [] =>
    cases hterms
    cases hunion
  | [⟨tilde, type⟩] =>
    simp only [spellTerms, bind_eq_ok, inside_eq_ok, pure_eq_ok, Except.ok.injEq] at hterms
    obtain ⟨first, hfirst, _, rfl, rfl⟩ := hterms
    cases hunion
    cases tilde with
    | true => cases harray
    | false => exact ⟨type, rfl, hfirst⟩
  | ⟨_, type⟩ :: ⟨_, next⟩ :: rest =>
    simp only [spellTerms, bind_eq_ok, inside_eq_ok, pure_eq_ok] at hterms
    obtain ⟨first, -, _, ⟨second, -, others, -, rfl⟩, rfl⟩ := hterms
    cases hunion
    -- Two terms are joined by a bar, and that is no list.
    rw [Expr.isArray_foldl_or] at harray
    cases harray

/-- The types that are spelled as lists are those that `GoType.isList` tells. -/
theorem GoType.isArray_spell {qualify : Qualifier} (type : GoType) {expr : Expr}
    (h : type.spell qualify = .ok expr) : expr.isArray = type.isList := by
  -- The cases are those of `GoType.isList`: lists, a union of one term, and all other types.
  induction type using GoType.isList.induct generalizing expr with
  | case1 len elem | case2 elem =>
    simp only [GoType.spell, bind_eq_ok, pure_eq_ok] at h
    obtain ⟨spelled, -, rfl⟩ := h
    rw [Expr.isArray, GoType.isList]
  | case3 type ih =>
    -- The only term of the union is spelled as its type, and nothing is joined to it.
    simp only [GoType.spell, spellTerms, bind_eq_ok, inside_eq_ok, pure_eq_ok,
      Except.ok.injEq] at h
    obtain ⟨_, ⟨spelled, hspelled, _, rfl, rfl⟩, hunion⟩ := h
    cases hunion
    rw [GoType.isList]
    exact ih hspelled
  | case4 type harray hslice hunion =>
    rw [GoType.isList.eq_4 type harray hslice hunion]
    -- No other type is spelled as a list, which each form of expression shows.
    cases type with
    | array len elem => exact absurd rfl (harray _ _)
    | slice elem => exact absurd rfl (hslice _)
    | union terms =>
      simp only [GoType.spell, bind_eq_ok] at h
      obtain ⟨exprs, hterms, h⟩ := h
      split at h
      · rename_i spelled hspelled
        cases h
        -- Only a union of one type can be spelled as a list, and that is the case before this one.
        by_contra hlist
        obtain ⟨type, rfl, -⟩ :=
          exists_term_of_isArray hterms hspelled (Bool.eq_true_of_not_eq_false hlist)
        exact hunion type rfl
      · cases h
    | basic name | typeParam name =>
      cases h
      rfl
    -- Of the interface literals the empty one alone has a spelling.
    | interface embeddeds methods =>
      cases embeddeds with
      | nil =>
        cases methods with
        | nil =>
          cases h
          rfl
        | cons method methods => cases h
      | cons embedded embeddeds => cases h
    | struct fields => cases h
    | unknown => cases h
    | map key elem =>
      simp only [GoType.spell, bind_eq_ok, pure_eq_ok] at h
      obtain ⟨_, -, _, -, rfl⟩ := h
      rfl
    | chan _ _ | pointer _ | func _ =>
      simp only [GoType.spell, bind_eq_ok, pure_eq_ok] at h
      obtain ⟨_, -, rfl⟩ := h
      rfl
    | named name _ | «alias» name _ =>
      simp only [GoType.spell, bind_eq_ok, pure_eq_ok] at h
      obtain ⟨exprs, -, rfl⟩ := h
      exact Expr.isArray_applied qualify name exprs

/-- Each parameter that `spellVars` returns is spelled from one variable. -/
theorem forall₂_spellVars {qualify : Qualifier} {position : Nat → Position} {index : Nat}
    {vars : List Var} {params : List Param}
    (h : spellVars qualify position index vars = .ok params) :
    List.Forall₂ (fun var param => var.type.spell qualify = .ok param.type) vars params := by
  induction vars generalizing index params with
  | nil =>
    cases h
    exact .nil
  | cons var vars ih =>
    obtain ⟨name, type⟩ := var
    simp only [spellVars, bind_eq_ok, inside_eq_ok, pure_eq_ok] at h
    obtain ⟨expr, htype, others, hvars, rfl⟩ := h
    exact .cons htype (ih hvars)

/-- The check in `variadicParams` looks at the expression of the last parameter, which tells whether
    its type is a list. -/
theorem error?_variadicParams {qualify : Qualifier} {position : Nat → Position} {index : Nat}
    {params : List Var} (results : List Var) {spelled : List Param}
    (h : spellVars qualify position index params = .ok spelled) :
    error? (variadicParams params.getLast? spelled) =
      Signature.fault? ⟨params, results, true⟩ := by
  have hlast := forall₂_getLast? (forall₂_spellVars h)
  rw [Signature.fault?, variadicParams.eq_def]
  generalize params.getLast? = last? at hlast ⊢
  generalize spelled.getLast? = param? at hlast ⊢
  cases hlast with
  | none => rfl
  | @some last param htype =>
    -- The expression of the last parameter is a list if and only if its type is one.
    have harray := last.type.isArray_spell htype
    obtain ⟨name, expr⟩ := param
    show _ = if last.type.isList = true then none else _
    rw [← harray]
    cases expr with
    | array len elem => rfl
    | _ => rfl

/-! ## Faults -/

/-- A signature fails to be spelled if one of its `parts` does, and then as the first of them, or
    else if something is wrong with the signature itself (`Signature.fault?`). -/
theorem Signature.error?_spell (qualify : Qualifier) (signature : Signature) :
    error? (signature.spell qualify) =
      ((GoType.func signature).parts.findSome? (failure qualify)).or signature.fault? := by
  obtain ⟨params, results, variadic⟩ := signature
  rw [GoType.parts, List.findSome?_append, ← error?_spellVars, ← error?_spellVars,
    Signature.spell]
  -- Parameters come before results, and the check for a list comes last.
  cases hparams : spellVars qualify .param 0 params with
  | error error => rfl
  | ok spelledParams =>
    cases hresults : spellVars qualify .result 0 results with
    | error error => rfl
    | ok spelledResults =>
      cases variadic with
      | false => rfl
      | true =>
        show error? (do let all ← _; return (⟨all, spelledResults⟩ : FuncType)) = _
        rw [error?_bind_pure, error?_variadicParams results hparams]
        rfl

/-- A type fails to be spelled if one of its `parts` does, and then as the first of them, or else if
    something is wrong with the type itself (`GoType.fault?`). -/
theorem GoType.error?_spell (qualify : Qualifier) (type : GoType) :
    error? (type.spell qualify) =
      (type.parts.findSome? (failure qualify)).or type.fault? := by
  match type with
  | .basic _ | .typeParam _ | .interface [] [] => rfl
  | .interface (_ :: _) _ | .interface [] (_ :: _) | .struct _ | .unknown => rfl
  | .array _ elem | .slice elem | .chan _ elem | .pointer elem =>
    rw [GoType.spell, error?_bind_pure, error?_inside, GoType.parts, List.findSome?_singleton,
      failure, GoType.fault?, Option.or_none]
  | .map key elem =>
    rw [GoType.spell, error?_bind_bind_pure, error?_inside, error?_inside]
    show _ = (([(Position.mapKey, key)] ++ [(Position.mapValue, elem)]).findSome?
      (failure qualify)).or none
    rw [List.findSome?_append, List.findSome?_singleton, List.findSome?_singleton,
      Option.or_none]
    rfl
  | .func signature =>
    rw [GoType.spell, error?_bind_pure, Signature.error?_spell, GoType.fault?]
  | .named name args | .alias name args =>
    rw [GoType.spell, error?_bind_pure, error?_spellArgs, GoType.parts, GoType.fault?,
      Option.or_none]
  | .union terms =>
    rw [GoType.spell, GoType.parts, ← error?_spellTerms, GoType.fault?]
    cases hterms : spellTerms qualify 0 terms with
    | error error => rfl
    | ok exprs =>
      -- A union has an expression if it has a term.
      cases terms with
      | nil =>
        cases hterms
        rfl
      | cons term terms =>
        obtain ⟨tilde, type⟩ := term
        simp only [spellTerms, bind_eq_ok, pure_eq_ok] at hterms
        obtain ⟨first, -, others, -, rfl⟩ := hterms
        rfl

/-! ## Following positions -/

/-- The part of a type at a position. -/
def GoType.part? (type : GoType) (position : Position) : Option GoType :=
  (type.parts.find? (·.1 = position)).map (·.2)

/-- The part of a type that some positions lead to, the outermost first. The path of a failure is
    followed so to the type that failed. -/
def GoType.follow : List Position → GoType → Option GoType
  | [], type => some type
  | position :: path, type => (type.part? position).bind (follow path)

/-- The positions on the way to the part that is to blame, which `SpellError.inside` has put around
    its failure. -/
def SpellError.path : SpellError → List Position
  | .inside position cause => position :: cause.path
  | _ => []

/-- Parts of one type are spelled from left to right: the key of a map before its value, and
    parameters before results. -/
inductive Position.Before : Position → Position → Prop
  | key : Before .mapKey .mapValue
  | params {i j : Nat} (h : i < j) : Before (.param i) (.param j)
  | paramResult (i j : Nat) : Before (.param i) (.result j)
  | results {i j : Nat} (h : i < j) : Before (.result i) (.result j)
  | typeArgs {i j : Nat} (h : i < j) : Before (.typeArg i) (.typeArg j)
  | unionTerms {i j : Nat} (h : i < j) : Before (.unionTerm i) (.unionTerm j)

/-- The order in which the parts inside a type are spelled: the parts of a type before the type
    itself. -/
inductive PathBefore : List Position → List Position → Prop
  | inner (position : Position) (path : List Position) : PathBefore (position :: path) []
  | part {position other : Position} (h : position.Before other) (path path' : List Position) :
      PathBefore (position :: path) (other :: path')
  | within {path path' : List Position} (position : Position) (h : PathBefore path path') :
      PathBefore (position :: path) (position :: path')

theorem Position.Before.ne {position other : Position} (h : position.Before other) :
    position ≠ other := by
  cases h with
  | key | paramResult _ _ => exact Position.noConfusion
  | params h | results h | typeArgs h | unionTerms h =>
    intro heq
    cases heq
    exact Nat.lt_irrefl _ h

theorem mem_numbered {position : Nat → Position} {index : Nat} {types : List GoType}
    {part : Position × GoType} (h : part ∈ numbered position index types) :
    ∃ i, index ≤ i ∧ part.1 = position i ∧ part.2 ∈ types := by
  obtain ⟨⟨type, i⟩, hmem, rfl⟩ := List.mem_map.1 h
  have hget := List.mem_zipIdx hmem
  exact ⟨i, hget.1, rfl, List.fst_mem_of_mem_zipIdx hmem⟩

theorem pairwise_numbered {position : Nat → Position}
    (hposition : ∀ i j, i < j → (position i).Before (position j)) (index : Nat)
    (types : List GoType) :
    (numbered position index types).Pairwise (fun part other => part.1.Before other.1) := by
  induction types generalizing index with
  | nil => exact .nil
  | cons type types ih =>
    refine List.Pairwise.cons (fun part hpart => ?_) (ih (index + 1))
    obtain ⟨i, hi, hpart, -⟩ := mem_numbered hpart
    rw [hpart]
    exact hposition index i hi

/-- The `parts` of a type are listed in the order in which they are spelled. -/
theorem GoType.pairwise_parts (type : GoType) :
    type.parts.Pairwise (fun part other => part.1.Before other.1) := by
  match type with
  | .basic _ | .typeParam _ | .interface .. | .struct _ | .unknown => exact .nil
  | .array _ elem | .slice elem | .chan _ elem | .pointer elem => exact List.pairwise_singleton _ _
  | .map key elem => exact List.pairwise_pair.2 .key
  | .func ⟨params, results, _⟩ =>
    refine List.pairwise_append.2 ⟨pairwise_numbered (fun _ _ => .params) _ _,
      pairwise_numbered (fun _ _ => .results) _ _, fun part hpart other hother => ?_⟩
    -- Every parameter comes before every result.
    obtain ⟨i, -, hi, -⟩ := mem_numbered hpart
    obtain ⟨j, -, hj, -⟩ := mem_numbered hother
    rw [hi, hj]
    exact .paramResult i j
  | .named _ args | .alias _ args => exact pairwise_numbered (fun _ _ => .typeArgs) _ _
  | .union terms => exact pairwise_numbered (fun _ _ => .unionTerms) _ _

/-- `GoType.part?` finds a part of a type at its position, since no two parts share one. -/
theorem GoType.part?_eq_some_iff {type part : GoType} {position : Position} :
    type.part? position = some part ↔ (position, part) ∈ type.parts := by
  have hnodup : (type.parts.map (·.1)).Nodup :=
    List.pairwise_map.2 (type.pairwise_parts.imp Position.Before.ne)
  constructor
  · intro h
    obtain ⟨found, hfind, rfl⟩ := Option.map_eq_some_iff.1 h
    have hposition : found.1 = position := by simpa using List.find?_some hfind
    exact hposition ▸ List.mem_of_find?_eq_some hfind
  · intro h
    exact Option.map_eq_some_iff.2 ⟨_, find?_key_eq_some hnodup h, rfl⟩

/-- A part of a type is smaller than the type, on which the recursions over `parts` rest. -/
theorem GoType.sizeOf_lt_of_mem_parts {type part : GoType} {position : Position}
    (h : (position, part) ∈ type.parts) : sizeOf part < sizeOf type := by
  -- Parameters and results hold their types in variables.
  have hvars {vars : List Var} (hmem : part ∈ vars.map (·.type)) : sizeOf part < sizeOf vars := by
    obtain ⟨⟨name, type⟩, hvar, rfl⟩ := List.mem_map.1 hmem
    have hsize := List.sizeOf_lt_of_mem hvar
    simp only [Var.mk.sizeOf_spec] at hsize ⊢
    omega
  match type with
  | .basic _ | .typeParam _ | .interface .. | .struct _ | .unknown => exact nomatch h
  | .array _ elem | .slice elem | .chan _ elem | .pointer elem =>
    cases List.mem_singleton.1 h
    simp only [GoType.array.sizeOf_spec, GoType.slice.sizeOf_spec, GoType.chan.sizeOf_spec,
      GoType.pointer.sizeOf_spec]
    omega
  | .map key elem =>
    rcases List.mem_pair.1 h with h | h
    · cases h
      simp only [GoType.map.sizeOf_spec]
      omega
    · cases h
      simp only [GoType.map.sizeOf_spec]
      omega
  | .func ⟨params, results, _⟩ =>
    simp only [GoType.func.sizeOf_spec, Signature.mk.sizeOf_spec]
    rcases List.mem_append.1 h with h | h
    · obtain ⟨-, -, -, hmem⟩ := mem_numbered h
      have hsize := hvars hmem
      omega
    · obtain ⟨-, -, -, hmem⟩ := mem_numbered h
      have hsize := hvars hmem
      omega
  | .named name args | .alias name args =>
    obtain ⟨-, -, -, hmem⟩ := mem_numbered h
    have hsize := List.sizeOf_lt_of_mem hmem
    simp only [GoType.named.sizeOf_spec, GoType.alias.sizeOf_spec]
    simp only at hsize
    omega
  | .union terms =>
    obtain ⟨-, -, -, hmem⟩ := mem_numbered h
    -- A union holds its types in terms.
    obtain ⟨⟨tilde, type⟩, hterm, rfl⟩ := List.mem_map.1 hmem
    have hsize := List.sizeOf_lt_of_mem hterm
    simp only [GoType.union.sizeOf_spec, Term.mk.sizeOf_spec] at hsize ⊢
    omega

/-! ## The culprit -/

/-- Nothing is wrong inside a type that is spelled: no part to which positions lead has a
    `fault?`. -/
theorem GoType.fault?_eq_none_of_spell {qualify : Qualifier} {type : GoType}
    (h : error? (type.spell qualify) = none) {path : List Position} {node : GoType}
    (hnode : type.follow path = some node) : node.fault? = none := by
  rw [GoType.error?_spell, Option.or_eq_none_iff, List.findSome?_eq_none_iff] at h
  -- The induction is on the way inside; each part on it is spelled, too.
  induction path generalizing type with
  | nil =>
    cases hnode
    exact h.2
  | cons position path ih =>
    obtain ⟨part, hpart, hfollow⟩ := Option.bind_eq_some_iff.1 hnode
    have hspelled := h.1 _ (GoType.part?_eq_some_iff.1 hpart)
    rw [failure, Option.map_eq_none_iff, GoType.error?_spell, Option.or_eq_none_iff,
      List.findSome?_eq_none_iff] at hspelled
    exact ih hspelled hfollow

/-- The class of a failure that a type is to blame for. -/
def GoType.faultKind : GoType → ErrorKind
  | .union _ => .emptyUnion
  | .func _ => .invalidVariadic
  | _ => .unsupportedType

/-- What `GoType.fault?` can report. It is never the failure of a part. -/
theorem GoType.fault?_cases {type : GoType} {error : SpellError}
    (h : type.fault? = some error) :
    (∃ kind, error = .unsupported kind ∧ type.faultKind = .unsupportedType) ∨
      (∃ found, error = .invalidVariadic found ∧ type.faultKind = .invalidVariadic) ∨
      error = .emptyUnion ∧ type.faultKind = .emptyUnion := by
  match type with
  | .basic _ | .array .. | .slice _ | .map .. | .chan .. | .pointer _ | .named .. | .alias ..
  | .typeParam _ | .interface [] [] => cases h
  | .interface (_ :: _) _ | .interface [] (_ :: _) | .struct _ | .unknown =>
    cases h
    exact .inl ⟨_, rfl, rfl⟩
  | .union terms =>
    rw [GoType.fault?] at h
    split at h
    · cases h
      exact .inr (.inr ⟨rfl, rfl⟩)
    · cases h
  | .func ⟨params, results, false⟩ => cases h
  | .func ⟨params, results, true⟩ =>
    rw [GoType.fault?, Signature.fault?] at h
    split at h
    · cases h
      exact .inr (.inl ⟨_, rfl, rfl⟩)
    · split at h
      · cases h
      · cases h
        exact .inr (.inl ⟨_, rfl, rfl⟩)

theorem GoType.root_of_fault? {type : GoType} {error : SpellError}
    (h : type.fault? = some error) : error.path = [] ∧ error.root = error := by
  rcases GoType.fault?_cases h with ⟨kind, rfl, -⟩ | ⟨found, rfl, -⟩ | ⟨rfl, -⟩
  · exact ⟨rfl, rfl⟩
  · exact ⟨rfl, rfl⟩
  · exact ⟨rfl, rfl⟩

/-- `SpellError.kind` classifies a failure by the type to blame. -/
theorem GoType.kind_of_fault? {type : GoType} {error : SpellError}
    (h : type.fault? = some error.root) : error.kind = type.faultKind := by
  rw [SpellError.kind]
  rcases GoType.fault?_cases h with ⟨kind, hroot, hkind⟩ | ⟨found, hroot, hkind⟩ | ⟨hroot, hkind⟩
  · rw [hroot, hkind]
  · rw [hroot, hkind]
  · rw [hroot, hkind]

/-- A failure names the first culprit: its positions lead to a type with which something is wrong,
    its root says what that is, and nothing is wrong with any type that is spelled before. -/
structure SpellError.Blames (error : SpellError) (type culprit : GoType) : Prop where
  leads : type.follow error.path = some culprit
  fault : culprit.fault? = some error.root
  first : ∀ path other, type.follow path = some other → other.fault?.isSome →
    path = error.path ∨ PathBefore error.path path

/-- The failure of a part names the first culprit in the whole type, if nothing is wrong inside the
    parts before it: `Blames` goes outwards. -/
theorem SpellError.Blames.inside {type part culprit : GoType} {position : Position}
    {cause : SpellError} {before after : List (Position × GoType)}
    (hparts : type.parts = before ++ (position, part) :: after)
    (hbefore : ∀ sibling ∈ before, ∀ path node, sibling.2.follow path = some node →
      node.fault? = none)
    (h : cause.Blames part culprit) : (SpellError.inside position cause).Blames type culprit := by
  have hsorted := type.pairwise_parts
  rw [hparts, List.pairwise_append, List.pairwise_cons] at hsorted
  have hpart : type.part? position = some part := by
    rw [GoType.part?_eq_some_iff, hparts]
    exact List.mem_append_right _ List.mem_cons_self
  refine ⟨?_, h.fault, fun path other hother hbad => ?_⟩
  · rw [SpellError.path, GoType.follow, hpart, Option.bind_some]
    exact h.leads
  · rw [SpellError.path]
    cases path with
    | nil => exact .inr (.inner position cause.path)
    | cons head path =>
      obtain ⟨sibling, hsibling, hfollow⟩ := Option.bind_eq_some_iff.1 hother
      have hmem := GoType.part?_eq_some_iff.1 hsibling
      rw [hparts, List.mem_append, List.mem_cons] at hmem
      -- Another culprit lies before this part, in it, or behind it.
      rcases hmem with hmem | hmem | hmem
      · rw [hbefore _ hmem path other hfollow] at hbad
        cases hbad
      · cases hmem
        rcases h.first path other hfollow hbad with heq | hlater
        · exact .inl (congrArg (position :: ·) heq)
        · exact .inr (.within position hlater)
      · exact .inr (.part (hsorted.2.1.1 _ hmem) cause.path path)

/-- Every failure of `GoType.spell` names the first culprit. -/
theorem GoType.exists_blames {qualify : Qualifier} (type : GoType) {error : SpellError}
    (h : error? (type.spell qualify) = some error) : ∃ culprit, error.Blames type culprit := by
  induction hsize : sizeOf type using Nat.strong_induction_on generalizing type error with
  | _ size ih =>
    subst hsize
    have hspell := h
    rw [GoType.error?_spell, Option.or_eq_some_iff] at h
    rcases h with h | ⟨hparts, hfault⟩
    · -- The first part that fails is to blame, and the parts before it are spelled.
      obtain ⟨before, ⟨position, part⟩, after, hsplit, hpart, hbefore⟩ :=
        List.findSome?_eq_some_iff.1 h
      obtain ⟨cause, hcause, rfl⟩ := Option.map_eq_some_iff.1 hpart
      have hmem : (position, part) ∈ type.parts := by
        rw [hsplit]
        exact List.mem_append_right _ List.mem_cons_self
      obtain ⟨culprit, hculprit⟩ := ih _ (GoType.sizeOf_lt_of_mem_parts hmem) part hcause rfl
      refine ⟨culprit, hculprit.inside hsplit fun sibling hsibling path node hnode => ?_⟩
      exact GoType.fault?_eq_none_of_spell (Option.map_eq_none_iff.1 (hbefore sibling hsibling))
        hnode
    · -- The parts are spelled, so that only the type itself can be to blame.
      obtain ⟨hpath, hroot⟩ := GoType.root_of_fault? hfault
      refine ⟨type, ⟨?_, ?_, fun path other hother hbad => ?_⟩⟩
      · rw [hpath, GoType.follow]
      · rw [hroot, hfault]
      · rw [hpath]
        cases path with
        | nil => exact .inl rfl
        | cons position path =>
          obtain ⟨part, hpart, hfollow⟩ := Option.bind_eq_some_iff.1 hother
          have hspelled := List.findSome?_eq_none_iff.1 hparts _ (GoType.part?_eq_some_iff.1 hpart)
          rw [GoType.fault?_eq_none_of_spell (Option.map_eq_none_iff.1 hspelled) hfollow] at hbad
          cases hbad

/-- The `Qualifier`, which says how packages are called, has no part in whether a type is spelled,
    and in what its failure is. -/
theorem GoType.error?_spell_eq (qualify other : Qualifier) (type : GoType) :
    error? (type.spell qualify) = error? (type.spell other) := by
  induction hsize : sizeOf type using Nat.strong_induction_on generalizing type with
  | _ size ih =>
    subst hsize
    have hparts :
        type.parts.findSome? (failure qualify) = type.parts.findSome? (failure other) := by
      refine findSome?_congr fun part hpart => ?_
      rw [failure, failure, ih _ (GoType.sizeOf_lt_of_mem_parts hpart) part.2 rfl]
    rw [GoType.error?_spell, GoType.error?_spell, hparts]

/-- A type has no spelling if and only if something is wrong with it or with a type inside it
    (`GoType.fault?`). The failure leads to the first such type, says what is wrong with it, and is
    classified by it. How packages are called has no part in this. -/
theorem GoType.spell_blames (type : GoType) :
    (∀ qualify, (∃ error, type.spell qualify = .error error) ↔
      ∃ path node, type.follow path = some node ∧ node.fault?.isSome) ∧
    (∀ qualify error, type.spell qualify = .error error →
      ∃ culprit, error.Blames type culprit ∧
        (∀ position cause, error.root ≠ .inside position cause) ∧
        ∀ path owner name position,
          (GenerateError.package path (.build (.method owner name error))).kind =
              culprit.faultKind ∧
            (GenerateError.package path (.build (.typeParam owner name
              (.inside position error)))).kind = culprit.faultKind) ∧
    ∀ qualify other,
      (∀ error, type.spell qualify = .error error ↔ type.spell other = .error error) ∧
        ((∃ expr, type.spell qualify = .ok expr) ↔ ∃ expr, type.spell other = .ok expr) := by
  refine ⟨fun qualify => ⟨?_, ?_⟩, fun qualify error h => ?_, fun qualify other => ⟨?_, ?_⟩⟩
  · rintro ⟨error, h⟩
    obtain ⟨culprit, hculprit⟩ := type.exists_blames (error?_eq_some_iff.2 h)
    exact ⟨error.path, culprit, hculprit.leads, Option.isSome_iff_exists.2 ⟨_, hculprit.fault⟩⟩
  · rintro ⟨path, node, hnode, hbad⟩
    cases hspell : type.spell qualify with
    | error error => exact ⟨error, rfl⟩
    | ok expr =>
      rw [GoType.fault?_eq_none_of_spell (error?_eq_none_iff.2 ⟨expr, hspell⟩) hnode] at hbad
      cases hbad
  · obtain ⟨culprit, hculprit⟩ := type.exists_blames (error?_eq_some_iff.2 h)
    have hkind := GoType.kind_of_fault? hculprit.fault
    refine ⟨culprit, hculprit, fun position cause hroot => ?_, fun _ _ _ _ => ⟨hkind, hkind⟩⟩
    -- What is wrong with the culprit itself is not the failure of a part of it.
    rcases GoType.fault?_cases hculprit.fault with ⟨_, h, -⟩ | ⟨_, h, -⟩ | ⟨h, -⟩
    · cases hroot.symm.trans h
    · cases hroot.symm.trans h
    · cases hroot.symm.trans h
  · intro error
    rw [← error?_eq_some_iff, ← error?_eq_some_iff, GoType.error?_spell_eq qualify other]
  · rw [← error?_eq_none_iff, ← error?_eq_none_iff, GoType.error?_spell_eq qualify other]

/-! ## A type with several culprits -/

namespace Tangle

/-- A map whose key is a variadic function without a list, with a struct literal as its second
    result, and whose values are of an unknown kind. -/
def type : GoType :=
  .map (.func ⟨[⟨"n", .basic "int"⟩], [⟨"", .basic "string"⟩, ⟨"", .struct []⟩], true⟩) .unknown

/-- The failure of the struct literal in `type`. -/
def error : SpellError := .inside .mapKey (.inside (.result 1) (.unsupported "anonymous struct"))

/-- Of the three culprits in the map the struct literal is named: it is spelled before the function
    around it is looked at, and the key before the values. -/
theorem blames_struct :
    (∃ path node, type.follow path = some node ∧ node.fault?.isSome) ∧
      type.spell (fun _ => none) = .error error ∧
      error.Blames type (.struct []) ∧
      (GenerateError.package "example.com/tangle"
        (.build (.method "TangleIface" "Pull" error))).kind = .unsupportedType ∧
      type.spell (fun ref => some ref.name) = .error error ∧
      ((type.follow [.mapKey]).bind (·.fault?)).isSome ∧
      ((type.follow [.mapValue]).bind (·.fault?)).isSome := by
  have hspell : type.spell (fun _ => none) = .error error := rfl
  obtain ⟨hfails, hblames, hsame⟩ := type.spell_blames
  obtain ⟨culprit, hculprit, -, hkind⟩ := hblames _ _ hspell
  -- The positions of the failure lead to the struct literal.
  have hstruct : type.follow error.path = some (.struct []) := rfl
  obtain rfl : culprit = .struct [] := Option.some.inj (hculprit.leads.symm.trans hstruct)
  exact ⟨(hfails _).1 ⟨error, hspell⟩, hspell, hculprit, (hkind _ _ _ .arrayElem).1,
    ((hsame _ _).1 error).1 hspell, rfl, rfl⟩

end Tangle

namespace Spread

/-- A union whose only term is a slice. `GoType.isList` takes it for a list, as its expression is
    one. -/
def list : GoType := .union [⟨false, .slice (.basic "int")⟩]

/-- A variadic signature that ends with the union `list`. -/
def signature : Signature := ⟨[⟨"xs", list⟩], [], true⟩

/-- The type of the last parameter is neither an array nor a slice, but its expression is that of a
    slice, and the signature is spelled. -/
theorem exists_spell_union :
    signature.variadic = true ∧ (∃ last, signature.params.getLast? = some last ∧
      (∀ len elem, last.type ≠ .array len elem) ∧ ∀ elem, last.type ≠ .slice elem) ∧
    (GoType.func signature).follow [] = some (.func signature) ∧
    ∀ qualify, (GoType.func signature).spell qualify =
      .ok (.func ⟨[⟨some "xs", .ellipsis (.ident "int")⟩], []⟩) := by
  refine ⟨rfl, ⟨⟨"xs", list⟩, rfl, fun _ _ => GoType.noConfusion, fun _ => GoType.noConfusion⟩,
    rfl, fun qualify => rfl⟩

end Spread

end IfaceGen
