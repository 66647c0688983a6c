import IfaceGen.Proofs.Types.FreeParams

/-!
# One substitution after another

Substitution is simultaneous: what stands in the place of a type parameter is not looked into again.
Two substitutions one after the other therefore come to a single one, which binds each parameter of
the first to what the second makes of its type, and leaves the other parameters to the second.

## Key results

- `GoType.subst_nil` / `Signature.subst_nil`: the empty substitution changes nothing
- `Subst.composes_comp`: a single substitution for two
- `GoType.subst_subst` / `Signature.subst_subst`: it does what the two do, in all parts of a type
- `Subst.simultaneous`: this together with the type parameters that occur after a substitution
-/

namespace IfaceGen

/-! ## The empty substitution -/

mutual
/-- The empty substitution changes nothing (`GoType.subst`). -/
theorem GoType.subst_nil : (type : GoType) → type.subst [] = type
  | .basic _ | .unknown | .typeParam _ => rfl
  | .array _ elem | .slice elem | .chan _ elem | .pointer elem => by
    rw [GoType.subst, elem.subst_nil]
  | .map key elem => by
    rw [GoType.subst, key.subst_nil, elem.subst_nil]
  | .interface embeddeds methods => by
    rw [GoType.subst, substTypes_nil embeddeds, substMethods_nil methods]
  | .func signature => by
    rw [GoType.subst, signature.subst_nil]
  | .named _ args | .alias _ args => by
    rw [GoType.subst, substTypes_nil args]
  | .union terms => by
    rw [GoType.subst, substTerms_nil terms]
  | .struct fields => by
    rw [GoType.subst, substFields_nil fields]

theorem Signature.subst_nil : (signature : Signature) → signature.subst [] = signature
  | ⟨params, results, _⟩ => by
    rw [Signature.subst, substVars_nil params, substVars_nil results]

theorem substTypes_nil : (types : List GoType) → substTypes [] types = types
  | [] => rfl
  | type :: types => by
    rw [substTypes, type.subst_nil, substTypes_nil types]

theorem substVars_nil : (vars : List Var) → substVars [] vars = vars
  | [] => rfl
  | ⟨_, type⟩ :: vars => by
    rw [substVars, type.subst_nil, substVars_nil vars]

theorem substMethods_nil : (methods : List Method) → substMethods [] methods = methods
  | [] => rfl
  | ⟨_, signature⟩ :: methods => by
    rw [substMethods, signature.subst_nil, substMethods_nil methods]

theorem substTerms_nil : (terms : List Term) → substTerms [] terms = terms
  | [] => rfl
  | ⟨_, type⟩ :: terms => by
    rw [substTerms, type.subst_nil, substTerms_nil terms]

theorem substFields_nil : (fields : List Field) → substFields [] fields = fields
  | [] => rfl
  | ⟨_, type, _⟩ :: fields => by
    rw [substFields, type.subst_nil, substFields_nil fields]
end

/-! ## Two substitutions in one -/

namespace Subst

/-- What `s` binds is what `first` and then `second` make of a type parameter: a parameter of
    `first` is bound to its type under `second`, any other one as in `second`. -/
def Composes (s first second : Subst) : Prop :=
  ∀ param, s.get? param = ((first.get? param).map (·.subst second)).or (second.get? param)

/-- A substitution that does what `first` and then `second` do. The bindings of `first` count, as
    they come later. -/
def comp (first second : Subst) : Subst :=
  second ++ first.map fun (param, type) => (param, type.subst second)

theorem get?_append (s later : Subst) (param : String) :
    get? (s ++ later) param = (later.get? param).or (s.get? param) := by
  induction s with
  | nil => rw [List.nil_append, get?, Option.or_none]
  | cons binding s ih =>
    obtain ⟨name, type⟩ := binding
    rw [List.cons_append, get?, get?, ih, Option.or_assoc]

theorem get?_map (f : GoType → GoType) (s : Subst) (param : String) :
    get? (s.map fun (name, type) => (name, f type)) param = (s.get? param).map f := by
  induction s with
  | nil => rfl
  | cons binding s ih =>
    obtain ⟨name, type⟩ := binding
    rw [List.map_cons, get?, get?, ih, Option.map_or]
    by_cases hname : name = param
    · rw [if_pos hname, if_pos hname, Option.map_some]
    · rw [if_neg hname, if_neg hname, Option.map_none]

theorem composes_comp (first second : Subst) : (first.comp second).Composes first second := by
  intro param
  rw [comp, get?_append, get?_map]

end Subst

section Composition

variable {s first second : Subst}

mutual
/-- A substitution that composes two others (`Subst.Composes`) does in one step what they do one
    after the other. -/
theorem GoType.subst_subst (h : s.Composes first second) : (type : GoType) →
    (type.subst first).subst second = type.subst s
  | .basic _ | .unknown => rfl
  | .typeParam name => by
    rw [GoType.subst, GoType.subst, h name]
    -- A parameter that the first substitution does not bind is left to the second one.
    cases first.get? name with
    | none => rw [Option.getD_none, GoType.subst, Option.map_none, Option.none_or]
    | some bound => rw [Option.getD_some, Option.map_some, Option.some_or, Option.getD_some]
  | .array _ elem | .slice elem | .chan _ elem | .pointer elem => by
    rw [GoType.subst, GoType.subst, GoType.subst, elem.subst_subst h]
  | .map key elem => by
    rw [GoType.subst, GoType.subst, GoType.subst, key.subst_subst h, elem.subst_subst h]
  | .interface embeddeds methods => by
    rw [GoType.subst, GoType.subst, GoType.subst, substTypes_substTypes h embeddeds,
      substMethods_substMethods h methods]
  | .func signature => by
    rw [GoType.subst, GoType.subst, GoType.subst, signature.subst_subst h]
  | .named _ args | .alias _ args => by
    rw [GoType.subst, GoType.subst, GoType.subst, substTypes_substTypes h args]
  | .union terms => by
    rw [GoType.subst, GoType.subst, GoType.subst, substTerms_substTerms h terms]
  | .struct fields => by
    rw [GoType.subst, GoType.subst, GoType.subst, substFields_substFields h fields]

theorem Signature.subst_subst (h : s.Composes first second) : (signature : Signature) →
    (signature.subst first).subst second = signature.subst s
  | ⟨params, results, _⟩ => by
    rw [Signature.subst, Signature.subst, Signature.subst, substVars_substVars h params,
      substVars_substVars h results]

theorem substTypes_substTypes (h : s.Composes first second) : (types : List GoType) →
    substTypes second (substTypes first types) = substTypes s types
  | [] => rfl
  | type :: types => by
    rw [substTypes, substTypes, substTypes, type.subst_subst h, substTypes_substTypes h types]

theorem substVars_substVars (h : s.Composes first second) : (vars : List Var) →
    substVars second (substVars first vars) = substVars s vars
  | [] => rfl
  | ⟨_, type⟩ :: vars => by
    rw [substVars, substVars, substVars, type.subst_subst h, substVars_substVars h vars]

theorem substMethods_substMethods (h : s.Composes first second) : (methods : List Method) →
    substMethods second (substMethods first methods) = substMethods s methods
  | [] => rfl
  | ⟨_, signature⟩ :: methods => by
    rw [substMethods, substMethods, substMethods, signature.subst_subst h,
      substMethods_substMethods h methods]

theorem substTerms_substTerms (h : s.Composes first second) : (terms : List Term) →
    substTerms second (substTerms first terms) = substTerms s terms
  | [] => rfl
  | ⟨_, type⟩ :: terms => by
    rw [substTerms, substTerms, substTerms, type.subst_subst h, substTerms_substTerms h terms]

theorem substFields_substFields (h : s.Composes first second) : (fields : List Field) →
    substFields second (substFields first fields) = substFields s fields
  | [] => rfl
  | ⟨_, type, _⟩ :: fields => by
    rw [substFields, substFields, substFields, type.subst_subst h,
      substFields_substFields h fields]
end

end Composition

/-! ## Type parameters after a substitution -/

/-- A type parameter that a substitution leaves or brings in where `params` are referred to: one of
    them that is not bound, or one that occurs in what one of them is bound to. -/
def Subst.Leaves (s : Subst) (params : List String) (param : String) : Prop :=
  (param ∈ params ∧ s.get? param = none) ∨
    ∃ bound ∈ params, ∃ arg, s.get? bound = some arg ∧ param ∈ arg.freeParams

theorem Subst.mem_flatMap_replacement_iff {s : Subst} {params : List String} {param : String} :
    param ∈ params.flatMap s.replacement ↔ s.Leaves params param := by
  rw [List.mem_flatMap, Leaves]
  constructor
  · rintro ⟨bound, hbound, hparam⟩
    rw [replacement] at hparam
    cases hget : s.get? bound with
    -- A parameter that is not bound stands for itself.
    | none =>
      rw [hget, Option.getD_none, GoType.freeParams, List.mem_singleton] at hparam
      subst hparam
      exact .inl ⟨hbound, hget⟩
    | some arg =>
      rw [hget, Option.getD_some] at hparam
      exact .inr ⟨bound, hbound, arg, hget, hparam⟩
  · rintro (⟨hparam, hget⟩ | ⟨bound, hbound, arg, hget, hparam⟩)
    · refine ⟨param, hparam, ?_⟩
      rw [replacement, hget, Option.getD_none, GoType.freeParams]
      exact List.mem_singleton_self param
    · refine ⟨bound, hbound, ?_⟩
      rw [replacement, hget, Option.getD_some]
      exact hparam

/-- Two substitutions have one that composes them, and every one that does gives in all types and
    signatures what they give one after the other. The type parameters that occur after a
    substitution are those that it leaves (`Subst.Leaves`): the ones that it does not bind, and
    those of the types that it puts in, which are not substituted again. The empty substitution
    changes nothing. -/
theorem Subst.simultaneous (first second : Subst) :
    (∃ s : Subst, s.Composes first second) ∧
    (∀ s : Subst, s.Composes first second →
      (∀ type : GoType, (type.subst first).subst second = type.subst s) ∧
      ∀ signature : Signature, (signature.subst first).subst second = signature.subst s) ∧
    (∀ (type : GoType) (param : String),
      param ∈ (type.subst first).freeParams ↔ first.Leaves type.freeParams param) ∧
    (∀ (signature : Signature) (param : String),
      param ∈ (signature.subst first).freeParams ↔ first.Leaves signature.freeParams param) ∧
    (∀ type : GoType, type.subst [] = type) ∧
    ∀ signature : Signature, signature.subst [] = signature := by
  refine ⟨⟨first.comp second, composes_comp first second⟩, fun s hs => ?_, fun type param => ?_,
    fun signature param => ?_, GoType.subst_nil, Signature.subst_nil⟩
  · exact ⟨GoType.subst_subst hs, Signature.subst_subst hs⟩
  · rw [type.freeParams_subst, mem_flatMap_replacement_iff]
  · rw [signature.freeParams_subst, mem_flatMap_replacement_iff]

namespace Shelf

/-- Type parameters in the field of a struct, in a term of a union and in a method. -/
def type : GoType :=
  .struct [⟨"Items", .interface [.union [⟨true, .typeParam "K"⟩]]
    [⟨"Get", ⟨[⟨"key", .typeParam "K"⟩], [⟨"", .typeParam "V"⟩], false⟩⟩], false⟩]

/-- The type parameters `K` and `V` change places. -/
def swap : Subst := [("K", .typeParam "V"), ("V", .typeParam "K")]

/-- What `K` is bound to refers to `K` itself. -/
def wrap : Subst := [("K", .slice (.typeParam "K"))]

/-- No parameter is substituted twice in one step, and none is left out. -/
theorem subst_swap_wrap :
    (swap.comp wrap).Composes swap wrap ∧
      (type.subst swap).subst wrap = type.subst (swap.comp wrap) ∧
      type.subst (swap.comp wrap) = .struct [⟨"Items", .interface
        [.union [⟨true, .typeParam "V"⟩]] [⟨"Get", ⟨[⟨"key", .typeParam "V"⟩],
          [⟨"", .slice (.typeParam "K")⟩], false⟩⟩], false⟩] ∧
      "V" ∈ (type.subst swap).freeParams := by
  obtain ⟨-, hcompose, hparams, -⟩ := Subst.simultaneous swap wrap
  have hcomposes := Subst.composes_comp swap wrap
  refine ⟨hcomposes, (hcompose _ hcomposes).1 type, rfl, (hparams type "V").2 (.inr ?_)⟩
  exact ⟨"K", List.mem_cons_self, .typeParam "V", rfl, List.mem_cons_self⟩

end Shelf

end IfaceGen
