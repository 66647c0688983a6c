import IfaceGen.Types.Subst

/-!
# Type parameters that occur in a type

The references to type parameters in a type, in the order in which they stand there, with
repetitions. A substitution puts in the place of each reference the references of what the
parameter is bound to, and it does so everywhere in the type at once.

## Key results

- `GoType.freeParams_subst` / `Signature.freeParams_subst`: the references after a substitution
- `Subst.exists_get?_zip`: a substitution that binds every name of a list
-/

namespace IfaceGen

mutual
/-- The names of the type parameters in all parts of a type, with repetitions. -/
def GoType.freeParams : GoType → List String
  | .basic _ | .unknown => []
  | .array _ elem | .slice elem | .chan _ elem | .pointer elem => elem.freeParams
  | .map key elem => key.freeParams ++ elem.freeParams
  | .interface embeddeds methods => typesFreeParams embeddeds ++ methodsFreeParams methods
  | .func signature => signature.freeParams
  | .named _ args | .alias _ args => typesFreeParams args
  | .typeParam name => [name]
  | .union terms => termsFreeParams terms
  | .struct fields => fieldsFreeParams fields

/-- The references in the parameters, then those in the results. -/
def Signature.freeParams : Signature → List String
  | ⟨params, results, _⟩ => varsFreeParams params ++ varsFreeParams results

/-- The references in the types, one after the other. -/
def typesFreeParams : List GoType → List String
  | [] => []
  | type :: types => type.freeParams ++ typesFreeParams types

/-- The references in the types of the variables. -/
def varsFreeParams : List Var → List String
  | [] => []
  | ⟨_, type⟩ :: vars => type.freeParams ++ varsFreeParams vars

/-- The references in the signatures. -/
def methodsFreeParams : List Method → List String
  | [] => []
  | ⟨_, signature⟩ :: methods => signature.freeParams ++ methodsFreeParams methods

/-- The references in the terms. -/
def termsFreeParams : List Term → List String
  | [] => []
  | ⟨_, type⟩ :: terms => type.freeParams ++ termsFreeParams terms

/-- The references in the types of the fields. -/
def fieldsFreeParams : List Field → List String
  | [] => []
  | ⟨_, type, _⟩ :: fields => type.freeParams ++ fieldsFreeParams fields
end

/-- The references that stand in the place of a type parameter after a substitution: those of the
    type that `Subst.get?` finds for it, or the parameter itself. -/
def Subst.replacement (s : Subst) (param : String) : List String :=
  ((s.get? param).getD (.typeParam param)).freeParams

mutual
/-- After a substitution each reference is replaced by those of what it is bound to, as
    `Subst.replacement` lists them. -/
theorem GoType.freeParams_subst (s : Subst) : (type : GoType) →
    (type.subst s).freeParams = type.freeParams.flatMap s.replacement
  | .basic _ | .unknown => rfl
  | .array _ elem | .slice elem | .chan _ elem | .pointer elem => by
    simp only [GoType.subst, GoType.freeParams, elem.freeParams_subst s]
  | .map key elem => by
    simp only [GoType.subst, GoType.freeParams, key.freeParams_subst s, elem.freeParams_subst s,
      List.flatMap_append]
  | .interface embeddeds methods => by
    simp only [GoType.subst, GoType.freeParams, typesFreeParams_subst s embeddeds,
      methodsFreeParams_subst s methods, List.flatMap_append]
  | .func signature => by
    simp only [GoType.subst, GoType.freeParams, signature.freeParams_subst s]
  | .named _ args | .alias _ args => by
    simp only [GoType.subst, GoType.freeParams, typesFreeParams_subst s args]
  | .typeParam name => by
    simp only [GoType.subst, GoType.freeParams, List.flatMap_singleton, Subst.replacement]
  | .union terms => by
    simp only [GoType.subst, GoType.freeParams, termsFreeParams_subst s terms]
  | .struct fields => by
    simp only [GoType.subst, GoType.freeParams, fieldsFreeParams_subst s fields]

theorem Signature.freeParams_subst (s : Subst) : (signature : Signature) →
    (signature.subst s).freeParams = signature.freeParams.flatMap s.replacement
  | ⟨params, results, _⟩ => by
    simp only [Signature.subst, Signature.freeParams, varsFreeParams_subst s params,
      varsFreeParams_subst s results, List.flatMap_append]

theorem typesFreeParams_subst (s : Subst) : (types : List GoType) →
    typesFreeParams (substTypes s types) = (typesFreeParams types).flatMap s.replacement
  | [] => rfl
  | type :: types => by
    simp only [substTypes, typesFreeParams, type.freeParams_subst s,
      typesFreeParams_subst s types, List.flatMap_append]

theorem varsFreeParams_subst (s : Subst) : (vars : List Var) →
    varsFreeParams (substVars s vars) = (varsFreeParams vars).flatMap s.replacement
  | [] => rfl
  | ⟨_, type⟩ :: vars => by
    simp only [substVars, varsFreeParams, type.freeParams_subst s, varsFreeParams_subst s vars,
      List.flatMap_append]

theorem methodsFreeParams_subst (s : Subst) : (methods : List Method) →
    methodsFreeParams (substMethods s methods) = (methodsFreeParams methods).flatMap s.replacement
  | [] => rfl
  | ⟨_, signature⟩ :: methods => by
    simp only [substMethods, methodsFreeParams, signature.freeParams_subst s,
      methodsFreeParams_subst s methods, List.flatMap_append]

theorem termsFreeParams_subst (s : Subst) : (terms : List Term) →
    termsFreeParams (substTerms s terms) = (termsFreeParams terms).flatMap s.replacement
  | [] => rfl
  | ⟨_, type⟩ :: terms => by
    simp only [substTerms, termsFreeParams, type.freeParams_subst s, termsFreeParams_subst s terms,
      List.flatMap_append]

theorem fieldsFreeParams_subst (s : Subst) : (fields : List Field) →
    fieldsFreeParams (substFields s fields) = (fieldsFreeParams fields).flatMap s.replacement
  | [] => rfl
  | ⟨_, type, _⟩ :: fields => by
    simp only [substFields, fieldsFreeParams, type.freeParams_subst s,
      fieldsFreeParams_subst s fields, List.flatMap_append]
end

/-- The references in one of the types are among the `typesFreeParams`. -/
theorem freeParams_subset_types {types : List GoType} {type : GoType} (h : type ∈ types) :
    type.freeParams ⊆ typesFreeParams types := by
  induction types with
  | nil => exact nomatch h
  | cons first types ih =>
    rw [typesFreeParams]
    rcases List.mem_cons.1 h with rfl | h
    · exact List.subset_append_left _ _
    · exact List.Subset.trans (ih h) (List.subset_append_right _ _)

namespace Subst

/-- What `Subst.get?` finds stands in the substitution. -/
theorem mem_of_get? {s : Subst} {name : String} {type : GoType} (h : s.get? name = some type) :
    (name, type) ∈ s := by
  induction s with
  | nil => exact nomatch h
  | cons binding s ih =>
    -- Of two bindings of a name the later one counts.
    rw [Subst.get?, Option.or_eq_some_iff] at h
    rcases h with h | ⟨-, h⟩
    · exact List.mem_cons_of_mem _ (ih h)
    · split at h
      · rename_i hname
        cases h
        rw [← hname]
        exact List.mem_cons_self
      · exact nomatch h

/-- `Subst.get?` finds every name that stands in the substitution. -/
theorem exists_get?_of_mem {s : Subst} {name : String} (h : name ∈ s.map (·.1)) :
    ∃ type, s.get? name = some type := by
  induction s with
  | nil => exact nomatch h
  | cons binding s ih =>
    obtain ⟨param, bound⟩ := binding
    rw [Subst.get?]
    -- The last binding of a name counts, be it this one or one behind it.
    rcases List.mem_cons.1 h with rfl | h
    · cases Subst.get? s name with
      | none => exact ⟨bound, by rw [Option.none_or, if_pos rfl]⟩
      | some later => exact ⟨later, Option.some_or⟩
    · obtain ⟨later, hlater⟩ := ih h
      exact ⟨later, by rw [hlater, Option.some_or]⟩

/-- If there are as many types as names, every name is bound to one of the types by `List.zip`. -/
theorem exists_get?_zip {names : List String} {types : List GoType}
    (hlength : types.length = names.length) {name : String} (h : name ∈ names) :
    ∃ type ∈ types, Subst.get? (names.zip types) name = some type := by
  have hbound : name ∈ (names.zip types).map (·.1) := by
    rw [List.map_fst_zip (by omega)]
    exact h
  obtain ⟨type, hget⟩ := exists_get?_of_mem hbound
  exact ⟨type, (List.of_mem_zip (mem_of_get? hget)).2, hget⟩

end Subst

end IfaceGen
