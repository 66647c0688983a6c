import IfaceGen.Proofs.Spelling.Mentions
import IfaceGen.Proofs.Types.FreeParams

/-!
# Names after a substitution

A substitution puts in the place of each type parameter the names of what it is bound to, and keeps
all other names of a type. So every package that a type refers to afterwards comes from the type or
from the substitution.

## Key results

- `GoType.mentions_subst` / `Signature.mentions_subst`: the names after a substitution
- `GoType.mem_refs_of_subst` / `Signature.mem_refs_of_subst`: where a package reference comes from
-/

namespace IfaceGen

/-- The names that `GoType.subst` puts in the place of a name. -/
def Mention.replacement (s : Subst) : Mention → List Mention
  | .typeParam name => ((s.get? name).getD (.typeParam name)).mentions
  | .declared name => [.declared name]

mutual
/-- After a substitution each of the `mentions` is replaced by those of what it is bound to. -/
theorem GoType.mentions_subst (s : Subst) : (type : GoType) →
    (type.subst s).mentions = type.mentions.flatMap (·.replacement s)
  | .basic _ | .struct _ | .unknown => rfl
  | .typeParam name => by
    rw [GoType.subst, GoType.mentions, List.flatMap_singleton, Mention.replacement]
  | .array _ elem | .slice elem | .chan _ elem | .pointer elem => by
    rw [GoType.subst, GoType.mentions, GoType.mentions, elem.mentions_subst s]
  | .map key elem => by
    rw [GoType.subst, GoType.mentions, GoType.mentions, List.flatMap_append, key.mentions_subst s,
      elem.mentions_subst s]
  | .interface embeddeds methods => by
    by_cases h : embeddeds ≠ [] ∨ methods ≠ []
    · -- An interface with members keeps having members.
      have hsubst : substTypes s embeddeds ≠ [] ∨ substMethods s methods ≠ [] := by
        simpa only [substTypes_eq_map, substMethods_eq_map, ne_eq, List.map_eq_nil_iff] using h
      rw [GoType.subst, GoType.mentions_interface h, GoType.mentions_interface hsubst,
        List.flatMap_append, typesMentions_subst s embeddeds, methodsMentions_subst s methods]
    · obtain ⟨rfl, rfl⟩ : embeddeds = [] ∧ methods = [] := by simpa using h
      rfl
  | .func signature => by
    rw [GoType.subst, GoType.mentions, GoType.mentions, signature.mentions_subst s]
  | .named name args | .alias name args => by
    rw [GoType.subst, GoType.mentions, GoType.mentions, List.flatMap_cons,
      typesMentions_subst s args]
    rfl
  | .union terms => by
    rw [GoType.subst, GoType.mentions, GoType.mentions, termsMentions_subst s terms]

theorem Signature.mentions_subst (s : Subst) : (signature : Signature) →
    (signature.subst s).mentions = signature.mentions.flatMap (·.replacement s)
  | ⟨params, results, _⟩ => by
    rw [Signature.subst, Signature.mentions, Signature.mentions, List.flatMap_append,
      varsMentions_subst s params, varsMentions_subst s results]

theorem typesMentions_subst (s : Subst) : (types : List GoType) →
    typesMentions (substTypes s types) = (typesMentions types).flatMap (·.replacement s)
  | [] => rfl
  | type :: types => by
    rw [substTypes, typesMentions, typesMentions, List.flatMap_append, type.mentions_subst s,
      typesMentions_subst s types]

theorem varsMentions_subst (s : Subst) : (vars : List Var) →
    varsMentions (substVars s vars) = (varsMentions vars).flatMap (·.replacement s)
  | [] => rfl
  | ⟨_, type⟩ :: vars => by
    rw [substVars, varsMentions, varsMentions, List.flatMap_append, type.mentions_subst s,
      varsMentions_subst s vars]

theorem methodsMentions_subst (s : Subst) : (methods : List Method) →
    methodsMentions (substMethods s methods) = (methodsMentions methods).flatMap (·.replacement s)
  | [] => rfl
  | ⟨_, signature⟩ :: methods => by
    rw [substMethods, methodsMentions, methodsMentions, List.flatMap_append,
      signature.mentions_subst s, methodsMentions_subst s methods]

theorem termsMentions_subst (s : Subst) : (terms : List Term) →
    termsMentions (substTerms s terms) = (termsMentions terms).flatMap (·.replacement s)
  | [] => rfl
  | ⟨_, type⟩ :: terms => by
    rw [substTerms, termsMentions, termsMentions, List.flatMap_append, type.mentions_subst s,
      termsMentions_subst s terms]
end

/-! ## Package references -/

/-- `Mention.replacement` brings in no packages but those that the types of the substitution refer
    to. -/
theorem mem_pkgs_of_replacement {s : Subst} {mentions : List Mention} {ref : PackageRef}
    (h : ref ∈ (mentions.flatMap (·.replacement s)).filterMap (·.pkg)) :
    ref ∈ mentions.filterMap (·.pkg) ∨ ∃ binding ∈ s, ref ∈ binding.2.refs := by
  obtain ⟨replaced, hreplaced, hpkg⟩ := List.mem_filterMap.1 h
  obtain ⟨mention, hmention, hreplaced⟩ := List.mem_flatMap.1 hreplaced
  cases mention with
  | declared name =>
    obtain rfl := List.mem_singleton.1 hreplaced
    exact .inl (List.mem_filterMap.2 ⟨_, hmention, hpkg⟩)
  | typeParam name =>
    rw [Mention.replacement] at hreplaced
    cases hget : s.get? name with
    | none =>
      -- A parameter that is not bound stays, and it belongs to no package.
      rw [hget] at hreplaced
      obtain rfl := List.mem_singleton.1 hreplaced
      cases hpkg
    | some bound =>
      rw [hget, Option.getD_some] at hreplaced
      refine .inr ⟨_, Subst.mem_of_get? hget, ?_⟩
      rw [GoType.refs_eq_filterMap]
      exact List.mem_filterMap.2 ⟨replaced, hreplaced, hpkg⟩

/-- The `refs` of a type after a substitution are its own and those of the types in the
    substitution. -/
theorem GoType.mem_refs_of_subst {s : Subst} {type : GoType} {ref : PackageRef}
    (h : ref ∈ (type.subst s).refs) :
    ref ∈ type.refs ∨ ∃ binding ∈ s, ref ∈ binding.2.refs := by
  rw [GoType.refs_eq_filterMap, GoType.mentions_subst] at h
  rw [type.refs_eq_filterMap]
  exact mem_pkgs_of_replacement h

/-- The `refs` of a signature after a substitution are its own and those of the types in the
    substitution. -/
theorem Signature.mem_refs_of_subst {s : Subst} {signature : Signature} {ref : PackageRef}
    (h : ref ∈ (signature.subst s).refs) :
    ref ∈ signature.refs ∨ ∃ binding ∈ s, ref ∈ binding.2.refs := by
  rw [Signature.refs_eq_filterMap, Signature.mentions_subst] at h
  rw [signature.refs_eq_filterMap]
  exact mem_pkgs_of_replacement h

end IfaceGen
