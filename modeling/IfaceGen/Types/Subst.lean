import IfaceGen.Types.Basic

/-!
# Substitution of type parameters

When the methods of a generic embedded type are promoted, its type parameters are replaced by the
type arguments of the embedding. Substitution is simultaneous: what an argument brings in is not
substituted again.
-/

namespace IfaceGen

/-- A substitution binds names of type parameters to types. If a name is bound twice, the later
    binding counts. -/
abbrev Subst := List (String × GoType)

/-- The type bound to a name by the last of its bindings. -/
def Subst.get? : Subst → String → Option GoType
  | [], _ => none
  | (param, type) :: bindings, name =>
    (Subst.get? bindings name).or (if param = name then some type else none)

mutual
/-- Replaces every bound type parameter, in all parts of the type, by the type that `Subst.get?`
    finds. -/
def GoType.subst (s : Subst) : GoType → GoType
  | .basic name => .basic name
  | .array len elem => .array len (elem.subst s)
  | .slice elem => .slice (elem.subst s)
  | .map key elem => .map (key.subst s) (elem.subst s)
  | .chan dir elem => .chan dir (elem.subst s)
  | .pointer elem => .pointer (elem.subst s)
  | .interface embeddeds methods => .interface (substTypes s embeddeds) (substMethods s methods)
  | .func signature => .func (signature.subst s)
  | .named name args => .named name (substTypes s args)
  | .alias name args => .alias name (substTypes s args)
  | .typeParam name => (s.get? name).getD (.typeParam name)
  | .union terms => .union (substTerms s terms)
  | .struct fields => .struct (substFields s fields)
  | .unknown => .unknown

/-- Replaces every bound type parameter of a signature, by `GoType.subst`. -/
def Signature.subst (s : Subst) : Signature → Signature
  | ⟨params, results, variadic⟩ => ⟨substVars s params, substVars s results, variadic⟩

/-- `GoType.subst` on each type. -/
def substTypes (s : Subst) : List GoType → List GoType
  | [] => []
  | type :: types => type.subst s :: substTypes s types

/-- `GoType.subst` on each variable. -/
def substVars (s : Subst) : List Var → List Var
  | [] => []
  | ⟨name, type⟩ :: vars => ⟨name, type.subst s⟩ :: substVars s vars

/-- `Signature.subst` on each method. -/
def substMethods (s : Subst) : List Method → List Method
  | [] => []
  | ⟨name, signature⟩ :: methods => ⟨name, signature.subst s⟩ :: substMethods s methods

/-- `GoType.subst` on each term. -/
def substTerms (s : Subst) : List Term → List Term
  | [] => []
  | ⟨tilde, type⟩ :: terms => ⟨tilde, type.subst s⟩ :: substTerms s terms

/-- `GoType.subst` on each field. -/
def substFields (s : Subst) : List Field → List Field
  | [] => []
  | ⟨name, type, embedded⟩ :: fields => ⟨name, type.subst s, embedded⟩ :: substFields s fields
end

/-- A method with its signature under a substitution. -/
def Method.subst (s : Subst) (method : Method) : Method :=
  ⟨method.name, method.signature.subst s⟩

theorem substTypes_eq_map (s : Subst) (types : List GoType) :
    substTypes s types = types.map (GoType.subst s) := by
  induction types with
  | nil => rfl
  | cons type types ih => simp [substTypes, ih]

theorem substMethods_eq_map (s : Subst) (methods : List Method) :
    substMethods s methods = methods.map (Method.subst s) := by
  induction methods with
  | nil => rfl
  | cons method methods ih => cases method; simp [substMethods, Method.subst, ih]

end IfaceGen
