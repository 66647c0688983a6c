import IfaceGen.MethodSet.Scope

/-!
# The methods of an interface

An interface has its own methods and those of the interfaces it embeds, in depth-first order. Of
several methods with one name the first counts, and each embedded type is entered once, so
interfaces may embed each other in circles.

The recursion is bounded by the list of types that have not been entered yet (`fresh`).
-/

namespace IfaceGen

/-- Appends those of the methods `more` whose names `methods` does not have yet. -/
def addNewMethods (methods : List Method) (more : List Method) : List Method :=
  more.foldl (fun known method =>
    if known.any (·.name = method.name) then known else known ++ [method]) methods

/-- The types `fresh` without the one entered, so that `key` is not entered again. -/
def enter (fresh : List TypeKey) (key : TypeKey) : List TypeKey :=
  fresh.filter (· ≠ key)

theorem length_enter_lt {fresh : List TypeKey} {key : TypeKey} (h : key ∈ fresh) :
    (enter fresh key).length < fresh.length := by
  refine List.length_filter_lt_length_iff_exists.2 ⟨key, h, ?_⟩
  simp

namespace Scope

/-- Adds the methods of the embedded elements to `methods`, and returns the types that have still
    not been entered. -/
def addEmbedded (scope : Scope) (subst : Subst) (embeddeds : List GoType) (methods : List Method)
    (fresh : List TypeKey) :
    Logged (List Method × { rest : List TypeKey // rest.length ≤ fresh.length }) :=
  match embeddeds with
  | [] => pure (methods, ⟨fresh, Nat.le_refl _⟩)
  | element :: elements => do
    match ← scope.resolve (element.subst subst) with
    | none => scope.addEmbedded subst elements methods fresh
    | some embedding =>
      if h : embedding.key ∈ fresh then
        have entered := length_enter_lt h
        match embedding.decl.underlying with
        | .interface inner own => do
          let ownMethods := own.map (Method.subst embedding.subst)
          let (found, ⟨fresh₁, h₁⟩) ←
            scope.addEmbedded embedding.subst inner ownMethods (enter fresh embedding.key)
          let (all, ⟨fresh₂, h₂⟩) ←
            scope.addEmbedded subst elements (addNewMethods methods found) fresh₁
          return (all, ⟨fresh₂, by omega⟩)
        -- Another type adds nothing, but it counts as entered.
        | _ => do
          let (all, ⟨fresh₁, h₁⟩) ←
            scope.addEmbedded subst elements methods (enter fresh embedding.key)
          return (all, ⟨fresh₁, by omega⟩)
      else scope.addEmbedded subst elements methods fresh
termination_by (fresh.length, embeddeds.length)

/-- All methods of an interface literal under a substitution: its own, then those that
    `Scope.addEmbedded` finds in the interfaces it embeds, when no type has been entered yet. -/
def interfaceMethods (scope : Scope) (subst : Subst) (embeddeds : List GoType)
    (methods : List Method) : Logged (List Method) := do
  let (all, _) ←
    scope.addEmbedded subst embeddeds (methods.map (Method.subst subst)) scope.keys
  return all

end Scope

end IfaceGen
