import IfaceGen.Types.Basic

/-!
# Package references

The packages that own the named types inside a type, in the order in which the type mentions them,
with repetitions. Struct literals cannot be spelled and are not looked into; the members of an
interface literal are.
-/

namespace IfaceGen

mutual
/-- The package references of a type, in the order in which they are written. Nothing inside a
    `struct` literal counts. -/
def GoType.refs : GoType → List PackageRef
  | .basic _ | .typeParam _ | .struct _ | .unknown => []
  | .array _ elem | .slice elem | .chan _ elem | .pointer elem => elem.refs
  | .map key elem => key.refs ++ elem.refs
  | .interface embeddeds methods => typesRefs embeddeds ++ methodsRefs methods
  | .func signature => signature.refs
  | .named name args | .alias name args => name.pkg.toList ++ typesRefs args
  | .union terms => termsRefs terms

/-- The package references of the parameters, then those of the results (`varsRefs`). -/
def Signature.refs : Signature → List PackageRef
  | ⟨params, results, _⟩ => varsRefs params ++ varsRefs results

/-- The package references (`GoType.refs`) of the types, one after the other. -/
def typesRefs : List GoType → List PackageRef
  | [] => []
  | type :: types => type.refs ++ typesRefs types

/-- The package references of the variables. -/
def varsRefs : List Var → List PackageRef
  | [] => []
  | ⟨_, type⟩ :: vars => type.refs ++ varsRefs vars

/-- The package references of the signatures (`Signature.refs`). -/
def methodsRefs : List Method → List PackageRef
  | [] => []
  | ⟨_, signature⟩ :: methods => signature.refs ++ methodsRefs methods

/-- The package references of the terms. -/
def termsRefs : List Term → List PackageRef
  | [] => []
  | ⟨_, type⟩ :: terms => type.refs ++ termsRefs terms
end

end IfaceGen
