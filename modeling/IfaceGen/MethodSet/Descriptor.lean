import IfaceGen.Package.Basic
import IfaceGen.Types.Refs

/-!
# Struct descriptors

An exported struct with its exported method set, which is all that generation needs to know of it.
-/

namespace IfaceGen

/-- An exported struct type together with its exported method set, as `Scope.describe` makes it. -/
structure StructDescriptor where
  pkg : PackageRef
  name : String
  /-- The type parameters in the order of the declaration. -/
  typeParams : List TypeParam
  /-- The exported methods, sorted by name. -/
  methods : List Method

namespace StructDescriptor

/-- Whether there is a method to put into an interface. -/
def hasMethods (descriptor : StructDescriptor) : Bool :=
  !descriptor.methods.isEmpty

/-- The package references (`GoType.refs`) of the constraints, then those of the methods. -/
def refs (descriptor : StructDescriptor) : List PackageRef :=
  descriptor.typeParams.flatMap (·.constraint.refs) ++ methodsRefs descriptor.methods

end StructDescriptor

end IfaceGen
