import IfaceGen.MethodSet.Search

/-!
# Collecting method sets

A collector computes the descriptors of a package once and answers later questions for the same path
from memory, whatever package is passed with them.
-/

namespace IfaceGen

/-- The descriptors computed so far, by package path (`Package.path`). -/
abbrev Collector := List (String × List StructDescriptor)

/-- The descriptors of a package, and the collector that remembers them: `Scope.descriptors` for a
    new path, and what was computed before for one that is known. -/
def Collector.collect (collector : Collector) (package : Package) (program : Program) :
    Logged (List StructDescriptor × Collector) :=
  match collector.lookup package.path with
  | some descriptors => do
    Logged.tell .methodSets .debug ("Method sets of " ++ package.path ++ " served from cache")
    return (descriptors, collector)
  | none => do
    Logged.tell .methodSets .debug ("Collecting method sets of " ++ package.path)
    let descriptors ← Scope.descriptors ⟨package, program⟩
    return (descriptors, (package.path, descriptors) :: collector)

end IfaceGen
