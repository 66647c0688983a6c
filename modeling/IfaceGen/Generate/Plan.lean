import IfaceGen.Config.Basic
import IfaceGen.Generate.Event
import IfaceGen.MethodSet.Collector

/-!
# Planning the output of a package

Everything about a package but the writing of its file: which interfaces it gets, what is reported
about them, and the file that holds them.
-/

namespace IfaceGen

/-- The imports that the file of a package may need: the package itself, then those that the
    interfaces refer to. -/
def importsFor (package : Package) (descriptors : List StructDescriptor) : ImportTable :=
  (ImportTable.empty.register package.ref).registerAll
    ((descriptors.filter (·.hasMethods)).flatMap (·.refs))

/-- The builder that all descriptors were offered to, by `FileBuilder.addStruct`. -/
def OutputSettings.builderFor (output : OutputSettings) (descriptors : List StructDescriptor) :
    FileBuilder :=
  descriptors.foldl FileBuilder.addStruct (FileBuilder.empty output.package output.suffix)

/-- What is reported about the descriptors, one event each: its `FileBuilder.outcome`. -/
def OutputSettings.reports (output : OutputSettings) (descriptors : List StructDescriptor) :
    List Event :=
  descriptors.map fun descriptor =>
    ((FileBuilder.empty output.package output.suffix).outcome descriptor).event descriptor.name

/-- The file with the interfaces of the descriptors, if there are any. Its types are spelled with
    the aliases of `importsFor`. -/
def OutputSettings.fileFor (output : OutputSettings) (package : Package)
    (descriptors : List StructDescriptor) : Except BuildError (Option File) :=
  let builder := output.builderFor descriptors
  let table := importsFor package descriptors
  -- A package without interfaces fails for no type, as nothing is spelled.
  if builder.hasInterfaces then
    ((table.entries.foldl FileBuilder.addImport builder).build table.qualify).map some
  else .ok none

/-- What processing a package comes to before its file is written. -/
structure Plan where
  /-- What can be seen of the processing. -/
  trace : List Action
  /-- The file, or none if the package has no interfaces. -/
  file : Except BuildError (Option File)
  interfaceCount : Nat
  /-- The collector, which now knows the package. -/
  collector : Collector

/-- Plans the output of a package: asks the collector for its descriptors and builds the file
    (`OutputSettings.fileFor`). -/
def OutputSettings.plan (output : OutputSettings) (collector : Collector) (package : Package)
    (program : Program) : Plan :=
  let collected := collector.collect package program
  let descriptors := collected.value.1
  { trace := .report (.started package.path) :: collected.log.map .log
      ++ (output.reports descriptors).map .report
    file := output.fileFor package descriptors
    interfaceCount := (descriptors.filter (·.hasMethods)).length
    collector := collected.value.2 }

end IfaceGen
