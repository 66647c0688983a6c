import IfaceGen.Proofs.Imports.Aliases
import IfaceGen.Proofs.Imports.Build

/-!
# References in generated files

The imports of an organized file have distinct local names, each of them is referred to, and every
name in the file leads to the package that owns the type which the name was written for.

## Key results

- `ImportEntry.localName_spec`: an import is known by the alias of its package, written or implied
- `OutputSettings.exists_entry_of_mem_refs`: every package that a descriptor refers to is imported
- `OutputSettings.plan_refers`: the references of a planned file are correct
-/

namespace IfaceGen

/-- What a name in a file refers to: without a qualifier a type parameter or a predeclared type,
    with a qualifier a type of the package behind the only import of that local name. -/
inductive File.Refers (file : File) : WrittenName → Mention → Prop
  | typeParam (name : String) : Refers file ⟨none, name⟩ (.typeParam name)
  | predeclared (name : String) : Refers file ⟨none, name⟩ (.declared ⟨none, name⟩)
  | qualified {qualifier : String} {spec : Import} {owner : PackageRef}
      (only : file.imports.filter (·.localName = qualifier) = [spec])
      (owns : spec.path = owner.path) (name : String) :
      Refers file ⟨some qualifier, name⟩ (.declared ⟨some owner, name⟩)

/-! ## Imports -/

/-- An import is known by the alias of its package (`Import.localName`): where the alias is not
    written, the last segment of the path is the alias. -/
@[simp] theorem ImportEntry.localName_spec (entry : ImportEntry) :
    entry.spec.localName = entry.localName := by
  rw [ImportEntry.spec, Import.localName]
  split
  · rename_i himplied
    rw [Bool.and_eq_true, decide_eq_true_eq, decide_eq_true_eq] at himplied
    exact himplied.2
  · rfl

/-- `organizeImports` keeps the imports that are referred to. -/
theorem File.mem_imports_organizeImports {file : File} {spec : Import} :
    spec ∈ file.organizeImports.imports ↔
      spec ∈ file.imports ∧ spec.localName ∈ file.qualifiers := by
  simp only [File.organizeImports, List.mem_mergeSort, List.mem_filter, List.contains_eq_mem,
    decide_eq_true_eq]

/-- `organizeImports` does not make local names collide. -/
theorem File.nodup_organizeImports {file : File} (h : (file.imports.map (·.localName)).Nodup) :
    (file.organizeImports.imports.map (·.localName)).Nodup := by
  -- Dropping imports and sorting the rest makes no new names.
  have hused : ((file.imports.filter (file.qualifiers.contains ·.localName)).map
      (·.localName)).Nodup := (List.filter_sublist.map Import.localName).nodup h
  exact ((List.mergeSort_perm _ _).map Import.localName).nodup_iff.2 hused

namespace OutputSettings

variable {output : OutputSettings} {package : Package} {descriptors : List StructDescriptor}
  {file : File}

/-- The table `importsFor` keeps paths and aliases distinct. -/
theorem wellFormed_importsFor (package : Package) (descriptors : List StructDescriptor) :
    (importsFor package descriptors).WellFormed :=
  (ImportTable.wellFormed_empty.register package.ref).registerAll _

/-- The table `importsFor` has registered the package itself and what its interfaces refer to. -/
theorem mem_entries_importsFor {entry : ImportEntry}
    (h : entry ∈ (importsFor package descriptors).entries) :
    entry.path = package.path ∨
      ∃ descriptor ∈ descriptors.filter (·.hasMethods), ∃ ref ∈ descriptor.refs,
        entry.path = ref.path := by
  -- The package itself is registered first, and then what its interfaces refer to.
  rcases ImportTable.mem_entries_registerAll h with h | ⟨ref, href, hpath⟩
  · rcases ImportTable.mem_entries_register h with h | hpath
    · exact nomatch h
    · exact .inl hpath
  · obtain ⟨descriptor, hdescriptor, href⟩ := List.mem_flatMap.1 href
    exact .inr ⟨descriptor, hdescriptor, ref, href, hpath⟩

/-- Every package that a descriptor refers to is registered in `importsFor` under the alias that
    qualifies it. -/
theorem exists_entry_of_mem_refs (package : Package) {descriptor : StructDescriptor}
    (hdescriptor : descriptor ∈ descriptors.filter (·.hasMethods)) {ref : PackageRef}
    (href : ref ∈ descriptor.refs) :
    ∃ entry ∈ (importsFor package descriptors).entries, entry.path = ref.path ∧
      (importsFor package descriptors).qualify ref = some entry.localName := by
  have hmem : ref ∈ (descriptors.filter (·.hasMethods)).flatMap (·.refs) :=
    List.mem_flatMap.2 ⟨descriptor, hdescriptor, href⟩
  obtain ⟨localName, halias⟩ :=
    (ImportTable.wellFormed_empty.register package.ref).exists_alias?_registerAll hmem
  -- What the table answers is the alias of one of its entries.
  have hentry := (wellFormed_importsFor package descriptors).alias?_eq_some_iff.1 halias
  obtain ⟨entry, hentry, hpath, rfl⟩ := hentry
  exact ⟨entry, hentry, hpath, halias⟩

/-- The local names of the imports of a file from `fileFor` are distinct. -/
theorem nodup_localNames (h : output.fileFor package descriptors = .ok (some file)) :
    (file.imports.map (·.localName)).Nodup := by
  have haliases := (wellFormed_importsFor package descriptors).aliases_nodup
  have hlocal : Import.localName ∘ ImportEntry.spec = ImportEntry.localName :=
    funext ImportEntry.localName_spec
  rw [(fileFor_eq_some h).1, List.map_map, hlocal]
  exact haliases

/-- The qualifiers of a file from `fileFor` are the aliases of the packages that its descriptors
    refer to. -/
theorem mem_qualifiers (h : output.fileFor package descriptors = .ok (some file))
    {qualifier : String} :
    qualifier ∈ file.qualifiers ↔
      ∃ descriptor ∈ descriptors.filter (·.hasMethods), ∃ ref ∈ descriptor.refs,
        (importsFor package descriptors).qualify ref = some qualifier := by
  -- Both sides range over the mentions of the structs with methods.
  simp only [File.qualifiers_eq_filterMap, names_fileFor h, List.mem_filterMap, List.mem_map,
    List.mem_flatMap, StructDescriptor.refs_eq_filterMap]
  constructor
  · rintro ⟨_, ⟨mention, ⟨descriptor, hdescriptor, hmention⟩, rfl⟩, hqualifier⟩
    obtain ⟨ref, href, hqualify⟩ := Option.bind_eq_some_iff.1 hqualifier
    exact ⟨descriptor, hdescriptor, ref, ⟨mention, hmention, href⟩, hqualify⟩
  · rintro ⟨descriptor, hdescriptor, ref, ⟨mention, hmention, href⟩, hqualify⟩
    exact ⟨_, ⟨mention, ⟨descriptor, hdescriptor, hmention⟩, rfl⟩,
      Option.bind_eq_some_iff.2 ⟨ref, href, hqualify⟩⟩

/-- A name in a descriptor is `written` so that it refers to what it stands for. -/
theorem refers_written (h : output.fileFor package descriptors = .ok (some file))
    {descriptor : StructDescriptor} (hdescriptor : descriptor ∈ descriptors.filter (·.hasMethods))
    {mention : Mention} (hmention : mention ∈ descriptor.mentions) :
    file.organizeImports.Refers (mention.written (importsFor package descriptors).qualify)
      mention := by
  match mention, hmention with
  | .typeParam name, _ => exact .typeParam name
  | .declared ⟨none, name⟩, _ => exact .predeclared name
  | .declared ⟨some owner, name⟩, hmention =>
    have href : owner ∈ descriptor.refs := by
      rw [StructDescriptor.refs_eq_filterMap]
      exact List.mem_filterMap.2 ⟨_, hmention, rfl⟩
    obtain ⟨entry, hentry, hpath, hqualify⟩ := exists_entry_of_mem_refs package hdescriptor href
    -- The import of the package is kept, and no other import has its local name.
    have hspec : entry.spec ∈ file.organizeImports.imports := by
      rw [File.mem_imports_organizeImports, (fileFor_eq_some h).1, mem_qualifiers h,
        entry.localName_spec]
      exact ⟨List.mem_map_of_mem hentry, descriptor, hdescriptor, owner, href, hqualify⟩
    have honly := filter_key_eq_singleton (File.nodup_organizeImports (nodup_localNames h)) hspec
    rw [entry.localName_spec] at honly
    rw [Mention.written, Mention.pkg, Option.bind_some, hqualify]
    exact .qualified honly hpath name

/-- An import that `organizeImports` drops was of the package itself. -/
theorem path_of_not_mem_organizeImports (h : output.fileFor package descriptors = .ok (some file))
    {spec : Import} (hspec : spec ∈ file.imports) (hdropped : spec ∉ file.organizeImports.imports) :
    spec.path = package.path := by
  have himports := (fileFor_eq_some h).1
  obtain ⟨entry, hentry, rfl⟩ := List.mem_map.1 (himports ▸ hspec)
  rcases mem_entries_importsFor hentry with hpath | ⟨descriptor, hdescriptor, ref, href, hpath⟩
  · exact hpath
  · -- A package that a descriptor refers to is mentioned in the file.
    refine absurd (File.mem_imports_organizeImports.2 ⟨hspec, (mem_qualifiers h).2 ?_⟩) hdropped
    refine ⟨descriptor, hdescriptor, ref, href, ?_⟩
    rw [entry.localName_spec]
    exact (wellFormed_importsFor package descriptors).alias?_eq_some_iff.2
      ⟨entry, hentry, hpath, rfl⟩

/-- The references of a planned file are correct: local names are distinct, each name refers to what
    it was written for (`File.Refers`), in order and one for one, every import is referred to, and
    no import was dropped but that of the package itself. -/
theorem plan_refers {collector : Collector} {program : Program}
    (h : (output.plan collector package program).file = .ok (some file)) :
    (file.organizeImports.imports.map (·.localName)).Nodup ∧
      List.Forall₂ file.organizeImports.Refers file.organizeImports.names
        (((collector.collect package program).value.1.filter (·.hasMethods)).flatMap
          (·.mentions)) ∧
      (∀ spec ∈ file.organizeImports.imports,
        spec.localName ∈ file.organizeImports.qualifiers) ∧
      ∀ spec ∈ file.imports, spec ∉ file.organizeImports.imports → spec.path = package.path := by
  have hfile : output.fileFor package (collector.collect package program).value.1 =
      .ok (some file) := h
  refine ⟨File.nodup_organizeImports (nodup_localNames hfile), ?_, fun spec hspec => ?_,
    fun spec => path_of_not_mem_organizeImports hfile⟩
  · show List.Forall₂ _ file.names _
    -- The names of the file are the mentions as written, in the same order.
    rw [names_fileFor hfile, List.forall₂_map_left_iff, List.forall₂_same]
    intro mention hmention
    obtain ⟨descriptor, hdescriptor, hmention⟩ := List.mem_flatMap.1 hmention
    exact refers_written hfile hdescriptor hmention
  · exact (File.mem_imports_organizeImports.1 hspec).2

end OutputSettings

/-! ## A package that refers to two packages of one name -/

namespace Store

/-- The type `Key` of the package `util` in a directory. -/
def key (dir : String) : GoType :=
  .named ⟨some ⟨"example.com/" ++ dir ++ "/util", "util"⟩, "Key"⟩ []

/-- A generic struct whose methods refer to both packages. -/
def decl (param : String) : TypeDecl where
  name := "Store"
  typeParams := [⟨param, .any⟩]
  underlying := .struct []
  methods := [
    ⟨"Copy", ⟨[⟨"from", .typeParam param⟩], [⟨"", key "a"⟩], false⟩⟩,
    ⟨"Move", ⟨[⟨"to", .pointer (key "b")⟩], [], false⟩⟩]

/-- The package of the struct. -/
def package (param : String) : Package := ⟨"example.com/store", "store", [decl param], []⟩

/-- What is known of the struct `decl`. -/
def descriptor (param : String) : StructDescriptor :=
  ⟨(package param).ref, "Store", (decl param).typeParams, (decl param).methods⟩

/-- The settings under which its file is planned. -/
def output : OutputSettings where
  package := "mocks"
  suffix := "Iface"

/-- The file with the interface of `decl`, before its imports are organized. -/
def file (param : String) : File where
  package := "mocks"
  imports := [⟨none, "example.com/store"⟩, ⟨none, "example.com/a/util"⟩,
    ⟨some "util1", "example.com/b/util"⟩]
  decls := [⟨"StoreIface", [.ofName param (.ident "any")], [
    ⟨"Copy", ⟨[⟨some "from", .ident param⟩], [⟨none, .selector "util" "Key"⟩]⟩⟩,
    ⟨"Move", ⟨[⟨some "to", .star (.selector "util1" "Key")⟩], []⟩⟩]⟩]

/-- The struct has the methods that it declares. -/
theorem collect_package (param : String) :
    (Collector.collect [] (package param) []).value.1 = [descriptor param] := by
  have hsearch : (Scope.search ⟨package param, []⟩
      [("example.com/store", "Store"), ("", "error"), ("example.com/store", "Store")] []
      [⟨"example.com/store", decl param, [], false⟩]).value = (decl param).methods := by
    rw [Scope.search]
    -- Nothing is embedded, so that the next level is empty.
    show _ ++ (Scope.search _ _ _ []).value = _
    rw [Scope.search]
    rfl
  have hexported : (decl param).methods.filter Method.isExported = (decl param).methods := by
    rw [List.filter_eq_self]
    intro method hmethod
    rcases List.mem_pair.1 hmethod with rfl | rfl
    · show isExported "Copy" = true
      decide
    · show isExported "Move" = true
      decide
  -- The methods are sorted by name as they are declared.
  have hsorted : (decl param).methods.Pairwise (decide <| ·.name ≤ ·.name) :=
    List.pairwise_pair.2 (decide_eq_true (by decide : "Copy" ≤ "Move"))
  have hmethods : (Scope.methodSet ⟨package param, []⟩ (decl param)).value =
      (decl param).methods := by
    have hfilter := congrArg (fun methods => (methods.filter Method.isExported).mergeSort
      (decide <| ·.name ≤ ·.name)) hsearch
    refine hfilter.trans ?_
    rw [hexported]
    exact List.mergeSort_of_pairwise hsorted
  have hdecls : Scope.structDecls (package param) = [decl param] := by
    have hdecl : (decl param).isExported = true := by
      show isExported "Store" = true
      decide
    rw [Scope.structDecls, package, List.filter_cons, hdecl]
    exact List.mergeSort_singleton (decl param)
  show (Scope.descriptors ⟨package param, []⟩).value = _
  rw [Scope.descriptors, hdecls]
  show [StructDescriptor.mk _ _ _ (Scope.methodSet ⟨package param, []⟩ (decl param)).value] = _
  rw [hmethods]
  rfl

/-- The planned file, under a type parameter with a name of its own. -/
theorem file_plan : (output.plan [] (package "T") []).file = .ok (some (file "T")) := by
  show output.fileFor (package "T") (Collector.collect [] (package "T") []).value.1 = _
  rw [collect_package]
  rfl

/-- Both packages are told apart. -/
theorem refers_file : List.Forall₂ (file "T").organizeImports.Refers
    [⟨none, "any"⟩, ⟨none, "T"⟩, ⟨some "util", "Key"⟩, ⟨some "util1", "Key"⟩]
    [.declared ⟨none, "any"⟩, .typeParam "T",
      .declared ⟨some ⟨"example.com/a/util", "util"⟩, "Key"⟩,
      .declared ⟨some ⟨"example.com/b/util", "util"⟩, "Key"⟩] := by
  have hrefers := (OutputSettings.plan_refers file_plan).2.1
  rw [collect_package] at hrefers
  exact hrefers

end Store

end IfaceGen
