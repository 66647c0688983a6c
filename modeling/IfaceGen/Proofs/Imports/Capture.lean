import IfaceGen.Proofs.Imports.References

/-!
# Capture of names in generated files

An identifier is looked up in the type parameters of its declaration first, then among the imports
of the file, then among its interfaces, and last among the predeclared names. Aliases are chosen
apart from each other only, so that an alias may be the name of a type parameter, of an interface or
of a predeclared type. `OutputSettings.AliasesApart` is the exact condition under which this does
not happen. What is left then is a type parameter that hides a predeclared type: the methods of an
embedded type do not know the type parameters of the struct.

## Key results

- `OutputSettings.captureFree_iff`: a built file is free of capture if and only if its aliases are
  apart from its other names
- `OutputSettings.forall₂_resolves_iff`: when all names of a file that is free of capture are looked
  up as they were meant
- `Store.not_captureFree`: a file in which a type parameter captures the alias of a package
-/

namespace IfaceGen

/-! ## Looking names up -/

/-- What an identifier stands for. -/
inductive Entity where
  | typeParam
  | imported (spec : Import)
  | interface
  | predeclared

/-- Looks an identifier up in the scopes around it, the innermost first: type parameters, then
    imports and interfaces, then predeclared names. -/
def File.resolve (file : File) (decl : InterfaceDecl) (identifier : String) : Entity :=
  if some identifier ∈ decl.typeParams.map (·.name) then .typeParam
  else match file.imports.find? (·.localName = identifier) with
    | some spec => .imported spec
    | none => if identifier ∈ file.decls.map (·.name) then .interface else .predeclared

/-- A name in a declaration is looked up as it was meant: a type parameter and a predeclared type
    are found as such, and a qualifier leads to the import of the package that owns the type. -/
inductive File.Resolves (file : File) (decl : InterfaceDecl) : WrittenName → Mention → Prop
  | typeParam {name : String} (h : file.resolve decl name = .typeParam) :
      Resolves file decl ⟨none, name⟩ (.typeParam name)
  | predeclared {name : String} (h : file.resolve decl name = .predeclared) :
      Resolves file decl ⟨none, name⟩ (.declared ⟨none, name⟩)
  | qualified {qualifier : String} {spec : Import} {owner : PackageRef}
      (h : file.resolve decl qualifier = .imported spec) (owns : spec.path = owner.path)
      (name : String) : Resolves file decl ⟨some qualifier, name⟩ (.declared ⟨some owner, name⟩)

/-- No name of a file captures another one that stands in its scope. -/
structure File.CaptureFree (file : File) : Prop where
  /-- No qualifier is a type parameter of the declaration around it. -/
  qualifiers : ∀ decl ∈ file.decls, ∀ qualifier ∈ decl.qualifiers,
    some qualifier ∉ decl.typeParams.map (·.name)
  /-- No import is called like an interface. -/
  interfaces : ∀ spec ∈ file.imports, ∀ decl ∈ file.decls, spec.localName ≠ decl.name
  /-- No name without a qualifier is that of an import. -/
  identifiers : ∀ decl ∈ file.decls, ∀ name, ⟨none, name⟩ ∈ decl.names →
    ∀ spec ∈ file.imports, spec.localName ≠ name

/-- The aliases of the packages that descriptors refer to are apart from the other names in the
    file: from the type parameters of a descriptor that refers to the package, from the interfaces,
    and from the names that are written without a qualifier. -/
structure OutputSettings.AliasesApart (output : OutputSettings) (package : Package)
    (descriptors : List StructDescriptor) : Prop where
  typeParams : ∀ descriptor ∈ descriptors.filter (·.hasMethods), ∀ ref ∈ descriptor.refs,
    ∀ param ∈ descriptor.typeParams,
      (importsFor package descriptors).qualify ref ≠ param.declaredName?
  interfaces : ∀ descriptor ∈ descriptors.filter (·.hasMethods), ∀ ref ∈ descriptor.refs,
    ∀ other ∈ descriptors.filter (·.hasMethods),
      (importsFor package descriptors).qualify ref ≠ some (other.name ++ output.suffix)
  identifiers : ∀ descriptor ∈ descriptors.filter (·.hasMethods), ∀ ref ∈ descriptor.refs,
    ∀ other ∈ descriptors.filter (·.hasMethods), ∀ mention ∈ other.mentions, mention.pkg = none →
      (importsFor package descriptors).qualify ref ≠ some mention.name

/-- A name keeps its meaning among type parameters and interfaces: a type parameter is one of them,
    and a predeclared type is not called like any of them. -/
def Mention.InScope (typeParams : List (Option String)) (interfaces : List String) :
    Mention → Prop
  | .typeParam name => some name ∈ typeParams
  | .declared ⟨none, name⟩ => some name ∉ typeParams ∧ name ∉ interfaces
  | .declared ⟨some _, _⟩ => True

instance (typeParams : List (Option String)) (interfaces : List String) (mention : Mention) :
    Decidable (mention.InScope typeParams interfaces) :=
  match mention with
  | .typeParam name => inferInstanceAs (Decidable (some name ∈ typeParams))
  | .declared ⟨none, name⟩ =>
    inferInstanceAs (Decidable (some name ∉ typeParams ∧ name ∉ interfaces))
  | .declared ⟨some _, _⟩ => .isTrue trivial

/-- The names in each descriptor keep their meaning in the file, in the sense of
    `Mention.InScope`. -/
def OutputSettings.NamesInScope (output : OutputSettings) (descriptors : List StructDescriptor) :
    Prop :=
  ∀ descriptor ∈ descriptors.filter (·.hasMethods), ∀ mention ∈ descriptor.mentions,
    mention.InScope (descriptor.typeParams.map (·.declaredName?))
      ((descriptors.filter (·.hasMethods)).map (·.name ++ output.suffix))

/-- `File.resolve` finds a type parameter before anything else. -/
theorem File.resolve_eq_typeParam_iff {file : File} {decl : InterfaceDecl} {identifier : String} :
    file.resolve decl identifier = .typeParam ↔
      some identifier ∈ decl.typeParams.map (·.name) := by
  unfold File.resolve
  split
  · exact iff_of_true rfl ‹_›
  · refine iff_of_false ?_ ‹_›
    split
    · exact Entity.noConfusion
    · split <;> exact Entity.noConfusion

/-- `File.resolve` finds a predeclared name where nothing else has the name. -/
theorem File.resolve_eq_predeclared_iff {file : File} {decl : InterfaceDecl}
    {identifier : String} :
    file.resolve decl identifier = .predeclared ↔
      some identifier ∉ decl.typeParams.map (·.name) ∧
        (∀ spec ∈ file.imports, spec.localName ≠ identifier) ∧
        identifier ∉ file.decls.map (·.name) := by
  -- The scopes are left one after the other, from the innermost.
  unfold File.resolve
  by_cases hparam : some identifier ∈ decl.typeParams.map (·.name)
  · rw [if_pos hparam]
    exact iff_of_false Entity.noConfusion fun h => h.1 hparam
  rw [if_neg hparam]
  cases hfind : file.imports.find? (·.localName = identifier) with
  | some spec =>
    refine iff_of_false Entity.noConfusion fun h => h.2.1 spec (List.mem_of_find?_eq_some hfind) ?_
    simpa using List.find?_some hfind
  | none =>
    have himports : ∀ spec ∈ file.imports, spec.localName ≠ identifier := by
      simpa using hfind
    by_cases hdecl : identifier ∈ file.decls.map (·.name)
    · rw [if_pos hdecl]
      exact iff_of_false Entity.noConfusion fun h => h.2.2 hdecl
    · rw [if_neg hdecl]
      exact iff_of_true rfl ⟨hparam, himports, hdecl⟩

namespace OutputSettings

variable {output : OutputSettings} {package : Package} {descriptors : List StructDescriptor}
  {file : File}

/-! ## The names of a built file -/

/-- The local names of the imports that `organizeImports` keeps are the qualifiers of the file. -/
theorem exists_localName_iff (h : output.fileFor package descriptors = .ok (some file))
    {name : String} :
    (∃ spec ∈ file.organizeImports.imports, spec.localName = name) ↔
      ∃ descriptor ∈ descriptors.filter (·.hasMethods), ∃ ref ∈ descriptor.refs,
        (importsFor package descriptors).qualify ref = some name := by
  constructor
  · rintro ⟨spec, hspec, rfl⟩
    exact (mem_qualifiers h).1 (File.mem_imports_organizeImports.1 hspec).2
  · rintro ⟨descriptor, hdescriptor, ref, href, hqualify⟩
    obtain ⟨entry, hentry, -, hlocal⟩ := exists_entry_of_mem_refs package hdescriptor href
    obtain rfl : entry.localName = name := Option.some.inj (hlocal.symm.trans hqualify)
    refine ⟨entry.spec, File.mem_imports_organizeImports.2 ⟨?_, ?_⟩, entry.localName_spec⟩
    · -- The import is there, as the package was registered, and it is kept, as a name has its
      -- qualifier.
      rw [(fileFor_eq_some h).1]
      exact List.mem_map_of_mem hentry
    · rw [entry.localName_spec]
      exact (mem_qualifiers h).2 ⟨descriptor, hdescriptor, ref, href, hqualify⟩

/-- The qualifiers of a declaration made by `StructDescriptor.interface` are the aliases of the
    packages that its descriptor refers to. -/
theorem mem_qualifiers_interface {descriptor : StructDescriptor} {qualify : Qualifier}
    {name : String} {decl : InterfaceDecl} (h : descriptor.interface qualify name = .ok decl)
    {qualifier : String} :
    qualifier ∈ decl.qualifiers ↔ ∃ ref ∈ descriptor.refs, qualify ref = some qualifier := by
  simp only [decl.qualifiers_eq_filterMap, (StructDescriptor.interface_eq_ok h).2.2,
    descriptor.refs_eq_filterMap, List.mem_filterMap, List.mem_map]
  -- A written name has a qualifier if and only if the mention has a package to qualify.
  constructor
  · rintro ⟨_, ⟨mention, hmention, rfl⟩, hqualifier⟩
    obtain ⟨ref, href, hqualify⟩ := Option.bind_eq_some_iff.1 hqualifier
    exact ⟨ref, ⟨mention, hmention, href⟩, hqualify⟩
  · rintro ⟨ref, ⟨mention, hmention, href⟩, hqualify⟩
    exact ⟨_, ⟨mention, hmention, rfl⟩, Option.bind_eq_some_iff.2 ⟨ref, href, hqualify⟩⟩

/-- The names without a qualifier are those of mentions that no package owns (`Mention.pkg`). -/
theorem mem_names_interface {descriptor : StructDescriptor}
    (hdescriptor : descriptor ∈ descriptors.filter (·.hasMethods)) {owner : String}
    {decl : InterfaceDecl}
    (h : descriptor.interface (importsFor package descriptors).qualify owner = .ok decl)
    {name : String} :
    ⟨none, name⟩ ∈ decl.names ↔
      ∃ mention ∈ descriptor.mentions, mention.pkg = none ∧ mention.name = name := by
  rw [(StructDescriptor.interface_eq_ok h).2.2, List.mem_map]
  constructor
  · rintro ⟨mention, hmention, hwritten⟩
    refine ⟨mention, hmention, ?_, congrArg WrittenName.name hwritten⟩
    cases hpkg : mention.pkg with
    | none => rfl
    | some ref =>
      -- A name that a package owns is written with the alias of the package.
      have href : ref ∈ descriptor.refs := by
        rw [descriptor.refs_eq_filterMap]
        exact List.mem_filterMap.2 ⟨mention, hmention, hpkg⟩
      obtain ⟨entry, -, -, hqualify⟩ := exists_entry_of_mem_refs package hdescriptor href
      have hnone : mention.pkg.bind (importsFor package descriptors).qualify = none :=
        congrArg WrittenName.qualifier hwritten
      rw [hpkg, Option.bind_some, hqualify] at hnone
      exact nomatch hnone
  · rintro ⟨mention, hmention, hpkg, rfl⟩
    exact ⟨mention, hmention, by rw [Mention.written, hpkg, Option.bind_none]⟩

/-! ## The exact condition -/

/-- A built file is `CaptureFree` if and only if its aliases are apart from its other names
    (`AliasesApart`). -/
theorem captureFree_iff (h : output.fileFor package descriptors = .ok (some file)) :
    file.organizeImports.CaptureFree ↔ output.AliasesApart package descriptors := by
  have hdecls := (fileFor_eq_some h).2
  -- Each condition is carried over on its own: the names of a declaration are those of its
  -- descriptor, and the local names of the imports are the aliases of what descriptors refer to.
  constructor
  · intro hfree
    refine ⟨fun descriptor hdescriptor ref href param hparam heq => ?_,
      fun descriptor hdescriptor ref href other hother heq => ?_,
      fun descriptor hdescriptor ref href other hother mention hmention hpkg heq => ?_⟩
    · obtain ⟨decl, hdecl, hinterface⟩ := exists_right_of_forall₂ hdecls hdescriptor
      obtain ⟨entry, -, -, hqualify⟩ := exists_entry_of_mem_refs package hdescriptor href
      have hmem := (mem_qualifiers_interface hinterface).2 ⟨ref, href, hqualify⟩
      refine hfree.qualifiers decl hdecl entry.localName hmem ?_
      rw [(StructDescriptor.interface_eq_ok hinterface).2.1, ← hqualify, heq]
      exact List.mem_map_of_mem hparam
    · obtain ⟨decl, hdecl, hinterface⟩ := exists_right_of_forall₂ hdecls hother
      obtain ⟨spec, hspec, hlocal⟩ :=
        (exists_localName_iff h).2 ⟨descriptor, hdescriptor, ref, href, heq⟩
      refine hfree.interfaces spec hspec decl hdecl ?_
      rw [hlocal, (StructDescriptor.interface_eq_ok hinterface).1]
    · obtain ⟨decl, hdecl, hinterface⟩ := exists_right_of_forall₂ hdecls hother
      obtain ⟨spec, hspec, hlocal⟩ :=
        (exists_localName_iff h).2 ⟨descriptor, hdescriptor, ref, href, heq⟩
      have hname := (mem_names_interface hother hinterface).2 ⟨mention, hmention, hpkg, rfl⟩
      exact hfree.identifiers decl hdecl mention.name hname spec hspec hlocal
  · intro hapart
    -- The same three conditions, from the descriptors to the declarations.
    refine ⟨fun decl hdecl qualifier hqualifier hparam => ?_, fun spec hspec decl hdecl heq => ?_,
      fun decl hdecl name hname spec hspec heq => ?_⟩
    · obtain ⟨descriptor, hdescriptor, hinterface⟩ := exists_left_of_forall₂ hdecls hdecl
      obtain ⟨ref, href, hqualify⟩ := (mem_qualifiers_interface hinterface).1 hqualifier
      rw [(StructDescriptor.interface_eq_ok hinterface).2.1] at hparam
      obtain ⟨param, hparam, hdeclared⟩ := List.mem_map.1 hparam
      exact hapart.typeParams descriptor hdescriptor ref href param hparam
        (hqualify.trans hdeclared.symm)
    · obtain ⟨other, hother, hinterface⟩ := exists_left_of_forall₂ hdecls hdecl
      obtain ⟨descriptor, hdescriptor, ref, href, hqualify⟩ :=
        (exists_localName_iff h).1 ⟨spec, hspec, rfl⟩
      refine hapart.interfaces descriptor hdescriptor ref href other hother ?_
      rw [hqualify, heq, (StructDescriptor.interface_eq_ok hinterface).1]
    · obtain ⟨other, hother, hinterface⟩ := exists_left_of_forall₂ hdecls hdecl
      obtain ⟨descriptor, hdescriptor, ref, href, hqualify⟩ :=
        (exists_localName_iff h).1 ⟨spec, hspec, rfl⟩
      obtain ⟨mention, hmention, hpkg, rfl⟩ := (mem_names_interface hother hinterface).1 hname
      refine hapart.identifiers descriptor hdescriptor ref href other hother mention hmention
        hpkg ?_
      rw [hqualify, heq]

/-- The interfaces of a built file are called as the settings say: like the structs, with
    `OutputSettings.suffix` behind. -/
theorem names_decls (h : output.fileFor package descriptors = .ok (some file)) :
    file.decls.map (·.name) =
      (descriptors.filter (·.hasMethods)).map (·.name ++ output.suffix) := by
  have hdecls := (fileFor_eq_some h).2
  generalize descriptors.filter (·.hasMethods) = described at hdecls ⊢
  generalize file.decls = decls at hdecls ⊢
  induction hdecls with
  | nil => rfl
  | cons hdecl _ ih =>
    rw [List.map_cons, List.map_cons, ih, (StructDescriptor.interface_eq_ok hdecl).1]

/-- In a file that is `CaptureFree` a name is looked up as it was meant if and only if it keeps its
    meaning among the type parameters and the interfaces. -/
theorem resolves_written_iff (h : output.fileFor package descriptors = .ok (some file))
    (hfree : file.organizeImports.CaptureFree) {descriptor : StructDescriptor}
    (hdescriptor : descriptor ∈ descriptors.filter (·.hasMethods)) {decl : InterfaceDecl}
    (hdecl : decl ∈ file.decls)
    (hinterface : descriptor.interface (importsFor package descriptors).qualify
      (descriptor.name ++ output.suffix) = .ok decl)
    {mention : Mention} (hmention : mention ∈ descriptor.mentions) :
    file.organizeImports.Resolves decl
        (mention.written (importsFor package descriptors).qualify) mention ↔
      mention.InScope (descriptor.typeParams.map (·.declaredName?))
        ((descriptors.filter (·.hasMethods)).map (·.name ++ output.suffix)) := by
  obtain ⟨-, hparams, hnames⟩ := StructDescriptor.interface_eq_ok hinterface
  have hwritten : mention.written (importsFor package descriptors).qualify ∈ decl.names := by
    rw [hnames]
    exact List.mem_map_of_mem hmention
  have hrefers := refers_written h hdescriptor hmention
  rw [← hparams, ← names_decls h]
  -- What the name refers to among the imports is known; it remains to look it up by scopes.
  generalize mention.written (importsFor package descriptors).qualify = written
    at hrefers hwritten ⊢
  cases hrefers with
  | typeParam name =>
    refine Iff.trans ⟨fun hresolves => ?_, .typeParam⟩ File.resolve_eq_typeParam_iff
    cases hresolves with
    | typeParam hresolve => exact hresolve
  | predeclared name =>
    have himports := hfree.identifiers decl hdecl name hwritten
    constructor
    · intro hresolves
      cases hresolves with
      | predeclared hresolve =>
        obtain ⟨hparam, -, hother⟩ := File.resolve_eq_predeclared_iff.1 hresolve
        exact ⟨hparam, hother⟩
    · intro hscope
      exact .predeclared (File.resolve_eq_predeclared_iff.2 ⟨hscope.1, himports, hscope.2⟩)
  | @qualified qualifier spec owner only owns name =>
    have hqualifier : qualifier ∈ decl.qualifiers := by
      rw [decl.qualifiers_eq_filterMap]
      exact List.mem_filterMap.2 ⟨_, hwritten, rfl⟩
    -- The only import of this local name is also the first one.
    refine iff_of_true (.qualified ?_ owns name) trivial
    rw [File.resolve, if_neg (hfree.qualifiers decl hdecl qualifier hqualifier),
      ← List.head?_filter, only]
    rfl

/-- In a file that is `CaptureFree` all names are looked up as they were meant if and only if they
    keep their meaning among the type parameters and the interfaces (`NamesInScope`). -/
theorem forall₂_resolves_iff (h : output.fileFor package descriptors = .ok (some file))
    (hfree : file.organizeImports.CaptureFree) :
    List.Forall₂ (fun decl descriptor =>
        List.Forall₂ (file.organizeImports.Resolves decl) decl.names descriptor.mentions)
      file.organizeImports.decls (descriptors.filter (·.hasMethods)) ↔
      output.NamesInScope descriptors := by
  refine forall₂_iff_forall_mem (forall₂_and_mem (fileFor_eq_some h).2.flip)
    fun decl descriptor ⟨hinterface, hdecl, hdescriptor⟩ => ?_
  rw [(StructDescriptor.interface_eq_ok hinterface).2.2, List.forall₂_map_left_iff,
    List.forall₂_same]
  exact forall₂_congr fun mention => resolves_written_iff h hfree hdescriptor hdecl hinterface

/-- A planned file is `CaptureFree` if and only if its aliases are apart from its other names
    (`AliasesApart`). Then all names in it are looked up as they were meant if and only if they keep
    their meaning among the type parameters and the interfaces (`NamesInScope`). -/
theorem plan_captureFree_iff {collector : Collector} {program : Program}
    (h : (output.plan collector package program).file = .ok (some file)) :
    (file.organizeImports.CaptureFree ↔
        output.AliasesApart package (collector.collect package program).value.1) ∧
      (file.organizeImports.CaptureFree →
        (List.Forall₂ (fun decl descriptor =>
            List.Forall₂ (file.organizeImports.Resolves decl) decl.names descriptor.mentions)
          file.organizeImports.decls
          ((collector.collect package program).value.1.filter (·.hasMethods)) ↔
        output.NamesInScope (collector.collect package program).value.1)) :=
  ⟨captureFree_iff h, forall₂_resolves_iff h⟩

end OutputSettings

/-! ## A type parameter that is called like a package -/

namespace Store

/-- The file under a type parameter that is called like the packages. -/
theorem file_plan_util :
    (output.plan [] (package "util") []).file = .ok (some (file "util")) := by
  show output.fileFor (package "util") (Collector.collect [] (package "util") []).value.1 = _
  rw [collect_package]
  rfl

/-- The type parameter `util` captures the alias of a package. -/
theorem not_captureFree : ¬ (file "util").organizeImports.CaptureFree := by
  intro hfree
  have hparam := hfree.qualifiers _ (List.mem_singleton_self _) "util" List.mem_cons_self
  exact hparam List.mem_cons_self

/-- Not every planned file is `CaptureFree`. -/
theorem exists_plan_not_captureFree : ∃ output collector package program file,
    (OutputSettings.plan output collector package program).file = .ok (some file) ∧
      ¬ file.organizeImports.CaptureFree :=
  ⟨output, [], package "util", [], file "util", file_plan_util, not_captureFree⟩

theorem aliasesApart : output.AliasesApart (package "T") [descriptor "T"] :=
  ⟨by decide, by decide, by decide⟩

theorem namesInScope : output.NamesInScope [descriptor "T"] := by
  unfold OutputSettings.NamesInScope
  decide

/-- Under another name of the type parameter nothing is captured. -/
theorem captureFree_iff_file :
    (file "T").organizeImports.CaptureFree ∧
      List.Forall₂ (fun decl descriptor => List.Forall₂ ((file "T").organizeImports.Resolves decl)
          decl.names descriptor.mentions)
        (file "T").organizeImports.decls [descriptor "T"] ∧
      ¬ output.AliasesApart (package "util") [descriptor "util"] := by
  -- The parameter `T` is apart from the alias, and the parameter `util` is not.
  obtain ⟨hfree, hresolves⟩ := OutputSettings.plan_captureFree_iff file_plan
  have hcaptured := (OutputSettings.plan_captureFree_iff file_plan_util).1
  rw [collect_package] at hfree hresolves hcaptured
  have hfile := hfree.2 aliasesApart
  exact ⟨hfile, (hresolves hfile).2 namesInScope,
    fun hapart => not_captureFree (hcaptured.2 hapart)⟩

end Store

end IfaceGen
