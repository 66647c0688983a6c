import IfaceGen.Proofs.Config.Violations
import IfaceGen.Proofs.Imports.Aliases
import IfaceGen.Proofs.Imports.Build

/-!
# Declared names

A file declares the package of the output, the aliases of its imports, and its interfaces with their
type parameters and methods. Two of these are put together: an alias may be a name with a number
behind it, and the name of an interface ends with the configured suffix. Neither makes a keyword of
an identifier, as a keyword has no digits and starts with a small letter.

## Key results

- `isIdentifier_append_suffix`: the name of an interface is an identifier
- `ImportTable.isIdentifier_freshAlias`: numbered aliases are identifiers
- `ImportTable.KnownByIdentifiers.registerAll`: all aliases of a table are identifiers
- `OutputSettings.isIdentifier_of_mem_declaredNames`: every name that a built file declares is an
  identifier
-/

namespace IfaceGen

/-! ## Longer identifiers -/

/-- A longer name passes `isIdentifier` unless it is one of the `keywords`. -/
theorem isIdentifier_append {name more : String} (h : isIdentifier name = true)
    (hmore : ∀ c ∈ more.toList, isIdentChar c = true) (hkeyword : name ++ more ∉ keywords) :
    isIdentifier (name ++ more) = true := by
  rw [isIdentifier] at h ⊢
  rw [String.toList_append]
  -- The first character stays the first one, so only the rest and the keywords are at stake.
  cases hname : name.toList with
  | nil =>
    rw [hname] at h
    cases h
  | cons first rest =>
    rw [hname, Bool.and_eq_true, Bool.and_eq_true] at h
    obtain ⟨⟨hfirst, hrest⟩, -⟩ := h
    simp only [List.cons_append, hfirst, List.all_append, hrest, List.all_eq_true.2 hmore,
      Bool.true_and, Bool.not_eq_true', List.contains_eq_mem, decide_eq_false_iff_not]
    exact hkeyword

theorem isExported_append {name : String} (h : isExported name = true) (more : String) :
    isExported (name ++ more) = true := by
  rw [isExported] at h ⊢
  rw [String.toList_append]
  -- The first character decides, and it stays the first.
  cases hname : name.toList with
  | nil =>
    rw [hname] at h
    cases h
  | cons first rest =>
    rw [hname] at h
    exact h

/-- What is put behind the name of an exported struct makes none of the `keywords` of it, as these
    start with small letters. -/
theorem isIdentifier_append_suffix {name suffix : String} (h : isIdentifier name = true)
    (hexported : isExported name = true) (hsuffix : ∀ c ∈ suffix.toList, isIdentChar c = true) :
    isIdentifier (name ++ suffix) = true := by
  refine isIdentifier_append h hsuffix fun hkeyword => ?_
  have hsmall : keywords.all (fun word => !isExported word) = true := by decide +kernel
  have hlong := isExported_append hexported suffix
  have hword := List.all_eq_true.1 hsmall _ hkeyword
  rw [hlong] at hword
  cases hword

/-- A number behind an identifier makes none of the `keywords` of it, as these have no digits. -/
theorem isIdentifier_append_repr {name : String} (h : isIdentifier name = true) (n : Nat) :
    isIdentifier (name ++ Nat.repr n) = true := by
  have hdigits : ∀ c ∈ (Nat.repr n).toList, isDigit c = true := by
    rw [Nat.toList_repr]
    exact fun c hc => Nat.isDigit_of_mem_toDigits (by decide) (by decide) hc
  refine isIdentifier_append h (fun c hc => ?_) fun hkeyword => ?_
  · rw [isIdentChar, hdigits c hc, Bool.or_true, Bool.true_or]
  · -- The number has a digit, and no keyword has one.
    have hwords : keywords.all (fun word => word.toList.all fun c => !isDigit c) = true := by
      decide +kernel
    obtain ⟨c, hc⟩ : ∃ c, c ∈ (Nat.repr n).toList := by
      rw [Nat.toList_repr]
      exact List.exists_mem_of_ne_nil _ Nat.toDigits_ne_nil
    have hword := List.all_eq_true.1 (List.all_eq_true.1 hwords _ hkeyword) c (by
      rw [String.toList_append]
      exact List.mem_append_right _ hc)
    rw [hdigits c hc] at hword
    cases hword

/-! ## Aliases -/

namespace ImportTable

/-- A new package whose name is an identifier gets an alias from `freshAlias` that is one, whatever
    is in use. -/
theorem isIdentifier_freshAlias (table : ImportTable) {name : String}
    (h : isIdentifier name = true) : isIdentifier (table.freshAlias name) = true := by
  have hfresh := table.freshAlias_isFresh name
  generalize table.freshAlias name = localName at hfresh ⊢
  cases hfresh with
  | own free => exact h
  | numbered taken pos free least => exact isIdentifier_append_repr h _

/-- A table whose aliases are identifiers. -/
def KnownByIdentifiers (table : ImportTable) : Prop :=
  ∀ entry ∈ table.entries, isIdentifier entry.localName = true

theorem knownByIdentifiers_empty : empty.KnownByIdentifiers := fun _ h => nomatch h

namespace KnownByIdentifiers

variable {table : ImportTable}

/-- `register` adds at most the alias of the package. -/
theorem register (h : table.KnownByIdentifiers) {ref : PackageRef}
    (href : isIdentifier ref.name = true) : (table.register ref).KnownByIdentifiers := by
  intro entry hentry
  -- A package that is known adds no entry; another adds one with a fresh alias.
  cases hlookup : table.positions.lookup ref.path with
  | some position =>
    rw [register_of_lookup_some hlookup] at hentry
    exact h entry hentry
  | none =>
    rw [register_of_lookup_none hlookup] at hentry
    rcases List.mem_append.1 hentry with hentry | hentry
    · exact h entry hentry
    · rw [List.mem_singleton.1 hentry]
      exact table.isIdentifier_freshAlias href

theorem registerAll (h : table.KnownByIdentifiers) {refs : List PackageRef}
    (hrefs : ∀ ref ∈ refs, isIdentifier ref.name = true) :
    (table.registerAll refs).KnownByIdentifiers := by
  induction refs generalizing table with
  | nil => exact h
  | cons ref refs ih =>
    rw [List.forall_mem_cons] at hrefs
    exact ih (h.register hrefs.1) hrefs.2

end KnownByIdentifiers

end ImportTable

/-! ## Settings -/

/-- The output of a configuration, as far as the names in its files are concerned. -/
structure OutputSettings.WellNamed (output : OutputSettings) : Prop where
  package : isIdentifier output.package = true
  suffix : ∀ c ∈ output.suffix.toList, isIdentChar c = true

/-- The output of a configuration without `violations` is well named. -/
theorem Config.output_wellNamed {config : Config} (h : config.violations = []) :
    config.output.WellNamed := by
  rw [Config.violations, List.append_eq_nil_iff, List.append_eq_nil_iff,
    OutputSettings.violations, List.filterMap_eq_nil_iff] at h
  obtain ⟨⟨houtput, -⟩, -⟩ := h
  simp only [List.forall_mem_cons, id_eq] at houtput
  obtain ⟨-, hpackage, -, hsuffix, -⟩ := houtput
  exact ⟨isIdentifier_of_packageViolation? hpackage, isIdentChar_of_suffixViolation? hsuffix⟩

/-! ## Files -/

/-- A descriptor of an exported struct with names that are identifiers: its own, those of its type
    parameters and methods, and those of the packages it refers to. -/
structure StructDescriptor.WellNamed (descriptor : StructDescriptor) : Prop where
  exported : isExported descriptor.name = true
  name : isIdentifier descriptor.name = true
  typeParams : ∀ param ∈ descriptor.typeParams, isIdentifier param.name = true
  methods : ∀ method ∈ descriptor.methods, isIdentifier method.name = true
  refs : ∀ ref ∈ descriptor.refs, isIdentifier ref.name = true

/-- The `InterfaceDecl.declaredNames` of the interface of a well-named descriptor are
    identifiers. -/
theorem StructDescriptor.WellNamed.declaredNames {descriptor : StructDescriptor}
    (h : descriptor.WellNamed) {suffix : String}
    (hsuffix : ∀ c ∈ suffix.toList, isIdentChar c = true) {qualify : Qualifier}
    {decl : InterfaceDecl}
    (hdecl : descriptor.interface qualify (descriptor.name ++ suffix) = .ok decl) :
    ∀ name ∈ decl.declaredNames, isIdentifier name = true := by
  obtain ⟨hname, hparams, -⟩ := StructDescriptor.interface_eq_ok hdecl
  intro name hmem
  rw [InterfaceDecl.declaredNames, List.mem_append, List.mem_cons, List.mem_filterMap] at hmem
  rcases hmem with (hmem | ⟨param, hmem, hdeclared⟩) | hmem
  · rw [hmem, hname]
    exact isIdentifier_append_suffix h.name h.exported hsuffix
  · -- A type parameter is declared under its own name.
    have hlisted : param.name ∈ descriptor.typeParams.map (·.declaredName?) := by
      rw [← hparams]
      exact List.mem_map_of_mem hmem
    obtain ⟨typeParam, htypeParam, heq⟩ := List.mem_map.1 hlisted
    rw [hdeclared, TypeParam.declaredName?] at heq
    split at heq
    · cases heq
    · cases heq
      exact h.typeParams typeParam htypeParam
  · rw [StructDescriptor.methods_interface hdecl] at hmem
    obtain ⟨method, hmethod, rfl⟩ := List.mem_map.1 hmem
    exact h.methods method hmethod

/-- A name that an import writes is the alias of its package: `ImportEntry.spec` writes no other. -/
theorem ImportEntry.localName_of_name_spec {entry : ImportEntry} {name : String}
    (h : entry.spec.name = some name) : name = entry.localName := by
  rw [ImportEntry.spec] at h
  split at h
  · cases h
  · exact (Option.some.inj h).symm

namespace OutputSettings

variable {output : OutputSettings} {package : Package} {descriptors : List StructDescriptor}
  {file : File}

/-- A file from `fileFor` has the package clause of the output. -/
theorem package_fileFor (h : output.fileFor package descriptors = .ok (some file)) :
    file.package = output.package := by
  rw [fileFor, builderFor_eq, imports_foldl_addImport] at h
  split at h
  · obtain ⟨built, hbuilt, heq⟩ := map_eq_ok.1 h
    cases heq
    simp only [FileBuilder.build, bind_eq_ok, pure_eq_ok] at hbuilt
    obtain ⟨decls, -, rfl⟩ := hbuilt
    rfl
  · cases h

/-- The aliases in the table `importsFor` are identifiers. -/
theorem knownByIdentifiers_importsFor (hpackage : isIdentifier package.name = true)
    (hdescriptors : ∀ descriptor ∈ descriptors, descriptor.WellNamed) :
    (importsFor package descriptors).KnownByIdentifiers := by
  refine (ImportTable.knownByIdentifiers_empty.register hpackage).registerAll fun ref href => ?_
  obtain ⟨descriptor, hdescriptor, href⟩ := List.mem_flatMap.1 href
  exact (hdescriptors descriptor (List.mem_filter.1 hdescriptor).1).refs ref href

/-- Every name among the `declaredNames` of a built file is an identifier. -/
theorem isIdentifier_of_mem_declaredNames (houtput : output.WellNamed)
    (hpackage : isIdentifier package.name = true)
    (hdescriptors : ∀ descriptor ∈ descriptors, descriptor.WellNamed)
    (h : output.fileFor package descriptors = .ok (some file)) :
    ∀ name ∈ file.declaredNames, isIdentifier name = true := by
  obtain ⟨himports, hdecls⟩ := fileFor_eq_some h
  intro name hname
  rw [File.declaredNames, List.mem_append, List.mem_cons, List.mem_filterMap,
    List.mem_flatMap] at hname
  -- The name is that of the package clause, of an import, or of a declaration.
  rcases hname with (hname | ⟨spec, hspec, hname⟩) | ⟨decl, hdecl, hname⟩
  · rw [hname, package_fileFor h]
    exact houtput.package
  · rw [himports] at hspec
    obtain ⟨entry, hentry, rfl⟩ := List.mem_map.1 hspec
    rw [ImportEntry.localName_of_name_spec hname]
    exact knownByIdentifiers_importsFor hpackage hdescriptors entry hentry
  · obtain ⟨descriptor, hdescriptor, hinterface⟩ :=
      exists_left_of_forall₂ hdecls hdecl
    exact (hdescriptors descriptor (List.mem_filter.1 hdescriptor).1).declaredNames houtput.suffix
      hinterface name hname

end OutputSettings

/-- `organizeImports` brings in no names. -/
theorem File.declaredNames_organizeImports (file : File) :
    file.organizeImports.declaredNames ⊆ file.declaredNames := by
  intro name hname
  rw [File.declaredNames, List.mem_append, List.mem_cons, List.mem_filterMap] at hname ⊢
  rcases hname with (hname | ⟨spec, hspec, hname⟩) | hname
  · exact .inl (.inl hname)
  · have hkept := (List.mem_filter.1 (List.mem_mergeSort.1 hspec)).1
    exact .inl (.inr ⟨spec, hkept, hname⟩)
  · exact .inr hname

/-- A file whose `declaredNames` are identifiers is not refused. -/
theorem File.invalidIdentifier?_eq_none {file : File}
    (h : ∀ name ∈ file.declaredNames, isIdentifier name = true) :
    file.organizeImports.invalidIdentifier? = none := by
  rw [File.invalidIdentifier?, List.find?_eq_none]
  intro name hname
  rw [h name (file.declaredNames_organizeImports hname)]
  exact Bool.false_ne_true

end IfaceGen
