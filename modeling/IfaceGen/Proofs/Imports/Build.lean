import IfaceGen.Generate.Plan
import IfaceGen.Proofs.Spelling.Mentions

/-!
# What a built file consists of

A file that was built declares one interface for each descriptor with methods, in order, and imports
what the table of the package has registered. The names in it are those of the descriptors, written
as the table says.

## Key results

- `OutputSettings.fileFor_eq_some`: the imports and declarations of a built file
- `OutputSettings.fileFor_eq_none_iff`: when there is no file to build
- `StructDescriptor.interface_eq_ok`: the names in an interface are those of its descriptor
- `File.qualifiers_eq_filterMap`: the qualifiers of a file are those of its names
-/

namespace IfaceGen

/-! ## Names -/

/-- The names in the type parameters and methods of a declaration. -/
def InterfaceDecl.names (decl : InterfaceDecl) : List WrittenName :=
  paramsNames decl.typeParams ++ decl.methods.flatMap (·.type.names)

/-- The names in all declarations, in order. -/
def File.names (file : File) : List WrittenName :=
  file.decls.flatMap (·.names)

/-- The names in the constraints and signatures of a descriptor. -/
def StructDescriptor.mentions (descriptor : StructDescriptor) : List Mention :=
  descriptor.typeParams.flatMap (·.constraint.mentions) ++ methodsMentions descriptor.methods

theorem InterfaceDecl.qualifiers_eq_filterMap (decl : InterfaceDecl) :
    decl.qualifiers = decl.names.filterMap (·.qualifier) := by
  rw [InterfaceDecl.qualifiers, InterfaceDecl.names, List.filterMap_append,
    paramsQualifiers_eq_filterMap, List.filterMap_flatMap]
  exact congrArg _ (List.flatMap_congr fun method _ => method.type.qualifiers_eq_filterMap)

/-- `File.qualifiers` are those of the names in the file. -/
theorem File.qualifiers_eq_filterMap (file : File) :
    file.qualifiers = file.names.filterMap (·.qualifier) := by
  rw [File.qualifiers, File.names, List.filterMap_flatMap]
  exact List.flatMap_congr fun decl _ => decl.qualifiers_eq_filterMap

/-- `StructDescriptor.refs` are the packages of the names in the descriptor. -/
theorem StructDescriptor.refs_eq_filterMap (descriptor : StructDescriptor) :
    descriptor.refs = descriptor.mentions.filterMap (·.pkg) := by
  rw [StructDescriptor.refs, StructDescriptor.mentions, List.filterMap_append,
    methodsRefs_eq_filterMap, List.filterMap_flatMap]
  exact congrArg (· ++ _) (List.flatMap_congr fun param _ => param.constraint.refs_eq_filterMap)

/-! ## Interfaces -/

theorem names_of_typeParams {qualify : Qualifier} {owner : String}
    {params : List (TypeParam × Nat)} {spelled : List Param}
    (h : params.mapM (fun (param, index) => do
      let constraint ← (Spelled.inside (.typeParam index)
        (param.constraint.spellConstraint qualify)).mapError (BuildError.typeParam owner param.name)
      return Param.ofName param.name constraint) = .ok spelled) :
    spelled.map (·.name) = params.map (fun (param, _) => (Param.ofName param.name default).name) ∧
      paramsNames spelled =
        (params.flatMap (·.1.constraint.mentions)).map (·.written qualify) := by
  rw [mapM_eq_ok] at h
  induction h with
  | nil => exact ⟨rfl, rfl⟩
  | @cons first second params spelled hfirst _ ih =>
    -- Where the constraint was spelled does not matter, once it has been.
    simp only [bind_eq_ok, mapError_eq_ok, inside_eq_ok, pure_eq_ok] at hfirst
    obtain ⟨constraint, hconstraint, rfl⟩ := hfirst
    refine ⟨congrArg (_ :: ·) ih.1, ?_⟩
    rw [paramsNames_ofName, List.flatMap_cons, List.map_append, ih.2,
      GoType.names_spellConstraint hconstraint]

theorem names_of_methods {qualify : Qualifier} {owner : String} {methods : List Method}
    {specs : List MethodSpec}
    (h : methods.mapM (fun method => do
      let type ← (method.signature.spell qualify).mapError (BuildError.method owner method.name)
      return (⟨method.name, type⟩ : MethodSpec)) = .ok specs) :
    specs.flatMap (·.type.names) = (methodsMentions methods).map (·.written qualify) := by
  rw [mapM_eq_ok] at h
  -- Method by method, in the order in which both sides list them.
  induction h with
  | nil => rfl
  | @cons first second methods specs hfirst _ ih =>
    simp only [bind_eq_ok, mapError_eq_ok, pure_eq_ok] at hfirst
    obtain ⟨type, htype, rfl⟩ := hfirst
    obtain ⟨name, signature⟩ := first
    rw [List.flatMap_cons, methodsMentions, List.map_append, ih, signature.names_spell htype]

/-- The declaration made by `StructDescriptor.interface` has the methods of the descriptor. -/
theorem StructDescriptor.methods_interface {descriptor : StructDescriptor} {qualify : Qualifier}
    {name : String} {decl : InterfaceDecl} (h : descriptor.interface qualify name = .ok decl) :
    decl.methods.map (·.name) = descriptor.methods.map (·.name) := by
  simp only [StructDescriptor.interface, bind_eq_ok, pure_eq_ok] at h
  obtain ⟨typeParams, -, specs, hspecs, rfl⟩ := h
  rw [mapM_eq_ok] at hspecs
  show specs.map (·.name) = descriptor.methods.map (·.name)
  generalize descriptor.methods = methods at hspecs ⊢
  induction hspecs with
  | nil => rfl
  | cons hfirst _ ih =>
    simp only [bind_eq_ok, mapError_eq_ok, pure_eq_ok] at hfirst
    obtain ⟨type, -, rfl⟩ := hfirst
    rw [List.map_cons, List.map_cons, ih]

/-- The name of a type parameter as it is declared; an empty name declares nothing. -/
def TypeParam.declaredName? (param : TypeParam) : Option String :=
  if param.name.isEmpty then none else some param.name

/-- What `StructDescriptor.interface` makes of a descriptor: its name, the names of its type
    parameters and all names in it. -/
theorem StructDescriptor.interface_eq_ok {descriptor : StructDescriptor} {qualify : Qualifier}
    {name : String} {decl : InterfaceDecl} (h : descriptor.interface qualify name = .ok decl) :
    decl.name = name ∧
      decl.typeParams.map (·.name) = descriptor.typeParams.map (·.declaredName?) ∧
      decl.names = descriptor.mentions.map (·.written qualify) := by
  simp only [StructDescriptor.interface, bind_eq_ok, pure_eq_ok] at h
  obtain ⟨typeParams, hparams, methods, hmethods, rfl⟩ := h
  obtain ⟨hnames, hmentions⟩ := names_of_typeParams hparams
  -- The positions are there for the errors only.
  have hindexed := List.zipIdx_map_fst 0 descriptor.typeParams
  refine ⟨rfl, ?_, ?_⟩
  · rw [hnames]
    conv => rhs; rw [← hindexed, List.map_map]
    rfl
  · rw [InterfaceDecl.names, StructDescriptor.mentions, hmentions, names_of_methods hmethods,
      List.map_append]
    conv => rhs; rw [← hindexed, List.flatMap_map]

/-! ## Files -/

theorem structs_foldl_addStruct (descriptors : List StructDescriptor) (builder : FileBuilder) :
    descriptors.foldl FileBuilder.addStruct builder =
      { builder with structs := builder.structs ++ descriptors.filter (·.hasMethods) } := by
  induction descriptors generalizing builder with
  | nil => rw [List.foldl_nil, List.filter_nil, List.append_nil]
  | cons descriptor descriptors ih =>
    rw [List.foldl_cons, ih, FileBuilder.addStruct]
    -- A struct without methods is passed over by the builder and by the filter.
    by_cases hmethods : descriptor.hasMethods
    · have happend := List.append_cons builder.structs descriptor
        (descriptors.filter (·.hasMethods))
      rw [if_pos hmethods, List.filter_cons_of_pos hmethods, happend]
    · rw [if_neg hmethods, List.filter_cons_of_neg hmethods]

theorem imports_foldl_addImport (entries : List ImportEntry) (builder : FileBuilder) :
    entries.foldl FileBuilder.addImport builder =
      { builder with imports := builder.imports ++ entries } := by
  induction entries generalizing builder with
  | nil => rw [List.foldl_nil, List.append_nil]
  | cons entry entries ih =>
    rw [List.foldl_cons, ih, FileBuilder.addImport, List.append_assoc]
    rfl

/-- `builderFor` has a struct for each descriptor with methods. -/
theorem OutputSettings.builderFor_eq (output : OutputSettings)
    (descriptors : List StructDescriptor) :
    output.builderFor descriptors =
      ⟨output.package, output.suffix, descriptors.filter (·.hasMethods), []⟩ :=
  structs_foldl_addStruct descriptors _

/-- There is no file from `fileFor` if and only if no descriptor has methods. -/
theorem OutputSettings.fileFor_eq_none_iff {output : OutputSettings} {package : Package}
    {descriptors : List StructDescriptor} :
    output.fileFor package descriptors = .ok none ↔ descriptors.filter (·.hasMethods) = [] := by
  rw [OutputSettings.fileFor, OutputSettings.builderFor_eq]
  simp only [FileBuilder.hasInterfaces, Bool.not_eq_true', List.isEmpty_eq_false_iff]
  constructor
  · intro h
    by_contra hsome
    rw [if_pos hsome, map_eq_ok] at h
    obtain ⟨file, -, heq⟩ := h
    exact nomatch heq
  · intro hnone
    rw [if_neg (not_not.2 hnone)]

/-- A file from `fileFor` imports what the table has registered and declares an interface for each
    descriptor with methods. -/
theorem OutputSettings.fileFor_eq_some {output : OutputSettings} {package : Package}
    {descriptors : List StructDescriptor} {file : File}
    (h : output.fileFor package descriptors = .ok (some file)) :
    file.imports = (importsFor package descriptors).entries.map (·.spec) ∧
      List.Forall₂ (fun descriptor decl => descriptor.interface
          (importsFor package descriptors).qualify (descriptor.name ++ output.suffix) = .ok decl)
        (descriptors.filter (·.hasMethods)) file.decls := by
  rw [OutputSettings.fileFor, OutputSettings.builderFor_eq, imports_foldl_addImport] at h
  split at h
  · rw [map_eq_ok] at h
    obtain ⟨built, hbuilt, heq⟩ := h
    cases heq
    -- The declarations are made one by one, under the aliases of the table.
    simp only [FileBuilder.build, bind_eq_ok, pure_eq_ok] at hbuilt
    obtain ⟨decls, hdecls, rfl⟩ := hbuilt
    exact ⟨rfl, mapM_eq_ok.1 hdecls⟩
  · cases h

/-- The names in a file from `fileFor` are those of the descriptors with methods, in order. -/
theorem OutputSettings.names_fileFor {output : OutputSettings} {package : Package}
    {descriptors : List StructDescriptor} {file : File}
    (h : output.fileFor package descriptors = .ok (some file)) :
    file.names = ((descriptors.filter (·.hasMethods)).flatMap (·.mentions)).map
      (·.written (importsFor package descriptors).qualify) := by
  have hdecls := (OutputSettings.fileFor_eq_some h).2
  rw [File.names]
  generalize descriptors.filter (·.hasMethods) = described at hdecls ⊢
  generalize file.decls = decls at hdecls ⊢
  -- One declaration for each struct with methods, in the same order.
  induction hdecls with
  | nil => rfl
  | cons hdecl _ ih =>
    rw [List.flatMap_cons, List.flatMap_cons, List.map_append, ih,
      (StructDescriptor.interface_eq_ok hdecl).2.2]

end IfaceGen
