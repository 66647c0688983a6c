import IfaceGen.Proofs.MethodSet.Memory
import IfaceGen.Proofs.MethodSet.Reach
import IfaceGen.Proofs.Types.FreeParams

/-!
# Hygiene of type parameters

The type parameters of different declarations often have the same names, so that a parameter which
escapes from its declaration is easily taken for one of another. In a program whose declarations
are well scoped no parameter escapes: on whatever way a method is promoted, its signature refers to
no type parameters but those of the struct it is promoted to.

## Key results

- `Scope.WellScoped.closedIn_of_resolve`: an embedded type is closed if the embedding type is
- `Scope.WellScoped.closedIn`: every type that is reached is closed
- `Collector.hygienic_collect`: the descriptors of well-scoped programs are hygienic
-/

namespace IfaceGen

/-! ## Well-scoped declarations -/

/-- The names of the type parameters of a declaration. -/
def TypeDecl.paramNames (decl : TypeDecl) : List String :=
  decl.typeParams.map (·.name)

/-- A declaration whose methods and embedded types refer to its own type parameters only. -/
structure TypeDecl.WellScoped (decl : TypeDecl) : Prop where
  declared : ∀ method ∈ decl.methods, method.signature.freeParams ⊆ decl.paramNames
  listed : ∀ method ∈ decl.underlying.literalMethods,
    method.signature.freeParams ⊆ decl.paramNames
  embeds : ∀ type ∈ decl.underlying.embeds, type.freeParams ⊆ decl.paramNames

instance (decl : TypeDecl) : Decidable decl.WellScoped :=
  decidable_of_iff ((∀ method ∈ decl.methods, method.signature.freeParams ⊆ decl.paramNames) ∧
      (∀ method ∈ decl.underlying.literalMethods,
        method.signature.freeParams ⊆ decl.paramNames) ∧
      ∀ type ∈ decl.underlying.embeds, type.freeParams ⊆ decl.paramNames)
    ⟨fun h => ⟨h.1, h.2.1, h.2.2⟩, fun h => ⟨h.declared, h.listed, h.embeds⟩⟩

/-- A scope whose declarations are well scoped, embed no type parameters, and give each type that
    they embed as many type arguments as it has type parameters. -/
structure Scope.WellScoped (scope : Scope) : Prop where
  decls_scoped : ∀ package, scope.Loads package → ∀ decl ∈ package.types, decl.WellScoped
  embeds_named : ∀ package, scope.Loads package → ∀ decl ∈ package.types,
    ∀ type ∈ decl.underlying.embeds, type.isParam = false
  arity : ∀ package, scope.Loads package → ∀ decl ∈ package.types,
    ∀ type ∈ decl.underlying.embeds, ∀ named ∈ type.embeddedName?,
      ∀ target ∈ scope.instance? named.1 named.2,
        named.2.length = target.decl.typeParams.length

/-- A descriptor whose methods refer to its own type parameters only. -/
def StructDescriptor.Hygienic (descriptor : StructDescriptor) : Prop :=
  ∀ method ∈ descriptor.methods,
    method.signature.freeParams ⊆ descriptor.typeParams.map (·.name)

theorem errorDecl_wellScoped : errorDecl.WellScoped := by decide

/-! ## Closed types -/

/-- What a type says of its type parameters comes down, under its type arguments, to the type
    parameters `params`: the replacement of each refers to no others. -/
def Embedding.ClosedIn (params : List String) (embedding : Embedding) : Prop :=
  ∀ name ∈ embedding.decl.paramNames, embedding.subst.replacement name ⊆ params

namespace Embedding.ClosedIn

variable {params : List String} {embedding : Embedding}

/-- References to the parameters of a closed type come down to `params`. -/
theorem flatMap_subset (h : embedding.ClosedIn params) {names : List String}
    (hnames : names ⊆ embedding.decl.paramNames) :
    names.flatMap embedding.subst.replacement ⊆ params := by
  intro param hparam
  obtain ⟨name, hname, hparam⟩ := List.mem_flatMap.1 hparam
  exact h name (hnames hname) hparam

theorem freeParams_subst (h : embedding.ClosedIn params) {type : GoType}
    (htype : type.freeParams ⊆ embedding.decl.paramNames) :
    (type.subst embedding.subst).freeParams ⊆ params := by
  rw [type.freeParams_subst]
  exact h.flatMap_subset htype

/-- The methods that a closed type lists refer to `params` only. -/
theorem freeParams_ownMethods (h : embedding.ClosedIn params)
    (hdecl : embedding.decl.WellScoped) {method : Method}
    (hmethod : method ∈ embedding.ownMethods) :
    method.signature.freeParams ⊆ params := by
  obtain ⟨listed, hlisted, rfl⟩ := List.mem_map.1 hmethod
  show (listed.signature.subst embedding.subst).freeParams ⊆ params
  rw [Signature.freeParams_subst]
  apply h.flatMap_subset
  -- A method is declared on the type, or listed by its interface.
  rcases List.mem_append.1 hlisted with hlisted | hlisted
  · exact hdecl.declared listed hlisted
  · exact hdecl.listed listed hlisted

end Embedding.ClosedIn

/-- The type arguments of an embedded type are part of it, and so are their `freeParams`. -/
theorem GoType.typesFreeParams_subset_of_embeddedName? {type : GoType} {name : TypeName}
    {args : List GoType} (h : type.embeddedName? = some (name, args)) :
    typesFreeParams args ⊆ type.freeParams := by
  unfold GoType.embeddedName? at h
  -- A named type and an alias, with or without a pointer in front, have the same arguments.
  split at h
  all_goals cases h
  all_goals exact List.Subset.refl _

namespace Scope

variable {scope : Scope}

/-- The declaration of a type that is reached is `errorDecl` or stands in a loaded package. -/
theorem Reaches.decl_eq_or_mem {decl : TypeDecl} (hdecl : decl ∈ scope.package.types)
    {e : Embedding} (h : scope.Reaches (scope.root decl) e) :
    e.decl = errorDecl ∨ ∃ package, scope.Loads package ∧ e.decl ∈ package.types := by
  cases h with
  | start => exact .inr ⟨scope.package, .inl rfl, hdecl⟩
  | embedded _ _ refers => exact refers.known.decl_eq_or_mem

namespace WellScoped

theorem decl_wellScoped (hscope : scope.WellScoped) {decl : TypeDecl}
    (hdecl : decl ∈ scope.package.types) {e : Embedding} (h : scope.Reaches (scope.root decl) e) :
    e.decl.WellScoped := by
  rcases h.decl_eq_or_mem hdecl with heq | ⟨package, hpackage, hmem⟩
  · rw [heq]
    exact errorDecl_wellScoped
  · exact hscope.decls_scoped package hpackage e.decl hmem

/-- What is embedded in a closed type of a loaded package is `ClosedIn` the same parameters. -/
theorem closedIn_of_resolve (hscope : scope.WellScoped) {params : List String} {e : Embedding}
    (he : e.ClosedIn params) {package : Package} (hpackage : scope.Loads package)
    (hdecl : e.decl ∈ package.types) {type : GoType} (htype : type ∈ e.decl.underlying.embeds)
    {target : Embedding} (h : (scope.resolve (type.subst e.subst)).value = some target) :
    target.ClosedIn params := by
  have hscoped := (hscope.decls_scoped package hpackage e.decl hdecl).embeds type htype
  have hnamed := hscope.embeds_named package hpackage e.decl hdecl type htype
  -- A substitution in the embedded type changes its type arguments only.
  rw [value_resolve, GoType.embeddedName?_subst hnamed] at h
  cases hname : type.embeddedName? with
  | none =>
    rw [hname] at h
    cases h
  | some found =>
    obtain ⟨⟨pkg?, name⟩, args⟩ := found
    have harity := hscope.arity package hpackage _ hdecl _ htype _ hname
    rw [hname, Option.map_some, Option.bind_some] at h
    cases pkg? with
    | none =>
      -- The predeclared interface has no type parameters.
      simp only [instance?] at h
      split at h
      · cases h
        exact fun _ hparam => absurd hparam List.not_mem_nil
      · cases h
    | some ref =>
      simp only [instance?] at h harity
      obtain ⟨owner, howner, h⟩ := Option.bind_eq_some_iff.1 h
      obtain ⟨decl, hlookup, rfl⟩ := Option.map_eq_some_iff.1 h
      have hlength : args.length = decl.typeParams.length := by
        refine harity ⟨owner.path, decl, decl.paramNames.zip args, false⟩ ?_
        rw [howner, Option.bind_some, hlookup, Option.map_some]
        rfl
      have hlength' : (substTypes e.subst args).length = decl.paramNames.length := by
        rw [substTypes_eq_map, List.length_map, TypeDecl.paramNames, List.length_map, hlength]
      -- Every type parameter is bound to an argument, under the type arguments of `e`.
      intro param hparam
      obtain ⟨bound, hbound, hget⟩ := Subst.exists_get?_zip hlength' hparam
      rw [substTypes_eq_map] at hbound
      obtain ⟨arg, harg, rfl⟩ := List.mem_map.1 hbound
      show ((Subst.get? (decl.paramNames.zip _) param).getD (.typeParam param)).freeParams ⊆ params
      rw [hget, Option.getD_some]
      apply he.freeParams_subst
      calc arg.freeParams
        _ ⊆ typesFreeParams args := freeParams_subset_types harg
        _ ⊆ type.freeParams := GoType.typesFreeParams_subset_of_embeddedName? hname
        _ ⊆ e.decl.paramNames := hscoped

/-- Every type that is reached from a declaration is `ClosedIn` the type parameters of the
    declaration. -/
theorem closedIn (hscope : scope.WellScoped) {decl : TypeDecl}
    (hdecl : decl ∈ scope.package.types) {e : Embedding} (h : scope.Reaches (scope.root decl) e) :
    e.ClosedIn decl.paramNames := by
  induction h with
  | start =>
    -- Nothing is substituted in the declaration itself.
    intro name hname param hparam
    rw [List.mem_singleton.1 hparam]
    exact hname
  | @embedded e target type reached embeds refers ih =>
    rcases reached.decl_eq_or_mem hdecl with heq | ⟨package, hpackage, hmem⟩
    · -- The predeclared interface embeds nothing.
      rw [heq] at embeds
      cases embeds
    · exact hscope.closedIn_of_resolve ih hpackage hmem embeds (resolve_eq_some_iff.2 refers)

/-- The methods of a `methodSet` refer to the type parameters of the declaration only. -/
theorem freeParams_methodSet (hscope : scope.WellScoped) {decl : TypeDecl}
    (hdecl : decl ∈ scope.package.types) {method : Method}
    (h : method ∈ (scope.methodSet decl).value) :
    method.signature.freeParams ⊆ decl.paramNames := by
  obtain ⟨owner, howner, hmethod⟩ := exists_reaches_of_mem_methodSet h
  exact (hscope.closedIn hdecl howner).freeParams_ownMethods
    (hscope.decl_wellScoped hdecl howner) hmethod

/-- The `descriptors` of a well-scoped package are hygienic. -/
theorem hygienic_descriptors (hscope : scope.WellScoped) {descriptor : StructDescriptor}
    (h : descriptor ∈ scope.descriptors.value) : descriptor.Hygienic := by
  rw [value_descriptors] at h
  obtain ⟨decl, hdecl, rfl⟩ := List.mem_map.1 h
  have hmem := mem_types_of_mem_structDecls hdecl
  exact fun method hmethod => hscope.freeParams_methodSet hmem hmethod

end WellScoped

end Scope

/-- Whatever a collector was asked before, as long as it was about well-scoped programs, the
    descriptors that it returns for a well-scoped program are hygienic. -/
theorem Collector.hygienic_collect {calls : List (Package × Program)} {package : Package}
    {program : Program} (hcalls : ∀ call ∈ calls, (Scope.mk call.1 call.2).WellScoped)
    (hscope : (Scope.mk package program).WellScoped) :
    ∀ descriptor ∈ ((Collector.afterCalls [] calls).collect package program).value.1,
      descriptor.Hygienic := by
  have hmemory : (Collector.afterCalls [] calls).Remembers fun _ descriptors =>
      ∀ descriptor ∈ descriptors, descriptor.Hygienic := by
    refine (remembers_nil _).afterCalls fun call hcall descriptor hdescriptor => ?_
    exact (hcalls call hcall).hygienic_descriptors hdescriptor
  exact (hmemory.collect fun descriptor => hscope.hygienic_descriptors).1

/-! ## A garden of generic types -/

namespace Garden

/-- A type of the package `grove`. -/
def groveType (name : String) (arg : GoType) : GoType :=
  .named ⟨some ⟨"example.com/grove", "grove"⟩, name⟩ [arg]

/-- A struct that embeds ever larger instances of itself, and the interface `walker`. -/
def tree : TypeDecl where
  name := "Tree"
  typeParams := [⟨"T", .any⟩]
  underlying := .struct [
    ⟨"Tree", .pointer (groveType "Tree" (.slice (.typeParam "T"))), true⟩,
    ⟨"Walker", groveType "Walker" (.typeParam "T"), true⟩]
  methods := [⟨"Grow", ⟨[⟨"by", .typeParam "T"⟩], [], false⟩⟩]

/-- An interface whose only element is a generic interface. -/
def walker : TypeDecl where
  name := "Walker"
  typeParams := [⟨"T", .any⟩]
  underlying := .interface [groveType "Viewer" (.pointer (.typeParam "T"))] []
  methods := []

/-- An interface that embeds `walker`, by which it is embedded. -/
def viewer : TypeDecl where
  name := "Viewer"
  typeParams := [⟨"T", .any⟩]
  underlying := .interface [groveType "Walker" (.pointer (.typeParam "T"))]
    [⟨"View", ⟨[], [⟨"", .typeParam "T"⟩], false⟩⟩]
  methods := []

/-- A struct that embeds `tree` and has a type parameter of the same name. -/
def plot : TypeDecl where
  name := "Plot"
  typeParams := [⟨"T", .any⟩, ⟨"U", .any⟩]
  underlying := .struct [
    ⟨"Tree", groveType "Tree" (.map (.typeParam "U") (.typeParam "T")), true⟩]
  methods := []

/-- The package of the generic types. -/
def grove : Package := ⟨"example.com/grove", "grove", [tree, walker, viewer], []⟩

/-- The package of the struct. -/
def garden : Package := ⟨"example.com/garden", "garden", [plot], []⟩

/-- Both packages. -/
def program : Program := [garden, grove]

theorem wellScoped {package : Package} (h : package ∈ program) :
    (Scope.mk package program).WellScoped := by
  -- There are no packages to look into but the two of the program.
  have hloads {other : Package} (hother : (Scope.mk package program).Loads other) :
      other ∈ program := by
    rcases hother with rfl | ⟨path, hpath⟩
    · exact h
    · exact (Program.mem_of_get? hpath).1
  have hdecls : ∀ other ∈ program, ∀ decl ∈ other.types, decl.WellScoped := by decide
  have hnamed : ∀ other ∈ program, ∀ decl ∈ other.types,
      ∀ type ∈ decl.underlying.embeds, type.isParam = false := by decide
  have harity : ∀ package ∈ program, ∀ other ∈ program, ∀ decl ∈ other.types,
      ∀ type ∈ decl.underlying.embeds, ∀ named ∈ type.embeddedName?,
        ∀ target ∈ (Scope.mk package program).instance? named.1 named.2,
          named.2.length = target.decl.typeParams.length := by decide
  exact ⟨fun other hother => hdecls other (hloads hother),
    fun other hother => hnamed other (hloads hother),
    fun other hother => harity package h other (hloads hother)⟩

/-- The method that the struct of the garden gets from the tree. -/
def grow : Method :=
  ⟨"Grow", ⟨[⟨"by", .map (.typeParam "U") (.typeParam "T")⟩], [], false⟩⟩

theorem grow_mem_methodSet : grow ∈ (Scope.methodSet ⟨garden, program⟩ plot).value := by
  refine List.mem_mergeSort.2 (List.mem_filter.2 ⟨?_, by decide⟩)
  rw [Scope.search]
  -- The tree is found at the second depth, with the type arguments of the garden.
  refine List.mem_append_right _ ?_
  show grow ∈ (Scope.search ⟨garden, program⟩ _ ["Tree"] [⟨"example.com/grove", tree,
    [("T", .map (.typeParam "U") (.typeParam "T"))], false⟩]).value
  rw [Scope.search]
  exact List.mem_append_left _ List.mem_cons_self

/-- The method of the tree is promoted, and nothing in it is a parameter of the tree. -/
theorem hygienic_collect_garden :
    (∃ descriptor ∈ (Collector.collect (Collector.afterCalls [] [(grove, program)]) garden
        program).value.1, grow ∈ descriptor.methods) ∧
      ∀ descriptor ∈ (Collector.collect (Collector.afterCalls [] [(grove, program)]) garden
        program).value.1, descriptor.Hygienic := by
  refine ⟨?_, Collector.hygienic_collect (fun call hcall => ?_) (wellScoped List.mem_cons_self)⟩
  · -- The descriptor of the plot has the promoted method.
    have hplot : plot ∈ Scope.structDecls garden :=
      List.mem_mergeSort.2 (List.mem_filter.2 ⟨List.mem_cons_self, by decide⟩)
    rw [Collector.value_collect_new rfl, Scope.value_descriptors]
    exact ⟨_, List.mem_map_of_mem hplot, grow_mem_methodSet⟩
  · rw [List.mem_singleton.1 hcall]
    exact wellScoped (List.mem_cons_of_mem _ List.mem_cons_self)

end Garden

end IfaceGen
