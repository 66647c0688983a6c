import IfaceGen.Proofs.Imports.Identifiers
import IfaceGen.Proofs.MethodSet.Hygiene
import IfaceGen.Proofs.Spelling.Substitution

/-!
# Well-named programs

The names in a descriptor come from many declarations: methods are promoted from other packages, and
their signatures refer to the packages of type arguments that were written elsewhere. If all the
declarations that are loaded are well named, so is everything that is reached through embedding, and
so are the descriptors.

## Key results

- `Scope.WellNamed.wellNamed_of_refersTo`: what a well-named type embeds is well named
- `Scope.WellNamed.wellNamed_of_reaches`: every type that is reached is well named
- `Scope.WellNamed.wellNamed_descriptors` / `Collector.WellNamed.collect`: the descriptors of
  well-named programs are well named
-/

namespace IfaceGen

/-- The packages that a declaration refers to in its constraints, in the methods that it lists, and
    in the types that it `embeds`. -/
def TypeDecl.refs (decl : TypeDecl) : List PackageRef :=
  decl.typeParams.flatMap (·.constraint.refs)
    ++ methodsRefs (decl.methods ++ decl.underlying.literalMethods)
    ++ typesRefs decl.underlying.embeds

/-- A declaration with names that are identifiers: its own if it is an exported struct, those of its
    type parameters and methods, and those of the packages it refers to. -/
structure TypeDecl.WellNamed (decl : TypeDecl) : Prop where
  name : decl.isExported = true → decl.structFields?.isSome = true →
    isIdentifier decl.name = true
  typeParams : ∀ param ∈ decl.typeParams, isIdentifier param.name = true
  methods : ∀ method ∈ decl.methods ++ decl.underlying.literalMethods,
    isIdentifier method.name = true
  refs : ∀ ref ∈ decl.refs, isIdentifier ref.name = true

instance (decl : TypeDecl) : Decidable decl.WellNamed :=
  decidable_of_iff ((decl.isExported = true → decl.structFields?.isSome = true →
        isIdentifier decl.name = true) ∧
      (∀ param ∈ decl.typeParams, isIdentifier param.name = true) ∧
      (∀ method ∈ decl.methods ++ decl.underlying.literalMethods,
        isIdentifier method.name = true) ∧
      ∀ ref ∈ decl.refs, isIdentifier ref.name = true)
    ⟨fun h => ⟨h.1, h.2.1, h.2.2.1, h.2.2.2⟩, fun h => ⟨h.name, h.typeParams, h.methods, h.refs⟩⟩

/-- A package with well-named declarations whose own name is an identifier. -/
structure Package.WellNamed (package : Package) : Prop where
  name : isIdentifier package.name = true
  types : ∀ decl ∈ package.types, decl.WellNamed

instance (package : Package) : Decidable package.WellNamed :=
  decidable_of_iff (isIdentifier package.name = true ∧ ∀ decl ∈ package.types, decl.WellNamed)
    ⟨fun h => ⟨h.1, h.2⟩, fun h => ⟨h.name, h.types⟩⟩

/-- A package and a program whose packages are well named. -/
structure Scope.WellNamed (scope : Scope) : Prop where
  package : scope.package.WellNamed
  program : ∀ package ∈ scope.program, package.WellNamed

/-- A type that is reached through embedding, with a well-named declaration and with type arguments
    that refer to packages whose names are identifiers. -/
structure Embedding.WellNamed (embedding : Embedding) : Prop where
  decl : embedding.decl.WellNamed
  subst : ∀ binding ∈ embedding.subst, ∀ ref ∈ binding.2.refs, isIdentifier ref.name = true

/-! ## References -/

theorem mem_typesRefs {types : List GoType} {ref : PackageRef} :
    ref ∈ typesRefs types ↔ ∃ type ∈ types, ref ∈ type.refs := by
  induction types with
  | nil => simp [typesRefs]
  | cons type types ih => simp [typesRefs, ih]

theorem mem_methodsRefs {methods : List Method} {ref : PackageRef} :
    ref ∈ methodsRefs methods ↔ ∃ method ∈ methods, ref ∈ method.signature.refs := by
  induction methods with
  | nil => simp [methodsRefs]
  | cons method methods ih =>
    obtain ⟨name, signature⟩ := method
    simp [methodsRefs, ih]

/-- The type arguments of an embedded type are part of it, so its `refs` include theirs. -/
theorem GoType.Embeds.refs_subset {type : GoType} {name : TypeName} {args : List GoType}
    (h : type.Embeds name args) {arg : GoType} (harg : arg ∈ args) : arg.refs ⊆ type.refs := by
  have hargs : typesRefs args ⊆ type.refs := by
    cases h with
    | value h => cases h <;> exact List.subset_append_right _ _
    | pointer h => cases h <;> exact List.subset_append_right _ _
  exact fun ref href => hargs (mem_typesRefs.2 ⟨arg, harg, href⟩)

/-! ## Types that are reached -/

theorem errorDecl_wellNamed : errorDecl.WellNamed := by decide +kernel

namespace Embedding.WellNamed

variable {e : Embedding}

/-- What a type embeds refers to packages whose names pass `isIdentifier`, under its type
    arguments. -/
theorem isIdentifier_of_mem_refs (h : e.WellNamed) {type : GoType}
    (htype : type ∈ e.decl.underlying.embeds) :
    ∀ ref ∈ (type.subst e.subst).refs, isIdentifier ref.name = true := by
  intro ref href
  rcases GoType.mem_refs_of_subst href with href | ⟨binding, hbinding, href⟩
  · exact h.decl.refs ref (List.mem_append_right _ (mem_typesRefs.2 ⟨type, htype, href⟩))
  · exact h.subst binding hbinding ref href

/-- The `ownMethods` of a well-named type have identifiers as names, and refer to packages whose
    names are identifiers. -/
theorem ownMethods (h : e.WellNamed) {method : Method} (hmethod : method ∈ e.ownMethods) :
    isIdentifier method.name = true ∧
      ∀ ref ∈ method.signature.refs, isIdentifier ref.name = true := by
  obtain ⟨listed, hlisted, rfl⟩ := List.mem_map.1 hmethod
  refine ⟨h.decl.methods listed hlisted, fun ref href => ?_⟩
  rcases Signature.mem_refs_of_subst href with href | ⟨binding, hbinding, href⟩
  · have hmethods := mem_methodsRefs.2 ⟨listed, hlisted, href⟩
    exact h.decl.refs ref (List.mem_append_left _ (List.mem_append_right _ hmethods))
  · exact h.subst binding hbinding ref href

end Embedding.WellNamed

namespace Scope.WellNamed

variable {scope : Scope}

/-- Every package that is looked up is well named. -/
theorem of_loads (h : scope.WellNamed) {package : Package} (hloads : scope.Loads package) :
    package.WellNamed := by
  rcases hloads with rfl | ⟨path, hget⟩
  · exact h.package
  · exact h.program package (Program.mem_of_get? hget).1

/-- What is embedded in a well-named type (`Scope.RefersTo`) is well named: its type arguments are
    part of what was embedded. -/
theorem wellNamed_of_refersTo (h : scope.WellNamed) {e target : Embedding} (he : e.WellNamed)
    {type : GoType} (htype : type ∈ e.decl.underlying.embeds)
    (hrefers : scope.RefersTo (type.subst e.subst) target) : target.WellNamed := by
  have hdecl : target.decl.WellNamed := by
    rcases hrefers.known.decl_eq_or_mem with heq | ⟨package, hpackage, hmem⟩
    · rw [heq]
      exact errorDecl_wellNamed
    · exact (h.of_loads hpackage).types _ hmem
  refine ⟨hdecl, fun binding hbinding ref href => ?_⟩
  cases hrefers with
  | error _ =>
    -- The predeclared interface has no type arguments.
    cases hbinding
  | declared embeds _ _ =>
    have harg := embeds.refs_subset (List.of_mem_zip hbinding).2
    exact he.isIdentifier_of_mem_refs htype ref (harg href)

/-- Every type that is reached from a declaration of the package (`Scope.Reaches`) is well named. -/
theorem wellNamed_of_reaches (h : scope.WellNamed) {decl : TypeDecl}
    (hdecl : decl ∈ scope.package.types) {e : Embedding}
    (hreaches : scope.Reaches (scope.root decl) e) : e.WellNamed := by
  induction hreaches with
  | start => exact ⟨h.package.types decl hdecl, fun _ hbinding => nomatch hbinding⟩
  | embedded reached embeds refers ih => exact h.wellNamed_of_refersTo ih embeds refers

/-- The `descriptors` of the package are well named. -/
theorem wellNamed_descriptors (h : scope.WellNamed) {descriptor : StructDescriptor}
    (hdescriptor : descriptor ∈ scope.descriptors.value) : descriptor.WellNamed := by
  rw [value_descriptors] at hdescriptor
  obtain ⟨decl, hdecl, rfl⟩ := List.mem_map.1 hdescriptor
  have hmem := mem_types_of_mem_structDecls hdecl
  have hwell := h.package.types decl hmem
  have hstruct := (List.mem_filter.1 (List.mem_mergeSort.1 hdecl)).2
  obtain ⟨hexported, hfields⟩ := Bool.and_eq_true_iff.1 hstruct
  -- Every method is listed by some type that is reached.
  have hmethods (method : Method) (hmethod : method ∈ (scope.methodSet decl).value) :
      isIdentifier method.name = true ∧
        ∀ ref ∈ method.signature.refs, isIdentifier ref.name = true := by
    obtain ⟨owner, howner, hlisted⟩ := exists_reaches_of_mem_methodSet hmethod
    exact (h.wellNamed_of_reaches hmem howner).ownMethods hlisted
  refine ⟨hexported, hwell.name hexported hfields, hwell.typeParams,
    fun method hmethod => (hmethods method hmethod).1, fun ref href => ?_⟩
  -- A reference stands in a constraint, or in a method.
  rcases List.mem_append.1 href with href | href
  · exact hwell.refs ref (List.mem_append_left _ (List.mem_append_left _ href))
  · obtain ⟨method, hmethod, href⟩ := mem_methodsRefs.1 href
    exact (hmethods method hmethod).2 ref href

end Scope.WellNamed

namespace Collector

/-- A collector that `Remembers` nothing but well-named descriptors. -/
def WellNamed (collector : Collector) : Prop :=
  collector.Remembers fun _ descriptors => ∀ descriptor ∈ descriptors, descriptor.WellNamed

/-- Whatever a collector was asked before, as long as it was about well-named programs, it remembers
    nothing but well-named descriptors. -/
theorem wellNamed_afterCalls {calls : List (Package × Program)}
    (hcalls : ∀ call ∈ calls, (Scope.mk call.1 call.2).WellNamed) :
    (Collector.afterCalls [] calls).WellNamed := by
  refine (remembers_nil _).afterCalls fun call hcall descriptor hdescriptor => ?_
  exact (hcalls call hcall).wellNamed_descriptors hdescriptor

/-- The descriptors that `collect` returns for a well-named program are well named, and so is
    everything that is remembered afterwards. -/
theorem WellNamed.collect {collector : Collector} (h : collector.WellNamed) {package : Package}
    {program : Program} (hscope : (Scope.mk package program).WellNamed) :
    (∀ descriptor ∈ (collector.collect package program).value.1, descriptor.WellNamed) ∧
      WellNamed (collector.collect package program).value.2 :=
  Remembers.collect h fun _ hdescriptor => hscope.wellNamed_descriptors hdescriptor

end Collector

end IfaceGen
