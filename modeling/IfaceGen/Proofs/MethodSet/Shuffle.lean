import IfaceGen.Proofs.MethodSet.Iteration
import Mathlib.Data.Multiset.Bind

/-!
# The order in which declarations are listed

A program can list its types, the methods of a type and the fields of a struct in another order
(`Program.Shuffled`). What is reached from a struct along the paths of one depth is then the same
up to order, and so are the names found there. The search returns the names that occur once at the
smallest depth at which they occur, which is no matter of order.

## Key results

- `Scope.Shuffled.value_resolve`: embedded types resolve to corresponding declarations
- `Scope.Shuffled.addEmbedded_eq`: interfaces have the same methods
- `Scope.Shuffled.rel_ends`: the paths of one depth lead to corresponding types
- `Scope.Shuffled.descriptors_eq`: the descriptors are the same
-/

namespace IfaceGen

open Multiset (Rel)

/-! ## Shuffled programs -/

/-- Types that are equal but for the order of the fields of a struct. -/
inductive GoType.Shuffled : GoType → GoType → Prop
  | refl (type : GoType) : Shuffled type type
  | struct {fields fields' : List Field} (perm : fields.Perm fields') :
      Shuffled (.struct fields) (.struct fields')

theorem GoType.Shuffled.eq_or_struct {type type' : GoType} (h : type.Shuffled type') :
    type = type' ∨ ∃ fields fields', type = .struct fields ∧ type' = .struct fields' := by
  cases h with
  | refl => exact .inl rfl
  | struct => exact .inr ⟨_, _, rfl, rfl⟩

/-- Declarations that are equal but for the order of the methods and the fields. -/
structure TypeDecl.Shuffled (decl decl' : TypeDecl) : Prop where
  name_eq : decl.name = decl'.name
  typeParams_eq : decl.typeParams = decl'.typeParams
  underlying : decl.underlying.Shuffled decl'.underlying
  methods : decl.methods.Perm decl'.methods

/-- Packages whose declarations correspond to each other, in whatever order they are listed. -/
structure Package.Shuffled (package package' : Package) : Prop where
  path_eq : package.path = package'.path
  name_eq : package.name = package'.name
  errors_eq : package.errors = package'.errors
  types : Rel TypeDecl.Shuffled package.types package'.types

/-- Programs whose packages correspond to each other. -/
def Program.Shuffled (program program' : Program) : Prop :=
  List.Forall₂ Package.Shuffled program program'

theorem TypeDecl.Shuffled.refl (decl : TypeDecl) : decl.Shuffled decl where
  name_eq := rfl
  typeParams_eq := rfl
  underlying := .refl _
  methods := .refl _

/-- The `fields` of a struct are the same up to order; other types have none. -/
theorem TypeDecl.Shuffled.fields_perm {decl decl' : TypeDecl} (h : decl.Shuffled decl') :
    decl.fields.Perm decl'.fields := by
  have hunderlying := h.underlying
  unfold TypeDecl.fields TypeDecl.structFields?
  generalize decl.underlying = type, decl'.underlying = type' at hunderlying
  cases hunderlying with
  | refl => exact .refl _
  | struct perm => exact perm

theorem TypeDecl.Shuffled.structFields?_isSome {decl decl' : TypeDecl} (h : decl.Shuffled decl') :
    decl.structFields?.isSome = decl'.structFields?.isSome := by
  have hunderlying := h.underlying
  unfold TypeDecl.structFields?
  generalize decl.underlying = type, decl'.underlying = type' at hunderlying
  cases hunderlying with
  | refl => rfl
  | struct perm => rfl

/-- Corresponding declarations have the same types in `embeds`. -/
theorem TypeDecl.Shuffled.mem_embeds_iff {decl decl' : TypeDecl} (h : decl.Shuffled decl')
    {type : GoType} : type ∈ decl.underlying.embeds ↔ type ∈ decl'.underlying.embeds := by
  have hunderlying := h.underlying
  generalize decl.underlying = type, decl'.underlying = type' at hunderlying
  cases hunderlying with
  | refl => exact Iff.rfl
  | struct perm => exact ((perm.filter _).map _).mem_iff

/-- What corresponding elements bring in corresponds, up to order: `List.flatMap` respects
    `Multiset.Rel`. -/
theorem rel_flatMap {α β γ δ : Type} {r : α → β → Prop} {p : γ → δ → Prop} {xs : List α}
    {ys : List β} {f : α → List γ} {g : β → List δ} (h : Rel r (xs : Multiset α) ys)
    (hfg : ∀ a b, r a b → Rel p (f a : Multiset γ) (g b)) :
    Rel p (xs.flatMap f : Multiset γ) (ys.flatMap g) := by
  rw [← Multiset.coe_bind, ← Multiset.coe_bind]
  exact Multiset.rel_bind (fun a b hab => hfg a b hab) h

/-- Both values are missing, or they correspond (`Option.Rel`). -/
theorem optionRel_cases {α β : Type} {r : α → β → Prop} {x : Option α} {y : Option β}
    (h : Option.Rel r x y) : (x = none ∧ y = none) ∨ ∃ a b, x = some a ∧ y = some b ∧ r a b := by
  cases h with
  | none => exact .inl ⟨rfl, rfl⟩
  | some hab => exact .inr ⟨_, _, rfl, rfl, hab⟩

namespace Package.Shuffled

variable {package package' : Package}

theorem ref_eq (h : package.Shuffled package') : package.ref = package'.ref := by
  rw [Package.ref, Package.ref, h.path_eq, h.name_eq]

theorem exists_right (h : package.Shuffled package') {decl : TypeDecl}
    (hdecl : decl ∈ package.types) : ∃ decl' ∈ package'.types, decl.Shuffled decl' :=
  Multiset.exists_mem_of_rel_of_mem h.types hdecl

theorem exists_left (h : package.Shuffled package') {decl' : TypeDecl}
    (hdecl : decl' ∈ package'.types) : ∃ decl ∈ package.types, decl.Shuffled decl' :=
  Multiset.exists_mem_of_rel_of_mem (Multiset.rel_flip.2 h.types) hdecl

/-- The names of the types of a `Package.Shuffled` package are the same up to order. -/
theorem names_perm (h : package.Shuffled package') :
    (package.types.map (·.name)).Perm (package'.types.map (·.name)) := by
  rw [← Multiset.coe_eq_coe, ← Multiset.map_coe, ← Multiset.map_coe, ← Multiset.rel_eq,
    Multiset.rel_map]
  exact h.types.mono fun _ _ _ _ hdecl => hdecl.name_eq

theorem keys_perm (h : package.Shuffled package') : package.keys.Perm package'.keys := by
  have hperm := h.names_perm.map (Prod.mk package.path)
  rw [List.map_map, List.map_map] at hperm
  rw [Package.keys, Package.keys, ← h.path_eq]
  exact hperm

theorem keyed (h : package.Shuffled package') (hkeyed : package.Keyed) : package'.Keyed where
  path_ne := h.path_eq ▸ hkeyed.path_ne
  types_nodup := h.names_perm.nodup_iff.1 hkeyed.types_nodup
  embeds_named decl' hdecl' type htype := by
    obtain ⟨decl, hdecl, hshuffled⟩ := h.exists_left hdecl'
    exact hkeyed.embeds_named decl hdecl type (hshuffled.mem_embeds_iff.2 htype)

/-- Where names are distinct, `Package.lookup?` finds corresponding declarations. -/
theorem lookup?_rel (h : package.Shuffled package') (hkeyed : package.Keyed) (name : String) :
    Option.Rel TypeDecl.Shuffled (package.lookup? name) (package'.lookup? name) := by
  have hnodup' := (h.keyed hkeyed).types_nodup
  cases hlookup : package.lookup? name with
  | some decl =>
    obtain ⟨hdecl, rfl⟩ := Package.mem_of_lookup? hlookup
    obtain ⟨decl', hdecl', hshuffled⟩ := h.exists_right hdecl
    rw [hshuffled.name_eq, Package.lookup?_of_mem hnodup' hdecl']
    exact .some hshuffled
  | none =>
    cases hlookup' : package'.lookup? name with
    | none => exact .none
    | some decl' =>
      -- A declaration of this name would correspond to one that is not there.
      obtain ⟨hdecl', rfl⟩ := Package.mem_of_lookup? hlookup'
      obtain ⟨decl, hdecl, hshuffled⟩ := h.exists_left hdecl'
      rw [← hshuffled.name_eq, Package.lookup?_of_mem hkeyed.types_nodup hdecl] at hlookup
      exact nomatch hlookup

end Package.Shuffled

/-- `Program.get?` finds corresponding packages under a path. -/
theorem Program.Shuffled.get?_rel {program program' : Program} (h : program.Shuffled program')
    (path : String) : Option.Rel Package.Shuffled (program.get? path) (program'.get? path) := by
  induction h with
  | nil => exact .none
  | @cons package package' _ _ hpackage _ ih =>
    rw [Program.get?, Program.get?, ← hpackage.path_eq]
    -- The last package of a path is the one that counts.
    rcases optionRel_cases ih with ⟨hnone, hnone'⟩ | ⟨found, found', hsome, hsome', hfound⟩
    · rw [hnone, hnone', Option.none_or, Option.none_or]
      split
      · exact .some hpackage
      · exact .none
    · rw [hsome, hsome', Option.some_or, Option.some_or]
      exact .some hfound

theorem Program.Shuffled.keys_perm {program program' : Program} (h : program.Shuffled program') :
    (program.flatMap Package.keys).Perm (program'.flatMap Package.keys) := by
  induction h with
  | nil => exact .refl _
  | cons hpackage _ ih =>
    rw [List.flatMap_cons, List.flatMap_cons]
    exact hpackage.keys_perm.append ih

/-! ## Embedded types -/

/-- Embeddings that are equal but for the order in which their declarations list things. -/
structure Embedding.Shuffled (e e' : Embedding) : Prop where
  pkg_eq : e.pkg = e'.pkg
  decl : e.decl.Shuffled e'.decl
  subst_eq : e.subst = e'.subst
  multiple_eq : e.multiple = e'.multiple

theorem Embedding.Shuffled.key_eq {e e' : Embedding} (h : e.Shuffled e') : e.key = e'.key := by
  rw [Embedding.key, Embedding.key, h.pkg_eq, h.decl.name_eq]

namespace Scope

/-- Scopes with corresponding packages. -/
structure Shuffled (scope scope' : Scope) : Prop where
  package : scope.package.Shuffled scope'.package
  program : scope.program.Shuffled scope'.program

namespace Shuffled

variable {scope scope' : Scope}

theorem package?_rel (h : scope.Shuffled scope') (ref : PackageRef) :
    Option.Rel Package.Shuffled (scope.package? ref) (scope'.package? ref) := by
  unfold Scope.package? Package.owns
  rw [← h.package.path_eq]
  split
  · exact .some h.package
  · exact h.program.get?_rel ref.path

theorem keyed (h : scope.Shuffled scope') (hscope : scope.Keyed) : scope'.Keyed := by
  intro package' hloads
  rcases hloads with rfl | ⟨path, hpath⟩
  · exact h.package.keyed (hscope _ (.inl rfl))
  · have hrel := h.program.get?_rel path
    rcases optionRel_cases hrel with ⟨-, hnone⟩ | ⟨package, found, hsome, hfound, hpackage⟩
    · exact nomatch hpath.symm.trans hnone
    · rw [hpath, Option.some.injEq] at hfound
      exact hfound ▸ hpackage.keyed (hscope _ (.inr ⟨path, hsome⟩))

/-- `Scope.instance?` finds corresponding declarations, under the same type arguments. -/
theorem instance?_rel (h : scope.Shuffled scope') (hscope : scope.Keyed) (name : TypeName)
    (args : List GoType) :
    Option.Rel Embedding.Shuffled (scope.instance? name args) (scope'.instance? name args) := by
  unfold instance?
  split
  · -- A predeclared name does not depend on the scope.
    split
    · exact .some ⟨rfl, .refl _, rfl, rfl⟩
    · exact .none
  · rename_i ref _
    rcases optionRel_cases (h.package?_rel ref) with
      ⟨hnone, hnone'⟩ | ⟨package, package', hsome, hsome', hpackage⟩
    · rw [hnone, hnone']
      exact .none
    · rw [hsome, hsome', Option.bind_some, Option.bind_some]
      -- The first declaration of a name is the only one in a keyed package.
      have hkeyed := hscope _ (loads_of_package? hsome).1
      rcases optionRel_cases (hpackage.lookup?_rel hkeyed name.name) with
        ⟨hnone, hnone'⟩ | ⟨decl, decl', hdecl, hdecl', hshuffled⟩
      · rw [hnone, hnone']
        exact .none
      · rw [hdecl, hdecl', Option.map_some, Option.map_some, ← hshuffled.typeParams_eq]
        exact .some ⟨hpackage.path_eq, hshuffled, rfl, rfl⟩

/-- `Scope.resolve` finds corresponding declarations. -/
theorem value_resolve (h : scope.Shuffled scope') (hscope : scope.Keyed) (type : GoType) :
    Option.Rel Embedding.Shuffled (scope.resolve type).value (scope'.resolve type).value := by
  rw [Scope.value_resolve, Scope.value_resolve]
  cases type.embeddedName? with
  | none => exact .none
  | some named => exact h.instance?_rel hscope named.1 named.2

/-- Corresponding types have corresponding `targets`, up to order. -/
theorem rel_targets (h : scope.Shuffled scope') (hscope : scope.Keyed) {e e' : Embedding}
    (he : e.Shuffled e') :
    Rel Embedding.Shuffled (scope.targets e : Multiset Embedding) (scope'.targets e') := by
  -- The fields are the same up to order, so it is enough to compare them one by one.
  have hfields : Rel (· = ·) (e.decl.fields : Multiset Field) e'.decl.fields :=
    Multiset.rel_eq.2 (Multiset.coe_eq_coe.2 he.decl.fields_perm)
  rw [targets, targets, List.filterMap_eq_flatMap_toList, List.filterMap_eq_flatMap_toList]
  refine rel_flatMap hfields fun field field' hfield => ?_
  subst hfield
  rw [fieldTarget?, fieldTarget?, he.subst_eq]
  split
  · rcases optionRel_cases (h.value_resolve hscope (field.type.subst e'.subst)) with
      ⟨hnone, hnone'⟩ | ⟨target, target', hsome, hsome', htarget⟩
    · rw [hnone, hnone']
      exact .zero
    · rw [hsome, hsome']
      exact .cons htarget .zero
  · exact .zero

/-- Both scopes have the same `keys`. -/
theorem mem_keys_iff (h : scope.Shuffled scope') (key : TypeKey) :
    key ∈ scope.keys ↔ key ∈ scope'.keys := by
  have hprogram := h.program.keys_perm
  have hpackage := h.package.keys_perm
  exact ((hpackage.append hprogram).cons _).mem_iff

/-! ## Interfaces -/

/-- `addEmbedded` enters the elements of an interface in the same way. The lists of fresh types may
    differ in order, but not in what they hold. -/
theorem addEmbedded_eq (h : scope.Shuffled scope') (hscope : scope.Keyed) {s : Subst}
    {embeddeds : List GoType} {methods : List Method} {fresh fresh' : List TypeKey}
    (hfresh : ∀ key, key ∈ fresh ↔ key ∈ fresh') :
    (scope.addEmbedded s embeddeds methods fresh).value.1 =
        (scope'.addEmbedded s embeddeds methods fresh').value.1 ∧
      ∀ key, key ∈ (scope.addEmbedded s embeddeds methods fresh).value.2.val ↔
        key ∈ (scope'.addEmbedded s embeddeds methods fresh').value.2.val := by
  have henter {fresh fresh' : List TypeKey} (hfresh : ∀ key, key ∈ fresh ↔ key ∈ fresh')
      (entered key : TypeKey) : key ∈ enter fresh entered ↔ key ∈ enter fresh' entered := by
    rw [mem_enter, mem_enter, hfresh]
  -- The cases are those of the recursion: no element is left, or the first one is looked at.
  induction s, embeddeds, methods, fresh using Scope.addEmbedded.induct generalizing fresh' with
  | case1 s methods fresh =>
    rw [addEmbedded, addEmbedded]
    exact ⟨rfl, hfresh⟩
  | case2 s methods fresh element elements hskip hinner hnext hother =>
    rw [addEmbedded, addEmbedded.eq_def scope']
    simp only [Logged.value_bind]
    rcases optionRel_cases (h.value_resolve hscope (element.subst s)) with
      ⟨hnone, hnone'⟩ | ⟨target, target', hsome, hsome', htarget⟩
    · simp only [hnone, hnone']
      exact hskip hfresh
    · simp only [hsome, hsome', ← htarget.key_eq, ← htarget.subst_eq]
      by_cases hmem : target.key ∈ fresh
      · have hmem' := (hfresh target.key).1 hmem
        simp only [dif_pos hmem, dif_pos hmem']
        have hentered : ∀ key, key ∈ enter fresh target.key ↔ key ∈ enter fresh' target'.key := by
          rw [← htarget.key_eq]
          exact henter hfresh target.key
        rcases htarget.decl.underlying.eq_or_struct with heq | ⟨fields, fields', hstruct, hstruct'⟩
        · rw [← heq]
          split
          · -- An interface is entered: first what is inside, then the elements behind it.
            rename_i inner own hinterface
            have hshorter := (scope.addEmbedded target.subst inner
              (own.map (Method.subst target.subst)) (enter fresh target.key)).value.2.property
            obtain ⟨hfound, hbetween⟩ := hinner target hmem inner own hentered
            simp only [Logged.value_bind, Logged.value_pure, ← hfound]
            exact hnext target hmem _ _ hshorter hbetween
          · exact hother target hmem hentered
        · rw [hstruct, hstruct']
          exact hother target hmem hentered
      · have hmem' := mt (hfresh target.key).2 hmem
        simp only [dif_neg hmem, dif_neg hmem']
        exact hskip hfresh

/-- Corresponding types have the same interface methods (`Scope.collected`), in one order: the
    elements of an interface are not shuffled. -/
theorem collected_eq (h : scope.Shuffled scope') (hscope : scope.Keyed) {e e' : Embedding}
    (he : e.Shuffled e') : scope.collected e = scope'.collected e' := by
  rw [collected, collected]
  rcases he.decl.underlying.eq_or_struct with heq | ⟨fields, fields', hstruct, hstruct'⟩
  · -- The types are equal, or both are structs, which have no interface methods.
    rw [← heq, ← he.subst_eq]
    split
    · rw [value_interfaceMethods, value_interfaceMethods]
      exact (h.addEmbedded_eq hscope h.mem_keys_iff).1
    · rfl
  · rw [hstruct, hstruct']

/-! ## What is found along paths -/

/-- Corresponding types have the same `entriesNamed`, up to order. -/
theorem entriesNamed_perm (h : scope.Shuffled scope') (hscope : scope.Keyed) {e e' : Embedding}
    (he : e.Shuffled e') (name : String) :
    (scope.entriesNamed name e).Perm (scope'.entriesNamed name e') := by
  have hentries : (scope.entries e).Perm (scope'.entries e') := by
    rw [entries, entries, h.collected_eq hscope he, he.subst_eq]
    exact (he.decl.methods.map _).append ((he.decl.fields_perm.map _).append_right _)
  rw [entriesNamed, entriesNamed, entriesWithName_eq, entriesWithName_eq]
  exact (hentries.filter _).map _

/-- The paths of one depth lead to corresponding types: the `ends` agree up to order. -/
theorem rel_ends (h : scope.Shuffled scope') (hscope : scope.Keyed) {start start' : Embedding}
    (hstart : start.Shuffled start') (depth : Nat) :
    Rel Embedding.Shuffled (scope.ends start depth : Multiset Embedding)
      (scope'.ends start' depth) := by
  -- One field more: each type is replaced by its targets.
  induction depth with
  | zero =>
    rw [ends_zero, ends_zero]
    exact .cons hstart .zero
  | succ depth ih =>
    rw [ends_succ, ends_succ]
    exact rel_flatMap ih fun e e' he => h.rel_targets hscope he

/-- The paths of one depth (`Scope.ends`) bring in the same entries under each name. -/
theorem sightings_perm (h : scope.Shuffled scope') (hscope : scope.Keyed)
    {start start' : Embedding} (hstart : start.Shuffled start') (depth : Nat) (name : String) :
    ((scope.ends start depth).flatMap (scope.entriesNamed name)).Perm
      ((scope'.ends start' depth).flatMap (scope'.entriesNamed name)) := by
  rw [← Multiset.coe_eq_coe, ← Multiset.rel_eq]
  refine rel_flatMap (h.rel_ends hscope hstart depth) fun e e' he => ?_
  exact Multiset.rel_eq.2 (Multiset.coe_eq_coe.2 (h.entriesNamed_perm hscope he name))

/-- A method is `FoundAt` the same depth, since that does not depend on the order of what is
    found. -/
theorem foundAt_iff (h : scope.Shuffled scope') (hscope : scope.Keyed)
    {start start' : Embedding} (hstart : start.Shuffled start') (method : Method) (depth : Nat) :
    scope.FoundAt start method depth ↔ scope'.FoundAt start' method depth := by
  have halike (d : Nat) := Alike.of_perm (h.sightings_perm hscope hstart d method.name)
  unfold FoundAt
  refine and_congr (forall₂_congr fun d _ => (halike d).1) ((halike depth).2 _)

/-! ## Method sets and descriptors -/

theorem root_shuffled (h : scope.Shuffled scope') {decl decl' : TypeDecl}
    (hdecl : decl.Shuffled decl') : (scope.root decl).Shuffled (scope'.root decl') :=
  ⟨h.package.path_eq, hdecl, rfl, rfl⟩

/-- Corresponding declarations have the same `methodSet`. -/
theorem methodSet_eq (h : scope.Shuffled scope') (hscope : scope.Keyed) {decl decl' : TypeDecl}
    (hdecl : decl.Shuffled decl') (hmem : decl ∈ scope.package.types)
    (hmem' : decl' ∈ scope'.package.types) :
    (scope.methodSet decl).value = (scope'.methodSet decl').value := by
  have hscope' := h.keyed hscope
  have hknown := known_root hscope hmem
  have hknown' := known_root hscope' hmem'
  have hnodup := nodup_exported hscope hmem
  have hnodup' := nodup_exported hscope' hmem'
  rw [value_methodSet, value_methodSet]
  -- The names are distinct, so sorting brings the methods into one order.
  refine mergeSort_eq_of_perm ?_ hnodup
  refine (List.perm_ext_iff_of_nodup hnodup.of_map hnodup'.of_map).2 fun method => ?_
  rw [List.mem_filter, List.mem_filter,
    mem_search hscope hknown (Searching.start hknown rfl),
    mem_search hscope' hknown' (Searching.start hknown' rfl)]
  simp only [h.foundAt_iff hscope (h.root_shuffled hdecl)]

end Shuffled

/-- What is told about a declaration: the descriptor of an exported struct, or nothing. -/
def described (scope : Scope) (decl : TypeDecl) : List StructDescriptor :=
  if decl.isExported && decl.structFields?.isSome then
    [⟨scope.package.ref, decl.name, decl.typeParams, (scope.methodSet decl).value⟩]
  else []

theorem flatMap_described (scope : Scope) (decls : List TypeDecl) :
    decls.flatMap scope.described =
      (decls.filter fun decl => decl.isExported && decl.structFields?.isSome).map fun decl =>
        ⟨scope.package.ref, decl.name, decl.typeParams, (scope.methodSet decl).value⟩ := by
  induction decls with
  | nil => rfl
  | cons decl decls ih =>
    rw [List.flatMap_cons, ih, described, List.filter_cons]
    split
    · rfl
    · rfl

/-- The descriptors are what is told about all declarations (`Scope.described`), sorted by name. -/
theorem value_descriptors_eq (scope : Scope) :
    scope.descriptors.value = (scope.package.types.flatMap scope.described).mergeSort
      (fun a b => a.name ≤ b.name) := by
  rw [value_descriptors, flatMap_described, structDecls]
  exact List.map_mergeSort fun _ _ _ _ => rfl

/-- No name is `described` twice. -/
theorem nodup_described {scope : Scope} (hscope : scope.Keyed) :
    ((scope.package.types.flatMap scope.described).map (·.name)).Nodup := by
  rw [flatMap_described, List.map_map]
  have hnodup := (hscope _ (.inl rfl)).types_nodup
  exact (List.filter_sublist.map _).nodup hnodup

namespace Shuffled

variable {scope scope' : Scope}

/-- The same is told (`Scope.described`) about corresponding declarations. -/
theorem described_eq (h : scope.Shuffled scope') (hscope : scope.Keyed) {decl decl' : TypeDecl}
    (hdecl : decl.Shuffled decl') (hmem : decl ∈ scope.package.types)
    (hmem' : decl' ∈ scope'.package.types) : scope.described decl = scope'.described decl' := by
  rw [described, described, h.methodSet_eq hscope hdecl hmem hmem', h.package.ref_eq,
    hdecl.name_eq, hdecl.typeParams_eq, hdecl.structFields?_isSome, TypeDecl.isExported,
    TypeDecl.isExported, hdecl.name_eq]

/-- The `descriptors` do not depend on the order in which anything is listed. -/
theorem descriptors_eq (h : scope.Shuffled scope') (hscope : scope.Keyed) :
    scope.descriptors.value = scope'.descriptors.value := by
  have hdecls := h.package.types.mono fun decl hmem decl' hmem' hdecl =>
    h.described_eq hscope hdecl hmem hmem'
  -- Names are distinct, so sorting by name undoes the permutation.
  have hperm : (scope.package.types.flatMap scope.described).Perm
      (scope'.package.types.flatMap scope'.described) := by
    rw [← Multiset.coe_eq_coe, ← Multiset.rel_eq]
    refine rel_flatMap hdecls fun decl decl' heq => ?_
    rw [heq]
    exact Multiset.rel_eq_refl
  rw [value_descriptors_eq, value_descriptors_eq]
  exact mergeSort_eq_of_perm hperm (nodup_described hscope)

end Shuffled

end Scope

end IfaceGen
