import IfaceGen.Proofs.MethodSet.Memory
import IfaceGen.Proofs.MethodSet.Reach

/-!
# What method sets depend on

A search looks nothing up but the types that are reached from its start. So two scopes that resolve
alike what is embedded in those types give the same method sets, whatever else they hold. The one
thing about a scope that a search sees besides is the list of types which have not been entered, and
of that list only the part that is reached.

## Key results

- `Scope.Agrees.resolvesAlike`: agreeing scopes resolve alike what is embedded in types they reach
- `Scope.addEmbedded_alike` / `Scope.search_alike`: the two recursions go the same way
- `Scope.Agrees.descriptors_eq`: agreeing scopes have the same descriptors
-/

namespace IfaceGen

namespace Scope

/-! ## Scopes that agree -/

/-- The package at `path` owns a type that is reached from an exported struct of the package at
    hand. -/
def OwnsReached (scope : Scope) (path : String) : Prop :=
  ∃ decl ∈ structDecls scope.package, ∃ e, scope.Reaches (scope.root decl) e ∧
    ∃ type ∈ e.decl.underlying.embeds, ∃ ref name args,
      (type.subst e.subst).embeddedName? = some (⟨some ref, name⟩, args) ∧ ref.path = path ∧
        (scope.instance? ⟨some ref, name⟩ args).isSome

/-- Two scopes of one package whose programs agree on every package that owns a type which is
    reached, from the one or from the other. -/
structure Agrees (scope scope' : Scope) : Prop where
  package_eq : scope.package = scope'.package
  get?_eq : ∀ path, scope.OwnsReached path ∨ scope'.OwnsReached path →
    scope.program.get? path = scope'.program.get? path

/-- What is embedded in types that are reached is found by `Scope.resolve` in both scopes or in
    neither, and if it is found, it is the same. -/
def ResolvesAlike (scope scope' : Scope) (start : Embedding) : Prop :=
  ∀ e, scope.Reaches start e → ∀ type ∈ e.decl.underlying.embeds,
    (scope.resolve (type.subst e.subst)).value = (scope'.resolve (type.subst e.subst)).value

variable {scope scope' : Scope} {start : Embedding}

/-- `Scope.instance?` follows references alike where the programs agree. -/
theorem instance?_congr (hpackage : scope.package = scope'.package) {ref : PackageRef}
    (hget : scope.program.get? ref.path = scope'.program.get? ref.path) (name : String)
    (args : List GoType) :
    scope.instance? ⟨some ref, name⟩ args = scope'.instance? ⟨some ref, name⟩ args := by
  simp only [instance?, package?, hpackage, hget]

/-- A type embedded in one that is reached in both scopes resolves alike. -/
theorem Agrees.value_resolve_eq (h : scope.Agrees scope') {decl : TypeDecl}
    (hdecl : decl ∈ structDecls scope.package) {e : Embedding}
    (he : scope.Reaches (scope.root decl) e) (he' : scope'.Reaches (scope'.root decl) e)
    {type : GoType} (htype : type ∈ e.decl.underlying.embeds) :
    (scope.resolve (type.subst e.subst)).value = (scope'.resolve (type.subst e.subst)).value := by
  rw [value_resolve, value_resolve]
  cases hname : (type.subst e.subst).embeddedName? with
  | none => rfl
  | some named =>
    obtain ⟨⟨pkg?, name⟩, args⟩ := named
    show scope.instance? ⟨pkg?, name⟩ args = scope'.instance? ⟨pkg?, name⟩ args
    cases pkg? with
    | none => rfl
    | some ref =>
      -- The programs agree on the package of a type that one of the scopes finds.
      by_cases hfound : (scope.instance? ⟨some ref, name⟩ args).isSome
      · exact instance?_congr h.package_eq
          (h.get?_eq ref.path (.inl ⟨decl, hdecl, e, he, type, htype, ref, name, args, hname, rfl,
            hfound⟩)) name args
      · by_cases hfound' : (scope'.instance? ⟨some ref, name⟩ args).isSome
        · exact instance?_congr h.package_eq
            (h.get?_eq ref.path (.inr ⟨decl, h.package_eq ▸ hdecl, e, he', type, htype, ref, name,
              args, hname, rfl, hfound'⟩)) name args
        · rw [Option.not_isSome_iff_eq_none.1 hfound, Option.not_isSome_iff_eq_none.1 hfound']

theorem Agrees.root_eq (h : scope.Agrees scope') (decl : TypeDecl) :
    scope'.root decl = scope.root decl := by
  rw [root, root, h.package_eq]

/-- Agreeing scopes reach the same types, in the sense of `Scope.Reaches`. -/
theorem Agrees.reaches (h : scope.Agrees scope') {decl : TypeDecl}
    (hdecl : decl ∈ structDecls scope.package) {e : Embedding}
    (he : scope.Reaches (scope.root decl) e) : scope'.Reaches (scope'.root decl) e := by
  induction he with
  | start =>
    rw [← h.root_eq decl]
    exact .start
  | embedded reached embeds refers ih =>
    -- What the one scope finds, the other finds as well.
    rw [← resolve_eq_some_iff, h.value_resolve_eq hdecl reached ih embeds] at refers
    exact .embedded ih embeds (resolve_eq_some_iff.1 refers)

/-- Agreeing scopes resolve alike what their structs embed, directly or not. -/
theorem Agrees.resolvesAlike (h : scope.Agrees scope') {decl : TypeDecl}
    (hdecl : decl ∈ structDecls scope.package) : scope.ResolvesAlike scope' (scope.root decl) :=
  fun _ he _ htype => h.value_resolve_eq hdecl he (h.reaches hdecl he) htype

/-! ## Lists of fresh types -/

/-- Two lists of fresh types hold the same of the types that are reached. -/
def FreshAlike (scope : Scope) (start : Embedding) (fresh fresh' : List TypeKey) : Prop :=
  ∀ e, scope.Reaches start e → (e.key ∈ fresh ↔ e.key ∈ fresh')

theorem FreshAlike.enter {fresh fresh' : List TypeKey} (h : scope.FreshAlike start fresh fresh')
    (key : TypeKey) : scope.FreshAlike start (enter fresh key) (enter fresh' key) := by
  intro e he
  rw [mem_enter, mem_enter, h e he]

theorem FreshAlike.unexpanded {fresh fresh' : List TypeKey}
    (h : scope.FreshAlike start fresh fresh') (level : List Embedding) :
    scope.FreshAlike start (unexpanded fresh level) (unexpanded fresh' level) := by
  intro e he
  simp only [IfaceGen.unexpanded, List.mem_filter, h e he]

/-- Every type that is reached from a declaration of the package has its key in `Scope.keys`. -/
theorem Reaches.key_mem_keys {decl : TypeDecl} (hdecl : decl ∈ scope.package.types) {e : Embedding}
    (h : scope.Reaches (scope.root decl) e) : e.key ∈ scope.keys := by
  cases h with
  | start =>
    refine List.mem_cons_of_mem _ (List.mem_append_left _ ?_)
    exact List.mem_map_of_mem hdecl
  | embedded _ _ refers => exact refers.key_mem_keys

/-! ## Interfaces -/

/-- `addEmbedded` enters the elements of an interface in the same way, and returns lists that are
    `FreshAlike`. -/
theorem addEmbedded_alike (hscopes : scope.ResolvesAlike scope' start) {s : Subst}
    {embeddeds : List GoType} {methods : List Method} {fresh fresh' : List TypeKey}
    (hfresh : scope.FreshAlike start fresh fresh') {e : Embedding} (he : scope.Reaches start e)
    (hs : e.subst = s) (hembeddeds : embeddeds ⊆ e.decl.underlying.embeds) :
    (scope.addEmbedded s embeddeds methods fresh).value.1 =
        (scope'.addEmbedded s embeddeds methods fresh').value.1 ∧
      scope.FreshAlike start (scope.addEmbedded s embeddeds methods fresh).value.2.val
        (scope'.addEmbedded s embeddeds methods fresh').value.2.val := by
  -- The cases are those of the recursion: no element is left, or the first one is looked at.
  induction s, embeddeds, methods, fresh using Scope.addEmbedded.induct
    generalizing e fresh' with
  | case1 s methods fresh =>
    rw [addEmbedded, addEmbedded]
    exact ⟨rfl, hfresh⟩
  | case2 s methods fresh element elements hskip hinner hnext hother =>
    have helement : element ∈ e.decl.underlying.embeds := hembeddeds List.mem_cons_self
    have helements : elements ⊆ e.decl.underlying.embeds := fun type htype =>
      hembeddeds (List.mem_cons_of_mem _ htype)
    have halike := hscopes e he element helement
    rw [hs] at halike
    rw [addEmbedded, addEmbedded.eq_def scope']
    simp only [Logged.value_bind, ← halike]
    cases hres : (scope.resolve (element.subst s)).value with
    | none => exact hskip hfresh he hs helements
    | some target =>
      have htarget : scope.Reaches start target :=
        .embedded he helement (resolve_eq_some_iff.1 (hs ▸ hres))
      have hkey := hfresh target htarget
      by_cases hmem : target.key ∈ fresh
      · have hmem' := hkey.1 hmem
        simp only [dif_pos hmem, dif_pos hmem']
        split
        · -- An interface is entered: first what is inside, then the elements behind it.
          rename_i inner own hinterface
          have hsub := TypeDecl.subset_embeds hinterface
          have hshorter := (scope.addEmbedded target.subst inner
            (own.map (Method.subst target.subst)) (enter fresh target.key)).value.2.property
          obtain ⟨hfound, hbetween⟩ :=
            hinner target hmem inner own (hfresh.enter target.key) htarget rfl hsub
          simp only [Logged.value_bind, Logged.value_pure, ← hfound]
          exact hnext target hmem _ _ hshorter hbetween he hs helements
        · exact hother target hmem (hfresh.enter target.key) he hs helements
      · have hmem' := mt hkey.2 hmem
        simp only [dif_neg hmem, dif_neg hmem']
        exact hskip hfresh he hs helements

/-- The interface of a type that is reached has the same methods: `collected` agrees. -/
theorem collected_alike (hscopes : scope.ResolvesAlike scope' start)
    (hkeys : scope.FreshAlike start scope.keys scope'.keys) {e : Embedding}
    (he : scope.Reaches start e) : scope.collected e = scope'.collected e := by
  rw [collected, collected]
  split
  · rename_i embeddeds own hinterface
    rw [value_interfaceMethods, value_interfaceMethods]
    exact (addEmbedded_alike hscopes hkeys he rfl (TypeDecl.subset_embeds hinterface)).1
  · rfl

/-! ## Levels -/

theorem targets_alike (hscopes : scope.ResolvesAlike scope' start) {e : Embedding}
    (he : scope.Reaches start e) : scope.targets e = scope'.targets e := by
  refine List.filterMap_congr fun field hfield => ?_
  rw [fieldTarget?, fieldTarget?]
  split
  · rename_i hembedded
    exact hscopes e he field.type (mem_embeds_of_mem_fields hfield hembedded)
  · rfl

/-- `introduceAll` brings in the same from a level of types that are reached. -/
theorem introduceAll_alike (hscopes : scope.ResolvesAlike scope' start)
    (hkeys : scope.FreshAlike start scope.keys scope'.keys) {level : List Embedding}
    (hlevel : scope.LevelReached start level) :
    (scope.introduceAll level).value = (scope'.introduceAll level).value := by
  rw [value_introduceAll, value_introduceAll]
  congr 1
  · -- The entries agree because the collected methods of each interface do.
    refine List.flatMap_congr fun copy hcopy => ?_
    obtain ⟨e, he, hcopy⟩ := List.mem_flatMap.1 hcopy
    rw [Embedding.mem_copies.1 hcopy, entries, entries,
      collected_alike hscopes hkeys (hlevel e he)]
  · refine List.flatMap_congr fun e he => ?_
    -- The mark of a type has no part in what it embeds.
    show (scope.targets e.unmarked).map _ = (scope'.targets e.unmarked).map _
    rw [targets_alike hscopes (hlevel e he)]

/-- `consolidate` keeps the same types of a level. -/
theorem consolidate_alike {fresh fresh' : List TypeKey}
    (hfresh : scope.FreshAlike start fresh fresh') {level : List Embedding}
    (hlevel : scope.LevelReached start level) :
    consolidate fresh level = consolidate fresh' level := by
  refine List.foldl_ext _ _ _ fun merged e he => ?_
  rw [mergeEmbedding, mergeEmbedding]
  simp only [show e.key ∈ fresh ↔ e.key ∈ fresh' from hfresh e.unmarked (hlevel e he)]

/-! ## The search -/

/-- `Scope.search` goes the same way, level by level. -/
theorem search_alike (hscopes : scope.ResolvesAlike scope' start)
    (hkeys : scope.FreshAlike start scope.keys scope'.keys) {fresh fresh' : List TypeKey}
    (hfresh : scope.FreshAlike start fresh fresh') (decided : List String)
    {current : List Embedding} (hcurrent : scope.LevelReached start current) :
    (scope.search fresh decided current).value = (scope'.search fresh' decided current).value := by
  induction fresh, decided, current using Scope.search.induct generalizing fresh' with
  | case1 fresh decided current hdone =>
    have hdone' : consolidate fresh' current = [] := consolidate_alike hfresh hcurrent ▸ hdone
    rw [search, dif_pos hdone, search, dif_pos hdone']
  | case2 fresh decided current hmore _ ih =>
    -- Both searches keep the same types of this level and bring in the same from them.
    have hkept := consolidate_alike hfresh hcurrent
    have hlevel := hcurrent.consolidate fresh
    have hmore' : consolidate fresh' current ≠ [] := hkept ▸ hmore
    rw [value_search hmore, value_search hmore', ← hkept,
      ← introduceAll_alike hscopes hkeys hlevel]
    congr 1
    exact ih _ (hfresh.unexpanded _) hlevel.next

/-! ## Descriptors -/

/-- Agreeing scopes give an exported struct the same `methodSet`. -/
theorem Agrees.methodSet_eq (h : scope.Agrees scope') {decl : TypeDecl}
    (hdecl : decl ∈ structDecls scope.package) :
    (scope.methodSet decl).value = (scope'.methodSet decl).value := by
  have hmem := mem_types_of_mem_structDecls hdecl
  have hmem' : decl ∈ scope'.package.types := h.package_eq ▸ hmem
  -- The lists of all keys differ, but what is reached stands in both.
  have hkeys : scope.FreshAlike (scope.root decl) scope.keys scope'.keys := fun e he =>
    iff_of_true (he.key_mem_keys hmem) ((h.reaches hdecl he).key_mem_keys hmem')
  have hfresh : scope.FreshAlike (scope.root decl) ((scope.root decl).key :: scope.keys)
      ((scope.root decl).key :: scope'.keys) := fun e he => by
    rw [List.mem_cons, List.mem_cons, hkeys e he]
  have hsearch := search_alike (h.resolvesAlike hdecl) hkeys hfresh []
    (scope.levelReached_root decl)
  show (List.filter _ (scope.search ((scope.root decl).key :: scope.keys) []
      [scope.root decl]).value).mergeSort _ =
    (List.filter _ (scope'.search ((scope'.root decl).key :: scope'.keys) []
      [scope'.root decl]).value).mergeSort _
  rw [h.root_eq, hsearch]

/-- Agreeing scopes have the same descriptors. -/
theorem Agrees.descriptors_eq (h : scope.Agrees scope') :
    scope.descriptors.value = scope'.descriptors.value := by
  rw [value_descriptors, value_descriptors, ← h.package_eq]
  refine List.map_congr_left fun decl hdecl => ?_
  rw [h.methodSet_eq hdecl]

end Scope

end IfaceGen
