import IfaceGen.Proofs.MethodSet.Promotion

/-!
# Types reached through embedding

The types that a search can meet are those reached from its start through embedded fields and the
elements of interfaces, each with the type arguments of its embedding. Nothing is assumed about the
shape of the declarations here: names may repeat, and types may embed each other endlessly.

## Key results

- `Scope.Reaches`: the types that are reached
- `Scope.mem_addEmbedded`: the methods of an interface are listed by types that are reached
- `Scope.LevelReached.next`: a level of types that are reached embeds types that are reached
- `Scope.exists_reaches_of_mem_methodSet`: every method of a method set belongs to a type that is
  reached
-/

namespace IfaceGen

/-- The methods that a type lists itself, under its type arguments: those declared on it, and those
    of its interface. -/
def Embedding.ownMethods (embedding : Embedding) : List Method :=
  (embedding.decl.methods ++ embedding.decl.underlying.literalMethods).map
    (Method.subst embedding.subst)

/-- The elements of an interface are among what it embeds (`GoType.embeds`). -/
theorem TypeDecl.subset_embeds {decl : TypeDecl} {embeddeds : List GoType} {own : List Method}
    (h : decl.underlying = .interface embeddeds own) : embeddeds ⊆ decl.underlying.embeds := by
  rw [h]
  exact List.Subset.refl _

namespace Scope

/-- The types reached from a type through embedded fields and elements of interfaces. -/
inductive Reaches (scope : Scope) (start : Embedding) : Embedding → Prop
  | start : Reaches scope start start
  | embedded {e target : Embedding} {type : GoType} (reached : Reaches scope start e)
      (embeds : type ∈ e.decl.underlying.embeds)
      (refers : scope.RefersTo (type.subst e.subst) target) :
      Reaches scope start target

variable {scope : Scope} {start : Embedding}

/-! ## Interfaces -/

/-- The methods that `addEmbedded` gathers are listed by types that are reached, those aside that
    were there before. -/
theorem mem_addEmbedded {s : Subst} {embeddeds : List GoType} {methods : List Method}
    {fresh : List TypeKey} {e : Embedding} (he : scope.Reaches start e) (hs : e.subst = s)
    (hembeddeds : embeddeds ⊆ e.decl.underlying.embeds) {method : Method}
    (h : method ∈ (scope.addEmbedded s embeddeds methods fresh).value.1) :
    method ∈ methods ∨ ∃ owner, scope.Reaches start owner ∧ method ∈ owner.ownMethods := by
  -- The cases are those of the recursion: no element is left, or the first one is looked at.
  induction s, embeddeds, methods, fresh using Scope.addEmbedded.induct generalizing e with
  | case1 s methods fresh =>
    rw [addEmbedded] at h
    exact .inl h
  | case2 s methods fresh element elements hskip hinner hnext hother =>
    have helement : element ∈ e.decl.underlying.embeds := hembeddeds List.mem_cons_self
    have helements : elements ⊆ e.decl.underlying.embeds := fun type htype =>
      hembeddeds (List.mem_cons_of_mem _ htype)
    rw [addEmbedded] at h
    simp only [Logged.value_bind] at h
    cases hres : (scope.resolve (element.subst s)).value with
    | none =>
      simp only [hres] at h
      exact hskip he hs helements h
    | some target =>
      have htarget : scope.Reaches start target :=
        .embedded he helement (resolve_eq_some_iff.1 (hs ▸ hres))
      simp only [hres] at h
      split at h
      · rename_i hfresh
        split at h
        · -- An interface is entered: its methods come from inside or from the elements behind it.
          rename_i inner own hinterface
          have hlisted (m : Method) (hm : m ∈ own.map (Method.subst target.subst)) :
              m ∈ target.ownMethods := by
            rw [Embedding.ownMethods, List.map_append, hinterface]
            exact List.mem_append_right _ hm
          have hsub := TypeDecl.subset_embeds hinterface
          have hshorter := (scope.addEmbedded target.subst inner
            (own.map (Method.subst target.subst)) (enter fresh target.key)).value.2.property
          rcases hnext target hfresh _ _ hshorter he hs helements h with hm | hm
          · rcases mem_of_mem_addNewMethods hm with hm | hm
            · exact .inl hm
            · rcases hinner target hfresh inner own htarget rfl hsub hm with hm | hm
              · exact .inr ⟨target, htarget, hlisted method hm⟩
              · exact .inr hm
          · exact .inr hm
        · exact hother target hfresh he hs helements h
      · exact hskip he hs helements h

/-- The methods that `collected` finds in an interface that is reached are listed by types that are
    reached. -/
theorem exists_reaches_of_mem_collected {e : Embedding} (he : scope.Reaches start e)
    {method : Method} (h : method ∈ scope.collected e) :
    ∃ owner, scope.Reaches start owner ∧ method ∈ owner.ownMethods := by
  obtain ⟨embeddeds, own, hinterface, hmem⟩ := mem_collected.1 h
  rw [value_interfaceMethods] at hmem
  rcases mem_addEmbedded he rfl (TypeDecl.subset_embeds hinterface) hmem with hown | howner
  · refine ⟨e, he, ?_⟩
    rw [Embedding.ownMethods, List.map_append, hinterface]
    exact List.mem_append_right _ hown
  · exact howner

/-- The methods among the `entries` of a type that is reached are listed by types that are
    reached. -/
theorem exists_reaches_of_mem_entries {e : Embedding} (he : scope.Reaches start e)
    {name : String} {method : Method} (h : (name, Entry.method method) ∈ scope.entries e) :
    ∃ owner, scope.Reaches start owner ∧ method ∈ owner.ownMethods := by
  simp only [entries, List.mem_append, List.mem_map, Prod.mk.injEq, Entry.method.injEq] at h
  rcases h with ⟨declared, hdeclared, -, rfl⟩ | ⟨field, -, -, hfield⟩ | ⟨found, hfound, -, rfl⟩
  · refine ⟨e, he, ?_⟩
    rw [Embedding.ownMethods, List.map_append]
    exact List.mem_append_left _ (List.mem_map_of_mem hdeclared)
  · cases hfield
  · exact exists_reaches_of_mem_collected he hfound

/-! ## Levels -/

/-- The `targets` of a type that is reached are reached. -/
theorem reaches_of_mem_targets {e target : Embedding} (he : scope.Reaches start e)
    (h : target ∈ scope.targets e) : scope.Reaches start target := by
  obtain ⟨field, hfield, h⟩ := List.mem_filterMap.1 h
  obtain ⟨hembedded, hrefers⟩ := fieldTarget?_eq_some_iff.1 h
  exact .embedded he (mem_embeds_of_mem_fields hfield hembedded) hrefers

/-- The types of a level are reached, whatever their marks. -/
def LevelReached (scope : Scope) (start : Embedding) (level : List Embedding) : Prop :=
  ∀ e ∈ level, scope.Reaches start e.unmarked

theorem levelReached_root (scope : Scope) (decl : TypeDecl) :
    scope.LevelReached (scope.root decl) [scope.root decl] := by
  intro e he
  rw [List.mem_singleton.1 he]
  exact .start

theorem LevelReached.consolidate {level : List Embedding} (h : scope.LevelReached start level)
    (fresh : List TypeKey) : scope.LevelReached start (consolidate fresh level) := by
  intro e he
  obtain ⟨x, hx, hxe⟩ := unmarked_mem_of_mem_consolidate he
  rw [← hxe]
  exact h x hx

/-- A level of types that are reached embeds types that are reached (`Scope.LevelReached`). -/
theorem LevelReached.next {level : List Embedding} (h : scope.LevelReached start level) :
    scope.LevelReached start (scope.introduceAll level).value.next := by
  intro x hx
  rw [value_introduceAll] at hx
  obtain ⟨e, he, hx⟩ := List.mem_flatMap.1 hx
  obtain ⟨target, htarget, rfl⟩ := List.mem_map.1 hx
  rw [unmarked_marked htarget]
  -- The mark of a type has no part in what it embeds.
  exact reaches_of_mem_targets (h e he) htarget

/-- What `introduceAll` brings in from a level is listed by types that are reached. -/
theorem exists_reaches_of_mem_introduceAll {level : List Embedding}
    (h : scope.LevelReached start level) {name : String} {method : Method}
    (hmem : (name, Entry.method method) ∈ (scope.introduceAll level).value.entries) :
    ∃ owner, scope.Reaches start owner ∧ method ∈ owner.ownMethods := by
  rw [value_introduceAll] at hmem
  obtain ⟨copy, hcopy, hmem⟩ := List.mem_flatMap.1 hmem
  obtain ⟨e, he, hcopy⟩ := List.mem_flatMap.1 hcopy
  -- A type with a mark stands for two copies of itself.
  rw [Embedding.mem_copies.1 hcopy] at hmem
  exact exists_reaches_of_mem_entries (h e he) hmem

/-! ## The search -/

/-- What `unambiguous` selects is one of the entries. -/
theorem mem_entries_of_mem_unambiguous {decided : List String} {entries : List (String × Entry)}
    {method : Method} (h : method ∈ unambiguous decided entries) :
    ∃ name, (name, Entry.method method) ∈ entries := by
  simp only [unambiguous, List.mem_filterMap, Prod.exists] at h
  obtain ⟨name, entry, hmem, h⟩ := h
  split at h
  · cases entry with
    | field => cases h
    | method found =>
      cases h
      exact ⟨name, hmem⟩
  · cases h

/-- A `search` that starts from types that are reached finds methods of types that are reached. -/
theorem exists_reaches_of_mem_search {fresh : List TypeKey} {decided : List String}
    {current : List Embedding} (hcurrent : scope.LevelReached start current) {method : Method}
    (h : method ∈ (scope.search fresh decided current).value) :
    ∃ owner, scope.Reaches start owner ∧ method ∈ owner.ownMethods := by
  -- The induction is that of the search; a level of types that are reached is the invariant.
  induction fresh, decided, current using Scope.search.induct with
  | case1 fresh decided current hdone =>
    rw [search, dif_pos hdone] at h
    cases h
  | case2 fresh decided current hmore _ ih =>
    rw [value_search hmore, List.mem_append] at h
    rcases h with h | h
    · obtain ⟨name, hmem⟩ := mem_entries_of_mem_unambiguous h
      exact exists_reaches_of_mem_introduceAll (hcurrent.consolidate fresh) hmem
    · exact ih _ (hcurrent.consolidate fresh).next h

/-- Every method of a `methodSet` is listed by a type that is reached from the declaration. -/
theorem exists_reaches_of_mem_methodSet {decl : TypeDecl} {method : Method}
    (h : method ∈ (scope.methodSet decl).value) :
    ∃ owner, scope.Reaches (scope.root decl) owner ∧ method ∈ owner.ownMethods := by
  have hfound : method ∈ (scope.search ((scope.root decl).key :: scope.keys) []
      [scope.root decl]).value :=
    (List.mem_filter.1 (List.mem_mergeSort.1 h)).1
  exact exists_reaches_of_mem_search (scope.levelReached_root decl) hfound

end Scope

end IfaceGen
