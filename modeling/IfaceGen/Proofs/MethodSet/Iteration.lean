import IfaceGen.Proofs.MethodSet.Memory
import IfaceGen.Proofs.MethodSet.Promotion
import Mathlib.Data.List.Dedup

/-!
# Going through the names of a level in any order

The names that a level brings in stand in a table that has no order of its own. A search that goes
through each of these tables in an order of its own choice finds the same methods, in some order,
and sorting them by name forgets that order.

## Key results

- `Enumerates.perm_unambiguous`: one level gives the same methods, whatever the order
- `Scope.Finds.perm_search`: so does the whole search
- `Scope.Describes.eq_descriptors`: the descriptors of a package do not depend on the orders
-/

namespace IfaceGen

/-! ## One level -/

/-- An order in which the names of a level can be gone through: each name comes once, and no other
    comes. -/
structure Enumerates (order : List String) (entries : List (String × Entry)) : Prop where
  nodup : order.Nodup
  mem_iff : ∀ name, name ∈ order ↔ name ∈ entries.map (·.1)

/-- The method of a name that is undecided and has no other entry, as a search takes it that comes
    to this name. -/
def pick? (decided : List String) (entries : List (String × Entry)) (name : String) :
    Option Method :=
  if decided.contains name then none
  else match entriesWithName name entries with
    | [entry] => entry.method?
    | _ => none

theorem pick?_eq_some {decided : List String} {entries : List (String × Entry)} {name : String}
    {method : Method} :
    pick? decided entries name = some method ↔
      name ∉ decided ∧ entriesWithName name entries = [.method method] := by
  unfold pick?
  split
  · rename_i hdecided
    simp only [List.contains_eq_mem, decide_eq_true_eq] at hdecided
    simp [hdecided]
  · rename_i hdecided
    simp only [List.contains_eq_mem, decide_eq_true_eq] at hdecided
    -- Exactly one entry has the name, and it is a method.
    split
    · rename_i entry hone
      cases entry with
      | field => simp [hone, Entry.method?]
      | method found => simp [hone, hdecided, Entry.method?]
    · rename_i hmany
      simp only [reduceCtorEq, false_iff, not_and]
      exact fun _ hone => hmany _ hone

/-- `pick?` takes a method under its own name. -/
theorem name_of_pick? {decided : List String} {entries : List (String × Entry)}
    (hnames : ∀ name method, (name, Entry.method method) ∈ entries → name = method.name)
    {name : String} {method : Method} (h : pick? decided entries name = some method) :
    name = method.name := by
  have hmem : Entry.method method ∈ entriesWithName name entries := by
    rw [(pick?_eq_some.1 h).2]
    exact List.mem_singleton_self _
  rw [entriesWithName_eq, List.mem_map] at hmem
  obtain ⟨⟨other, entry⟩, hmem, hentry⟩ := hmem
  simp only [List.mem_filter, decide_eq_true_eq] at hmem hentry
  rw [← hmem.2]
  exact hnames other method (hentry ▸ hmem.1)

/-- In whatever order the names are gone through, the `unambiguous` methods are picked. -/
theorem Enumerates.perm_unambiguous {order : List String} {entries : List (String × Entry)}
    (h : Enumerates order entries) (decided : List String)
    (hnames : ∀ name method, (name, Entry.method method) ∈ entries → name = method.name) :
    (order.filterMap (pick? decided entries)).Perm (unambiguous decided entries) := by
  have hpicked : (order.filterMap (pick? decided entries)).Nodup := by
    refine h.nodup.filterMap fun a b method ha hb => ?_
    rw [name_of_pick? hnames ha, name_of_pick? hnames hb]
  have hunambiguous : ((unambiguous decided entries).map (·.name)).Nodup :=
    nodup_names_unambiguous hnames
  -- Neither list repeats a method, so it is enough that both have the same ones.
  refine (List.perm_ext_iff_of_nodup hpicked hunambiguous.of_map).2 fun method => ?_
  rw [List.mem_filterMap, mem_unambiguous hnames, ← pick?_eq_some]
  constructor
  · rintro ⟨name, -, hpick⟩
    rwa [← name_of_pick? hnames hpick]
  · intro hpick
    refine ⟨method.name, (h.mem_iff _).2 ?_, hpick⟩
    have hmem : Entry.method method ∈ entriesWithName method.name entries := by
      rw [(pick?_eq_some.1 hpick).2]
      exact List.mem_singleton_self _
    rw [entriesWithName_eq, List.mem_map] at hmem
    obtain ⟨x, hx, -⟩ := hmem
    simp only [List.mem_filter, decide_eq_true_eq] at hx
    exact List.mem_map.2 ⟨x, hx.1, hx.2⟩

namespace Scope

/-! ## The whole search -/

/-- What a search can return that goes through the names of each level in some order. `Scope.search`
    is one of these searches. -/
inductive Finds (scope : Scope) : List TypeKey → List String → List Embedding → List Method → Prop
  | done {fresh : List TypeKey} {decided : List String} {current : List Embedding}
      (exhausted : consolidate fresh current = []) : Finds scope fresh decided current []
  | level {fresh : List TypeKey} {decided order : List String} {current : List Embedding}
      {deeper : List Method} (more : consolidate fresh current ≠ [])
      (enumerates : Enumerates order
        (scope.introduceAll (consolidate fresh current)).value.entries)
      (finds : Finds scope (unexpanded fresh (consolidate fresh current))
        (decided ++ (scope.introduceAll (consolidate fresh current)).value.entries.map (·.1))
        (scope.introduceAll (consolidate fresh current)).value.next deeper) :
      Finds scope fresh decided current
        (order.filterMap (pick? decided
          (scope.introduceAll (consolidate fresh current)).value.entries) ++ deeper)

variable {scope : Scope} {fresh : List TypeKey} {decided : List String} {current : List Embedding}

/-- All searches find the methods that `Scope.search` finds. -/
theorem Finds.perm_search {found : List Method} (h : scope.Finds fresh decided current found) :
    found.Perm (scope.search fresh decided current).value := by
  induction h with
  | done exhausted =>
    rw [search, dif_pos exhausted]
    exact .refl _
  | level more enumerates _ ih =>
    rw [value_search more]
    exact (enumerates.perm_unambiguous _ fun _ _ => name_of_mem_introduceAll).append ih

/-- There is an order for every level, so that every search can be carried out. -/
theorem exists_finds (scope : Scope) (fresh : List TypeKey) (decided : List String)
    (current : List Embedding) : ∃ found, scope.Finds fresh decided current found := by
  induction fresh, decided, current using Scope.search.induct with
  | case1 fresh decided current exhausted => exact ⟨[], .done exhausted⟩
  | case2 fresh decided current more _ ih =>
    obtain ⟨deeper, hdeeper⟩ := ih (scope.introduceAll (consolidate fresh current)).value
    -- The names of a level can be enumerated in the order in which they come.
    have henumerates : Enumerates
        ((scope.introduceAll (consolidate fresh current)).value.entries.map (·.1)).dedup
        (scope.introduceAll (consolidate fresh current)).value.entries :=
      ⟨List.nodup_dedup _, fun _ => List.mem_dedup⟩
    exact ⟨_, .level more henumerates hdeeper⟩

/-! ## Descriptors -/

/-- The methods of a declaration as some search finds them, exported and sorted by name. -/
def Collects (scope : Scope) (decl : TypeDecl) (methods : List Method) : Prop :=
  ∃ found, scope.Finds ((scope.root decl).key :: scope.keys) [] [scope.root decl] found ∧
    methods = (found.filter Method.isExported).mergeSort (fun a b => a.name ≤ b.name)

/-- The descriptors of the package at hand, with methods as some searches find them. -/
def Describes (scope : Scope) (descriptors : List StructDescriptor) : Prop :=
  List.Forall₂ (fun decl descriptor => ∃ methods, scope.Collects decl methods ∧
      descriptor = ⟨scope.package.ref, decl.name, decl.typeParams, methods⟩)
    (structDecls scope.package) descriptors

/-- `Scope.methodSet` sorts the exported methods that `Scope.search` finds. -/
theorem value_methodSet (scope : Scope) (decl : TypeDecl) :
    (scope.methodSet decl).value =
      ((scope.search ((scope.root decl).key :: scope.keys) [] [scope.root decl]).value.filter
        Method.isExported).mergeSort (fun a b => a.name ≤ b.name) := rfl

/-- The exported methods that `Scope.search` finds have distinct names. -/
theorem nodup_exported (hscope : scope.Keyed) {decl : TypeDecl}
    (hdecl : decl ∈ scope.package.types) :
    (((scope.search ((scope.root decl).key :: scope.keys) [] [scope.root decl]).value.filter
      Method.isExported).map (·.name)).Nodup := by
  have hknown := known_root hscope hdecl
  have hnodup := nodup_names_search hscope hknown (Searching.start hknown rfl)
  exact (List.filter_sublist.map _).nodup hnodup

/-- Every search gives a declaration its `Scope.methodSet`. -/
theorem Collects.eq_methodSet (hscope : scope.Keyed) {decl : TypeDecl}
    (hdecl : decl ∈ scope.package.types) {methods : List Method}
    (h : scope.Collects decl methods) : methods = (scope.methodSet decl).value := by
  obtain ⟨found, hfinds, rfl⟩ := h
  have hperm := hfinds.perm_search.filter Method.isExported
  -- Sorting lists with the same elements, whose names are distinct, gives one list.
  rw [value_methodSet]
  exact (mergeSort_eq_of_perm hperm.symm (nodup_exported hscope hdecl)).symm

/-- `Scope.descriptors` does not depend on the orders in which names are gone through. -/
theorem Describes.eq_descriptors (hscope : scope.Keyed) {descriptors : List StructDescriptor}
    (h : scope.Describes descriptors) : descriptors = scope.descriptors.value := by
  rw [value_descriptors, eq_comm, ← List.forall₂_eq_eq_eq, List.forall₂_map_left_iff]
  refine (forall₂_and_mem h).imp fun decl descriptor hdescriptor => ?_
  obtain ⟨⟨methods, hcollects, rfl⟩, hdecl, -⟩ := hdescriptor
  rw [hcollects.eq_methodSet hscope (mem_types_of_mem_structDecls hdecl)]

/-- `Scope.descriptors` is what some searches find. -/
theorem describes_descriptors (hscope : scope.Keyed) : scope.Describes scope.descriptors.value := by
  rw [Describes, value_descriptors, List.forall₂_map_right_iff, List.forall₂_same]
  intro decl hdecl
  obtain ⟨found, hfinds⟩ :=
    scope.exists_finds ((scope.root decl).key :: scope.keys) [] [scope.root decl]
  have hcollects : scope.Collects decl _ := ⟨found, hfinds, rfl⟩
  have heq := hcollects.eq_methodSet hscope (mem_types_of_mem_structDecls hdecl)
  exact ⟨_, heq ▸ hcollects, rfl⟩

end Scope

end IfaceGen
