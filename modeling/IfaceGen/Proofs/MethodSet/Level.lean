import IfaceGen.Proofs.MethodSet.Merging
import IfaceGen.Proofs.MethodSet.Selector
import Mathlib.Data.List.Perm.Basic

/-!
# What one level of embedding brings in

The types of one depth bring in names, once for each copy, and the types that they embed, which
inherit the mark of having been reached on several ways. Of both, the key of a type decides as much
as the search relies on: which names there are, and which keys the embedded types have.

## Key results

- `Scope.value_introduceAll`: a level brings in what its copies introduce
- `Scope.copies_next_perm`: the copies of the next level are what the copies of a level embed
- `Scope.map_key_targets`: types with one key embed types with the same keys
- `Scope.entriesNamed_eq_nil_of_key`: types with one key introduce the same names
-/

namespace IfaceGen

namespace Scope

/-! ## What one level brings in -/

/-- The embedding with the mark of the type that embeds it, as `Scope.embeddedFields` sets it. -/
def marked (mark : Bool) (embedding : Embedding) : Embedding :=
  { embedding with multiple := mark }

theorem value_embeddedFields (scope : Scope) (embedding : Embedding) (fields : List Field) :
    (scope.embeddedFields embedding fields).value =
      (fields.filterMap (scope.fieldTarget? embedding)).map (marked embedding.multiple) := by
  induction fields with
  | nil => rfl
  | cons field fields ih =>
    rw [embeddedFields, List.filterMap_cons, fieldTarget?]
    -- A field that is not embedded brings in no type, and one that is may lead nowhere.
    by_cases hembedded : field.embedded
    · simp only [hembedded, ↓reduceIte, Logged.value_bind, Logged.value_pure, ih]
      cases (scope.resolve (field.type.subst embedding.subst)).value with
      | none => rfl
      | some target => rfl
    · simp only [hembedded, Bool.false_eq_true, ↓reduceIte, Logged.value_bind, Logged.value_pure,
        ih]
      rfl

/-- `Scope.introduce` brings in the names of a type, once for each copy, and the types it embeds
    with its own mark. -/
theorem value_introduce (scope : Scope) (embedding : Embedding) :
    (scope.introduce embedding).value =
      ⟨embedding.copies.flatMap scope.entries,
        (scope.targets embedding).map (marked embedding.multiple)⟩ := by
  have hcopies : embedding.copies.flatMap scope.entries =
      if embedding.multiple then scope.entries embedding ++ scope.entries embedding
      else scope.entries embedding := by
    rw [Embedding.copies]
    split
    · rw [List.flatMap_cons, List.flatMap_singleton]
      rfl
    · rw [List.flatMap_singleton]
      rfl
  rw [hcopies, introduce, entries, targets, collected, TypeDecl.fields, TypeDecl.structFields?]
  simp only [List.map_map]
  -- Only structs have fields, and only interfaces have methods to collect.
  cases hunderlying : embedding.decl.underlying with
  | struct fields =>
    simp only [Logged.value_bind, Logged.value_pure, value_embeddedFields, Option.getD_some,
      List.map_nil, List.append_nil]
    rfl
  | interface embeddeds own =>
    simp only [Logged.value_bind, Logged.value_pure, Option.getD_none, List.map_nil,
      List.nil_append, List.filterMap_nil]
    rfl
  | _ => rfl

/-- `Scope.introduceAll` brings in the names of all copies of the types of a level. -/
theorem value_introduceAll (scope : Scope) (level : List Embedding) :
    (scope.introduceAll level).value =
      ⟨(level.flatMap Embedding.copies).flatMap scope.entries,
        level.flatMap fun e => (scope.targets e).map (marked e.multiple)⟩ := by
  induction level with
  | nil => rfl
  | cons e level ih =>
    rw [introduceAll]
    simp only [Logged.value_bind, Logged.value_pure, value_introduce, ih, List.flatMap_cons,
      List.flatMap_append]

/-- A type that is embedded carries no mark but the one it is given. -/
theorem unmarked_marked {scope : Scope} {e target : Embedding} (h : target ∈ scope.targets e)
    {mark : Bool} : (marked mark target).unmarked = target := by
  rw [Embedding.unmarked, marked, ← multiple_of_mem_targets h]

/-- The copies of what a level embeds are the `targets` of the copies of the level, in some
    order. -/
theorem copies_next_perm (scope : Scope) (level : List Embedding) :
    ((level.flatMap fun e => (scope.targets e).map (marked e.multiple)).flatMap
      Embedding.copies).Perm ((level.flatMap Embedding.copies).flatMap scope.targets) := by
  rw [List.flatMap_assoc, List.flatMap_assoc]
  refine List.Perm.flatMap_left level fun e _ => ?_
  rw [List.flatMap_map]
  have hcopies : ∀ target ∈ scope.targets e, (marked e.multiple target).copies =
      if e.multiple then [target] ++ [target] else [target] := by
    intro target htarget
    rw [Embedding.copies, unmarked_marked htarget]
    rfl
  rw [List.flatMap_congr hcopies, Embedding.copies]
  split
  · -- Each target twice in a row, against all targets twice.
    rw [List.flatMap_cons, List.flatMap_singleton]
    have hperm := List.flatMap_append_perm (scope.targets e) (fun t => [t]) fun t => [t]
    rw [List.flatMap_singleton'] at hperm
    exact hperm.symm
  · rw [List.flatMap_singleton', List.flatMap_singleton]
    exact List.Perm.refl _

/-! ## What the key of a type decides -/

theorem mem_embeds_of_mem_fields {decl : TypeDecl} {field : Field} (h : field ∈ decl.fields)
    (hembedded : field.embedded) : field.type ∈ decl.underlying.embeds := by
  rw [TypeDecl.fields, TypeDecl.structFields?] at h
  split at h
  · rename_i fields hstruct
    rw [hstruct]
    exact List.mem_map_of_mem (List.mem_filter.2 ⟨h, hembedded⟩)
  · exact nomatch h

/-- Types with one key embed types with the same keys, whatever their type arguments are. -/
theorem map_key_targets {scope : Scope} (hscope : scope.Keyed) {a b : Embedding}
    (ha : scope.Known a) (hb : scope.Known b) (hkey : a.key = b.key) :
    (scope.targets a).map Embedding.key = (scope.targets b).map Embedding.key := by
  have hdecl := ha.decl_eq hscope hb hkey
  rw [targets, targets, List.map_filterMap, List.map_filterMap, hdecl]
  refine List.filterMap_congr fun field hfield => ?_
  rw [fieldTarget?, fieldTarget?]
  -- A field that is not embedded leads nowhere; the key of an embedded one ignores type arguments.
  by_cases hembedded : field.embedded
  · have hparam := hb.embeds_named hscope (mem_embeds_of_mem_fields hfield hembedded)
    rw [if_pos hembedded, if_pos hembedded, resolve_subst_key scope hparam,
      resolve_subst_key scope hparam]
  · rw [if_neg hembedded, if_neg hembedded]

/-- The names in the sense of `InterfaceMethod` do not depend on type arguments. -/
theorem InterfaceMethod.exists_name {scope : Scope} (hscope : scope.Keyed) {s : Subst}
    {embeddeds : List GoType} {own : List Method} {method : Method}
    (h : scope.InterfaceMethod s embeddeds own method)
    (hembeds : ∀ type ∈ embeddeds, type.isParam = false) (s' : Subst) :
    ∃ method', scope.InterfaceMethod s' embeddeds own method' ∧ method'.name = method.name := by
  induction h generalizing s' with
  | own listed => exact ⟨_, .own listed, rfl⟩
  | @embedded s _ _ _ element e inner _ embeds refers isInterface _ ih =>
    -- Under the other substitution the element resolves to a type with the same key.
    have hkey := (scope.resolve_subst_key (hembeds element embeds) s').trans
      (scope.resolve_subst_key (hembeds element embeds) s).symm
    rw [resolve_eq_some_iff.2 refers, Option.map_some, Option.map_eq_some_iff] at hkey
    obtain ⟨e', hres', hkey⟩ := hkey
    have he := refers.known
    have hdecl : e'.decl = e.decl := (resolve_eq_some_iff.1 hres').known.decl_eq hscope he hkey
    obtain ⟨method', hmethod', hname⟩ :=
      ih (fun _ => he.elements_named hscope isInterface) e'.subst
    exact ⟨method', .embedded embeds (resolve_eq_some_iff.1 hres') (hdecl ▸ isInterface) hmethod',
      hname⟩

theorem names_collected_subset {scope : Scope} (hscope : scope.Keyed) {a b : Embedding}
    (ha : scope.Known a) (hb : scope.Known b) (hkey : a.key = b.key) :
    (scope.collected a).map (·.name) ⊆ (scope.collected b).map (·.name) := by
  intro name hname
  obtain ⟨method, hmethod, rfl⟩ := List.mem_map.1 hname
  obtain ⟨embeddeds, own, hinterface, hmethod⟩ := mem_collected.1 hmethod
  -- The method comes from an interface that the other type leads to as well, under its own type
  -- arguments.
  obtain ⟨method', hmethod', hname⟩ := (interfaceMethods_sound hscope hmethod).exists_name hscope
    (fun _ => ha.elements_named hscope hinterface) b.subst
  rw [ha.decl_eq hscope hb hkey] at hinterface
  have hcomplete := interfaceMethods_complete hscope hmethod'
  rw [hname] at hcomplete
  rw [collected, hinterface]
  exact hcomplete

/-- Types with one key introduce the same names: those of their `entries`. -/
theorem names_entries_subset {scope : Scope} (hscope : scope.Keyed) {a b : Embedding}
    (ha : scope.Known a) (hb : scope.Known b) (hkey : a.key = b.key) :
    (scope.entries a).map (·.1) ⊆ (scope.entries b).map (·.1) := by
  intro name hname
  simp only [entries, List.map_append, List.map_map, List.mem_append] at hname ⊢
  rw [ha.decl_eq hscope hb hkey] at hname
  rcases hname with hname | hname | hname
  · exact .inl hname
  · exact .inr (.inl hname)
  · exact .inr (.inr (names_collected_subset hscope ha hb hkey hname))

theorem entriesNamed_eq_nil_iff {scope : Scope} {name : String} {embedding : Embedding} :
    scope.entriesNamed name embedding = [] ↔ name ∉ (scope.entries embedding).map (·.1) := by
  simp only [entriesNamed, entriesWithName, List.filterMap_eq_nil_iff, List.mem_map, Prod.forall,
    Prod.exists]
  constructor
  · rintro h ⟨_, entry, hmem, rfl⟩
    have hnone := h _ entry hmem
    rw [if_pos rfl] at hnone
    exact absurd hnone (Option.some_ne_none entry)
  · intro h other entry hmem
    exact if_neg fun hname => h ⟨other, entry, hmem, hname⟩

/-- Whether a type has entries of a name is decided by its key. -/
theorem entriesNamed_eq_nil_of_key {scope : Scope} (hscope : scope.Keyed) {a b : Embedding}
    (ha : scope.Known a) (hb : scope.Known b) (hkey : a.key = b.key) {name : String}
    (h : scope.entriesNamed name a = []) : scope.entriesNamed name b = [] := by
  rw [entriesNamed_eq_nil_iff] at h ⊢
  exact fun hmem => h (names_entries_subset hscope hb ha hkey.symm hmem)

end Scope

end IfaceGen
