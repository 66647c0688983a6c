import IfaceGen.Proofs.MethodSet.Interface

/-!
# Tours of the interfaces that an interface embeds

All ways that lead from an interface into the interfaces it embeds can be listed depth first: an
interface stands before those it embeds, and its elements follow from left to right. No way enters
a type twice, and ways know nothing of each other. `Scope.Tours` says which list this is, and
`Scope.tour` computes it.

## Key results

- `Scope.tours_iff`: the list is determined by what a tour is
- `Scope.NamedWithin.enter_or`: a way through a type can be split there
- `Scope.mem_names_tour_iff`: the tour meets every name to which the elements lead
- `Scope.interfaceMethod_of_mem_tourMethods`: the methods on the tour are methods of the interface
-/

namespace IfaceGen

/-! ## The first method of a name -/

/-- The first method of a list with the given name. -/
def firstNamed (name : String) (methods : List Method) : Option Method :=
  methods.find? (·.name = name)

section FirstNamed

variable {name : String} {methods more : List Method}

theorem firstNamed_append :
    firstNamed name (methods ++ more) = (firstNamed name methods).or (firstNamed name more) :=
  List.find?_append

theorem firstNamed_eq_none_iff : firstNamed name methods = none ↔ name ∉ methods.map (·.name) := by
  simp [firstNamed]

/-- Of the methods that `addNewMethods` adds those count whose names are new. -/
theorem firstNamed_addNewMethods :
    firstNamed name (addNewMethods methods more) =
      (firstNamed name methods).or (firstNamed name more) := by
  induction more generalizing methods with
  | nil => exact (Option.or_none).symm
  | cons first rest ih =>
    have hcons : firstNamed name (first :: rest) =
        (firstNamed name [first]).or (firstNamed name rest) := by
      rw [← List.singleton_append]
      exact firstNamed_append
    rw [addNewMethods, List.foldl_cons, hcons]
    refine ih.trans ?_
    split
    · -- There is such a method already, so that another one does not count.
      rename_i hknown
      cases hfirst : firstNamed name methods with
      | some found => rfl
      | none =>
        have hne : first.name ≠ name := by
          rintro rfl
          have hmem : first.name ∈ methods.map (·.name) := by simpa using hknown
          exact firstNamed_eq_none_iff.1 hfirst hmem
        have hskip : firstNamed name [first] = none :=
          firstNamed_eq_none_iff.2 (by simpa using hne.symm)
        rw [hskip, Option.none_or, Option.none_or]
    · rw [firstNamed_append, Option.or_assoc]

/-- Where names are distinct, each method is the `firstNamed` of its name. -/
theorem mem_iff_firstNamed (h : (methods.map (·.name)).Nodup) {method : Method} :
    method ∈ methods ↔ firstNamed method.name methods = some method :=
  ⟨find?_key_eq_some h, List.mem_of_find?_eq_some⟩

end FirstNamed

/-- The methods that an interface lists itself, under its type arguments. -/
def Embedding.listed (embedding : Embedding) : List Method :=
  embedding.decl.underlying.literalMethods.map (Method.subst embedding.subst)

theorem Embedding.listed_eq {embedding : Embedding} {inner : List GoType} {own : List Method}
    (h : embedding.decl.underlying = .interface inner own) :
    embedding.listed = own.map (Method.subst embedding.subst) := by
  rw [listed, h]
  rfl

/-- `Method.subst` does not change names. -/
theorem names_map_subst (s : Subst) (methods : List Method) :
    (methods.map (Method.subst s)).map (·.name) = methods.map (·.name) := by
  rw [List.map_map]
  rfl

namespace Scope

/-! ## The tour -/

/-- The interfaces on all ways through elements, depth first: an interface, those that it embeds,
    and then the elements behind it. A way enters each type of `allowed` once at most, and no
    other. -/
def tour (scope : Scope) (allowed : List TypeKey) (s : Subst) (embeddeds : List GoType) :
    List Embedding :=
  match embeddeds with
  | [] => []
  | element :: elements =>
    let here :=
      match (scope.resolve (element.subst s)).value with
      | none => []
      | some embedding =>
        if h : embedding.key ∈ allowed then
          have _ := length_enter_lt h
          match embedding.decl.underlying with
          | .interface inner _ =>
            embedding :: scope.tour (enter allowed embedding.key) embedding.subst inner
          | _ => []
        else []
    here ++ scope.tour allowed s elements
termination_by (allowed.length, embeddeds.length)

/-- The methods on the tour of an interface: its own, and those of the interfaces on the way. -/
def tourMethods (scope : Scope) (allowed : List TypeKey) (s : Subst) (embeddeds : List GoType) :
    List Method :=
  (scope.tour allowed s embeddeds).flatMap Embedding.listed

variable {scope : Scope}

/-- `Scope.tour` enters an interface by an element. -/
structure Enters (scope : Scope) (allowed : List TypeKey) (s : Subst) (element : GoType)
    (e : Embedding) (inner : List GoType) (own : List Method) : Prop where
  refers : scope.RefersTo (element.subst s) e
  mem : e.key ∈ allowed
  isInterface : e.decl.underlying = .interface inner own

section Tour

variable {allowed : List TypeKey} {s : Subst} {element : GoType} {elements inner : List GoType}
  {own : List Method} {e : Embedding}

theorem tour_nil : scope.tour allowed s [] = [] := by
  rw [tour]

/-- In `Scope.tour` an interface stands before those that it embeds, and these before what follows
    from the elements behind it. -/
theorem tour_cons_enters (h : scope.Enters allowed s element e inner own) :
    scope.tour allowed s (element :: elements) =
      e :: (scope.tour (enter allowed e.key) e.subst inner ++ scope.tour allowed s elements) := by
  rw [tour]
  simp only [resolve_eq_some_iff.2 h.refers, dif_pos h.mem, h.isInterface, List.cons_append]

/-- By an element that `Enters` no interface, nothing is met. -/
theorem tour_cons_skips (h : ¬ ∃ e inner own, scope.Enters allowed s element e inner own) :
    scope.tour allowed s (element :: elements) = scope.tour allowed s elements := by
  rw [tour]
  cases hres : (scope.resolve (element.subst s)).value with
  | none => exact List.nil_append _
  | some e =>
    simp only
    split
    · rename_i hallowed
      split
      · rename_i inner own hinterface
        exact absurd ⟨e, inner, own, resolve_eq_some_iff.1 hres, hallowed, hinterface⟩ h
      · exact List.nil_append _
    · exact List.nil_append _

theorem tourMethods_cons_enters (h : scope.Enters allowed s element e inner own) :
    scope.tourMethods allowed s (element :: elements) =
      own.map (Method.subst e.subst) ++ scope.tourMethods (enter allowed e.key) e.subst inner ++
        scope.tourMethods allowed s elements := by
  rw [tourMethods, tour_cons_enters h, List.flatMap_cons, List.flatMap_append,
    Embedding.listed_eq h.isInterface, List.append_assoc]
  rfl

theorem tourMethods_cons_skips (h : ¬ ∃ e inner own, scope.Enters allowed s element e inner own) :
    scope.tourMethods allowed s (element :: elements) = scope.tourMethods allowed s elements := by
  rw [tourMethods, tour_cons_skips h]
  rfl

end Tour

/-! ## What a tour is -/

/-- The interfaces that are met on all ways through elements, depth first: an interface, then what
    is met behind it, and then what is met behind the elements to its right. A way enters no type of
    `path`, by which it came, and it passes over elements that refer to nothing or to a type that is
    no interface. What elements refer to is `Scope.RefersTo`. -/
inductive Tours (scope : Scope) :
    List TypeKey → Subst → List GoType → List Embedding → Prop
  | nil {path : List TypeKey} {s : Subst} : Tours scope path s [] []
  | enters {path : List TypeKey} {s : Subst} {element : GoType} {elements inner : List GoType}
      {own : List Method} {e : Embedding} {behind right : List Embedding}
      (refers : scope.RefersTo (element.subst s) e) (new : e.key ∉ path)
      (isInterface : e.decl.underlying = .interface inner own)
      (inside : Tours scope (e.key :: path) e.subst inner behind)
      (next : Tours scope path s elements right) :
      Tours scope path s (element :: elements) (e :: (behind ++ right))
  | passes {path : List TypeKey} {s : Subst} {element : GoType} {elements : List GoType}
      {right : List Embedding}
      (nothing : ∀ e, scope.RefersTo (element.subst s) e → ∀ inner own,
        e.decl.underlying = .interface inner own → e.key ∈ path)
      (next : Tours scope path s elements right) : Tours scope path s (element :: elements) right

/-- An element that refers to nothing (`Scope.resolve`) is passed over. -/
theorem Tours.passes_unresolved {path : List TypeKey} {s : Subst} {element : GoType}
    {elements : List GoType} {right : List Embedding}
    (hres : (scope.resolve (element.subst s)).value = none)
    (next : scope.Tours path s elements right) : scope.Tours path s (element :: elements) right :=
  .passes (fun _ refers => nomatch hres.symm.trans (resolve_eq_some_iff.2 refers)) next

/-- An element that refers to a type on the way, whose key is in `path`, is passed over. -/
theorem Tours.passes_known {path : List TypeKey} {s : Subst} {element : GoType}
    {elements : List GoType} {e : Embedding} {right : List Embedding}
    (refers : scope.RefersTo (element.subst s) e) (known : e.key ∈ path)
    (next : scope.Tours path s elements right) : scope.Tours path s (element :: elements) right :=
  .passes (fun _ refers' _ _ _ => refers.unique refers' ▸ known) next

/-- Of `Scope.keys` those are in `allowed` by which a way along `path` did not come. -/
def AllowedAfter (scope : Scope) (allowed path : List TypeKey) : Prop :=
  ∀ key ∈ scope.keys, key ∈ allowed ↔ key ∉ path

theorem AllowedAfter.enter {allowed path : List TypeKey} (h : scope.AllowedAfter allowed path)
    (key : TypeKey) : scope.AllowedAfter (enter allowed key) (key :: path) := by
  intro other hother
  rw [mem_enter, h other hother, List.mem_cons, not_or, and_comm]

/-- `Scope.tour` lists what is met in the sense of `Scope.Tours`, and there is no other such
    list. -/
theorem tours_iff {allowed path : List TypeKey} (hallowed : scope.AllowedAfter allowed path)
    {s : Subst} {embeddeds : List GoType} {met : List Embedding} :
    scope.Tours path s embeddeds met ↔ met = scope.tour allowed s embeddeds := by
  constructor
  · intro h
    -- A way that enters a type forbids it from there on, so `allowed` varies.
    induction h generalizing allowed with
    | nil => rw [tour_nil]
    | enters refers new isInterface _ _ ihInside ihNext =>
      have hmem := (hallowed _ refers.key_mem_keys).2 new
      rw [tour_cons_enters ⟨refers, hmem, isInterface⟩, ihInside (hallowed.enter _),
        ihNext hallowed]
    | passes nothing _ ihNext =>
      rw [tour_cons_skips, ihNext hallowed]
      rintro ⟨e, inner, own, henters⟩
      exact (hallowed _ henters.refers.key_mem_keys).1 henters.mem
        (nothing e henters.refers inner own henters.isInterface)
  · rintro rfl
    induction allowed, s, embeddeds using Scope.tour.induct scope generalizing path with
    | case1 allowed s =>
      rw [tour_nil]
      exact .nil
    | case2 allowed s element elements hinner helements =>
      -- The element enters an interface or is passed over, as the function goes.
      by_cases hentered : ∃ e inner own, scope.Enters allowed s element e inner own
      · obtain ⟨e, inner, own, henters⟩ := hentered
        rw [tour_cons_enters henters]
        have hnew := (hallowed _ henters.refers.key_mem_keys).1 henters.mem
        exact .enters henters.refers hnew henters.isInterface
          (hinner e henters.mem inner (hallowed.enter _)) (helements hallowed)
      · rw [tour_cons_skips hentered]
        refine .passes (fun e refers inner own isInterface => ?_) (helements hallowed)
        by_contra hnew
        exact hentered ⟨e, inner, own, refers, (hallowed _ refers.key_mem_keys).2 hnew, isInterface⟩

/-- On the way from an interface literal no type has been entered, so all of `Scope.keys` are
    allowed. -/
theorem tours_nil_iff {s : Subst} {embeddeds : List GoType} {met : List Embedding} :
    scope.Tours [] s embeddeds met ↔ met = scope.tour scope.keys s embeddeds :=
  tours_iff fun _ hkey => iff_of_true hkey List.not_mem_nil

/-! ## Names that can be reached -/

/-- A scope in which every package has a path, and no interface embeds a type parameter. Method
    names may repeat, and structs may embed what they like. -/
structure InterfacesNamed (scope : Scope) : Prop where
  path_ne : ∀ package, scope.Loads package → package.path ≠ ""
  elements_named : ∀ package, scope.Loads package → ∀ decl ∈ package.types, ∀ embeddeds own,
    decl.underlying = .interface embeddeds own → ∀ type ∈ embeddeds, type.isParam = false

/-- No type parameter is an element of an interface that is `Scope.Known`. -/
theorem InterfacesNamed.of_known (hscope : scope.InterfacesNamed) {embedding : Embedding}
    (hknown : scope.Known embedding) {inner : List GoType} {own : List Method}
    (hinterface : embedding.decl.underlying = .interface inner own) :
    ∀ type ∈ inner, type.isParam = false := by
  rcases hknown.decl_eq_or_mem with hdecl | ⟨package, hpackage, hdecl⟩
  · rw [hdecl] at hinterface
    cases hinterface
    exact fun _ h => nomatch h
  · exact hscope.elements_named package hpackage _ hdecl inner own hinterface

/-- Types for which `Scope.resolve` finds the same key refer to the same declaration. -/
theorem InterfacesNamed.exists_alike (hscope : scope.InterfacesNamed) {type other : GoType}
    (hkeys : (scope.resolve type).value.map Embedding.key =
      (scope.resolve other).value.map Embedding.key) {target : Embedding}
    (hrefers : scope.RefersTo type target) :
    ∃ target', scope.RefersTo other target' ∧ target'.key = target.key ∧
      target'.decl = target.decl := by
  rw [resolve_eq_some_iff.2 hrefers, Option.map_some, eq_comm, Option.map_eq_some_iff] at hkeys
  obtain ⟨target', hres', hkey⟩ := hkeys
  have hrefers' := resolve_eq_some_iff.1 hres'
  exact ⟨target', hrefers', hkey,
    hrefers'.known.decl_eq_of_path_ne hscope.path_ne hrefers.known hkey⟩

theorem enter_subset {allowed : List TypeKey} {key : TypeKey} : enter allowed key ⊆ allowed :=
  fun _ h => (mem_enter.1 h).1

/-- The name is listed by an interface to which elements lead through types of `allowed`, on any way
    at all. -/
inductive NamedWithin (scope : Scope) (allowed : List TypeKey) (name : String) :
    List GoType → Prop
  | listed {embeddeds inner : List GoType} {own : List Method} {element : GoType}
      {target : Embedding} (embeds : element ∈ embeddeds)
      (refers : scope.RefersTo element target) (mem : target.key ∈ allowed)
      (isInterface : target.decl.underlying = .interface inner own)
      (lists : name ∈ own.map (·.name)) : NamedWithin scope allowed name embeddeds
  | inside {embeddeds inner : List GoType} {own : List Method} {element : GoType}
      {target : Embedding} (embeds : element ∈ embeddeds)
      (refers : scope.RefersTo element target) (mem : target.key ∈ allowed)
      (isInterface : target.decl.underlying = .interface inner own)
      (within : NamedWithin scope allowed name inner) : NamedWithin scope allowed name embeddeds

namespace NamedWithin

variable {allowed allowed' : List TypeKey} {name : String} {embeddeds : List GoType}

theorem mono (hsub : allowed ⊆ allowed') (h : scope.NamedWithin allowed name embeddeds) :
    scope.NamedWithin allowed' name embeddeds := by
  induction h with
  | listed embeds refers mem isInterface lists =>
    exact .listed embeds refers (hsub mem) isInterface lists
  | inside embeds refers mem isInterface _ ih =>
    exact .inside embeds refers (hsub mem) isInterface ih

/-- A way either avoids the interface `e`, or what follows when `e` is entered for the last time
    does. -/
theorem enter_or (hscope : scope.InterfacesNamed) {e : Embedding} (he : scope.Known e)
    {inner : List GoType} {own : List Method}
    (hinterface : e.decl.underlying = .interface inner own)
    (h : scope.NamedWithin allowed name embeddeds) :
    scope.NamedWithin (enter allowed e.key) name embeddeds ∨
      name ∈ own.map (·.name) ∨ scope.NamedWithin (enter allowed e.key) name inner := by
  have same {target : Embedding} {element : GoType}
      (hrefers : scope.RefersTo element target) (hkey : target.key = e.key)
      {inner' : List GoType} {own' : List Method}
      (htarget : target.decl.underlying = .interface inner' own') :
      inner' = inner ∧ own' = own := by
    rw [hrefers.known.decl_eq_of_path_ne hscope.path_ne he hkey, hinterface] at htarget
    cases htarget
    exact ⟨rfl, rfl⟩
  -- The first step that enters `e` splits the way; what comes behind it is the induction
  -- hypothesis.
  induction h with
  | @listed _ _ _ _ target embeds refers mem isInterface lists =>
    by_cases hkey : target.key = e.key
    · obtain ⟨-, rfl⟩ := same refers hkey isInterface
      exact .inr (.inl lists)
    · exact .inl (.listed embeds refers (mem_enter.2 ⟨mem, hkey⟩) isInterface lists)
  | @inside _ _ _ _ target embeds refers mem isInterface _ ih =>
    rcases ih with ih | ih
    · by_cases hkey : target.key = e.key
      · obtain ⟨rfl, -⟩ := same refers hkey isInterface
        exact .inr (.inr ih)
      · exact .inl (.inside embeds refers (mem_enter.2 ⟨mem, hkey⟩) isInterface ih)
    · exact .inr ih

/-- Behind the interface `e`, the ways that lead through `e` again bring nothing else. -/
theorem named_or_enter (hscope : scope.InterfacesNamed) {e : Embedding} (he : scope.Known e)
    {inner : List GoType} {own : List Method}
    (hinterface : e.decl.underlying = .interface inner own)
    (h : scope.NamedWithin allowed name inner) :
    name ∈ own.map (·.name) ∨ scope.NamedWithin (enter allowed e.key) name inner := by
  rcases h.enter_or hscope he hinterface with h | h
  · exact .inr h
  · exact h

/-- More elements lead further: `NamedWithin` is monotone in them. -/
theorem of_subset {embeddeds' : List GoType} (hsub : embeddeds ⊆ embeddeds')
    (h : scope.NamedWithin allowed name embeddeds) :
    scope.NamedWithin allowed name embeddeds' := by
  cases h with
  | listed embeds refers mem isInterface lists =>
    exact .listed (hsub embeds) refers mem isInterface lists
  | inside embeds refers mem isInterface within =>
    exact .inside (hsub embeds) refers mem isInterface within

/-- A way (`NamedWithin`) starts with one of the elements, the first or a later one. -/
theorem cons_iff {element : GoType} {elements : List GoType} :
    scope.NamedWithin allowed name (element :: elements) ↔
      scope.NamedWithin allowed name [element] ∨ scope.NamedWithin allowed name elements := by
  constructor
  · intro h
    -- The name is found in a method of an element, or inside an element.
    cases h with
    | listed embeds refers mem isInterface lists =>
      rcases List.mem_cons.1 embeds with rfl | embeds
      · exact .inl (.listed List.mem_cons_self refers mem isInterface lists)
      · exact .inr (.listed embeds refers mem isInterface lists)
    | inside embeds refers mem isInterface within =>
      rcases List.mem_cons.1 embeds with rfl | embeds
      · exact .inl (.inside List.mem_cons_self refers mem isInterface within)
      · exact .inr (.inside embeds refers mem isInterface within)
  · rintro (h | h)
    · exact h.of_subset (List.cons_subset_cons _ (List.nil_subset _))
    · exact h.of_subset (List.subset_cons_self _ _)

/-- The names that one element brings: those of the interface that is entered by it, and those to
    which the elements of this interface lead without entering it again. -/
theorem singleton_iff (hscope : scope.InterfacesNamed) {element : GoType}
    (hnamed : element.isParam = false) (s : Subst) :
    scope.NamedWithin allowed name [element] ↔
      ∃ e inner own, scope.Enters allowed s element e inner own ∧
        (name ∈ own.map (·.name) ∨ scope.NamedWithin (enter allowed e.key) name inner) := by
  have hkeys := scope.resolve_subst_key hnamed s
  constructor
  · intro h
    cases h with
    | @listed _ inner own _ target embeds refers mem isInterface lists =>
      -- The substituted element refers to the same declaration, perhaps with other type arguments.
      obtain ⟨e, hrefers, hkey, hdecl⟩ :=
        hscope.exists_alike hkeys.symm (List.mem_singleton.1 embeds ▸ refers)
      exact ⟨e, inner, own, ⟨hrefers, hkey ▸ mem, hdecl ▸ isInterface⟩, .inl lists⟩
    | @inside _ inner own _ target embeds refers mem isInterface within =>
      obtain ⟨e, hrefers, hkey, hdecl⟩ :=
        hscope.exists_alike hkeys.symm (List.mem_singleton.1 embeds ▸ refers)
      have hinterface : e.decl.underlying = .interface inner own := hdecl ▸ isInterface
      exact ⟨e, inner, own, ⟨hrefers, hkey ▸ mem, hinterface⟩,
        within.named_or_enter hscope hrefers.known hinterface⟩
  · rintro ⟨e, inner, own, henters, h⟩
    obtain ⟨target, htarget, hkey, hdecl⟩ := hscope.exists_alike hkeys henters.refers
    have hmem : target.key ∈ allowed := hkey ▸ henters.mem
    have hinterface : target.decl.underlying = .interface inner own := hdecl ▸ henters.isInterface
    rcases h with h | h
    · exact .listed List.mem_cons_self htarget hmem hinterface h
    · refine .inside List.mem_cons_self htarget hmem hinterface (h.mono enter_subset)

end NamedWithin

/-- `Scope.tour` meets exactly the names to which the elements lead, although it never enters a type
    twice on one way. -/
theorem mem_names_tour_iff (hscope : scope.InterfacesNamed) {allowed : List TypeKey} {s : Subst}
    {embeddeds : List GoType} (hnamed : ∀ type ∈ embeddeds, type.isParam = false) {name : String} :
    name ∈ (scope.tourMethods allowed s embeddeds).map (·.name) ↔
      scope.NamedWithin allowed name embeddeds := by
  induction allowed, s, embeddeds using Scope.tour.induct scope with
  | case1 allowed s =>
    rw [tourMethods, tour_nil]
    refine iff_of_false List.not_mem_nil fun h => ?_
    cases h with
    | listed embeds _ _ _ _ => cases embeds
    | inside embeds _ _ _ _ => cases embeds
  | case2 allowed s element elements hinner helements =>
    obtain ⟨helement, hrest⟩ := List.forall_mem_cons.1 hnamed
    -- What the first element brings is met first, then what the others bring.
    rw [NamedWithin.cons_iff, ← helements hrest, NamedWithin.singleton_iff hscope helement s]
    by_cases hentered : ∃ e inner own, scope.Enters allowed s element e inner own
    · obtain ⟨e, inner, own, henters⟩ := hentered
      have hinnerNamed := hscope.of_known (henters.refers.known) henters.isInterface
      rw [tourMethods_cons_enters henters, List.map_append, List.map_append, names_map_subst,
        List.mem_append, List.mem_append, hinner e henters.mem inner hinnerNamed]
      refine or_congr_left ⟨fun h => ⟨e, inner, own, henters, h⟩, ?_⟩
      rintro ⟨e', inner', own', henters', h⟩
      -- The element refers to one type only.
      cases henters.refers.unique henters'.refers
      cases henters.isInterface.symm.trans henters'.isInterface
      exact h
    · rw [tourMethods_cons_skips hentered]
      exact (or_iff_right fun ⟨e, inner, own, henters, _⟩ =>
        hentered ⟨e, inner, own, henters⟩).symm

/-! ## What is met on a tour -/

variable {s : Subst} {embeddeds : List GoType}

theorem tour_cons_suffix (scope : Scope) (allowed : List TypeKey) (s : Subst) (element : GoType)
    (elements : List GoType) :
    ∃ here, scope.tour allowed s (element :: elements) = here ++ scope.tour allowed s elements := by
  rw [tour]
  exact ⟨_, rfl⟩

/-- What is met on `Scope.tour` is known. -/
theorem known_of_mem_tour {allowed : List TypeKey} {e : Embedding}
    (h : e ∈ scope.tour allowed s embeddeds) : scope.Known e := by
  induction allowed, s, embeddeds using Scope.tour.induct scope with
  | case1 allowed s =>
    rw [tour_nil] at h
    cases h
  | case2 allowed s element elements hinner helements =>
    by_cases hentered : ∃ target inner own, scope.Enters allowed s element target inner own
    · obtain ⟨target, inner, own, henters⟩ := hentered
      rw [tour_cons_enters henters] at h
      -- The declaration is the one entered here, or within it, or behind it.
      rcases List.mem_cons.1 h with rfl | h
      · exact henters.refers.known
      · rcases List.mem_append.1 h with h | h
        · exact hinner target henters.mem inner h
        · exact helements h
    · rw [tour_cons_skips hentered] at h
      exact helements h

/-- The methods on `Scope.tour` are methods of the interface. -/
theorem interfaceMethod_of_mem_tourMethods {allowed : List TypeKey} {method : Method}
    (h : method ∈ scope.tourMethods allowed s embeddeds) :
    scope.InterfaceMethod s embeddeds [] method := by
  induction allowed, s, embeddeds using Scope.tour.induct scope with
  | case1 allowed s =>
    rw [tourMethods, tour_nil] at h
    cases h
  | case2 allowed s element elements hinner helements =>
    have later (h : method ∈ scope.tourMethods allowed s elements) :
        scope.InterfaceMethod s (element :: elements) [] method :=
      (helements h).mono (List.subset_cons_self _ _) (List.Subset.refl _)
    by_cases hentered : ∃ e inner own, scope.Enters allowed s element e inner own
    · obtain ⟨e, inner, own, henters⟩ := hentered
      rw [tourMethods_cons_enters henters, List.append_assoc, List.mem_append,
        List.mem_append] at h
      -- The method is listed by the interface, or met behind it, or behind a later element.
      rcases h with h | h | h
      · obtain ⟨listed, hlisted, rfl⟩ := List.mem_map.1 h
        exact .embedded List.mem_cons_self henters.refers henters.isInterface (.own hlisted)
      · exact .embedded List.mem_cons_self henters.refers henters.isInterface
          ((hinner e henters.mem inner h).mono (List.Subset.refl _) (List.nil_subset _))
      · exact later h
    · rw [tourMethods_cons_skips hentered] at h
      exact later h

/-- What is met behind an element is met on the tour of all elements (`Scope.tourMethods`). -/
theorem subset_tourMethods {allowed : List TypeKey} {element : GoType} {e : Embedding}
    {inner : List GoType} {own : List Method} (hmem : element ∈ embeddeds)
    (henters : scope.Enters allowed s element e inner own) :
    own.map (Method.subst e.subst) ++ scope.tourMethods (enter allowed e.key) e.subst inner ⊆
      scope.tourMethods allowed s embeddeds := by
  induction embeddeds with
  | nil => cases hmem
  | cons first rest ih =>
    rcases List.mem_cons.1 hmem with rfl | hmem
    · rw [tourMethods_cons_enters henters]
      exact List.subset_append_left _ _
    · -- What is listed for the first element comes before what is listed for the rest.
      obtain ⟨here, hhere⟩ := scope.tour_cons_suffix allowed s first rest
      refine List.Subset.trans (ih hmem) ?_
      rw [tourMethods, tourMethods, hhere, List.flatMap_append]
      exact List.subset_append_right _ _

end Scope

end IfaceGen
