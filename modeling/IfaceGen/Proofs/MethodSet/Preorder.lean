import IfaceGen.Proofs.MethodSet.Tour

/-!
# The order in which an interface finds its methods

`Scope.addEmbedded` goes through the elements of an interface in the order of the tour, but enters a
type only once on all ways together, and merges the methods that it finds on the way back. A way
that is cut short loses nothing: whatever it could reach has been found before, if not in the
interface at hand, then in one of those around it. So of each name the first declaration on the
tour is found.

## Key results

- `Scope.addEmbedded_toured`: what one expansion finds, and what is known after it
- `Scope.exists_interfaceMethod_iff`: the names of the methods are those on the tour
- `Scope.interfaceMethods_preorder`: the methods of an interface are the first declarations
-/

namespace IfaceGen

namespace Scope

variable {scope : Scope}

/-! ## Entering each type once -/

/-- Of the types in `allowed` those that are not in `fresh` any more have nothing new to offer: all
    names to which they lead are in `known`. -/
def Covered (scope : Scope) (allowed fresh : List TypeKey) (known : List String) : Prop :=
  ∀ e, scope.Known e → e.key ∈ allowed → e.key ∉ fresh →
    ∀ inner own, e.decl.underlying = .interface inner own →
      own.map (·.name) ⊆ known ∧ ∀ name, scope.NamedWithin allowed name inner → name ∈ known

/-- What is known after the elements `embeddeds` have been entered, where the types in `allowed` are
    not on the way to them, those in `fresh` had not been entered before, those in `rest` have not
    been entered yet, and `known` are the names found before in the interfaces around. `all` are the
    methods that `addEmbedded` has put behind `methods`. -/
structure Toured (scope : Scope) (allowed : List TypeKey) (s : Subst) (embeddeds : List GoType)
    (methods : List Method) (fresh : List TypeKey) (known : List String) (all : List Method)
    (rest : List TypeKey) : Prop where
  rest_subset : rest ⊆ fresh
  nodup : (methods.map (·.name)).Nodup → (all.map (·.name)).Nodup
  /-- Names that are not known come with their first declarations. -/
  first : ∀ name ∉ known, firstNamed name all =
    (firstNamed name methods).or (firstNamed name (scope.tourMethods allowed s embeddeds))
  covered : scope.Covered allowed rest (known ++ all.map (·.name))

section Toured

variable {allowed fresh rest : List TypeKey} {s : Subst} {element : GoType}
  {elements inner : List GoType} {methods own all : List Method} {known : List String}
  {e : Embedding}

theorem Covered.mono (h : scope.Covered allowed fresh known) {known' : List String}
    (hsub : known ⊆ known') : scope.Covered allowed fresh known' := by
  intro e he hallowed hfresh inner own hinterface
  obtain ⟨hown, hinner⟩ := h e he hallowed hfresh inner own hinterface
  exact ⟨List.Subset.trans hown hsub, fun name hname => hsub (hinner name hname)⟩

/-- Inside an interface that was entered, that interface is not allowed any more, and the others are
    covered as before. -/
theorem Covered.inside (h : scope.Covered allowed fresh known) (key : TypeKey) :
    scope.Covered (enter allowed key) (enter fresh key) known := by
  intro e he hallowed hfresh inner own hinterface
  obtain ⟨hallowed, hkey⟩ := mem_enter.1 hallowed
  have hnot : e.key ∉ fresh := fun hmem => hfresh (mem_enter.2 ⟨hmem, hkey⟩)
  obtain ⟨hown, hinner⟩ := h e he hallowed hnot inner own hinterface
  exact ⟨hown, fun name hname =>
    hinner name (hname.mono enter_subset)⟩

/-- A name that is new to the interface at hand, and to those around it. -/
theorem not_mem_known {name : String} (hname : name ∉ known)
    (hmethods : firstNamed name methods = none) : name ∉ known ++ methods.map (·.name) := by
  rw [List.mem_append, not_or]
  exact ⟨hname, firstNamed_eq_none_iff.1 hmethods⟩

/-- An element by which no interface is entered adds nothing to the tour. -/
theorem Toured.cons_skips (hskips : ¬ ∃ e inner own, scope.Enters allowed s element e inner own)
    {fresh' : List TypeKey} (hfresh : fresh' ⊆ fresh)
    (h : scope.Toured allowed s elements methods fresh' known all rest) :
    scope.Toured allowed s (element :: elements) methods fresh known all rest where
  rest_subset := List.Subset.trans h.rest_subset hfresh
  nodup := h.nodup
  first name hname := by
    rw [h.first name hname, tourMethods_cons_skips hskips]
  covered := h.covered

/-- What is met by an element that was entered before is `known` already. -/
theorem Toured.cons_entered (hscope : scope.InterfacesNamed)
    (henters : scope.Enters allowed s element e inner own) (hkey : e.key ∉ fresh)
    (hcovered : scope.Covered allowed fresh (known ++ methods.map (·.name)))
    (h : scope.Toured allowed s elements methods fresh known all rest) :
    scope.Toured allowed s (element :: elements) methods fresh known all rest where
  rest_subset := h.rest_subset
  nodup := h.nodup
  first name hname := by
    have hknown := henters.refers.known
    obtain ⟨hown, hinner⟩ := hcovered e hknown henters.mem hkey inner own henters.isInterface
    rw [h.first name hname, tourMethods_cons_enters henters]
    cases hmethods : firstNamed name methods with
    | some found => rfl
    | none =>
      -- A name that is not known is not among those of the element.
      have hnew := not_mem_known hname hmethods
      have hskip : firstNamed name (own.map (Method.subst e.subst) ++
          scope.tourMethods (enter allowed e.key) e.subst inner) = none := by
        rw [firstNamed_eq_none_iff, List.map_append, names_map_subst, List.mem_append, not_or,
          mem_names_tour_iff hscope (hscope.of_known hknown henters.isInterface)]
        exact ⟨fun hmem => hnew (hown hmem),
          fun hmem => hnew (hinner name (hmem.mono enter_subset))⟩
      rw [firstNamed_append, hskip, Option.none_or, Option.none_or]
  covered := h.covered

/-- After a type that is no interface has been entered, the same names are known. -/
theorem Covered.beside (hscope : scope.InterfacesNamed) (he : scope.Known e)
    (hother : ∀ inner own, e.decl.underlying ≠ .interface inner own)
    (h : scope.Covered allowed fresh known) : scope.Covered allowed (enter fresh e.key) known := by
  intro e' he' hallowed hfresh inner own hinterface
  by_cases hkey : e'.key = e.key
  · rw [he'.decl_eq_of_path_ne hscope.path_ne he hkey] at hinterface
    exact absurd hinterface (hother inner own)
  · exact h e' he' hallowed (fun hmem => hfresh (mem_enter.2 ⟨hmem, hkey⟩)) inner own hinterface

section Interface

variable {found : List Method} {between : List TypeKey}

/-- A name that the interface `e` lists, or to which its elements lead, is known once `e` has been
    entered. -/
theorem Toured.mem_known (hscope : scope.InterfacesNamed) (he : scope.Known e)
    (hinterface : e.decl.underlying = .interface inner own)
    (hinner : scope.Toured (enter allowed e.key) e.subst inner (own.map (Method.subst e.subst))
      (enter fresh e.key) (known ++ methods.map (·.name)) found between) {name : String}
    (hname : name ∈ own.map (·.name) ∨ scope.NamedWithin (enter allowed e.key) name inner) :
    name ∈ known ++ (addNewMethods methods found).map (·.name) := by
  by_cases hknown : name ∈ known ++ methods.map (·.name)
  · refine List.mem_append.2 ((List.mem_append.1 hknown).imp_right fun hmem => ?_)
    exact mem_names_addNewMethods.2 (.inl hmem)
  · -- A new name has been found inside.
    refine List.mem_append_right _ (mem_names_addNewMethods.2 (.inr ?_))
    by_contra hnot
    have hfirst := hinner.first name hknown
    rw [firstNamed_eq_none_iff.2 hnot, ← firstNamed_append, eq_comm, firstNamed_eq_none_iff,
      List.map_append, names_map_subst, List.mem_append,
      mem_names_tour_iff hscope (hscope.of_known he hinterface)] at hfirst
    exact hfirst hname

/-- After the interface `e` has been entered, all names to which it leads are known. -/
theorem Toured.covered_after (hscope : scope.InterfacesNamed) (he : scope.Known e)
    (hinterface : e.decl.underlying = .interface inner own)
    (hinner : scope.Toured (enter allowed e.key) e.subst inner (own.map (Method.subst e.subst))
      (enter fresh e.key) (known ++ methods.map (·.name)) found between) :
    scope.Covered allowed between (known ++ (addNewMethods methods found).map (·.name)) := by
  intro e' he' hallowed hbetween inner' own' hinterface'
  by_cases hkey : e'.key = e.key
  · -- The interface itself.
    rw [he'.decl_eq_of_path_ne hscope.path_ne he hkey, hinterface] at hinterface'
    cases hinterface'
    exact ⟨fun name hname => hinner.mem_known hscope he hinterface (.inl hname),
      fun name hname => hinner.mem_known hscope he hinterface
        (hname.named_or_enter hscope he hinterface)⟩
  · -- A type entered before or inside: ways that lead through the interface bring nothing new.
    have hsub : known ++ methods.map (·.name) ++ found.map (·.name) ⊆
        known ++ (addNewMethods methods found).map (·.name) := by
      intro name hname
      simp only [List.mem_append, mem_names_addNewMethods, or_assoc] at hname ⊢
      exact hname
    obtain ⟨hown, hwithin⟩ :=
      hinner.covered e' he' (mem_enter.2 ⟨hallowed, hkey⟩) hbetween inner' own' hinterface'
    refine ⟨fun name hname => hsub (hown hname), fun name hname => ?_⟩
    rcases hname.enter_or hscope he hinterface with h | h
    · exact hsub (hwithin name h)
    · exact hinner.mem_known hscope he hinterface h

/-- The interface `e` that is entered is met on the tour, before what it embeds. -/
theorem Toured.cons_enters (henters : scope.Enters allowed s element e inner own)
    (hinner : scope.Toured (enter allowed e.key) e.subst inner (own.map (Method.subst e.subst))
      (enter fresh e.key) (known ++ methods.map (·.name)) found between)
    (hnext : scope.Toured allowed s elements (addNewMethods methods found) between known all
      rest) :
    scope.Toured allowed s (element :: elements) methods fresh known all rest where
  rest_subset := List.Subset.trans hnext.rest_subset
    (List.Subset.trans hinner.rest_subset enter_subset)
  nodup hnodup := hnext.nodup (nodup_names_addNewMethods hnodup)
  first name hname := by
    rw [hnext.first name hname, firstNamed_addNewMethods, tourMethods_cons_enters henters]
    -- A name that is there already keeps its method; a new one gets its method inside `e` or later.
    cases hmethods : firstNamed name methods with
    | some method => rfl
    | none =>
      have hnew := not_mem_known hname hmethods
      rw [Option.none_or, Option.none_or, hinner.first name hnew, ← firstNamed_append,
        ← firstNamed_append]
  covered := hnext.covered

end Interface

end Toured

/-- What `addEmbedded` returns is `Toured`. -/
theorem addEmbedded_toured (hscope : scope.InterfacesNamed) (s : Subst) (embeddeds : List GoType)
    (methods : List Method) (fresh allowed : List TypeKey) (known : List String)
    (hfresh : fresh ⊆ allowed)
    (hcovered : scope.Covered allowed fresh (known ++ methods.map (·.name))) :
    scope.Toured allowed s embeddeds methods fresh known
      (scope.addEmbedded s embeddeds methods fresh).value.1
      (scope.addEmbedded s embeddeds methods fresh).value.2.val := by
  -- The cases are those of the recursion: no element is left, or the first one is looked at.
  induction s, embeddeds, methods, fresh using Scope.addEmbedded.induct
    generalizing allowed known with
  | case1 s methods fresh =>
    rw [addEmbedded]
    exact {
      rest_subset := List.Subset.refl _
      nodup := id
      first := fun name _ => by
        rw [tourMethods, tour_nil]
        exact Option.or_none.symm
      covered := hcovered }
  | case2 s methods fresh element elements hskip hinner hnext hother =>
    rw [addEmbedded]
    simp only [Logged.value_bind]
    cases hres : (scope.resolve (element.subst s)).value with
    | none =>
      refine (hskip allowed known hfresh hcovered).cons_skips ?_ (List.Subset.refl _)
      rintro ⟨e, inner, own, henters⟩
      cases hres.symm.trans (resolve_eq_some_iff.2 henters.refers)
    | some e =>
      have he := (resolve_eq_some_iff.1 hres).known
      have only {e' : Embedding} {inner : List GoType} {own : List Method}
          (henters : scope.Enters allowed s element e' inner own) : e = e' :=
        (resolve_eq_some_iff.1 hres).unique henters.refers
      -- The element refers to `e`: it is entered, or it has been entered before.
      simp only
      split
      · rename_i hkey
        split
        · rename_i inner own hinterface
          have hshorter := (scope.addEmbedded e.subst inner (own.map (Method.subst e.subst))
            (enter fresh e.key)).value.2.property
          -- First what is inside the interface, then what stands behind it.
          have htoured := hinner e hkey inner own (enter allowed e.key)
            (known ++ methods.map (·.name))
            (fun key h => mem_enter.2 ((mem_enter.1 h).imp_left fun h => hfresh h))
            ((hcovered.inside e.key).mono (List.subset_append_left _ _))
          have hrest : _ ⊆ allowed :=
            List.Subset.trans htoured.rest_subset (List.Subset.trans enter_subset hfresh)
          exact htoured.cons_enters ⟨resolve_eq_some_iff.1 hres, hfresh hkey, hinterface⟩
            (hnext e hkey _ _ hshorter allowed known hrest
              (htoured.covered_after hscope he hinterface))
        · rename_i hnot
          -- What is no interface adds nothing to the tour.
          have hother' := hother e hkey allowed known (List.Subset.trans enter_subset hfresh)
            (hcovered.beside hscope he hnot)
          refine hother'.cons_skips ?_ enter_subset
          rintro ⟨e', inner, own, henters⟩
          cases only henters
          exact hnot inner own henters.isInterface
      · rename_i hkey
        have hrest := hskip allowed known hfresh hcovered
        -- The tour may enter it once more, but it only meets names that are known.
        by_cases hentered : ∃ e' inner own, scope.Enters allowed s element e' inner own
        · obtain ⟨e', inner, own, henters⟩ := hentered
          cases only henters
          exact hrest.cons_entered hscope henters hkey hcovered
        · exact hrest.cons_skips hentered (List.Subset.refl _)

/-! ## All methods of an interface -/

variable {s : Subst} {embeddeds : List GoType} {own : List Method}

/-- Of each name the first method that `interfaceMethods` finds comes from the interface itself or
    from the tour. -/
theorem interfaceMethods_toured (hscope : scope.InterfacesNamed) (s : Subst)
    (embeddeds : List GoType) (own : List Method) :
    scope.Toured scope.keys s embeddeds (own.map (Method.subst s)) scope.keys []
      (scope.interfaceMethods s embeddeds own).value
      (scope.addEmbedded s embeddeds (own.map (Method.subst s)) scope.keys).value.2.val := by
  rw [value_interfaceMethods]
  refine addEmbedded_toured hscope s embeddeds _ _ _ _ (List.Subset.refl _) ?_
  -- To begin with, every type is fresh.
  exact fun e _ hallowed hfresh => absurd hallowed hfresh

/-- The name of an `InterfaceMethod` is listed by the interface, or its elements lead there. -/
theorem InterfaceMethod.named_or (hscope : scope.InterfacesNamed) {method : Method}
    (h : scope.InterfaceMethod s embeddeds own method)
    (hnamed : ∀ type ∈ embeddeds, type.isParam = false) :
    method.name ∈ own.map (·.name) ∨ scope.NamedWithin scope.keys method.name embeddeds := by
  induction h with
  | own listed => exact .inl (List.mem_map.2 ⟨_, listed, rfl⟩)
  | @embedded s _ _ _ element e inner own embeds refers isInterface _ ih =>
    have hkeys := scope.resolve_subst_key (hnamed element embeds) s
    -- The element refers to the same declaration without the substitution.
    obtain ⟨target, htarget, -, hdecl⟩ := hscope.exists_alike hkeys refers
    have hkey := htarget.key_mem_keys
    have hinterface : target.decl.underlying = .interface inner own := hdecl ▸ isInterface
    rcases ih (hscope.of_known refers.known isInterface) with h | h
    · exact .inr (.listed embeds htarget hkey hinterface h)
    · exact .inr (.inside embeds htarget hkey hinterface h)

/-- The names of the methods in the sense of `InterfaceMethod` are those that the interface lists
    and those on the tour. -/
theorem exists_interfaceMethod_iff (hscope : scope.InterfacesNamed) {name : String} :
    (∃ method, scope.InterfaceMethod s embeddeds own method ∧ method.name = name) ↔
      name ∈ own.map (·.name) ∨
        name ∈ (scope.tourMethods scope.keys s embeddeds).map (·.name) := by
  constructor
  · rintro ⟨method, h, rfl⟩
    cases h with
    | own listed => exact .inl (List.mem_map.2 ⟨_, listed, rfl⟩)
    | @embedded _ _ _ _ _ e inner own' embeds refers isInterface inside =>
      have he := refers.known
      have hnamed := hscope.of_known he isInterface
      refine .inr (List.map_subset _
        (subset_tourMethods embeds ⟨refers, refers.key_mem_keys, isInterface⟩) ?_)
      rw [List.map_append, names_map_subst, List.mem_append, mem_names_tour_iff hscope hnamed]
      rcases inside.named_or hscope hnamed with h | h
      · exact .inl h
      · -- The way may lead through the element once more.
        exact h.named_or_enter hscope he isInterface
  · rintro (h | h)
    · obtain ⟨listed, hlisted, rfl⟩ := List.mem_map.1 h
      exact ⟨_, .own hlisted, rfl⟩
    · obtain ⟨method, hmethod, rfl⟩ := List.mem_map.1 h
      exact ⟨method, (interfaceMethod_of_mem_tourMethods hmethod).mono (List.Subset.refl _)
        (List.nil_subset _), rfl⟩

/-! ## First declarations -/

/-- The first declaration of a name, under the type arguments of the way by which the interface that
    has it was reached first: the interface itself comes before all others, and these in the order
    in which they are met (`Scope.Tours`). -/
inductive FirstDeclaration (scope : Scope) (s : Subst) (embeddeds : List GoType)
    (own : List Method) : Method → Prop
  | own {declared : Method} (listed : declared ∈ own) :
      FirstDeclaration scope s embeddeds own (declared.subst s)
  | embedded {before after : List Embedding} {e : Embedding} {declared : Method}
      (met : scope.Tours [] s embeddeds (before ++ e :: after))
      (listed : firstNamed declared.name e.decl.underlying.literalMethods = some declared)
      (notOwn : declared.name ∉ own.map (·.name))
      (notBefore : ∀ earlier ∈ before, earlier.key ≠ e.key ∧
        declared.name ∉ earlier.decl.underlying.literalMethods.map (·.name)) :
      FirstDeclaration scope s embeddeds own (declared.subst e.subst)

theorem firstNamed_map_subst (name : String) (s : Subst) (methods : List Method) :
    firstNamed name (methods.map (Method.subst s)) =
      (firstNamed name methods).map (Method.subst s) := by
  rw [firstNamed, List.find?_map]
  rfl

/-- The first method of a name on a tour is listed by the first interface that has the name. -/
theorem firstNamed_flatMap_eq_some_iff {name : String} {es : List Embedding} {method : Method} :
    firstNamed name (es.flatMap Embedding.listed) = some method ↔
      ∃ before e after declared, es = before ++ e :: after ∧
        firstNamed name e.decl.underlying.literalMethods = some declared ∧
        (∀ earlier ∈ before, name ∉ earlier.decl.underlying.literalMethods.map (·.name)) ∧
        method = declared.subst e.subst := by
  have skip (e : Embedding) : firstNamed name e.listed = none ↔
      name ∉ e.decl.underlying.literalMethods.map (·.name) := by
    rw [firstNamed_eq_none_iff, Embedding.listed, names_map_subst]
  constructor
  · intro h
    induction es with
    | nil => cases h
    | cons first rest ih =>
      rw [List.flatMap_cons, firstNamed_append, Option.or_eq_some_iff] at h
      -- The first interface has the name, or it is passed over.
      rcases h with h | ⟨hnone, h⟩
      · rw [Embedding.listed, firstNamed_map_subst, Option.map_eq_some_iff] at h
        obtain ⟨declared, hdeclared, rfl⟩ := h
        exact ⟨[], first, rest, declared, rfl, hdeclared, List.forall_mem_nil _, rfl⟩
      · obtain ⟨before, e, after, declared, rfl, hdeclared, hbefore, rfl⟩ := ih h
        refine ⟨first :: before, e, after, declared, rfl, hdeclared, fun earlier hmem => ?_, rfl⟩
        rcases List.mem_cons.1 hmem with rfl | hmem
        · exact (skip earlier).1 hnone
        · exact hbefore earlier hmem
  · rintro ⟨before, e, after, declared, rfl, hdeclared, hbefore, rfl⟩
    induction before with
    | nil =>
      rw [List.nil_append, List.flatMap_cons, firstNamed_append, Embedding.listed,
        firstNamed_map_subst, hdeclared]
      rfl
    | cons first before ih =>
      obtain ⟨hfirst, hbefore⟩ := List.forall_mem_cons.1 hbefore
      rw [List.cons_append, List.flatMap_cons, firstNamed_append, (skip first).2 hfirst,
        Option.none_or]
      exact ih hbefore

/-- All methods of an interface literal under a substitution, as `interfaceMethods` returns them:
    each name that the interface or an interface reached through its elements lists is there once,
    with its first declaration. -/
theorem interfaceMethods_preorder (hscope : scope.InterfacesNamed) (s : Subst)
    (embeddeds : List GoType) (own : List Method) (hown : (own.map (·.name)).Nodup) :
    ((scope.interfaceMethods s embeddeds own).value.map (·.name)).Nodup ∧
    (∀ name, name ∈ (scope.interfaceMethods s embeddeds own).value.map (·.name) ↔
      ∃ method, scope.InterfaceMethod s embeddeds own method ∧ method.name = name) ∧
    ∀ method, method ∈ (scope.interfaceMethods s embeddeds own).value ↔
      scope.FirstDeclaration s embeddeds own method := by
  have htoured := interfaceMethods_toured hscope s embeddeds own
  have hnames : ((own.map (Method.subst s)).map (·.name)).Nodup := by rwa [names_map_subst]
  have hnodup := htoured.nodup hnames
  have hfirst := fun name => htoured.first name List.not_mem_nil
  refine ⟨hnodup, fun name => ?_, fun method => ?_⟩
  · rw [exists_interfaceMethod_iff hscope, ← not_iff_not, ← firstNamed_eq_none_iff, hfirst,
      Option.or_eq_none_iff, firstNamed_eq_none_iff, firstNamed_eq_none_iff, names_map_subst,
      not_or]
  · rw [mem_iff_firstNamed hnodup, hfirst, Option.or_eq_some_iff]
    constructor
    · -- A method that is found stands in the interface itself or on the tour.
      rintro (h | ⟨hnone, h⟩)
      · obtain ⟨declared, hdeclared, rfl⟩ := List.mem_map.1 (List.mem_of_find?_eq_some h)
        exact .own hdeclared
      · rw [firstNamed_eq_none_iff, names_map_subst] at hnone
        obtain ⟨before, e, after, declared, htour, hdeclared, hbefore, rfl⟩ :=
          firstNamed_flatMap_eq_some_iff.1 h
        refine .embedded (tours_nil_iff.2 htour.symm) hdeclared hnone fun earlier hearlier =>
          ⟨fun hkey => hbefore earlier hearlier ?_, hbefore earlier hearlier⟩
        -- An interface that is met again has the same declaration.
        have hknown {e' : Embedding} (hmem : e' ∈ before ++ e :: after) : scope.Known e' :=
          known_of_mem_tour (htour ▸ hmem)
        rw [(hknown (List.mem_append_left _ hearlier)).decl_eq_of_path_ne hscope.path_ne
          (hknown (List.mem_append_right _ List.mem_cons_self)) hkey]
        exact List.mem_map.2 ⟨declared, List.mem_of_find?_eq_some hdeclared, rfl⟩
    · intro h
      cases h with
      | @own declared listed =>
        exact .inl ((mem_iff_firstNamed hnames).1 (List.mem_map_of_mem listed))
      | @embedded before after e declared met listed notOwn notBefore =>
        refine .inr ⟨?_, firstNamed_flatMap_eq_some_iff.2 ⟨before, e, after, declared,
          (tours_nil_iff.1 met).symm, listed,
          fun earlier hearlier => (notBefore earlier hearlier).2, rfl⟩⟩
        rw [firstNamed_eq_none_iff, names_map_subst]
        exact notOwn

end Scope

/-! ## Pipes that embed each other -/

namespace Plumbing

/-- A type of the package `pipes`. -/
def pipeType (name : String) (args : List GoType) : GoType :=
  .named ⟨some ⟨"example.com/pipes", "pipes"⟩, name⟩ args

/-- A type of the package `valves`. -/
def valveType (name : String) : GoType :=
  .named ⟨some ⟨"example.com/valves", "valves"⟩, name⟩ []

/-- An interface that embeds the tap by a pointer. -/
def source : TypeDecl where
  name := "Source"
  typeParams := [⟨"T", .any⟩]
  underlying := .interface [.pointer (pipeType "Tap" [.slice (.typeParam "T")])] []
  methods := []

/-- An interface that embeds the tap once more, and has a method of the same name. -/
def sink : TypeDecl where
  name := "Sink"
  typeParams := []
  underlying := .interface [pipeType "Tap" [.basic "string"]]
    [⟨"Drain", ⟨[⟨"level", .basic "int"⟩], [], false⟩⟩]
  methods := []

/-- An interface that embeds one by which it is embedded, and a type without methods. -/
def tap : TypeDecl where
  name := "Tap"
  typeParams := [⟨"T", .any⟩]
  underlying := .interface [pipeType "Sink" [], .named ⟨none, "comparable"⟩ []]
    [⟨"Drain", ⟨[⟨"into", .typeParam "T"⟩], [], false⟩⟩]
  methods := []

/-- An alias of an interface that embeds one of another package by a pointer. -/
def outlet : TypeDecl where
  name := "Outlet"
  typeParams := []
  underlying := .interface [.pointer (valveType "Valve")] []
  methods := []

/-- An interface that embeds the predeclared interface `error`, and a type that is not declared. -/
def valve : TypeDecl where
  name := "Valve"
  typeParams := []
  underlying := .interface [.named ⟨none, "error"⟩ [], valveType "Lost"]
    [⟨"Turn", ⟨[⟨"by", .basic "int"⟩], [], false⟩⟩]
  methods := []

/-- The package of the pipes. -/
def pipes : Package := ⟨"example.com/pipes", "pipes", [source, sink, tap, outlet], []⟩

/-- The package of the valves. -/
def valves : Package := ⟨"example.com/valves", "valves", [valve], []⟩

/-- The scope of the pipes. -/
def scope : Scope := ⟨pipes, [valves, pipes]⟩

theorem interfacesNamed : scope.InterfacesNamed := by
  -- The scope looks into its two packages only.
  have hloads {package : Package} (h : scope.Loads package) : package ∈ [valves, pipes] := by
    rcases h with rfl | ⟨path, hpath⟩
    · exact List.mem_cons_of_mem _ List.mem_cons_self
    · exact (Program.mem_of_get? hpath).1
  have hpaths : ∀ package ∈ [valves, pipes], package.path ≠ "" := by decide
  have hnamed : ∀ package ∈ [valves, pipes], ∀ decl ∈ package.types,
      ∀ type ∈ decl.underlying.embeds, type.isParam = false := by decide
  refine ⟨fun package hpackage => hpaths package (hloads hpackage), ?_⟩
  intro package hpackage decl hdecl inner own h
  have hembeds := hnamed package (hloads hpackage) decl hdecl
  rw [h] at hembeds
  exact hembeds

/-- The elements of an interface literal, of which the last one is an alias. -/
def elements : List GoType :=
  [pipeType "Source" [.basic "int"], pipeType "Sink" [],
    .alias ⟨some ⟨"example.com/pipes", "pipes"⟩, "Outlet"⟩ []]

/-- The tap with a type argument. -/
def tapOf (arg : GoType) : Embedding :=
  ⟨"example.com/pipes", tap, [("T", arg)], false⟩

/-- What is met through the elements from the package of the pipes, up to the alias. -/
def pipesMet : List Embedding :=
  [⟨"example.com/pipes", source, [("T", .basic "int")], false⟩, tapOf (.slice (.basic "int")),
    ⟨"example.com/pipes", sink, [], false⟩, ⟨"example.com/pipes", sink, [], false⟩,
    tapOf (.basic "string")]

/-- What is met through the alias. -/
def outletMet : List Embedding :=
  [⟨"example.com/pipes", outlet, [], false⟩, ⟨"example.com/valves", valve, [], false⟩,
    ⟨"", errorDecl, [], false⟩]

theorem refersTo_tap (arg : GoType) : scope.RefersTo (pipeType "Tap" [arg]) (tapOf arg) :=
  .declared (.value .named) (.own rfl)
    (@Package.Declares.first pipes [source, sink] [outlet] tap rfl (by decide))

theorem refersTo_sink :
    scope.RefersTo (pipeType "Sink" []) ⟨"example.com/pipes", sink, [], false⟩ :=
  .declared (.value .named) (.own rfl)
    (@Package.Declares.first pipes [source] [tap, outlet] sink rfl (by decide))

/-- The alias refers to the outlet, and this, by a pointer, to a type of the other package. -/
theorem refersTo_outlet :
    scope.RefersTo (.alias ⟨some ⟨"example.com/pipes", "pipes"⟩, "Outlet"⟩ [])
        ⟨"example.com/pipes", outlet, [], false⟩ ∧
      scope.RefersTo (.pointer (valveType "Valve")) ⟨"example.com/valves", valve, [], false⟩ :=
  ⟨.declared (.value .alias) (.own rfl)
      (@Package.Declares.first pipes [source, sink, tap] [] outlet rfl (by decide)),
    .declared (.pointer .named)
      (@Scope.Owner.loaded scope _ [] [pipes] valves (by decide) rfl rfl (by decide))
      (@Package.Declares.first valves [] [] valve rfl (by decide))⟩

/-- Source, tap and sink are met on the way through the first element, sink and tap on the way
    through the second one, and outlet, valve and `error` behind the alias. -/
theorem tours_elements : scope.Tours [] [] elements (pipesMet ++ outletMet) := by
  have hsource : scope.RefersTo (pipeType "Source" [.basic "int"])
      ⟨"example.com/pipes", source, [("T", .basic "int")], false⟩ :=
    .declared (.value .named) (.own rfl)
      (@Package.Declares.first pipes [] [sink, tap, outlet] source rfl (by decide))
  have htap : scope.RefersTo (.pointer (pipeType "Tap" [.slice (.basic "int")]))
      (tapOf (.slice (.basic "int"))) :=
    .declared (.pointer .named) (.own rfl)
      (@Package.Declares.first pipes [source, sink] [outlet] tap rfl (by decide))
  have houtlet : scope.Tours [] []
      [.alias ⟨some ⟨"example.com/pipes", "pipes"⟩, "Outlet"⟩ []] _ :=
    .enters refersTo_outlet.1 (by decide) rfl
      (.enters refersTo_outlet.2 (by decide) rfl
        -- The element after `error` is not declared.
        (.enters (.error (.value .named)) (by decide) rfl .nil (.passes_unresolved rfl .nil))
        .nil)
      .nil
  have hsink : scope.Tours [] [] [pipeType "Sink" [], _] _ :=
    .enters refersTo_sink (by decide) rfl
      (.enters (refersTo_tap _) (by decide) rfl
        (.passes_known refersTo_sink (by decide) (.passes_unresolved rfl .nil)) .nil)
      houtlet
  have hall : scope.Tours [] [] elements _ :=
    .enters hsource (by decide) rfl
      (.enters htap (by decide) rfl
        (.enters refersTo_sink (by decide) rfl (.passes_known (refersTo_tap _) (by decide) .nil)
          (.passes_unresolved rfl .nil))
        .nil)
      hsink
  exact hall

/-- The method that the interface lists itself. -/
def close : Method := ⟨"Close", ⟨[], [], false⟩⟩

/-- The method of the tap, which is reached through the source first. -/
def drain : Method := ⟨"Drain", ⟨[⟨"into", .slice (.basic "int")⟩], [], false⟩⟩

/-- The method of the valve. -/
def turn : Method := ⟨"Turn", ⟨[⟨"by", .basic "int"⟩], [], false⟩⟩

/-- The method of the predeclared interface `error`. -/
def message : Method := ⟨"Error", ⟨[], [⟨"", .basic "string"⟩], false⟩⟩

/-- The tap is embedded by the source and by the sink, and embeds the sink itself. Its method comes
    with the type arguments of the way through the source. The other methods are found behind an
    alias, in another package and in the predeclared interface. -/
theorem subset_interfaceMethods :
    scope.InterfacesNamed ∧ ([close].map (·.name)).Nodup ∧
      [close, drain, turn, message] ⊆ (scope.interfaceMethods [] elements [close]).value := by
  have hown : ([close].map (·.name)).Nodup := by decide
  -- Each method is the first one of its name on the tour.
  have hclose : scope.FirstDeclaration [] elements [close] close := .own List.mem_cons_self
  have hdrain : scope.FirstDeclaration [] elements [close] drain :=
    @Scope.FirstDeclaration.embedded scope [] elements [close] (pipesMet.take 1)
      (pipesMet.drop 2 ++ outletMet) (tapOf (.slice (.basic "int")))
      ⟨"Drain", ⟨[⟨"into", .typeParam "T"⟩], [], false⟩⟩ tours_elements rfl (by decide) (by decide)
  have hturn : scope.FirstDeclaration [] elements [close] turn :=
    @Scope.FirstDeclaration.embedded scope [] elements [close] (pipesMet ++ outletMet.take 1)
      (outletMet.drop 2) ⟨"example.com/valves", valve, [], false⟩ turn tours_elements rfl
      (by decide) (by decide)
  have hmessage : scope.FirstDeclaration [] elements [close] message :=
    @Scope.FirstDeclaration.embedded scope [] elements [close] (pipesMet ++ outletMet.take 2) []
      ⟨"", errorDecl, [], false⟩ message tours_elements rfl (by decide) (by decide)
  have hmethods := (Scope.interfaceMethods_preorder interfacesNamed [] elements [close] hown).2.2
  refine ⟨interfacesNamed, hown, fun method hmem => (hmethods method).2 ?_⟩
  simp only [List.mem_cons, List.not_mem_nil, or_false] at hmem
  rcases hmem with rfl | rfl | rfl | rfl
  · exact hclose
  · exact hdrain
  · exact hturn
  · exact hmessage

end Plumbing

end IfaceGen
