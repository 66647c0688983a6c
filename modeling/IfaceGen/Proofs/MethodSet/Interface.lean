import IfaceGen.Proofs.MethodSet.Embedding

/-!
# The methods of an interface

`Scope.InterfaceMethod` says what the methods of an interface are: those it lists itself, and those
of the interfaces it embeds, each with the type arguments of its own embedding. Interfaces may
embed each other in circles. `Scope.interfaceMethods` enters each type once; nothing is lost by
that.

## Key results

- `Scope.addEmbedded_expanded`: what has been collected is sound, and the types that have been
  entered are closed under embedding
- `Scope.interfaceMethods_nodup`: each name is collected once
- `Scope.interfaceMethods_sound`: only methods of the interface are collected
- `Scope.interfaceMethods_complete`: the name of every method of the interface is collected
-/

namespace IfaceGen

/-! ## Adding methods with new names -/

/-- `addNewMethods` makes up no methods: each comes from one list or the other. -/
theorem mem_of_mem_addNewMethods {methods more : List Method} {method : Method}
    (h : method ∈ addNewMethods methods more) : method ∈ methods ∨ method ∈ more := by
  -- Methods are added one by one at the end, so `methods` varies.
  induction more generalizing methods with
  | nil => exact .inl h
  | cons first rest ih =>
    rw [addNewMethods, List.foldl_cons] at h
    rcases ih h with h | h
    · split at h
      · exact .inl h
      · rcases List.mem_append.1 h with h | h
        · exact .inl h
        · exact .inr (List.mem_singleton.1 h ▸ List.mem_cons_self)
    · exact .inr (List.mem_cons_of_mem _ h)

theorem mem_names_addNewMethods {methods more : List Method} {name : String} :
    name ∈ (addNewMethods methods more).map (·.name) ↔
      name ∈ methods.map (·.name) ∨ name ∈ more.map (·.name) := by
  induction more generalizing methods with
  | nil => simp [addNewMethods]
  | cons first rest ih =>
    rw [addNewMethods, List.foldl_cons]
    rw [show List.foldl _ _ rest = addNewMethods _ rest from rfl, ih]
    split
    · -- The name is there already.
      rename_i hknown
      have hmem : first.name ∈ methods.map (·.name) := by simpa using hknown
      simp only [List.map_cons, List.mem_cons]
      constructor
      · rintro (h | h)
        · exact .inl h
        · exact .inr (.inr h)
      · rintro (h | rfl | h)
        · exact .inl h
        · exact .inl hmem
        · exact .inr h
    · simp only [List.map_append, List.map_cons, List.map_nil, List.mem_append, List.mem_cons,
        List.not_mem_nil, or_false, or_assoc]

theorem nodup_names_addNewMethods {methods more : List Method}
    (h : (methods.map (·.name)).Nodup) : ((addNewMethods methods more).map (·.name)).Nodup := by
  -- A name that is there already is not added again.
  induction more generalizing methods with
  | nil => exact h
  | cons first rest ih =>
    rw [addNewMethods, List.foldl_cons]
    apply ih
    split
    · exact h
    · rename_i hnew
      have hnew : first.name ∉ methods.map (·.name) := by simpa using hnew
      rw [List.map_append, List.map_cons, List.map_nil, ← List.concat_eq_append]
      exact h.concat hnew

namespace Scope

/-! ## What the methods of an interface are -/

/-- The methods of an interface that lists `methods` and embeds `embeddeds`, under a substitution:
    its own, and those of the interfaces to which its elements refer (`Scope.RefersTo`). -/
inductive InterfaceMethod (scope : Scope) :
    Subst → List GoType → List Method → Method → Prop
  | own {s : Subst} {embeddeds : List GoType} {methods : List Method} {method : Method}
      (listed : method ∈ methods) : InterfaceMethod scope s embeddeds methods (method.subst s)
  | embedded {s : Subst} {embeddeds : List GoType} {methods : List Method} {method : Method}
      {element : GoType} {embedding : Embedding} {inner : List GoType} {own : List Method}
      (embeds : element ∈ embeddeds) (refers : scope.RefersTo (element.subst s) embedding)
      (isInterface : embedding.decl.underlying = .interface inner own)
      (inside : InterfaceMethod scope embedding.subst inner own method) :
      InterfaceMethod scope s embeddeds methods method

/-- An interface with more elements and methods has more methods in the sense of
    `InterfaceMethod`. -/
theorem InterfaceMethod.mono {scope : Scope} {s : Subst} {embeddeds embeddeds' : List GoType}
    {methods methods' : List Method} {method : Method}
    (h : scope.InterfaceMethod s embeddeds methods method)
    (hembeddeds : embeddeds ⊆ embeddeds') (hmethods : methods ⊆ methods') :
    scope.InterfaceMethod s embeddeds' methods' method := by
  cases h with
  | own listed => exact .own (hmethods listed)
  | embedded embeds refers isInterface inside =>
    exact .embedded (hembeddeds embeds) refers isInterface inside

/-! ## Entering each type once -/

/-- What is known after the elements `embeddeds` have been entered, where the types in `fresh` had
    not been entered before and those in `rest` have not been entered yet. `all` are the methods
    that `addEmbedded` has then put behind `methods`. -/
structure Expanded (scope : Scope) (s : Subst) (embeddeds : List GoType) (methods : List Method)
    (fresh : List TypeKey) (all : List Method) (rest : List TypeKey) : Prop where
  rest_subset : rest ⊆ fresh
  keeps : methods.map (·.name) ⊆ all.map (·.name)
  nodup : (methods.map (·.name)).Nodup → (all.map (·.name)).Nodup
  sound : ∀ method ∈ all, method ∈ methods ∨ scope.InterfaceMethod s embeddeds [] method
  /-- Every element has been entered, now or before. -/
  seeds : ∀ element ∈ embeddeds, ∀ embedding,
    (scope.resolve (element.subst s)).value = some embedding → embedding.key ∉ rest
  /-- The methods of an interface that has been entered now are there, and its own elements have
      been entered too. -/
  closed : ∀ embedding, scope.Known embedding → embedding.key ∈ fresh → embedding.key ∉ rest →
    ∀ inner own, embedding.decl.underlying = .interface inner own →
      own.map (·.name) ⊆ all.map (·.name) ∧
        ∀ element ∈ inner, ∀ key ∈ (scope.resolve element).value.map Embedding.key, key ∉ rest

namespace Expanded

variable {scope : Scope} {s : Subst} {element : GoType} {elements : List GoType}
  {methods all : List Method} {fresh rest : List TypeKey}

/-- Nothing is entered for an element that leads nowhere. -/
theorem cons_unresolved (hres : (scope.resolve (element.subst s)).value = none)
    (h : scope.Expanded s elements methods fresh all rest) :
    scope.Expanded s (element :: elements) methods fresh all rest where
  rest_subset := h.rest_subset
  keeps := h.keeps
  nodup := h.nodup
  sound method hmethod := (h.sound method hmethod).imp_right
    (·.mono (List.subset_cons_self _ _) (List.Subset.refl _))
  seeds t ht embedding hembedding := by
    rcases List.mem_cons.1 ht with rfl | ht
    · rw [hres] at hembedding
      exact nomatch hembedding
    · exact h.seeds t ht embedding hembedding
  closed := h.closed

/-- Nothing is entered for an element that has been entered before. -/
theorem cons_entered {embedding : Embedding}
    (hres : (scope.resolve (element.subst s)).value = some embedding)
    (hkey : embedding.key ∉ fresh) (h : scope.Expanded s elements methods fresh all rest) :
    scope.Expanded s (element :: elements) methods fresh all rest where
  rest_subset := h.rest_subset
  keeps := h.keeps
  nodup := h.nodup
  sound method hmethod := (h.sound method hmethod).imp_right
    (·.mono (List.subset_cons_self _ _) (List.Subset.refl _))
  seeds t ht e he := by
    rcases List.mem_cons.1 ht with rfl | ht
    · rw [hres] at he
      cases he
      -- What was entered before is not fresh afterwards either.
      exact fun hrest => hkey (h.rest_subset hrest)
    · exact h.seeds t ht e he
  closed := h.closed

end Expanded

theorem mem_enter {fresh : List TypeKey} {key other : TypeKey} :
    other ∈ enter fresh key ↔ other ∈ fresh ∧ other ≠ key := by
  simp [enter]

/-- Entering a type that is not an interface brings no methods. -/
theorem Expanded.cons_other {scope : Scope} {s : Subst} {element : GoType}
    {elements : List GoType} {methods all : List Method} {fresh rest : List TypeKey}
    {embedding : Embedding} (hscope : scope.Keyed)
    (hres : (scope.resolve (element.subst s)).value = some embedding)
    (hother : ∀ inner own, embedding.decl.underlying ≠ .interface inner own)
    (h : scope.Expanded s elements methods (enter fresh embedding.key) all rest) :
    scope.Expanded s (element :: elements) methods fresh all rest where
  rest_subset key hkey := (mem_enter.1 (h.rest_subset hkey)).1
  keeps := h.keeps
  nodup := h.nodup
  sound method hmethod := (h.sound method hmethod).imp_right
    (·.mono (List.subset_cons_self _ _) (List.Subset.refl _))
  seeds t ht e he := by
    rcases List.mem_cons.1 ht with rfl | ht
    · rw [hres] at he
      cases he
      exact fun hrest => (mem_enter.1 (h.rest_subset hrest)).2 rfl
    · exact h.seeds t ht e he
  closed e he hfresh hrest inner own hinterface := by
    -- The type that was entered is no interface, so the question is about another one.
    by_cases hkey : e.key = embedding.key
    · rw [he.decl_eq hscope (resolve_eq_some_iff.1 hres).known hkey] at hinterface
      exact absurd hinterface (hother inner own)
    · exact h.closed e he (mem_enter.2 ⟨hfresh, hkey⟩) hrest inner own hinterface

/-- Entering an interface brings its methods, and then those of the elements behind it. -/
theorem Expanded.cons_interface {scope : Scope} {s : Subst} {element : GoType}
    {elements inner : List GoType} {methods own found all : List Method}
    {fresh between rest : List TypeKey} {embedding : Embedding} (hscope : scope.Keyed)
    (hres : (scope.resolve (element.subst s)).value = some embedding)
    (hinterface : embedding.decl.underlying = .interface inner own)
    (hinner : scope.Expanded embedding.subst inner (own.map (Method.subst embedding.subst))
      (enter fresh embedding.key) found between)
    (hnext : scope.Expanded s elements (addNewMethods methods found) between all rest) :
    scope.Expanded s (element :: elements) methods fresh all rest where
  rest_subset key hkey := (mem_enter.1 (hinner.rest_subset (hnext.rest_subset hkey))).1
  keeps name hname := hnext.keeps (mem_names_addNewMethods.2 (.inl hname))
  nodup hnodup := hnext.nodup (nodup_names_addNewMethods hnodup)
  sound method hmethod := by
    -- A method comes from the elements that follow, from inside, or was there before.
    rcases hnext.sound method hmethod with h | h
    · refine (mem_of_mem_addNewMethods h).imp_right fun h => ?_
      refine .embedded List.mem_cons_self (resolve_eq_some_iff.1 hres) hinterface ?_
      rcases hinner.sound method h with h | h
      · obtain ⟨listed, hlisted, rfl⟩ := List.mem_map.1 h
        exact .own hlisted
      · exact h.mono (List.Subset.refl _) (List.nil_subset _)
    · exact .inr (h.mono (List.subset_cons_self _ _) (List.Subset.refl _))
  seeds t ht e he := by
    rcases List.mem_cons.1 ht with rfl | ht
    · rw [hres] at he
      cases he
      exact fun hrest => (mem_enter.1 (hinner.rest_subset (hnext.rest_subset hrest))).2 rfl
    · exact hnext.seeds t ht e he
  closed e he hfresh hrest inner' own' hinterface' := by
    -- What was found inside is kept by the elements that follow.
    have hfound : found.map (·.name) ⊆ all.map (·.name) := fun name hname =>
      hnext.keeps (mem_names_addNewMethods.2 (.inr hname))
    have hlater {key : TypeKey} (hkey : key ∉ between) : key ∉ rest :=
      fun hrest => hkey (hnext.rest_subset hrest)
    by_cases hkey : e.key = embedding.key
    · -- The interface that was entered just now.
      have hknown := (resolve_eq_some_iff.1 hres).known
      rw [he.decl_eq hscope hknown hkey, hinterface] at hinterface'
      cases hinterface'
      refine ⟨fun name hname => hfound (hinner.keeps ?_), fun t ht key hkey => hlater ?_⟩
      · rw [List.map_map]
        exact hname
      · have hparam := hknown.elements_named hscope hinterface ht
        rw [← scope.resolve_subst_key hparam embedding.subst, Option.mem_def,
          Option.map_eq_some_iff] at hkey
        obtain ⟨target, htarget, rfl⟩ := hkey
        exact hinner.seeds t ht target htarget
    · -- An interface that was entered inside, or one among the elements that follow.
      by_cases hbetween : e.key ∈ between
      · exact hnext.closed e he hbetween hrest inner' own' hinterface'
      · obtain ⟨hown, helements⟩ :=
          hinner.closed e he (mem_enter.2 ⟨hfresh, hkey⟩) hbetween inner' own' hinterface'
        exact ⟨fun name hname => hfound (hown hname),
          fun t ht key hkey => hlater (helements t ht key hkey)⟩

/-- What `addEmbedded` returns is `Expanded`. -/
theorem addEmbedded_expanded {scope : Scope} (hscope : scope.Keyed) (s : Subst)
    (embeddeds : List GoType) (methods : List Method) (fresh : List TypeKey) :
    scope.Expanded s embeddeds methods fresh
      (scope.addEmbedded s embeddeds methods fresh).value.1
      (scope.addEmbedded s embeddeds methods fresh).value.2.val := by
  -- The cases are those of the recursion: no element is left, or the first one is looked at.
  induction s, embeddeds, methods, fresh using Scope.addEmbedded.induct with
  | case1 s methods fresh =>
    rw [addEmbedded]
    exact {
      rest_subset := List.Subset.refl _
      keeps := List.Subset.refl _
      nodup := id
      sound := fun _ h => .inl h
      seeds := fun _ h => nomatch h
      closed := fun _ _ hfresh hrest => absurd hfresh hrest }
  | case2 s methods fresh element elements hskip hinner hnext hother =>
    rw [addEmbedded]
    simp only [Logged.value_bind]
    -- Nothing is entered by an element without a declaration; else it depends on whether the type
    -- is fresh, and whether it is an interface.
    cases hres : (scope.resolve (element.subst s)).value with
    | none => exact hskip.cons_unresolved hres
    | some embedding =>
      simp only
      split
      · rename_i hfresh
        split
        · rename_i inner own hinterface
          have hshorter := (scope.addEmbedded embedding.subst inner
            (own.map (Method.subst embedding.subst)) (enter fresh embedding.key)).value.2.property
          exact .cons_interface hscope hres hinterface (hinner embedding hfresh inner own)
            (hnext embedding hfresh _ _ hshorter)
        · rename_i hnot
          exact .cons_other hscope hres hnot (hother embedding hfresh)
      · rename_i hfresh
        exact hskip.cons_entered hres hfresh

/-! ## All methods of an interface -/

variable {scope : Scope} {embedding : Embedding} {embeddeds : List GoType} {own : List Method}

theorem value_interfaceMethods (scope : Scope) (s : Subst) (embeddeds : List GoType)
    (own : List Method) :
    (scope.interfaceMethods s embeddeds own).value =
      (scope.addEmbedded s embeddeds (own.map (Method.subst s)) scope.keys).value.1 := rfl

/-- `interfaceMethods` collects each name once. -/
theorem interfaceMethods_nodup (hscope : scope.WellShaped) (hknown : scope.Known embedding)
    (hinterface : embedding.decl.underlying = .interface embeddeds own) (s : Subst) :
    ((scope.interfaceMethods s embeddeds own).value.map (·.name)).Nodup := by
  rw [value_interfaceMethods]
  refine (addEmbedded_expanded hscope.keyed s embeddeds _ scope.keys).nodup ?_
  have hown := hknown.methods_nodup hscope
  rw [hinterface] at hown
  rw [List.map_map]
  exact hown

/-- `interfaceMethods` collects none but methods of the interface. -/
theorem interfaceMethods_sound (hscope : scope.Keyed) {s : Subst} {method : Method}
    (h : method ∈ (scope.interfaceMethods s embeddeds own).value) :
    scope.InterfaceMethod s embeddeds own method := by
  rw [value_interfaceMethods] at h
  rcases (addEmbedded_expanded hscope s embeddeds _ scope.keys).sound method h with h | h
  · obtain ⟨listed, hlisted, rfl⟩ := List.mem_map.1 h
    exact .own hlisted
  · exact h.mono (List.Subset.refl _) (List.nil_subset _)

/-- `interfaceMethods` collects the name of every method of the interface. -/
theorem interfaceMethods_complete (hscope : scope.Keyed) {s : Subst} {method : Method}
    (h : scope.InterfaceMethod s embeddeds own method) :
    method.name ∈ (scope.interfaceMethods s embeddeds own).value.map (·.name) := by
  rw [value_interfaceMethods]
  have hexpanded := addEmbedded_expanded hscope s embeddeds (own.map (Method.subst s)) scope.keys
  -- The walk down to the method never leaves the interfaces that have been entered.
  suffices ∀ {s' : Subst} {embeddeds' : List GoType} {own' : List Method} {m : Method},
      scope.InterfaceMethod s' embeddeds' own' m →
      (∀ element ∈ embeddeds', ∀ e, (scope.resolve (element.subst s')).value = some e →
        e.key ∉ (scope.addEmbedded s embeddeds (own.map (Method.subst s)) scope.keys).value.2.val) →
      own'.map (·.name) ⊆
        (scope.addEmbedded s embeddeds (own.map (Method.subst s)) scope.keys).value.1.map
          (·.name) →
      m.name ∈ (scope.addEmbedded s embeddeds (own.map (Method.subst s)) scope.keys).value.1.map
        (·.name) by
    refine this h hexpanded.seeds fun name hname => hexpanded.keeps ?_
    rw [List.map_map]
    exact hname
  intro s' embeddeds' own' m hm
  induction hm with
  | own listed =>
    intro _ hown
    exact hown (List.mem_map.2 ⟨_, listed, rfl⟩)
  | @embedded s' _ _ _ element e inner own embeds refers isInterface _ ih =>
    intro hentered _
    have resolves := resolve_eq_some_iff.2 refers
    have he := refers.known
    obtain ⟨hown, helements⟩ := hexpanded.closed e he refers.key_mem_keys
      (hentered element embeds e resolves) inner own isInterface
    refine ih (fun t ht target htarget => helements t ht target.key ?_) hown
    have hparam := he.elements_named hscope isInterface ht
    rw [← scope.resolve_subst_key hparam e.subst, htarget]
    rfl

end Scope

end IfaceGen
