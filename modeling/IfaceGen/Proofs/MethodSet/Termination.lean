import IfaceGen.Proofs.MethodSet.Reach
import Mathlib.Data.List.Dedup

/-!
# Searches come to an end

`Scope.search` and `Scope.addEmbedded` carry a list of the types that have not been met yet, and go
on only as long as it gets shorter. Here the same searches run without such a bound: a loop over
the levels that remembers the types it has expanded (`Scope.Runs`), and a recursion over the
elements of an interface that remembers the types it has entered (`Scope.Gathers`).

Both come to an end, whatever the packages declare: types may embed each other, names may be
declared twice, and type arguments may grow with every level. The type arguments are no part of the
key by which a type is remembered, so every level that embeds anything uses up a declared key.

## Key results

- `Scope.Runs.unique`: there is one run only
- `Scope.Runs.nodup_seen`: no type is expanded twice
- `Scope.exists_runs`: the loop ends, after at most one level more than there are keys left
- `Scope.Runs.methods_eq`: it finds what the bounded search finds
- `Scope.exists_gathers`: the recursion ends, and finds what the bounded recursion finds
- `Scope.methodSet_terminates`: the method set is that of the loop, with the bound on its levels
-/

namespace IfaceGen

/-! ## The types of one level -/

/-- Which types `consolidate` keeps depends on their own keys only. -/
theorem consolidate_congr {fresh fresh' : List TypeKey} {level : List Embedding}
    (h : ∀ e ∈ level, (e.key ∈ fresh ↔ e.key ∈ fresh')) :
    consolidate fresh level = consolidate fresh' level := by
  refine List.foldl_ext _ _ _ fun merged e he => ?_
  rw [mergeEmbedding, mergeEmbedding]
  simp only [h e he]

theorem nodup_keys_mergeEmbedding (fresh : List TypeKey) {level : List Embedding} (e : Embedding)
    (h : (level.map Embedding.key).Nodup) :
    ((mergeEmbedding fresh level e).map Embedding.key).Nodup := by
  unfold mergeEmbedding
  split
  · split
    · -- Marking a type does not change its key.
      have hkeys : (level.map fun known =>
          if known.key = e.key then { known with multiple := true } else known).map Embedding.key =
          level.map Embedding.key := by
        rw [List.map_map]
        refine List.map_congr_left fun known _ => ?_
        rw [Function.comp_apply]
        split <;> rfl
      rwa [hkeys]
    · rename_i hnew
      have hnot : e.key ∉ level.map Embedding.key := by simpa using hnew
      rw [List.map_append, List.map_singleton, ← List.concat_eq_append]
      exact h.concat hnot
  · exact h

/-- A level after `consolidate` holds no type twice. -/
theorem nodup_keys_consolidate (fresh : List TypeKey) (level : List Embedding) :
    ((consolidate fresh level).map Embedding.key).Nodup := by
  suffices ∀ merged : List Embedding, (merged.map Embedding.key).Nodup →
      ((level.foldl (mergeEmbedding fresh) merged).map Embedding.key).Nodup from
    this [] List.nodup_nil
  induction level with
  | nil => exact fun merged h => h
  | cons e level ih => exact fun merged h => ih _ (nodup_keys_mergeEmbedding fresh e h)

/-! ## A loop over the levels -/

/-- How far a search has got: the types that have been expanded, the names that have been decided,
    the methods that have been found, and the types of the next level as they were embedded. -/
structure SearchState where
  seen : List TypeKey
  decided : List String
  methods : List Method
  current : List Embedding

/-- The types that the next level expands: those of `current` that are not in `seen`. -/
def SearchState.level (state : SearchState) : List Embedding :=
  consolidate ((state.current.map Embedding.key).filter (· ∉ state.seen)) state.current

namespace Scope

/-- The state after one more level. -/
def expandLevel (scope : Scope) (state : SearchState) : SearchState :=
  let brought := (scope.introduceAll state.level).value
  { seen := state.seen ++ state.level.map Embedding.key
    decided := state.decided ++ brought.entries.map (·.1)
    methods := state.methods ++ unambiguous state.decided brought.entries
    current := brought.next }

/-- The state before the first level: only the declaration itself is there to be expanded. -/
def startState (scope : Scope) (decl : TypeDecl) : SearchState :=
  ⟨[], [], [], [scope.root decl]⟩

/-- The loop goes through a number of levels until nothing is embedded any more. -/
inductive Runs (scope : Scope) : SearchState → Nat → SearchState → Prop
  | done {state : SearchState} (empty : state.current = []) : Runs scope state 0 state
  | level {state final : SearchState} {levels : Nat} (more : state.current ≠ [])
      (rest : Runs scope (scope.expandLevel state) levels final) :
      Runs scope state (levels + 1) final

/-- The keys of the types that the packages of a scope declare. -/
def declaredKeys (scope : Scope) : List TypeKey :=
  scope.package.keys ++ scope.program.flatMap Package.keys

variable {scope : Scope} {state final : SearchState} {levels : Nat}

theorem not_mem_seen_of_mem_level {e : Embedding} (h : e ∈ state.level) : e.key ∉ state.seen := by
  have hkey := (List.mem_filter.1 (key_mem_of_mem_consolidate h)).2
  simpa using hkey

/-- The relation `Runs` is a function: there is one run only. -/
theorem Runs.unique {final' : SearchState} {levels' : Nat} (h : scope.Runs state levels final)
    (h' : scope.Runs state levels' final') : levels' = levels ∧ final' = final := by
  -- Whether there is another level depends on the state alone.
  induction h generalizing levels' final' with
  | done empty =>
    cases h' with
    | done _ => exact ⟨rfl, rfl⟩
    | level more _ => exact absurd empty more
  | level more _ ih =>
    cases h' with
    | done empty => exact absurd empty more
    | level _ rest' =>
      obtain ⟨rfl, rfl⟩ := ih rest'
      exact ⟨rfl, rfl⟩

/-- `expandLevel` expands no type that has been expanded before, and none twice. -/
theorem nodup_seen_expandLevel (h : state.seen.Nodup) : (scope.expandLevel state).seen.Nodup := by
  refine h.append (nodup_keys_consolidate _ _) fun key hseen hlevel => ?_
  obtain ⟨e, he, rfl⟩ := List.mem_map.1 hlevel
  exact not_mem_seen_of_mem_level he hseen

/-- No type is expanded twice on a run: `seen` has no duplicates at its end. -/
theorem Runs.nodup_seen (h : scope.Runs state levels final) (hseen : state.seen.Nodup) :
    final.seen.Nodup := by
  induction h with
  | done _ => exact hseen
  | level _ _ ih => exact ih (nodup_seen_expandLevel hseen)

/-! ## The loop ends -/

/-- The number of `declaredKeys` that have not been expanded. -/
def unseen (scope : Scope) (seen : List TypeKey) : Nat :=
  (scope.declaredKeys.dedup.filter (· ∉ seen)).length

theorem unseen_le (scope : Scope) (seen : List TypeKey) :
    scope.unseen seen ≤ scope.declaredKeys.dedup.length :=
  List.length_filter_le _ _

/-- A level that expands a declared type leaves fewer of them: `unseen` gets smaller. -/
theorem unseen_expandLevel_lt {e : Embedding} (he : e ∈ state.level)
    (hdeclared : e.key ∈ scope.declaredKeys) :
    scope.unseen (scope.expandLevel state).seen < scope.unseen state.seen := by
  -- The level takes its own types away from those that were left.
  have hkeep : scope.declaredKeys.dedup.filter (· ∉ (scope.expandLevel state).seen) =
      (scope.declaredKeys.dedup.filter (· ∉ state.seen)).filter
        (· ∉ state.level.map Embedding.key) := by
    rw [List.filter_filter]
    refine List.filter_congr fun key _ => ?_
    simp only [expandLevel, List.mem_append, not_or, Bool.decide_and, Bool.and_comm]
  rw [unseen, hkeep]
  refine List.length_filter_lt_length_iff_exists.2 ⟨e.key, ?_, ?_⟩
  · have hnew := not_mem_seen_of_mem_level he
    exact List.mem_filter.2 ⟨List.mem_dedup.2 hdeclared, by simpa using hnew⟩
  · simpa using ⟨e, he, rfl⟩

/-- Embedded types are declared, or are the predeclared interface. -/
def Embeds (scope : Scope) (current : List Embedding) : Prop :=
  ∀ e ∈ current, e.key ∈ scope.declaredKeys ∨ e.decl = errorDecl

/-- What a level embeds is referred to (`Scope.RefersTo`), and has got the mark of the type around
    it. -/
theorem exists_refersTo_of_mem_next {level : List Embedding} {e : Embedding}
    (h : e ∈ (scope.introduceAll level).value.next) :
    ∃ type, scope.RefersTo type e.unmarked := by
  rw [value_introduceAll] at h
  obtain ⟨parent, -, h⟩ := List.mem_flatMap.1 h
  obtain ⟨target, htarget, rfl⟩ := List.mem_map.1 h
  rw [unmarked_marked htarget]
  exact exists_refersTo_of_mem_targets htarget

theorem embeds_next (scope : Scope) (level : List Embedding) :
    scope.Embeds (scope.introduceAll level).value.next := by
  intro e he
  obtain ⟨type, hrefers⟩ := exists_refersTo_of_mem_next he
  rcases hrefers.known with ⟨-, herror⟩ | ⟨ref, package, hpackage, hpath, hdecl⟩
  · exact .inr herror
  · have hkey : e.key = (package.path, e.decl.name) := congrArg (·, e.decl.name) hpath.symm
    exact .inl (hkey ▸ key_mem_of_lookup? hpackage hdecl)

/-- A level holds none but the types that were embedded, as `consolidate` adds none. -/
theorem Embeds.level (h : scope.Embeds state.current) : scope.Embeds state.level := by
  intro e he
  obtain ⟨x, hx, hxe⟩ := unmarked_mem_of_mem_consolidate he
  have hkey : x.unmarked.key = e.unmarked.key := by rw [hxe]
  have hdecl : x.unmarked.decl = e.unmarked.decl := by rw [hxe]
  exact (h x hx).imp (fun hmem => hkey ▸ hmem) fun herror => hdecl ▸ herror

/-- The predeclared interface `errorDecl` embeds nothing. -/
theorem next_eq_nil (scope : Scope) {level : List Embedding} (h : ∀ e ∈ level, e.decl = errorDecl) :
    (scope.introduceAll level).value.next = [] := by
  rw [value_introduceAll]
  refine List.flatMap_eq_nil_iff.2 fun e he => ?_
  rw [targets, h e he]
  rfl

/-- From types that are declared or predeclared the loop ends: every level but the last one uses up
    a declared type, so that `unseen` bounds their number. -/
theorem exists_runs (scope : Scope) (state : SearchState) (h : scope.Embeds state.current) :
    ∃ levels final, scope.Runs state levels final ∧ levels ≤ scope.unseen state.seen + 1 := by
  by_cases hempty : state.current = []
  · exact ⟨0, state, .done hempty, Nat.zero_le _⟩
  · by_cases hdeclared : ∃ e ∈ state.level, e.key ∈ scope.declaredKeys
    · obtain ⟨e, he, hkey⟩ := hdeclared
      have hfewer := unseen_expandLevel_lt he hkey
      obtain ⟨levels, final, hruns, hlevels⟩ :=
        exists_runs scope (scope.expandLevel state) (scope.embeds_next state.level)
      exact ⟨levels + 1, final, .level hempty hruns, by omega⟩
    · -- Only the predeclared interface is left, if anything is.
      have herror : ∀ e ∈ state.level, e.decl = errorDecl := fun e he =>
        (h.level e he).resolve_left fun hkey => hdeclared ⟨e, he, hkey⟩
      exact ⟨1, _, .level hempty (.done (scope.next_eq_nil herror)), by omega⟩
termination_by scope.unseen state.seen

/-- The loop ends (`Scope.Runs`) for every declaration, be it one of the package or not. -/
theorem exists_runs_startState (scope : Scope) (decl : TypeDecl) :
    ∃ levels final, scope.Runs (scope.startState decl) levels final ∧
      levels ≤ scope.declaredKeys.dedup.length + 2 := by
  obtain ⟨levels, final, hruns, hlevels⟩ :=
    scope.exists_runs (scope.expandLevel (scope.startState decl)) (scope.embeds_next _)
  have hbound := scope.unseen_le (scope.expandLevel (scope.startState decl)).seen
  exact ⟨levels + 1, final, .level (List.cons_ne_nil _ _) hruns, by omega⟩

/-! ## What the loop finds -/

theorem value_search_nil (scope : Scope) (fresh : List TypeKey) (decided : List String) :
    (scope.search fresh decided []).value = [] := by
  have hexhausted : consolidate fresh [] = [] := rfl
  rw [search, dif_pos hexhausted]
  rfl

/-- A step of `Scope.search` at a level that may be exhausted. -/
theorem value_search_level (scope : Scope) (fresh : List TypeKey) (decided : List String)
    (current : List Embedding) :
    (scope.search fresh decided current).value =
      unambiguous decided (scope.introduceAll (consolidate fresh current)).value.entries ++
        (scope.search (unexpanded fresh (consolidate fresh current))
          (decided ++ (scope.introduceAll (consolidate fresh current)).value.entries.map (·.1))
          (scope.introduceAll (consolidate fresh current)).value.next).value := by
  by_cases h : consolidate fresh current = []
  · have hnext : (scope.introduceAll []).value.next = [] := rfl
    rw [search, dif_pos h, h, hnext, value_search_nil]
    rfl
  · exact value_search h

/-- The bounded search follows the loop: of all types that can be met, those are in `fresh` that the
    loop has not in `seen`. -/
structure Follows (state : SearchState) (all fresh : List TypeKey) : Prop where
  current_mem : ∀ e ∈ state.current, e.key ∈ all
  fresh_iff : ∀ key ∈ all, (key ∈ fresh ↔ key ∉ state.seen)

/-- Both expand the same types: the loop its `level`, the bounded search what `consolidate`
    keeps. -/
theorem Follows.level_eq {all fresh : List TypeKey} (h : Follows state all fresh) :
    state.level = consolidate fresh state.current := by
  refine consolidate_congr fun e he => ?_
  rw [List.mem_filter, h.fresh_iff e.key (h.current_mem e he), decide_eq_true_eq]
  exact and_iff_right (List.mem_map_of_mem he)

theorem Follows.expandLevel {all fresh : List TypeKey} (hall : scope.keys ⊆ all)
    (h : Follows state all fresh) :
    Follows (scope.expandLevel state) all (unexpanded fresh state.level) where
  current_mem e he := by
    obtain ⟨type, hrefers⟩ := exists_refersTo_of_mem_next he
    have hkey := hrefers.key_mem_keys
    rw [Embedding.key_unmarked] at hkey
    exact hall hkey
  fresh_iff key hkey := by
    rw [mem_unexpanded, h.fresh_iff key hkey]
    simp [Scope.expandLevel]

/-- A run finds what `Scope.search` finds. -/
theorem Runs.methods_eq {all fresh : List TypeKey} (hall : scope.keys ⊆ all)
    (hfollows : Follows state all fresh) (h : scope.Runs state levels final) :
    final.methods = state.methods ++ (scope.search fresh state.decided state.current).value := by
  induction h generalizing fresh with
  | @done state empty =>
    rw [empty, value_search_nil, List.append_nil]
  | @level state _ _ _ _ ih =>
    rw [ih (hfollows.expandLevel hall), scope.value_search_level fresh, ← hfollows.level_eq,
      ← List.append_assoc]
    rfl

/-! ## A recursion over the elements of an interface -/

/-- Methods are gathered from the elements of an interface, behind those that are there already.
    The types in `before` are not entered again; those entered on the way are listed in order. -/
inductive Gathers (scope : Scope) : Subst → List GoType → List Method → List TypeKey →
    List Method → List TypeKey → Prop
  | done {s : Subst} {methods : List Method} {before : List TypeKey} :
      Gathers scope s [] methods before methods []
  | unresolved {s : Subst} {element : GoType} {elements : List GoType} {methods all : List Method}
      {before entered : List TypeKey}
      (resolves : (scope.resolve (element.subst s)).value = none)
      (rest : Gathers scope s elements methods before all entered) :
      Gathers scope s (element :: elements) methods before all entered
  | entered {s : Subst} {element : GoType} {elements : List GoType} {methods all : List Method}
      {before entered : List TypeKey} {e : Embedding}
      (resolves : (scope.resolve (element.subst s)).value = some e) (known : e.key ∈ before)
      (rest : Gathers scope s elements methods before all entered) :
      Gathers scope s (element :: elements) methods before all entered
  | interface {s : Subst} {element : GoType} {elements inner : List GoType}
      {methods own found all : List Method} {before inside behind : List TypeKey} {e : Embedding}
      (resolves : (scope.resolve (element.subst s)).value = some e) (new : e.key ∉ before)
      (isInterface : e.decl.underlying = .interface inner own)
      (within : Gathers scope e.subst inner (own.map (Method.subst e.subst))
        (before ++ [e.key]) found inside)
      (rest : Gathers scope s elements (addNewMethods methods found)
        (before ++ e.key :: inside) all behind) :
      Gathers scope s (element :: elements) methods before all (e.key :: inside ++ behind)
  | other {s : Subst} {element : GoType} {elements : List GoType} {methods all : List Method}
      {before behind : List TypeKey} {e : Embedding}
      (resolves : (scope.resolve (element.subst s)).value = some e) (new : e.key ∉ before)
      (noInterface : ∀ inner own, e.decl.underlying ≠ .interface inner own)
      (rest : Gathers scope s elements methods (before ++ [e.key]) all behind) :
      Gathers scope s (element :: elements) methods before all (e.key :: behind)

variable {s : Subst} {embeddeds : List GoType} {methods all : List Method}
  {before entered : List TypeKey}

/-- No type is entered that is in `before`, and none twice. -/
theorem Gathers.nodup (h : scope.Gathers s embeddeds methods before all entered)
    (hbefore : before.Nodup) : (before ++ entered).Nodup := by
  induction h with
  | done => rwa [List.append_nil]
  | unresolved _ _ ih => exact ih hbefore
  | entered _ _ _ ih => exact ih hbefore
  | @interface _ _ _ _ _ _ _ _ before inside behind e _ new _ _ _ ihWithin ihRest =>
    -- The interface itself is entered, then what is inside of it, then what comes behind it.
    have hwithin := ihWithin (List.concat_eq_append ▸ hbefore.concat new)
    rw [List.append_assoc, List.singleton_append] at hwithin
    rw [← List.append_assoc]
    exact ihRest hwithin
  | @other _ _ _ _ _ before behind e _ new _ _ ih =>
    have hrest := ih (List.concat_eq_append ▸ hbefore.concat new)
    rwa [List.append_assoc, List.singleton_append] at hrest

/-- The recursion ends, and gathers what `addEmbedded` does. -/
theorem exists_gathers (scope : Scope) (s : Subst) (embeddeds : List GoType)
    (methods : List Method) (fresh before : List TypeKey)
    (hfresh : ∀ key ∈ scope.keys, (key ∈ fresh ↔ key ∉ before)) :
    ∃ entered,
      scope.Gathers s embeddeds methods before (scope.addEmbedded s embeddeds methods fresh).value.1
        entered ∧
      ∀ key ∈ scope.keys, (key ∈ (scope.addEmbedded s embeddeds methods fresh).value.2.val ↔
        key ∉ before ++ entered) := by
  -- The cases are those of the recursion: no element is left, or the first one is looked at.
  induction s, embeddeds, methods, fresh using Scope.addEmbedded.induct generalizing before with
  | case1 s methods fresh =>
    rw [addEmbedded]
    exact ⟨[], .done, by simpa using hfresh⟩
  | case2 s methods fresh element elements hskip hinner hnext hother =>
    rw [addEmbedded]
    simp only [Logged.value_bind]
    cases hres : (scope.resolve (element.subst s)).value with
    | none =>
      obtain ⟨entered, hgathers, hrest⟩ := hskip before hfresh
      exact ⟨entered, .unresolved hres hgathers, hrest⟩
    | some e =>
      have hkeys := (resolve_eq_some_iff.1 hres).key_mem_keys
      simp only
      split
      · rename_i hkey
        have hnew : e.key ∉ before := (hfresh e.key hkeys).1 hkey
        have hentered : ∀ key ∈ scope.keys,
            (key ∈ enter fresh e.key ↔ key ∉ before ++ [e.key]) := by
          intro key hmem
          rw [mem_enter, hfresh key hmem, List.mem_append, List.mem_singleton, not_or]
        split
        · rename_i inner own hinterface
          have hshorter := (scope.addEmbedded e.subst inner (own.map (Method.subst e.subst))
            (enter fresh e.key)).value.2.property
          -- First what is entered inside the interface, then what is entered behind it.
          obtain ⟨inside, hwithin, hbetween⟩ := hinner e hkey inner own (before ++ [e.key]) hentered
          rw [List.append_assoc, List.singleton_append] at hbetween
          obtain ⟨behind, hgathers, hrest⟩ := hnext e hkey _ _ hshorter _ hbetween
          refine ⟨e.key :: inside ++ behind, .interface hres hnew hinterface hwithin hgathers, ?_⟩
          rw [← List.append_assoc]
          exact hrest
        · rename_i hnot
          obtain ⟨behind, hgathers, hrest⟩ := hother e hkey (before ++ [e.key]) hentered
          rw [List.append_assoc, List.singleton_append] at hrest
          exact ⟨e.key :: behind, .other hres hnew hnot hgathers, hrest⟩
      · rename_i hkey
        -- Of all keys only those in `before` are not fresh.
        have hknown : e.key ∈ before := by
          by_contra hnew
          exact hkey ((hfresh e.key hkeys).2 hnew)
        obtain ⟨entered, hgathers, hrest⟩ := hskip before hfresh
        exact ⟨entered, .entered hres hknown hgathers, hrest⟩

/-! ## Method sets -/

/-- The method set of any declaration in any scope is that of the loop over the levels. The loop
    ends, with at most two levels more than there are declared types, and expands no type twice.
    What an interface brings in is gathered by the recursion over its elements, which ends too, and
    enters no type twice. -/
theorem methodSet_terminates (scope : Scope) (decl : TypeDecl) :
    (∃ levels final, scope.Runs (scope.startState decl) levels final ∧
      levels ≤ scope.declaredKeys.dedup.length + 2 ∧ final.seen.Nodup ∧
      (scope.methodSet decl).value =
        (final.methods.filter Method.isExported).mergeSort fun a b => a.name ≤ b.name) ∧
    ∀ s embeddeds own, ∃ entered,
      scope.Gathers s embeddeds (own.map (Method.subst s)) []
        (scope.interfaceMethods s embeddeds own).value entered ∧ entered.Nodup := by
  refine ⟨?_, fun s embeddeds own => ?_⟩
  · obtain ⟨levels, final, hruns, hlevels⟩ := scope.exists_runs_startState decl
    -- At the start only the key of the root has been seen.
    have hfollows : Follows (scope.startState decl) ((scope.root decl).key :: scope.keys)
        ((scope.root decl).key :: scope.keys) := by
      refine ⟨fun e he => ?_, fun key hkey => iff_of_true hkey List.not_mem_nil⟩
      rw [List.mem_singleton.1 he]
      exact List.mem_cons_self
    have hmethods := hruns.methods_eq (List.subset_cons_self _ _) hfollows
    refine ⟨levels, final, hruns, hlevels, hruns.nodup_seen List.nodup_nil, ?_⟩
    rw [hmethods]
    rfl
  · obtain ⟨entered, hgathers, -⟩ := scope.exists_gathers s embeddeds (own.map (Method.subst s))
      scope.keys [] fun key hkey => iff_of_true hkey List.not_mem_nil
    exact ⟨entered, hgathers, hgathers.nodup List.nodup_nil⟩

/-- The bound is sharp: where nothing is declared, a struct may embed the predeclared interface. -/
example :
    let scope : Scope := ⟨⟨"example.com/void", "void", [], []⟩, []⟩
    let failure : TypeDecl :=
      ⟨"Failure", [], .struct [⟨"error", .named ⟨none, "error"⟩ [], true⟩], []⟩
    scope.declaredKeys = [] ∧ ∃ final, scope.Runs (scope.startState failure) 2 final :=
  ⟨rfl, _, .level (List.cons_ne_nil _ _) (.level (List.cons_ne_nil _ _) (.done rfl))⟩

end Scope

end IfaceGen
