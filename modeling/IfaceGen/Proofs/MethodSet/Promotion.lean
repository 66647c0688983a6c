import IfaceGen.Proofs.MethodSet.Level
import Mathlib.Data.String.Basic

/-!
# The search for methods follows the selector rule

The search goes through the levels of embedding, drops types that a smaller depth has expanded,
merges types that one depth reaches more than once, and takes no notice of names that a smaller
depth has decided. `Scope.Searching` relates such a level to all the types that paths of its depth
lead to: they are alike for the types that are still fresh, and what is not fresh, or decided, was
met at a smaller depth.

## Key results

- `Scope.Searching.step`: expanding a level keeps the relation
- `Scope.mem_search`: the search finds a method if and only if its name has a single sighting at the
  smallest depth at which it occurs, and that is the method
- `Scope.methodSet_selects`: the method set is that of the selector rule
-/

namespace IfaceGen

/-- `consolidate` makes no types up: it only sets marks. -/
theorem unmarked_mem_of_mem_consolidate {fresh : List TypeKey} {level : List Embedding}
    {e : Embedding} (h : e ∈ consolidate fresh level) : ∃ x ∈ level, x.unmarked = e.unmarked := by
  suffices ∀ (level merged : List Embedding), e ∈ level.foldl (mergeEmbedding fresh) merged →
      ∃ x ∈ merged ++ level, x.unmarked = e.unmarked from this level [] h
  intro level
  induction level with
  | nil =>
    intro merged he
    exact ⟨e, List.mem_append_left _ he, rfl⟩
  | cons first level ih =>
    intro merged he
    obtain ⟨x, hx, hxe⟩ := ih _ he
    rcases List.mem_append.1 hx with hx | hx
    · unfold mergeEmbedding at hx
      split at hx
      · split at hx
        · -- Marking a type changes nothing else about it.
          obtain ⟨y, hy, rfl⟩ := List.mem_map.1 hx
          refine ⟨y, List.mem_append_left _ hy, ?_⟩
          rw [← hxe]
          split <;> rfl
        · refine ⟨x, ?_, hxe⟩
          rw [List.append_cons]
          exact List.mem_append_left _ hx
      · exact ⟨x, List.mem_append_left _ hx, hxe⟩
    · exact ⟨x, List.mem_append_right _ (List.mem_cons_of_mem _ hx), hxe⟩

theorem mem_unexpanded {fresh : List TypeKey} {level : List Embedding} {key : TypeKey} :
    key ∈ unexpanded fresh level ↔ key ∈ fresh ∧ ∀ e ∈ level, e.key ≠ key := by
  simp [unexpanded]

/-! ## Names that occur once -/

/-- `entriesWithName` is a filter by name. -/
theorem entriesWithName_eq (name : String) (entries : List (String × Entry)) :
    entriesWithName name entries = (entries.filter (·.1 = name)).map (·.2) := by
  rw [entriesWithName, ← List.filterMap_eq_filter, List.map_filterMap]
  refine List.filterMap_congr fun x _ => ?_
  by_cases hname : x.1 = name
  · simp [hname]
  · simp [hname, Option.guard]

/-- A method is among the `unambiguous` ones if its name is not decided and has no entry but the
    method. -/
theorem mem_unambiguous {decided : List String} {entries : List (String × Entry)}
    (hnames : ∀ name method, (name, Entry.method method) ∈ entries → name = method.name)
    {method : Method} :
    method ∈ unambiguous decided entries ↔
      method.name ∉ decided ∧ entriesWithName method.name entries = [.method method] := by
  simp only [unambiguous, List.mem_filterMap, Prod.exists, entriesWithName_eq,
    List.countP_eq_length_filter]
  constructor
  · -- An entry that passes the test is a method, and counting one entry of its name means that it
    -- is the only one.
    rintro ⟨name, entry, hmem, h⟩
    split at h
    · rename_i hcond
      rw [Bool.and_eq_true, Bool.not_eq_true', List.contains_eq_mem, decide_eq_false_iff_not,
        decide_eq_true_eq] at hcond
      cases entry with
      | field => exact nomatch h
      | method found =>
        cases h
        have hname := hnames name method hmem
        rw [hname] at hmem hcond
        refine ⟨hcond.1, ?_⟩
        -- The single entry of the name is the method itself.
        obtain ⟨x, hx⟩ := List.length_eq_one_iff.1 hcond.2
        have hin : (method.name, Entry.method method) ∈ entries.filter (·.1 = method.name) :=
          List.mem_filter.2 ⟨hmem, decide_eq_true rfl⟩
        rw [hx, List.mem_singleton] at hin
        rw [hx, ← hin]
        rfl
    · exact nomatch h
  · rintro ⟨hdecided, hone⟩
    obtain ⟨⟨name, entry⟩, hx, hentry⟩ := List.map_eq_singleton_iff.1 hone
    have hin : (name, entry) ∈ entries.filter (·.1 = method.name) :=
      hx ▸ List.mem_singleton_self _
    rw [List.mem_filter, decide_eq_true_eq] at hin
    -- The other way round, the single entry of the name passes the test.
    refine ⟨name, entry, hin.1, ?_⟩
    obtain rfl : name = method.name := hin.2
    obtain rfl : entry = .method method := hentry
    rw [if_pos]
    · rfl
    · rw [hx]
      simpa using hdecided

/-- Two entries of one name count as at least two. -/
theorem pairwise_countP (entries : List (String × Entry)) :
    entries.Pairwise fun x y => x.1 = y.1 → 2 ≤ entries.countP (·.1 = x.1) := by
  rw [List.pairwise_iff_forall_sublist]
  intro x y hsub heq
  have hle := hsub.countP_le (p := (·.1 = x.1))
  rw [List.countP_cons, List.countP_cons, List.countP_nil, if_pos (decide_eq_true rfl),
    if_pos (decide_eq_true heq.symm)] at hle
  exact hle

/-- The `unambiguous` methods have different names. -/
theorem nodup_names_unambiguous {decided : List String} {entries : List (String × Entry)}
    (hnames : ∀ name method, (name, Entry.method method) ∈ entries → name = method.name) :
    ((unambiguous decided entries).map (·.name)).Nodup := by
  refine List.pairwise_map.2 ((List.Pairwise.and_mem.1 (pairwise_countP entries)).filterMap _ ?_)
  rintro ⟨n, x⟩ ⟨n', y⟩ ⟨hx, hy, htwice⟩ m hm m' hm' heq
  -- A method that was taken is that of an entry whose name occurs once.
  have htaken {name : String} {entry : Entry} {method : Method} (hmem : (name, entry) ∈ entries)
      (h : (if !decided.contains name && entries.countP (·.1 = name) = 1 then entry.method?
        else none) = some method) :
      name = method.name ∧ entries.countP (·.1 = name) = 1 := by
    split at h
    · rename_i hcond
      rw [Bool.and_eq_true, decide_eq_true_eq] at hcond
      cases entry with
      | field => exact nomatch h
      | method found =>
        cases h
        exact ⟨hnames _ _ hmem, hcond.2⟩
    · exact nomatch h
  obtain ⟨hn, hone⟩ := htaken hx hm
  obtain ⟨hn', -⟩ := htaken hy hm'
  have htwo : 2 ≤ entries.countP (·.1 = n) := htwice (hn.trans (heq.trans hn'.symm))
  omega

namespace Scope

/-! ## The relation between a level and the paths of its depth -/

/-- The state of `Scope.search` when it has gone through all depths before `depth`. -/
structure Searching (scope : Scope) (start : Embedding) (depth : Nat) (fresh : List TypeKey)
    (decided : List String) (current : List Embedding) : Prop where
  known : ∀ e ∈ current, scope.Known e
  /-- For types that are still fresh, the level answers as all paths of its depth do. -/
  alike : AlikeOn Embedding.key fresh (current.flatMap Embedding.copies) (scope.ends start depth)
  /-- The types that are not fresh are those met at a smaller depth. -/
  not_fresh_iff : ∀ d, ∀ e ∈ scope.ends start d,
    e.key ∉ fresh ↔ ∃ d' < depth, ∃ e' ∈ scope.ends start d', e'.key = e.key
  /-- The decided names are those that occur at a smaller depth. -/
  mem_decided_iff : ∀ name, name ∈ decided ↔
    ∃ d < depth, (scope.ends start d).flatMap (scope.entriesNamed name) ≠ []

/-- At the start nothing has been met: `Scope.methodSet` begins with a `Searching` state. -/
theorem Searching.start {scope : Scope} {start : Embedding} (hstart : scope.Known start)
    (hmultiple : start.multiple = false) :
    scope.Searching start 0 (start.key :: scope.keys) [] [start] where
  known e he := List.mem_singleton.1 he ▸ hstart
  alike key _ := by
    apply Alike.of_eq
    rw [ends_zero, List.flatMap_singleton, Embedding.copies, hmultiple]
    have hunmarked : start.unmarked = start := by rw [Embedding.unmarked, ← hmultiple]
    rw [hunmarked]
    rfl
  not_fresh_iff d e he := by
    constructor
    · intro hkey
      -- Everything that is embedded is among the keys, and the declaration itself was added to
      -- them.
      cases d with
      | zero => exact absurd (List.mem_singleton.1 he ▸ List.mem_cons_self) hkey
      | succ d =>
        rw [ends_succ, List.mem_flatMap] at he
        obtain ⟨parent, -, he⟩ := he
        exact absurd (List.mem_cons_of_mem _ (key_mem_keys_of_mem_targets he)) hkey
    · rintro ⟨d', hd', -⟩
      exact absurd hd' (Nat.not_lt_zero d')
  mem_decided_iff name := by
    constructor
    · intro h
      exact absurd h List.not_mem_nil
    · rintro ⟨d, hd, -⟩
      exact absurd hd (Nat.not_lt_zero d)

namespace Searching

variable {scope : Scope} {start : Embedding} {depth : Nat} {fresh : List TypeKey}
  {decided : List String} {current : List Embedding}

/-- The types of the consolidated level are known, and they are fresh. -/
theorem known_copies (h : scope.Searching start depth fresh decided current) {e : Embedding}
    (he : e ∈ (consolidate fresh current).flatMap Embedding.copies) :
    scope.Known e ∧ e.key ∈ fresh := by
  obtain ⟨c, hc, he⟩ := List.mem_flatMap.1 he
  rw [Embedding.mem_copies.1 he]
  obtain ⟨x, hx, hxc⟩ := unmarked_mem_of_mem_consolidate hc
  rw [← hxc]
  refine ⟨h.known x hx, ?_⟩
  rw [hxc, Embedding.key_unmarked]
  exact key_mem_of_mem_consolidate hc

/-- The consolidated level is alike to all paths of its depth. -/
theorem alike_consolidate (h : scope.Searching start depth fresh decided current) :
    AlikeOn Embedding.key fresh ((consolidate fresh current).flatMap Embedding.copies)
      (scope.ends start depth) :=
  (alikeOn_consolidate fresh current).trans h.alike

/-- A fresh type at the end of some path stands in the consolidated level. -/
theorem exists_mem_consolidate (h : scope.Searching start depth fresh decided current)
    {e : Embedding} (he : e ∈ scope.ends start depth) (hkey : e.key ∈ fresh) :
    ∃ c ∈ consolidate fresh current, c.key = e.key := by
  obtain ⟨copy, hcopy, hkey⟩ := h.alike_consolidate.exists_mem he hkey
  obtain ⟨c, hc, hcopy⟩ := List.mem_flatMap.1 hcopy
  rw [Embedding.mem_copies.1 hcopy] at hkey
  exact ⟨c, hc, hkey⟩

/-- A type of the consolidated level is at the end of some path (`Scope.ends`). -/
theorem exists_mem_ends (h : scope.Searching start depth fresh decided current)
    {e : Embedding} (he : e ∈ (consolidate fresh current).flatMap Embedding.copies) :
    ∃ e' ∈ scope.ends start depth, e'.key = e.key :=
  h.alike_consolidate.symm.exists_mem he (h.known_copies he).2

/-- The types on both sides of `alike_consolidate` are known. -/
theorem known_of_mem (hstart : scope.Known start)
    (h : scope.Searching start depth fresh decided current) {e : Embedding}
    (he : e ∈ (consolidate fresh current).flatMap Embedding.copies ∨ e ∈ scope.ends start depth) :
    scope.Known e := by
  rcases he with he | he
  · exact (h.known_copies he).1
  · exact known_of_mem_ends hstart he

/-- A type that is not `fresh` introduces no name that is still undecided. -/
theorem key_mem_fresh_of_entriesNamed (hscope : scope.Keyed) (hstart : scope.Known start)
    (h : scope.Searching start depth fresh decided current) {name : String}
    (hname : name ∉ decided) {d : Nat} {e : Embedding} (he : e ∈ scope.ends start d)
    (hentries : scope.entriesNamed name e ≠ []) : e.key ∈ fresh := by
  by_contra hkey
  obtain ⟨d', hd', e', he', hkey⟩ := (h.not_fresh_iff d e he).1 hkey
  refine hname ((h.mem_decided_iff name).2 ⟨d', hd', fun hnil => hentries ?_⟩)
  exact entriesNamed_eq_nil_of_key hscope (known_of_mem_ends hstart he')
    (known_of_mem_ends hstart he) hkey (List.flatMap_eq_nil_iff.1 hnil e' he')

/-- A type that is not `fresh` embeds no type that stays fresh (`unexpanded`). -/
theorem key_mem_fresh_of_targets (hscope : scope.Keyed) (hstart : scope.Known start)
    (h : scope.Searching start depth fresh decided current) {key : TypeKey}
    (hkey : key ∈ unexpanded fresh (consolidate fresh current)) {d : Nat} {e : Embedding}
    (he : e ∈ scope.ends start d) (htargets : key ∈ (scope.targets e).map Embedding.key) :
    e.key ∈ fresh := by
  rw [mem_unexpanded] at hkey
  by_contra hfresh
  obtain ⟨d', hd', e', he', hkeys⟩ := (h.not_fresh_iff d e he).1 hfresh
  -- The type was expanded at a smaller depth, so that `key` was met no deeper than here.
  rw [← map_key_targets hscope (known_of_mem_ends hstart he') (known_of_mem_ends hstart he) hkeys,
    List.mem_map] at htargets
  obtain ⟨target, htarget, rfl⟩ := htargets
  have hmem : target ∈ scope.ends start (d' + 1) := by
    rw [ends_succ]
    exact List.mem_flatMap.2 ⟨e', he', htarget⟩
  -- Met at a smaller depth it is not fresh, and met at this depth it is about to be expanded.
  rcases Nat.lt_or_eq_of_le (Nat.succ_le_of_lt hd') with hlt | heq
  · exact (h.not_fresh_iff _ target hmem).2 ⟨d' + 1, hlt, target, hmem, rfl⟩ hkey.1
  · obtain ⟨c, hc, hckey⟩ := h.exists_mem_consolidate (heq ▸ hmem) hkey.1
    exact hkey.2 c hc hckey

/-- For a name that is not `decided`, the entries that the level brings in are `Alike` to those at
    the ends of all paths. -/
theorem alike_entriesNamed (hscope : scope.Keyed) (hstart : scope.Known start)
    (h : scope.Searching start depth fresh decided current) {name : String}
    (hname : name ∉ decided) :
    Alike (((consolidate fresh current).flatMap Embedding.copies).flatMap
      (scope.entriesNamed name)) ((scope.ends start depth).flatMap (scope.entriesNamed name)) := by
  apply h.alike_consolidate.flatMap
  · -- Only fresh types have entries of the name, and their keys say whether they have any.
    rintro e (he | he) hentries
    · exact (h.known_copies he).2
    · exact h.key_mem_fresh_of_entriesNamed hscope hstart hname he hentries
  · intro a b ha hb hkey
    exact entriesNamed_eq_nil_of_key hscope (h.known_of_mem hstart ha)
      (h.known_of_mem hstart hb) hkey

/-- For the types that stay fresh (`unexpanded`), the next level is alike to all paths that are
    longer by one. -/
theorem alike_next (hscope : scope.Keyed) (hstart : scope.Known start)
    (h : scope.Searching start depth fresh decided current) :
    AlikeOn Embedding.key (unexpanded fresh (consolidate fresh current))
      ((scope.introduceAll (consolidate fresh current)).value.next.flatMap Embedding.copies)
      (scope.ends start (depth + 1)) := by
  intro key hkey
  have htargets (e : Embedding) : (scope.targets e).filter (·.key = key) = [] ↔
      key ∉ (scope.targets e).map Embedding.key := by
    simp only [List.filter_eq_nil_iff, decide_eq_true_eq, List.mem_map, not_exists, not_and]
  rw [value_introduceAll]
  -- The next level is a permutation of what the copies of this one embed.
  refine (Alike.of_perm ((scope.copies_next_perm _).filter _)).trans ?_
  rw [ends_succ, List.filter_flatMap, List.filter_flatMap]
  apply h.alike_consolidate.flatMap
  · rintro e (he | he) hne
    · exact (h.known_copies he).2
    · rw [Ne, htargets, not_not] at hne
      exact h.key_mem_fresh_of_targets hscope hstart hkey he hne
  · intro a b ha hb hkeys
    rw [htargets, htargets,
      map_key_targets hscope (h.known_of_mem hstart ha) (h.known_of_mem hstart hb) hkeys]
    exact id

/-- The names that a level brings in, and those decided before, are those of all `ends` so far. -/
theorem mem_names_iff (hscope : scope.Keyed) (hstart : scope.Known start)
    (h : scope.Searching start depth fresh decided current) (name : String) :
    name ∈ decided ++
        (scope.introduceAll (consolidate fresh current)).value.entries.map (·.1) ↔
      ∃ d < depth + 1, (scope.ends start d).flatMap (scope.entriesNamed name) ≠ [] := by
  have hlevel : name ∈ (scope.introduceAll (consolidate fresh current)).value.entries.map (·.1) ↔
      ((consolidate fresh current).flatMap Embedding.copies).flatMap
        (scope.entriesNamed name) ≠ [] := by
    rw [value_introduceAll, Ne, List.flatMap_eq_nil_iff]
    simp only [entriesNamed_eq_nil_iff, List.map_flatMap, List.mem_flatMap, not_forall, not_not,
      exists_prop]
  rw [List.mem_append]
  by_cases hname : name ∈ decided
  · obtain ⟨d, hd, hne⟩ := (h.mem_decided_iff name).1 hname
    exact ⟨fun _ => ⟨d, Nat.lt_succ_of_lt hd, hne⟩, fun _ => .inl hname⟩
  · -- For a name that is still undecided the level answers for all paths of its depth.
    rw [hlevel, Ne, (h.alike_entriesNamed hscope hstart hname).1]
    constructor
    · rintro (hdecided | hne)
      · exact absurd hdecided hname
      · exact ⟨depth, Nat.lt_succ_self depth, hne⟩
    · rintro ⟨d, hd, hne⟩
      rcases Nat.lt_or_eq_of_le (Nat.le_of_lt_succ hd) with hlt | rfl
      · exact .inl ((h.mem_decided_iff name).2 ⟨d, hlt, hne⟩)
      · exact .inr hne

/-- Expanding a level leads from a `Searching` state to the next one. -/
theorem step (hscope : scope.Keyed) (hstart : scope.Known start)
    (h : scope.Searching start depth fresh decided current) :
    scope.Searching start (depth + 1) (unexpanded fresh (consolidate fresh current))
      (decided ++ (scope.introduceAll (consolidate fresh current)).value.entries.map (·.1))
      (scope.introduceAll (consolidate fresh current)).value.next where
  known e he := by
    rw [value_introduceAll] at he
    obtain ⟨c, -, he⟩ := List.mem_flatMap.1 he
    obtain ⟨target, htarget, rfl⟩ := List.mem_map.1 he
    have hknown : scope.Known target := known_of_mem_targets htarget
    exact hknown
  alike := h.alike_next hscope hstart
  not_fresh_iff d e he := by
    constructor
    · intro hkey
      by_cases hfresh : e.key ∈ fresh
      · -- The type has lost its freshness to this level.
        have hexpanded : ∃ c ∈ consolidate fresh current, c.key = e.key := by
          by_contra hnone
          exact hkey (mem_unexpanded.2 ⟨hfresh, fun c hc hckey => hnone ⟨c, hc, hckey⟩⟩)
        obtain ⟨c, hc, hckey⟩ := hexpanded
        obtain ⟨e', he', hkey'⟩ := h.exists_mem_ends
          (List.mem_flatMap.2 ⟨c, hc, Embedding.mem_copies.2 rfl⟩)
        exact ⟨depth, Nat.lt_succ_self depth, e', he', hkey'.trans hckey⟩
      · obtain ⟨d', hd', hmet⟩ := (h.not_fresh_iff d e he).1 hfresh
        exact ⟨d', Nat.lt_succ_of_lt hd', hmet⟩
    · -- A type that was met at this depth is expanded now, and one met before is not fresh anyway.
      rintro ⟨d', hd', e', he', hkey⟩ hfresh
      rw [mem_unexpanded] at hfresh
      rcases Nat.lt_or_eq_of_le (Nat.le_of_lt_succ hd') with hlt | rfl
      · exact (h.not_fresh_iff d e he).2 ⟨d', hlt, e', he', hkey⟩ hfresh.1
      · obtain ⟨c, hc, hckey⟩ := h.exists_mem_consolidate he' (hkey ▸ hfresh.1)
        exact hfresh.2 c hc (hckey.trans hkey)
  mem_decided_iff := h.mem_names_iff hscope hstart

/-- When no type of a level is `fresh`, every type further down was met before. -/
theorem not_fresh_of_exhausted (hscope : scope.Keyed) (hstart : scope.Known start)
    (h : scope.Searching start depth fresh decided current)
    (hdone : consolidate fresh current = []) {d : Nat} (hd : depth ≤ d) {e : Embedding}
    (he : e ∈ scope.ends start d) : e.key ∉ fresh := by
  -- A fresh type further down would have a fresh type above it, up to the exhausted level.
  induction d, hd using Nat.le_induction generalizing e with
  | base =>
    intro hkey
    obtain ⟨c, hc, -⟩ := h.exists_mem_consolidate he hkey
    rw [hdone] at hc
    exact nomatch hc
  | succ d _ ih =>
    intro hkey
    rw [ends_succ, List.mem_flatMap] at he
    obtain ⟨parent, hparent, he⟩ := he
    refine ih hparent (h.key_mem_fresh_of_targets hscope hstart ?_ hparent
      (List.mem_map_of_mem he))
    rw [mem_unexpanded, hdone]
    exact ⟨hkey, fun _ hc => nomatch hc⟩

end Searching

/-! ## The search -/

/-- The method is the only entry of its name at the depth, and its name has no entries before. -/
def FoundAt (scope : Scope) (start : Embedding) (method : Method) (depth : Nat) : Prop :=
  (∀ d < depth, (scope.ends start d).flatMap (scope.entriesNamed method.name) = []) ∧
    (scope.ends start depth).flatMap (scope.entriesNamed method.name) = [.method method]

/-- An entry of `entries` that is a method stands under the name of the method. -/
theorem name_of_mem_entries {scope : Scope} {embedding : Embedding} {name : String}
    {method : Method} (h : (name, Entry.method method) ∈ scope.entries embedding) :
    name = method.name := by
  simp only [entries, List.mem_append, List.mem_map, Prod.mk.injEq, reduceCtorEq, and_false,
    exists_false, false_or, Entry.method.injEq] at h
  rcases h with ⟨declared, -, rfl, rfl⟩ | ⟨found, -, rfl, rfl⟩
  · rfl
  · rfl

theorem name_of_mem_introduceAll {scope : Scope} {level : List Embedding} {name : String}
    {method : Method} (h : (name, Entry.method method) ∈ (scope.introduceAll level).value.entries) :
    name = method.name := by
  rw [value_introduceAll] at h
  obtain ⟨e, -, h⟩ := List.mem_flatMap.1 h
  exact name_of_mem_entries h

namespace Searching

variable {scope : Scope} {start : Embedding} {depth : Nat} {fresh : List TypeKey}
  {decided : List String} {current : List Embedding}

/-- The methods that a level adds are those in the sense of `FoundAt` at its depth. -/
theorem mem_unambiguous_iff (hscope : scope.Keyed) (hstart : scope.Known start)
    (h : scope.Searching start depth fresh decided current) {method : Method} :
    method ∈ unambiguous decided
        (scope.introduceAll (consolidate fresh current)).value.entries ↔
      scope.FoundAt start method depth := by
  rw [mem_unambiguous fun _ _ => name_of_mem_introduceAll, value_introduceAll, entriesWithName,
    List.filterMap_flatMap, FoundAt]
  -- A name is undecided as long as nothing with it was found at a smaller depth.
  have hdecided : method.name ∉ decided ↔
      ∀ d < depth, (scope.ends start d).flatMap (scope.entriesNamed method.name) = [] := by
    rw [h.mem_decided_iff]
    simp only [not_exists, not_and, not_not]
  rw [hdecided]
  refine and_congr_right fun hbefore => ?_
  exact (h.alike_entriesNamed hscope hstart (hdecided.2 hbefore)).2 (.method method)

/-- Where no type of a level is `fresh`, nothing is found any more (`Scope.FoundAt`). -/
theorem not_foundAt_of_exhausted (hscope : scope.Keyed) (hstart : scope.Known start)
    (h : scope.Searching start depth fresh decided current)
    (hdone : consolidate fresh current = []) {d : Nat} (hd : depth ≤ d) (method : Method) :
    ¬ scope.FoundAt start method d := by
  rintro ⟨hbefore, hone⟩
  have hmem : Entry.method method ∈
      (scope.ends start d).flatMap (scope.entriesNamed method.name) := by
    rw [hone]
    exact List.mem_singleton_self _
  obtain ⟨e, he, hentry⟩ := List.mem_flatMap.1 hmem
  -- The type was met at a smaller depth, and it introduced the name there.
  obtain ⟨d', hd', e', he', hkey⟩ :=
    (h.not_fresh_iff d e he).1 (h.not_fresh_of_exhausted hscope hstart hdone hd he)
  have hnil := List.flatMap_eq_nil_iff.1 (hbefore d' (by omega)) e' he'
  rw [entriesNamed_eq_nil_of_key hscope (known_of_mem_ends hstart he')
    (known_of_mem_ends hstart he) hkey hnil] at hentry
  exact nomatch hentry

end Searching

/-- What `Scope.search` returns at a level that is not exhausted. -/
theorem value_search {scope : Scope} {fresh : List TypeKey} {decided : List String}
    {current : List Embedding} (h : consolidate fresh current ≠ []) :
    (scope.search fresh decided current).value =
      unambiguous decided (scope.introduceAll (consolidate fresh current)).value.entries ++
        (scope.search (unexpanded fresh (consolidate fresh current))
          (decided ++ (scope.introduceAll (consolidate fresh current)).value.entries.map (·.1))
          (scope.introduceAll (consolidate fresh current)).value.next).value := by
  rw [search, dif_neg h]
  rfl

/-- `Scope.search` returns the methods that are `FoundAt` its depth or further down. -/
theorem mem_search {scope : Scope} (hscope : scope.Keyed) {start : Embedding}
    (hstart : scope.Known start) {depth : Nat} {fresh : List TypeKey} {decided : List String}
    {current : List Embedding} (h : scope.Searching start depth fresh decided current)
    {method : Method} :
    method ∈ (scope.search fresh decided current).value ↔
      ∃ d ≥ depth, scope.FoundAt start method d := by
  induction fresh, decided, current using Scope.search.induct generalizing depth with
  | case1 fresh decided current hdone =>
    rw [search, dif_pos hdone]
    constructor
    · exact fun hmem => nomatch hmem
    · rintro ⟨d, hd, hfound⟩
      exact absurd hfound (h.not_foundAt_of_exhausted hscope hstart hdone hd method)
  | case2 fresh decided current hmore _ ih =>
    rw [value_search hmore, List.mem_append, h.mem_unambiguous_iff hscope hstart,
      ih _ (h.step hscope hstart)]
    constructor
    · -- Found on this level, or by the search that goes on from the next one.
      rintro (hfound | ⟨d, hd, hfound⟩)
      · exact ⟨depth, Nat.le_refl depth, hfound⟩
      · exact ⟨d, Nat.le_of_succ_le hd, hfound⟩
    · rintro ⟨d, hd, hfound⟩
      rcases Nat.lt_or_eq_of_le hd with hlt | rfl
      · exact .inr ⟨d, hlt, hfound⟩
      · exact .inl hfound

/-- `Scope.search` returns no name twice. -/
theorem nodup_names_search {scope : Scope} (hscope : scope.Keyed) {start : Embedding}
    (hstart : scope.Known start) {depth : Nat} {fresh : List TypeKey} {decided : List String}
    {current : List Embedding} (h : scope.Searching start depth fresh decided current) :
    ((scope.search fresh decided current).value.map (·.name)).Nodup := by
  induction fresh, decided, current using Scope.search.induct generalizing depth with
  | case1 fresh decided current hdone =>
    rw [search, dif_pos hdone]
    exact List.nodup_nil
  | case2 fresh decided current hmore _ ih =>
    have hnext := h.step hscope hstart
    rw [value_search hmore, List.map_append, List.nodup_append']
    refine ⟨nodup_names_unambiguous fun _ _ => name_of_mem_introduceAll, ih _ hnext, ?_⟩
    -- What is found further down has names that do not occur at this depth.
    intro name hname hname'
    obtain ⟨m, hm, rfl⟩ := List.mem_map.1 hname
    obtain ⟨m', hm', heq⟩ := List.mem_map.1 hname'
    have hhere := ((h.mem_unambiguous_iff hscope hstart).1 hm).2
    obtain ⟨d, hd, hfound⟩ := (mem_search hscope hstart hnext).1 hm'
    have hnone := hfound.1 depth hd
    rw [heq, hhere] at hnone
    exact nomatch hnone

/-! ## The method set -/

/-- A method is `FoundAt` some depth if and only if its name is selected (`Selects`) and the method
    is listed there. -/
theorem exists_foundAt_iff {scope : Scope} (hscope : scope.WellShaped) {decl : TypeDecl}
    (hdecl : decl ∈ scope.package.types) {method : Method} :
    (∃ depth, scope.FoundAt (scope.root decl) method depth) ↔
      ∃ sighting embedding, scope.Selects decl method.name sighting ∧
        scope.Leads (scope.root decl) sighting.path embedding ∧
        (sighting.occurrence, method.name, .method method) ∈ scope.occurrences embedding := by
  simp only [FoundAt, ← map_snd_sightings, List.map_eq_nil_iff, selects_iff hscope hdecl]
  constructor
  · -- The single entry at the depth is the entry of a single sighting.
    rintro ⟨depth, hbefore, hone⟩
    obtain ⟨⟨sighting, entry⟩, hsightings, rfl⟩ := List.map_eq_singleton_iff.1 hone
    have hmem : (sighting, Entry.method method) ∈
        scope.sightings (scope.root decl) depth method.name := by
      rw [hsightings]
      exact List.mem_singleton_self _
    obtain ⟨rfl, embedding, hleads, hoccurs⟩ := mem_sightings.1 hmem
    exact ⟨sighting, embedding, ⟨hbefore, .method method, hsightings⟩, hleads, hoccurs⟩
  · rintro ⟨sighting, embedding, ⟨hbefore, entry, hsightings⟩, hleads, hoccurs⟩
    have hmem : (sighting, Entry.method method) ∈
        scope.sightings (scope.root decl) sighting.path.length method.name :=
      mem_sightings.2 ⟨rfl, embedding, hleads, hoccurs⟩
    rw [hsightings, List.mem_singleton] at hmem
    refine ⟨sighting.path.length, hbefore, ?_⟩
    rw [hsightings, ← hmem]
    rfl

/-- The methods of `Scope.methodSet`: exported ones that are listed where their names are
    selected. -/
theorem mem_methodSet {scope : Scope} (hscope : scope.WellShaped) {decl : TypeDecl}
    (hdecl : decl ∈ scope.package.types) {method : Method} :
    method ∈ (scope.methodSet decl).value ↔ method.isExported ∧
      ∃ sighting embedding, scope.Selects decl method.name sighting ∧
        scope.Leads (scope.root decl) sighting.path embedding ∧
        (sighting.occurrence, method.name, .method method) ∈ scope.occurrences embedding := by
  have hknown := known_root hscope.keyed hdecl
  -- The search starts at depth 0, with nothing decided.
  have hsearch : method ∈ (scope.search _ [] [scope.root decl]).value ↔ _ :=
    mem_search hscope.keyed hknown (Searching.start hknown rfl)
  simp only [ge_iff_le, Nat.zero_le, true_and, exists_foundAt_iff hscope hdecl] at hsearch
  rw [← hsearch, and_comm, ← List.mem_filter]
  exact List.mem_mergeSort

/-- The names of `Scope.methodSet`: exported ones that are selected where they are methods. -/
theorem mem_names_methodSet {scope : Scope} (hscope : scope.WellShaped) {decl : TypeDecl}
    (hdecl : decl ∈ scope.package.types) {name : String} :
    name ∈ (scope.methodSet decl).value.map (·.name) ↔
      isExported name ∧ ∃ sighting, scope.Selects decl name sighting ∧
        sighting.occurrence.isMethod := by
  simp only [List.mem_map, mem_methodSet hscope hdecl]
  constructor
  · rintro ⟨method, ⟨hexported, sighting, embedding, hselects, -, hlisted⟩, rfl⟩
    exact ⟨hexported, sighting, hselects, (denotes_of_mem_occurrences hscope hlisted).isMethod⟩
  · -- The occurrence that is selected is that of some method.
    rintro ⟨hexported, sighting, hselects, hmethod⟩
    obtain ⟨embedding, hleads, hintroduces⟩ := hselects.sees
    obtain ⟨entry, hlisted⟩ := (introduces_iff hscope).1 hintroduces
    obtain ⟨method, rfl, rfl⟩ := exists_method_of_mem_occurrences hlisted hmethod
    exact ⟨method, ⟨hexported, sighting, embedding, hselects, hleads, hlisted⟩, rfl⟩

/-- A method of `Scope.methodSet` stands at the place where its name is selected. -/
theorem exists_denotes_of_mem_methodSet {scope : Scope} (hscope : scope.WellShaped)
    {decl : TypeDecl} (hdecl : decl ∈ scope.package.types) {method : Method}
    (h : method ∈ (scope.methodSet decl).value) :
    ∃ sighting embedding, scope.Selects decl method.name sighting ∧
      scope.Leads (scope.root decl) sighting.path embedding ∧
      scope.Denotes embedding sighting.occurrence method := by
  obtain ⟨-, sighting, embedding, hselects, hleads, hlisted⟩ := (mem_methodSet hscope hdecl).1 h
  exact ⟨sighting, embedding, hselects, hleads, denotes_of_mem_occurrences hscope hlisted⟩

/-- The method at the place where a name is selected is in `Scope.methodSet`, if it is the only one
    there. -/
theorem mem_methodSet_of_denotes {scope : Scope} (hscope : scope.WellShaped) {decl : TypeDecl}
    (hdecl : decl ∈ scope.package.types) {sighting : Sighting} {embedding : Embedding}
    {method : Method} (hexported : method.isExported)
    (hselects : scope.Selects decl method.name sighting)
    (hleads : scope.Leads (scope.root decl) sighting.path embedding)
    (hdenotes : scope.Denotes embedding sighting.occurrence method)
    (honly : ∀ other, scope.Denotes embedding sighting.occurrence other → other = method) :
    method ∈ (scope.methodSet decl).value := by
  have hname := (mem_names_methodSet hscope hdecl).2
    ⟨hexported, sighting, hselects, hdenotes.isMethod⟩
  obtain ⟨found, hfound, heq⟩ := List.mem_map.1 hname
  obtain ⟨other, embedding', hselects', hleads', hdenotes'⟩ :=
    exists_denotes_of_mem_methodSet hscope hdecl hfound
  -- The name is selected at one place only, so that both methods stand there.
  rw [heq] at hselects'
  rw [hselects.sighting_eq hselects'] at hleads' hdenotes'
  obtain rfl := hleads.unique hleads'
  exact honly found hdenotes' ▸ hfound

/-- `Scope.methodSet` is sorted by name, and no name stands in it twice. -/
theorem pairwise_lt_methodSet {scope : Scope} (hscope : scope.WellShaped) {decl : TypeDecl}
    (hdecl : decl ∈ scope.package.types) :
    ((scope.methodSet decl).value.map (·.name)).Pairwise (· < ·) := by
  have hknown := known_root hscope.keyed hdecl
  have hnodup := nodup_names_search hscope.keyed hknown (Searching.start hknown rfl)
  have hexported := (List.filter_sublist (p := Method.isExported)).map (·.name) |>.nodup hnodup
  -- Sorted by `≤` and without repetition is sorted by `<`.
  have hsorted := @List.pairwise_mergeSort Method (fun a b => a.name ≤ b.name)
    (fun a b c hab hbc => decide_eq_true ((of_decide_eq_true hab).trans (of_decide_eq_true hbc)))
    (fun a b => by simpa using le_total a.name b.name)
    ((scope.search ((scope.root decl).key :: scope.keys) [] [scope.root decl]).value.filter
      Method.isExported)
  have hpairwise := hsorted.and (List.pairwise_map.1
    (((List.mergeSort_perm _ _).map (·.name)).nodup_iff.2 hexported))
  refine List.pairwise_map.2 (hpairwise.imp fun {a b} h => ?_)
  exact lt_of_le_of_ne (of_decide_eq_true h.1) h.2

/-- `Scope.methodSet` computes the method set of the selector rule: the exported names which, at the
    smallest depth at which they occur, occur once and there as a method. The method of such a name
    is the one at its place, with its signature under the type arguments of the path that leads
    there; where interfaces bring different methods of the name, it is one of these. -/
theorem methodSet_selects {scope : Scope} (hscope : scope.WellShaped) {decl : TypeDecl}
    (hdecl : decl ∈ scope.package.types) :
    ((scope.methodSet decl).value.map (·.name)).Pairwise (· < ·) ∧
      (∀ name, name ∈ (scope.methodSet decl).value.map (·.name) ↔
        isExported name ∧ ∃ sighting, scope.Selects decl name sighting ∧
          sighting.occurrence.isMethod) ∧
      (∀ method ∈ (scope.methodSet decl).value, ∃ sighting embedding,
        scope.Selects decl method.name sighting ∧
          scope.Leads (scope.root decl) sighting.path embedding ∧
          scope.Denotes embedding sighting.occurrence method) ∧
      ∀ sighting embedding method, method.isExported →
        scope.Selects decl method.name sighting →
        scope.Leads (scope.root decl) sighting.path embedding →
        scope.Denotes embedding sighting.occurrence method →
        (∀ other, scope.Denotes embedding sighting.occurrence other → other = method) →
        method ∈ (scope.methodSet decl).value :=
  ⟨pairwise_lt_methodSet hscope hdecl, fun _ => mem_names_methodSet hscope hdecl,
    fun _ => exists_denotes_of_mem_methodSet hscope hdecl,
    fun _ _ _ => mem_methodSet_of_denotes hscope hdecl⟩

/-! ## Two types that embed each other -/

/-- A type of the package `circle`. -/
def circleType (name : String) (args : List GoType) : GoType :=
  .named ⟨some ⟨"example.com/circle", "circle"⟩, name⟩ args

/-- A generic struct that embeds a pointer to the struct which embeds it. -/
def circleBox : TypeDecl where
  name := "Box"
  typeParams := [⟨"T", .any⟩]
  underlying := .struct [⟨"Ring", .pointer (circleType "Ring" []), true⟩]
  methods := [⟨"Get", ⟨[], [⟨"", .typeParam "T"⟩], false⟩⟩]

/-- A struct that embeds an instance of the generic one. -/
def circleRing : TypeDecl where
  name := "Ring"
  typeParams := []
  underlying := .struct [⟨"Box", circleType "Box" [.basic "int"], true⟩]
  methods := []

/-- The scope of the two structs. -/
def circle : Scope where
  package := ⟨"example.com/circle", "circle", [circleBox, circleRing], []⟩
  program := []

theorem wellShaped_circle : circle.WellShaped := by
  intro package hloads
  rcases hloads with rfl | ⟨path, hpath⟩
  · refine ⟨by decide, by decide, fun decl hdecl => ?_, fun decl hdecl type htype => ?_⟩
    · rcases List.mem_pair.1 hdecl with rfl | rfl
      · exact List.nodup_nil
      · exact List.nodup_nil
    · rcases List.mem_pair.1 hdecl with rfl | rfl
      · rw [List.mem_singleton.1 htype]
        rfl
      · rw [List.mem_singleton.1 htype]
        rfl
  · exact nomatch hpath

/-- The method of the generic struct is promoted, once, with its type argument, although there are
    paths of every length. -/
theorem mem_methodSet_circleRing :
    (⟨"Get", ⟨[], [⟨"", .basic "int"⟩], false⟩⟩ : Method) ∈
      (circle.methodSet circleRing).value := by
  have hring : circleRing ∈ circle.package.types := List.mem_cons_of_mem _ List.mem_cons_self
  have hselects : circle.Selects circleRing "Get" ⟨[0], .declared 0⟩ := by
    refine (selects_iff wellShaped_circle hring).2 ⟨fun depth hdepth => ?_, _, rfl⟩
    rw [Nat.lt_one_iff.1 hdepth]
    rfl
  -- The embedded type is an instance, so its type parameter stands for `int`.
  have hleads : circle.Leads (circle.root circleRing) [0]
      ⟨"example.com/circle", circleBox, [("T", .basic "int")], false⟩ :=
    .field rfl rfl (.declared (.value .named) (.own rfl)
      (@Package.Declares.first circle.package [] [circleRing] circleBox rfl (by decide))) .here
  have hdenotes : circle.Denotes ⟨"example.com/circle", circleBox, [("T", .basic "int")], false⟩
      (.declared 0) ⟨"Get", ⟨[], [⟨"", .basic "int"⟩], false⟩⟩ :=
    @Denotes.declared circle _ 0 ⟨"Get", ⟨[], [⟨"", .typeParam "T"⟩], false⟩⟩ rfl
  refine (methodSet_selects wellShaped_circle hring).2.2.2 _ _ _ (by decide) hselects hleads
    hdenotes fun other hother => ?_
  cases hother with
  | declared h =>
    cases h
    rfl

end Scope

end IfaceGen
