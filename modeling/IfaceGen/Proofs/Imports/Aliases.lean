import IfaceGen.ImportTable
import IfaceGen.Proofs.List
import Mathlib.Data.List.Perm.Subperm

/-!
# Aliases of imported packages

A table never gives one alias to two packages, and never two aliases to one package, and its indexes
stay in step with its entries. This holds for the table without packages and is kept by every
registration (`ImportTable.WellFormed`).

## Key results

- `ImportTable.freshAlias_isFresh`: a new package gets its own name or the least free numbered form
- `ImportTable.WellFormed.registerAll`: paths and aliases stay distinct, indexes stay in step
- `ImportTable.WellFormed.exists_alias?_registerAll`: every package that was registered has an alias
- `ImportTable.registerAll_registered`: what each registration of a sequence does
-/

namespace IfaceGen

namespace ImportTable

/-! ## Fresh aliases -/

/-- `Nat.repr` writes different numbers differently. -/
theorem repr_injective {m n : Nat} (h : Nat.repr m = Nat.repr n) : m = n := by
  have hdigits := congrArg (fun text => Nat.ofDigitChars 10 text.toList 0) h
  simpa only [Nat.toList_repr, Nat.ofDigitChars_ten_toDigits] using hdigits

/-- The numbered forms of a name, from 1 to `count`. -/
def forms (name : String) (count : Nat) : List String :=
  (List.range count).map fun k => name ++ Nat.repr (k + 1)

theorem forms_nodup (name : String) (count : Nat) : (forms name count).Nodup := by
  refine List.nodup_range.map fun a b h => ?_
  have hrepr : Nat.repr (a + 1) = Nat.repr (b + 1) := (String.append_right_inj name).1 h
  exact Nat.succ.inj (repr_injective hrepr)

/-- One of the `forms` is free: there are more of them than names in use. -/
theorem exists_form_not_mem (taken : List String) (name : String) :
    ∃ form ∈ forms name (taken.length + 1), form ∉ taken := by
  by_contra hall
  have hsubset : forms name (taken.length + 1) ⊆ taken := by
    intro form hform
    by_contra hfree
    exact hall ⟨form, hform, hfree⟩
  have hlength := (List.subperm_of_subset (forms_nodup name _) hsubset).length_le
  rw [forms, List.length_map, List.length_range] at hlength
  omega

/-- The `numberedAlias` is the form with the least number that is free. This number is at most one
    more than the number of names in use: a signed counter of 32 bits that starts at 1 does not
    overflow as long as fewer than 2 ^ 31 - 1 names are in use. -/
theorem numberedAlias_eq (taken : List String) (name : String) :
    ∃ k, 1 ≤ k ∧ k ≤ taken.length + 1 ∧ numberedAlias taken name = name ++ Nat.repr k ∧
      name ++ Nat.repr k ∉ taken ∧ ∀ j, 1 ≤ j → j < k → name ++ Nat.repr j ∈ taken := by
  have hfree : ((forms name (taken.length + 1)).find? (!taken.contains ·)).isSome := by
    obtain ⟨form, hform, hfree⟩ := exists_form_not_mem taken name
    exact List.find?_isSome.2 ⟨form, hform, by simpa using hfree⟩
  obtain ⟨form, hfind⟩ := Option.isSome_iff_exists.1 hfree
  have halias : numberedAlias taken name = form := by
    show ((forms name (taken.length + 1)).find? (!taken.contains ·)).getD name = form
    rw [hfind, Option.getD_some]
  -- The search goes through the forms in the order of their numbers.
  obtain ⟨hform, i, hi, hget, hbefore⟩ := List.find?_eq_some_iff_getElem.1 hfind
  have hget' (j : Nat) (hj : j < (forms name (taken.length + 1)).length) :
      (forms name (taken.length + 1)).get ⟨j, hj⟩ = name ++ Nat.repr (j + 1) := by
    simp [forms]
  have hform' : form = name ++ Nat.repr (i + 1) := hget.symm.trans (hget' i hi)
  have hbound : i + 1 ≤ taken.length + 1 := by
    rw [forms, List.length_map, List.length_range] at hi
    exact hi
  refine ⟨i + 1, Nat.le_add_left 1 i, hbound, halias.trans hform', ?_, fun j hpos hlt => ?_⟩
  · rw [← hform']
    simpa using hform
  · have htaken := hbefore (j - 1) (by omega)
    have hj := hget' (j - 1) (by omega)
    rw [Nat.sub_add_cancel hpos] at hj
    rw [← hj]
    simpa using htaken

/-- The alias that a new package gets where `used` are in use: its own name if that is free,
    otherwise the name followed by the least positive number that makes it free. -/
inductive IsFresh (used : List String) (name : String) : String → Prop
  | own (free : name ∉ used) : IsFresh used name name
  | numbered {k : Nat} (taken : name ∈ used) (pos : 1 ≤ k) (free : name ++ Nat.repr k ∉ used)
      (least : ∀ j, 1 ≤ j → j < k → name ++ Nat.repr j ∈ used) :
      IsFresh used name (name ++ Nat.repr k)

theorem IsFresh.not_mem {used : List String} {name localName : String}
    (h : IsFresh used name localName) : localName ∉ used := by
  cases h with
  | own free => exact free
  | numbered _ _ free _ => exact free

/-- For `IsFresh` it matters which names are in use, not how they are listed. -/
theorem IsFresh.congr {used used' : List String} {name localName : String}
    (hused : ∀ other, other ∈ used ↔ other ∈ used') (h : IsFresh used name localName) :
    IsFresh used' name localName := by
  cases h with
  | own free => exact .own fun hmem => free ((hused _).2 hmem)
  | numbered taken pos free least =>
    exact .numbered ((hused _).1 taken) pos (fun hmem => free ((hused _).2 hmem))
      fun j hpos hlt => (hused _).1 (least j hpos hlt)

/-- The alias that `freshAlias` gives to a new package `IsFresh`. -/
theorem freshAlias_isFresh (table : ImportTable) (name : String) :
    IsFresh table.aliases name (table.freshAlias name) := by
  unfold freshAlias
  split
  · rename_i htaken
    obtain ⟨k, hpos, -, hk, hfree, hleast⟩ := numberedAlias_eq table.aliases name
    rw [hk]
    exact .numbered (List.contains_iff_mem.1 htaken) hpos hfree hleast
  · rename_i hfree
    exact .own fun hmem => hfree (List.contains_iff_mem.2 hmem)

/-! ## Registering -/

/-- Each package has one entry, each alias stands for one package, and the indexes list exactly what
    the entries say. -/
structure WellFormed (table : ImportTable) : Prop where
  paths_nodup : (table.entries.map (·.path)).Nodup
  aliases_nodup : (table.entries.map (·.localName)).Nodup
  /-- A path is mapped to the position of its entry, and other paths are not mapped. -/
  lookup_iff : ∀ path position, table.positions.lookup path = some position ↔
    ∃ entry, table.entries[position]? = some entry ∧ entry.path = path
  /-- The names in use are the aliases of the entries. -/
  mem_aliases_iff : ∀ localName,
    localName ∈ table.aliases ↔ localName ∈ table.entries.map (·.localName)

theorem wellFormed_empty : empty.WellFormed where
  paths_nodup := List.nodup_nil
  aliases_nodup := List.nodup_nil
  lookup_iff path position := by
    constructor
    · exact fun h => nomatch h
    · rintro ⟨entry, h, -⟩
      exact nomatch h
  mem_aliases_iff _ := Iff.rfl

/-- `register` leaves a package that is known as it is. -/
theorem register_of_lookup_some {table : ImportTable} {ref : PackageRef} {position : Nat}
    (h : table.positions.lookup ref.path = some position) : table.register ref = table := by
  unfold register
  rw [h]

/-- `register` adds a new package to the entries and to both indexes. -/
theorem register_of_lookup_none {table : ImportTable} {ref : PackageRef}
    (h : table.positions.lookup ref.path = none) :
    table.register ref =
      { entries := table.entries ++ [⟨ref.path, ref.name, table.freshAlias ref.name⟩]
        positions := (ref.path, table.entries.length) :: table.positions
        aliases := table.freshAlias ref.name :: table.aliases } := by
  unfold register
  rw [h]

namespace WellFormed

variable {table : ImportTable}

/-- A path that the index `positions` does not know is not registered. -/
theorem lookup_eq_none_iff (h : table.WellFormed) {path : String} :
    table.positions.lookup path = none ↔ path ∉ table.entries.map (·.path) := by
  rw [← not_iff_not, not_not, ← Ne, Option.ne_none_iff_exists']
  simp only [h.lookup_iff, List.mem_map]
  constructor
  · rintro ⟨position, entry, hentry, hpath⟩
    exact ⟨entry, List.mem_of_getElem? hentry, hpath⟩
  · rintro ⟨entry, hmem, hpath⟩
    obtain ⟨position, hentry⟩ := List.mem_iff_getElem?.1 hmem
    exact ⟨position, entry, hentry, hpath⟩

/-- What `alias?` finds for a package is the alias of its entry. -/
theorem alias?_eq_some_iff (h : table.WellFormed) {path localName : String} :
    table.alias? path = some localName ↔
      ∃ entry ∈ table.entries, entry.path = path ∧ entry.localName = localName := by
  simp only [alias?, Option.bind_eq_some_iff, h.lookup_iff, Option.map_eq_some_iff,
    List.mem_iff_getElem?]
  constructor
  · rintro ⟨position, ⟨entry, hentry, hpath⟩, other, hother, hname⟩
    rw [hentry] at hother
    cases hother
    exact ⟨entry, ⟨position, hentry⟩, hpath, hname⟩
  · rintro ⟨entry, ⟨position, hentry⟩, hpath, hname⟩
    exact ⟨position, ⟨entry, hentry, hpath⟩, entry, hentry, hname⟩

/-- Behind the entries of a table, an entry for a new path is found in `ImportTable.positions` under
    that path. -/
theorem lookup_cons_iff (h : table.WellFormed) (added : ImportEntry)
    (hnew : table.positions.lookup added.path = none) (path : String) (position : Nat) :
    ((added.path, table.entries.length) :: table.positions).lookup path = some position ↔
      ∃ entry, (table.entries ++ [added])[position]? = some entry ∧ entry.path = path := by
  rw [List.lookup_cons]
  by_cases hpath : path = added.path
  · -- No entry before has the path, so it is that of the last one.
    simp only [hpath, beq_self_eq_true, Option.some.injEq]
    constructor
    · rintro rfl
      exact ⟨added, List.getElem?_concat_length, rfl⟩
    · rintro ⟨entry, hentry, hsame⟩
      rcases Nat.lt_trichotomy position table.entries.length with hlt | heq | hgt
      · rw [List.getElem?_append_left hlt] at hentry
        have hlookup := (h.lookup_iff added.path position).2 ⟨entry, hentry, hsame⟩
        rw [hnew] at hlookup
        exact nomatch hlookup
      · exact heq.symm
      · have hlength : (table.entries ++ [added]).length ≤ position := by
          rw [List.length_append, List.length_singleton]
          omega
        rw [List.getElem?_eq_none hlength] at hentry
        exact nomatch hentry
  · -- The last entry has another path, and the others are where they were.
    simp only [beq_eq_false_iff_ne.2 hpath, h.lookup_iff]
    refine exists_congr fun entry => and_congr_left fun hentry => ?_
    constructor
    · intro hget
      obtain ⟨hlt, -⟩ := List.getElem?_eq_some_iff.1 hget
      rw [List.getElem?_append_left hlt, hget]
    · intro hget
      by_cases hlt : position < table.entries.length
      · rwa [List.getElem?_append_left hlt] at hget
      · rw [List.getElem?_append_right (Nat.le_of_not_lt hlt)] at hget
        have hlast := List.mem_singleton.1 (List.mem_of_getElem? hget)
        exact absurd (hlast ▸ hentry).symm hpath

/-- `register` keeps paths and aliases distinct, and the indexes in step. -/
theorem register (h : table.WellFormed) (ref : PackageRef) : (table.register ref).WellFormed := by
  cases hlookup : table.positions.lookup ref.path with
  | some position =>
    rw [register_of_lookup_some hlookup]
    exact h
  | none =>
    -- The path was not registered before, and its alias is a fresh one.
    rw [register_of_lookup_none hlookup]
    have hfresh := (table.freshAlias_isFresh ref.name).not_mem
    refine ⟨?_, ?_, h.lookup_cons_iff ⟨ref.path, ref.name, _⟩ hlookup, fun localName => ?_⟩
    · rw [List.map_append, List.map_singleton, ← List.concat_eq_append]
      exact h.paths_nodup.concat (h.lookup_eq_none_iff.1 hlookup)
    · rw [List.map_append, List.map_singleton, ← List.concat_eq_append]
      exact h.aliases_nodup.concat fun hmem => hfresh ((h.mem_aliases_iff _).2 hmem)
    · rw [List.mem_cons, h.mem_aliases_iff, List.map_append, List.map_singleton, List.mem_append,
        List.mem_singleton]
      exact or_comm

theorem registerAll (h : table.WellFormed) (refs : List PackageRef) :
    (table.registerAll refs).WellFormed := by
  induction refs generalizing table with
  | nil => exact h
  | cons ref refs ih => exact ih (h.register ref)

end WellFormed

/-- An entry of the table after `register` was there before or is that of the package. -/
theorem mem_entries_register {table : ImportTable} {ref : PackageRef} {entry : ImportEntry}
    (h : entry ∈ (table.register ref).entries) :
    entry ∈ table.entries ∨ entry.path = ref.path := by
  unfold register at h
  split at h
  · exact .inl h
  · rcases List.mem_append.1 h with h | h
    · exact .inl h
    · rw [List.mem_singleton.1 h]
      exact .inr rfl

theorem mem_entries_registerAll {table : ImportTable} {refs : List PackageRef}
    {entry : ImportEntry} (h : entry ∈ (table.registerAll refs).entries) :
    entry ∈ table.entries ∨ ∃ ref ∈ refs, entry.path = ref.path := by
  induction refs generalizing table with
  | nil => exact .inl h
  | cons ref refs ih =>
    -- The entry was there before, or it belongs to the first reference, or to a later one.
    rcases ih h with h | ⟨other, hother, hpath⟩
    · rcases mem_entries_register h with h | hpath
      · exact .inl h
      · exact .inr ⟨ref, List.mem_cons_self, hpath⟩
    · exact .inr ⟨other, List.mem_cons_of_mem _ hother, hpath⟩

/-- `register` neither loses nor moves entries. -/
theorem entries_prefix_register (table : ImportTable) (ref : PackageRef) :
    table.entries <+: (table.register ref).entries := by
  unfold register
  split
  · exact List.prefix_rfl
  · exact List.prefix_append _ _

theorem entries_prefix_registerAll (table : ImportTable) (refs : List PackageRef) :
    table.entries <+: (table.registerAll refs).entries := by
  induction refs generalizing table with
  | nil => exact List.prefix_rfl
  | cons ref refs ih => exact (table.entries_prefix_register ref).trans (ih _)

/-! ## Aliases after a registration -/

/-- What `register` does to a table. -/
inductive Registered (table : ImportTable) (ref : PackageRef) (table' : ImportTable) : Prop
  /-- A known package keeps its alias, and the table stays as it is. -/
  | known {entry : ImportEntry} (mem : entry ∈ table.entries) (path_eq : entry.path = ref.path)
      (unchanged : table' = table) (alias_eq : table'.alias? ref.path = some entry.localName)
  /-- A new package gets one entry behind the others, with a fresh alias. -/
  | new {localName : String} (unknown : ref.path ∉ table.entries.map (·.path))
      (fresh : IsFresh (table.entries.map (·.localName)) ref.name localName)
      (entries_eq : table'.entries = table.entries ++ [⟨ref.path, ref.name, localName⟩])
      (alias_eq : table'.alias? ref.path = some localName)

namespace WellFormed

variable {table : ImportTable}

/-- One step: `register` does what `Registered` says of it. -/
theorem registered (h : table.WellFormed) (ref : PackageRef) :
    Registered table ref (table.register ref) := by
  cases hlookup : table.positions.lookup ref.path with
  -- A known package has an entry, and the alias in it is the one that is found.
  | some position =>
    obtain ⟨entry, hget, hpath⟩ := (h.lookup_iff _ _).1 hlookup
    have hmem := List.mem_of_getElem? hget
    rw [register_of_lookup_some hlookup]
    exact .known hmem hpath rfl (h.alias?_eq_some_iff.2 ⟨entry, hmem, hpath, rfl⟩)
  | none =>
    -- A new package gets the last entry, with a fresh alias.
    have hentries : (table.register ref).entries =
        table.entries ++ [⟨ref.path, ref.name, table.freshAlias ref.name⟩] := by
      rw [register_of_lookup_none hlookup]
    refine .new (h.lookup_eq_none_iff.1 hlookup)
      ((table.freshAlias_isFresh ref.name).congr h.mem_aliases_iff) hentries ?_
    refine (h.register ref).alias?_eq_some_iff.2
      ⟨⟨ref.path, ref.name, table.freshAlias ref.name⟩, ?_, rfl, rfl⟩
    rw [hentries]
    exact List.mem_append_right _ (List.mem_singleton_self _)

/-- An alias that has been given never changes, whatever `registerAll` adds. -/
theorem alias?_registerAll (h : table.WellFormed) (refs : List PackageRef)
    {path localName : String} (halias : table.alias? path = some localName) :
    (table.registerAll refs).alias? path = some localName := by
  obtain ⟨entry, hentry, hpath, hname⟩ := h.alias?_eq_some_iff.1 halias
  have hsubset := (table.entries_prefix_registerAll refs).subset
  exact (h.registerAll refs).alias?_eq_some_iff.2 ⟨entry, hsubset hentry, hpath, hname⟩

/-- Every package that went through `registerAll` has an alias. -/
theorem exists_alias?_registerAll (h : table.WellFormed) {refs : List PackageRef}
    {ref : PackageRef} (hmem : ref ∈ refs) :
    ∃ localName, (table.registerAll refs).alias? ref.path = some localName := by
  induction refs generalizing table with
  | nil => exact nomatch hmem
  | cons first refs ih =>
    rcases List.mem_cons.1 hmem with rfl | hmem
    · -- The package has an alias once it has been registered, and keeps it.
      have halias : ∃ localName, (table.register ref).alias? ref.path = some localName := by
        cases h.registered ref with
        | known _ _ _ alias_eq => exact ⟨_, alias_eq⟩
        | new _ _ _ alias_eq => exact ⟨_, alias_eq⟩
      obtain ⟨localName, halias⟩ := halias
      exact ⟨localName, (h.register ref).alias?_registerAll refs halias⟩
    · exact ih (h.register first) hmem

end WellFormed

/-- Every table that `registerAll` leads to is `WellFormed`, one more registration does what
    `Registered` says of it, and whatever is registered later, the entries stay where they are and
    aliases never change. -/
theorem registerAll_registered (refs : List PackageRef) :
    (empty.registerAll refs).WellFormed ∧
      (∀ ref, Registered (empty.registerAll refs) ref ((empty.registerAll refs).register ref)) ∧
      ∀ later, (empty.registerAll refs).entries <+:
          ((empty.registerAll refs).registerAll later).entries ∧
        ∀ path localName, (empty.registerAll refs).alias? path = some localName →
          ((empty.registerAll refs).registerAll later).alias? path = some localName := by
  have htable := wellFormed_empty.registerAll refs
  refine ⟨htable, htable.registered, fun later => ⟨entries_prefix_registerAll _ later, ?_⟩⟩
  exact fun path localName => htable.alias?_registerAll later

/-- Packages whose own names look like numbered forms: the free numbers are skipped over. -/
example : (empty.registerAll [⟨"a/util1", "util1"⟩, ⟨"a/util", "util"⟩, ⟨"b/util", "util"⟩,
    ⟨"c/util1", "util1"⟩]).entries.map (·.localName) = ["util1", "util", "util2", "util11"] := by
  decide +kernel

end ImportTable

end IfaceGen
