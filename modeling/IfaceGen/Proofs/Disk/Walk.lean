import IfaceGen.Disk.Node
import IfaceGen.Proofs.List
import Mathlib.Data.List.Lex
import Mathlib.Data.String.Basic

/-!
# The walk through a directory

`Node.files` lists the files of a tree by their paths. `Node.walk` lists them by the names that
lead to them, from which the paths come about by joining (`Node.files_eq_map_walk`). Names put the
files in an order that does not speak of a walk: of two files the one comes first whose name comes
first where the ways to them part, which is the lexicographic order of the two lists of names. A
walk lists the files of a tree, each once (`Node.mem_walk_iff`), in this order
(`Node.pairwise_walk`).

A tree consists of files and directories. Links, which a walk does not follow, and other special
entries are no part of it.
-/

namespace IfaceGen

/-- The path that `names` lead to from `dir`. -/
def Path.below (dir : String) (names : List String) : String :=
  names.foldl Path.join dir

namespace Node

/-! ## Nodes and their entries -/

/-- What holds of every `file`, and of a `dir` as soon as it holds of its entries, holds of every
    node. -/
@[elab_as_elim]
theorem entryInduction {p : Node → Prop} (file : ∀ content, p (.file content))
    (dir : ∀ entries, (∀ entry ∈ entries, p entry.2) → p (.dir entries)) : ∀ node, p node
  | .file content => file content
  | .dir entries => dir entries fun entry _ => entryInduction file dir entry.2
termination_by node => sizeOf node
decreasing_by
  have hentry := List.sizeOf_lt_of_mem ‹entry ∈ entries›
  simp_wf
  rw [Prod.mk.sizeOf_spec] at hentry
  omega

/-- No directory that `descend` leads to has two entries with one name. -/
def WellFormed (node : Node) : Prop :=
  ∀ names entries, node.descend names = some (.dir entries) → (entries.map (·.1)).Nodup

/-- Where names are distinct, `List.lookup` finds an entry by its name. -/
theorem lookup_eq_some_iff {entries : List (String × Node)} (hnodup : (entries.map (·.1)).Nodup)
    {name : String} {node : Node} :
    entries.lookup name = some node ↔ (name, node) ∈ entries := by
  induction entries with
  | nil => simp
  | cons entry entries ih =>
    obtain ⟨first, other⟩ := entry
    rw [List.map_cons, List.nodup_cons] at hnodup
    rw [List.lookup_cons, List.mem_cons, Prod.mk.injEq]
    -- An entry behind the first one has another name.
    by_cases hname : name = first
    · subst hname
      have hrest : (name, node) ∉ entries := fun hmem => hnodup.1 (List.mem_map.2 ⟨_, hmem, rfl⟩)
      simp [hrest, eq_comm]
    · rw [beq_false_of_ne hname]
      simp [hname, ih hnodup.2]

theorem WellFormed.nodup {entries : List (String × Node)} (h : (dir entries).WellFormed) :
    (entries.map (·.1)).Nodup :=
  h [] entries rfl

/-- The entries of a well-formed directory are `WellFormed`. -/
theorem WellFormed.entry {entries : List (String × Node)} (h : (dir entries).WellFormed)
    {entry : String × Node} (hentry : entry ∈ entries) : entry.2.WellFormed := by
  intro names below hbelow
  refine h (entry.1 :: names) below ?_
  rw [descend, (lookup_eq_some_iff h.nodup).2 hentry]
  exact hbelow

@[simp] theorem wellFormed_file (content : Except IoFault String) : (file content).WellFormed := by
  intro names below hbelow
  cases names <;> exact nomatch hbelow

@[simp] theorem wellFormed_dir_iff {entries : List (String × Node)} :
    (dir entries).WellFormed ↔
      (entries.map (·.1)).Nodup ∧ ∀ entry ∈ entries, entry.2.WellFormed := by
  refine ⟨fun h => ⟨h.nodup, fun entry => h.entry⟩, ?_⟩
  rintro ⟨hnodup, hentries⟩ names below hbelow
  cases names with
  | nil =>
    cases hbelow
    exact hnodup
  | cons name names =>
    -- Directories further down are below some entry.
    obtain ⟨child, hchild, hbelow⟩ := Option.bind_eq_some_iff.1 hbelow
    exact hentries _ ((lookup_eq_some_iff hnodup).1 hchild) names below hbelow

/-! ## Walks -/

mutual
/-- The files of a tree in walking order, by the names that lead to them: `Node.files` without the
    paths. -/
def walk : Node → List (List String × Except IoFault String)
  | .file content => [([], content)]
  | .dir entries =>
    ((entriesWalk entries).mergeSort fun a b => a.1 ≤ b.1).flatMap fun entry =>
      entry.2.map fun file => (entry.1 :: file.1, file.2)

/-- The files below each entry of a directory, by the names that lead to them from the entry. -/
def entriesWalk :
    List (String × Node) → List (String × List (List String × Except IoFault String))
  | [] => []
  | (name, node) :: entries => (name, node.walk) :: entriesWalk entries
end

/-- Sorting does not look at what the entries hold. -/
theorem map_mergeSort_name {α β : Type} (f : String × α → β) (entries : List (String × α)) :
    (entries.map fun entry => (entry.1, f entry)).mergeSort (fun a b => a.1 ≤ b.1) =
      (entries.mergeSort fun a b => a.1 ≤ b.1).map fun entry => (entry.1, f entry) :=
  (List.map_mergeSort (f := fun entry : String × α => (entry.1, f entry)) fun _ _ _ _ => rfl).symm

theorem entriesWalk_eq_map (entries : List (String × Node)) :
    entriesWalk entries = entries.map fun entry => (entry.1, entry.2.walk) := by
  induction entries with
  | nil => rfl
  | cons entry entries ih => rw [entriesWalk, List.map_cons, ih]

theorem entriesFiles_eq_map (path : String) (entries : List (String × Node)) :
    entriesFiles path entries =
      entries.map fun entry => (entry.1, entry.2.files (Path.join path entry.1)) := by
  induction entries with
  | nil => rfl
  | cons entry entries ih => rw [entriesFiles, List.map_cons, ih]

/-- A `walk` through a directory goes through its entries one by one, sorted by name. -/
theorem walk_dir (entries : List (String × Node)) :
    (dir entries).walk = (entries.mergeSort fun a b => a.1 ≤ b.1).flatMap fun entry =>
      entry.2.walk.map fun file => (entry.1 :: file.1, file.2) := by
  rw [walk, entriesWalk_eq_map, map_mergeSort_name, List.flatMap_map]

theorem files_dir (path : String) (entries : List (String × Node)) :
    (dir entries).files path = (entries.mergeSort fun a b => a.1 ≤ b.1).flatMap fun entry =>
      entry.2.files (Path.join path entry.1) := by
  rw [files, entriesFiles_eq_map, map_mergeSort_name, List.flatMap_map]

/-- The paths in `files` come from the names that lead to the files. -/
theorem files_eq_map_walk (path : String) (node : Node) :
    node.files path = node.walk.map fun file => (Path.below path file.1, file.2) := by
  induction node using entryInduction generalizing path with
  | file content => rfl
  | dir entries ih =>
    rw [files_dir, walk_dir, List.map_flatMap]
    refine List.flatMap_congr fun entry hentry => ?_
    rw [ih entry (List.mem_mergeSort.1 hentry), List.map_map]
    rfl

/-- A `walk` comes to every file of the tree, and to nothing else. -/
theorem mem_walk_iff {node : Node} (hnode : node.WellFormed) {names : List String}
    {content : Except IoFault String} :
    (names, content) ∈ node.walk ↔ node.descend names = some (.file content) := by
  -- The names may lead further down into each entry, so they vary.
  induction node using entryInduction generalizing names with
  | file content' => cases names <;> simp [walk, descend, eq_comm]
  | dir entries ih =>
    rw [walk_dir, List.mem_flatMap]
    cases names with
    | nil => simp [descend]
    | cons name names =>
      rw [descend, Option.bind_eq_some_iff]
      constructor
      · rintro ⟨entry, hentry, hfile⟩
        rw [List.mem_mergeSort] at hentry
        obtain ⟨file, hwalk, hnames⟩ := List.mem_map.1 hfile
        obtain ⟨⟨rfl, rfl⟩, rfl⟩ := Prod.mk.injEq .. ▸ hnames
        exact ⟨entry.2, (lookup_eq_some_iff hnode.nodup).2 hentry,
          (ih entry hentry (hnode.entry hentry)).1 hwalk⟩
      · rintro ⟨child, hchild, hfile⟩
        have hentry := (lookup_eq_some_iff hnode.nodup).1 hchild
        exact ⟨(name, child), List.mem_mergeSort.2 hentry, List.mem_map.2
          ⟨(names, content), (ih _ hentry (hnode.entry hentry)).2 hfile, rfl⟩⟩

/-- A `walk` comes to the files in the order of the names that lead to them. -/
theorem pairwise_walk {node : Node} (hnode : node.WellFormed) :
    node.walk.Pairwise (·.1 < ·.1) := by
  induction node using entryInduction with
  | file content => exact List.pairwise_singleton ..
  | dir entries ih =>
    rw [walk_dir, List.pairwise_flatMap]
    constructor
    · -- Files below one entry share its name.
      intro entry hentry
      rw [List.mem_mergeSort] at hentry
      rw [List.pairwise_map]
      exact (ih entry hentry (hnode.entry hentry)).imp List.Lex.cons
    · -- The names of the entries are sorted and distinct, so that each is below the next.
      have hsorted : (entries.mergeSort fun a b => a.1 ≤ b.1).Pairwise (·.1 ≤ ·.1) :=
        pairwise_mergeSort_key entries
      have hdistinct : ((entries.mergeSort fun a b => a.1 ≤ b.1).map (·.1)).Nodup :=
        ((List.mergeSort_perm _ _).map _).nodup_iff.2 hnode.nodup
      refine (hsorted.and (List.pairwise_map.1 hdistinct)).imp ?_
      rintro entry entry' ⟨hle, hne⟩ file hfile file' hfile'
      obtain ⟨-, -, rfl⟩ := List.mem_map.1 hfile
      obtain ⟨-, -, rfl⟩ := List.mem_map.1 hfile'
      exact List.Lex.rel (lt_of_le_of_ne hle hne)

end Node

end IfaceGen
