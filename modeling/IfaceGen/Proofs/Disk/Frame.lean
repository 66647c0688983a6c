import IfaceGen.Disk.Tree
import IfaceGen.Proofs.Except

/-!
# What operations on the file tree leave alone

Making directories and writing a file keep every directory and every other file, so that a path that
has once been located leads to the same place ever after.

## Key results

- `Node.descend_put_keeps`: what is put at one place leaves all other places alone
- `Tree.createDirAll_keeps`: making directories keeps all files
- `Tree.writeText_keeps`: writing a file keeps all other files
- `Tree.readText_writeText`: what was written is read
- `Tree.Keeps.readText`: the text of a file that was not written is still read
-/

namespace IfaceGen

namespace Node

/-! ## Entries -/

theorem lookup_setEntry_self (name : String) (node : Node) (entries : List (String × Node)) :
    (setEntry name node entries).lookup name = some node := by
  induction entries with
  | nil => simp [setEntry]
  | cons entry entries ih =>
    obtain ⟨other, old⟩ := entry
    rw [setEntry]
    -- The first entry of the name is the one that is set and the one that is found.
    by_cases hname : other = name
    · simp [hname]
    · rw [if_neg hname, List.lookup_cons]
      have hne : (name == other) = false := by simpa using Ne.symm hname
      rw [hne]
      exact ih

theorem lookup_setEntry_of_ne {name other : String} (h : other ≠ name) (node : Node)
    (entries : List (String × Node)) :
    (setEntry name node entries).lookup other = entries.lookup other := by
  induction entries with
  | nil => simp [setEntry, h]
  | cons entry entries ih =>
    obtain ⟨first, old⟩ := entry
    rw [setEntry]
    by_cases hname : first = name
    · have hne : (other == first) = false := by simpa [hname] using h
      rw [if_pos hname, List.lookup_cons, List.lookup_cons, hne, ← hname, hne]
    · rw [if_neg hname, List.lookup_cons, List.lookup_cons, ih]

/-! ## Places -/

theorem descend_append (names more : List String) (node : Node) :
    descend (names ++ more) node = (descend names node).bind (descend more) := by
  induction names generalizing node with
  | nil => rfl
  | cons name names ih =>
    cases node with
    | file content => rfl
    | dir entries =>
      rw [List.cons_append, descend, descend]
      cases entries.lookup name with
      | none => rfl
      | some next => exact ih next

/-- A directory stays a directory, and a file stays as it is; what a directory holds may change. -/
inductive Keeps : Node → Node → Prop
  | file (content : Except IoFault String) : Keeps (.file content) (.file content)
  | dir (entries entries' : List (String × Node)) : Keeps (.dir entries) (.dir entries')

theorem Keeps.refl (node : Node) : node.Keeps node := by
  cases node with
  | file content => exact .file content
  | dir entries => exact .dir entries entries

/-- What `put` puts into a directory is found there. -/
theorem descend_put_self {dir : List String} {name : String} {node : Node}
    {entries : List (String × Node)} (hdir : descend dir node = some (.dir entries))
    (new : Node) : descend (dir ++ [name]) (put new (dir ++ [name]) node) = some new := by
  -- Each directory on the way gets a new entry in place of the old one.
  induction dir generalizing node with
  | nil =>
    obtain rfl : node = .dir entries := Option.some.inj hdir
    rw [List.nil_append, put, descend, lookup_setEntry_self]
    rfl
  | cons first dir ih =>
    cases node with
    | file content => exact nomatch hdir
    | dir above =>
      obtain ⟨child, hchild, hdir⟩ := Option.bind_eq_some_iff.1 hdir
      rw [List.cons_append, put, descend, lookup_setEntry_self, hchild]
      exact ih hdir

/-- What `put` puts into a directory, in place of anything but a directory, leaves all other places
    alone. -/
theorem descend_put_keeps {dir : List String} {name : String} {node : Node}
    {entries : List (String × Node)} (hdir : descend dir node = some (.dir entries))
    (hold : ∀ old, descend (dir ++ [name]) node ≠ some (.dir old)) (new : Node)
    {other : List String} (hother : other ≠ dir ++ [name]) {found : Node}
    (hfound : descend other node = some found) :
    ∃ found', descend other (put new (dir ++ [name]) node) = some found' ∧ found.Keeps found' := by
  -- Walk down along both ways until they part or the place is reached.
  induction dir generalizing node other with
  | nil =>
    obtain rfl : node = .dir entries := Option.some.inj hdir
    rw [List.nil_append, put]
    cases other with
    | nil =>
      obtain rfl : Node.dir entries = found := Option.some.inj hfound
      exact ⟨_, rfl, .dir _ _⟩
    | cons first rest =>
      obtain ⟨child, hchild, hrest⟩ := Option.bind_eq_some_iff.1 hfound
      by_cases hfirst : first = name
      · -- Nothing was found below the place, where no directory was.
        subst hfirst
        cases rest with
        | nil => exact absurd rfl hother
        | cons second rest =>
          cases child with
          | file content => exact nomatch hrest
          | dir old =>
            refine absurd ?_ (hold old)
            rw [List.nil_append, descend, hchild]
            rfl
      · -- The way branches off here, and the rest of it is as it was.
        refine ⟨found, ?_, .refl found⟩
        rw [descend, lookup_setEntry_of_ne hfirst, hchild]
        exact hrest
  | cons above dir ih =>
    cases node with
    | file content => exact nomatch hdir
    | dir top =>
      obtain ⟨child, hchild, hinner⟩ := Option.bind_eq_some_iff.1 hdir
      rw [List.cons_append, put, hchild]
      cases other with
      | nil =>
        obtain rfl : Node.dir top = found := Option.some.inj hfound
        exact ⟨_, rfl, .dir _ _⟩
      | cons first rest =>
        obtain ⟨next, hnext, hrest⟩ := Option.bind_eq_some_iff.1 hfound
        by_cases hfirst : first = above
        · -- The way goes on in the directory that has changed.
          subst hfirst
          obtain rfl : child = next := Option.some.inj (hchild.symm.trans hnext)
          have hold' : ∀ old, descend (dir ++ [name]) child ≠ some (.dir old) := by
            intro old hdescend
            refine hold old ?_
            rw [List.cons_append, descend, hchild]
            exact hdescend
          rw [descend, lookup_setEntry_self]
          exact ih hinner hold' (fun heq => hother (heq ▸ rfl)) hrest
        · refine ⟨found, ?_, .refl found⟩
          rw [descend, lookup_setEntry_of_ne hfirst, hnext]
          exact hrest

end Node

namespace Tree

/-! ## Trees -/

/-- There is a directory at the place that `names` lead to. -/
def IsDirAt (tree : Tree) (names : List String) : Prop :=
  ∃ entries, tree.root.descend names = some (.dir entries)

/-- The current directory (`Tree.current`) is a directory. -/
def WellFormed (tree : Tree) : Prop :=
  tree.IsDirAt tree.current

/-- What an operation keeps that writes at most the file at `written`. -/
structure Keeps (written : Option (List String)) (tree tree' : Tree) : Prop where
  current_eq : tree'.current = tree.current
  dirs : ∀ names, tree.IsDirAt names → tree'.IsDirAt names
  files : ∀ names content, some names ≠ written →
    tree.root.descend names = some (.file content) →
    tree'.root.descend names = some (.file content)

theorem Keeps.refl (written : Option (List String)) (tree : Tree) : tree.Keeps written tree :=
  ⟨rfl, fun _ h => h, fun _ _ _ h => h⟩

/-- Operations that write nothing (`Keeps none`) may come first. -/
theorem Keeps.trans {written : Option (List String)} {tree between tree' : Tree}
    (h : tree.Keeps none between) (h' : between.Keeps written tree') :
    tree.Keeps written tree' where
  current_eq := h'.current_eq.trans h.current_eq
  dirs names hnames := h'.dirs names (h.dirs names hnames)
  files names content hwritten hfile :=
    h'.files names content hwritten (h.files names content (nomatch ·) hfile)

/-- The directory above a directory (`Tree.IsDirAt`) is a directory, and the root is above
    itself. -/
theorem IsDirAt.dropLast {tree : Tree} {names : List String} (h : tree.IsDirAt names) :
    tree.IsDirAt names.dropLast := by
  obtain ⟨entries, hentries⟩ := h
  rcases List.eq_nil_or_concat names with rfl | ⟨above, last, rfl⟩
  · exact ⟨entries, hentries⟩
  · -- Whatever has an entry is a directory.
    rw [List.concat_eq_append] at hentries ⊢
    rw [Node.descend_append] at hentries
    rw [List.dropLast_concat]
    obtain ⟨node, hnode, hlast⟩ := Option.bind_eq_some_iff.1 hentries
    cases node with
    | file content => exact nomatch hlast
    | dir found => exact ⟨found, hnode⟩

theorem IsDirAt.nil {tree : Tree} {names : List String} (h : tree.IsDirAt names) :
    tree.IsDirAt [] := by
  obtain ⟨entries, hentries⟩ := h
  cases hroot : tree.root with
  | file content =>
    rw [hroot] at hentries
    cases names with
    | nil => exact nomatch hentries
    | cons name names => exact nomatch hentries
  | dir found => exact ⟨found, congrArg some hroot⟩

theorem Keeps.wellFormed {written : Option (List String)} {tree tree' : Tree}
    (h : tree.Keeps written tree') (htree : tree.WellFormed) : tree'.WellFormed := by
  rw [WellFormed, h.current_eq]
  exact h.dirs _ htree

theorem lookUp_eq_ok {tree : Tree} {dir : List String} {name : String} {found : Option Node} :
    tree.lookUp dir name = .ok found ↔
      name.utf8ByteSize ≤ Path.maxNameLength ∧ tree.root.descend (dir ++ [name]) = found := by
  unfold lookUp
  by_cases hlong : name.utf8ByteSize > Path.maxNameLength
  · rw [if_pos hlong]
    exact ⟨(nomatch ·), fun h => absurd h.1 (Nat.not_le.2 hlong)⟩
  · rw [if_neg hlong]
    exact ⟨fun h => ⟨Nat.not_lt.1 hlong, Except.ok.inj h⟩, fun h => congrArg _ h.2⟩

/-- Going through directories with `enter` ends in a directory. -/
theorem isDirAt_of_enter {tree : Tree} {here names dir : List String}
    (h : tree.enter here names = .ok dir) (hhere : tree.IsDirAt here) : tree.IsDirAt dir := by
  induction names generalizing here with
  | nil =>
    rw [enter] at h
    cases h
    exact hhere
  | cons name names ih =>
    -- A single dot stays, two dots go up, and any other name has to lead to a directory.
    rw [enter] at h
    split at h
    · exact ih h hhere
    · split at h
      · exact ih h hhere.dropLast
      · split at h
        · exact nomatch h
        · exact nomatch h
        · exact nomatch h
        · rename_i entries hlook
          exact ih h ⟨entries, (lookUp_eq_ok.1 hlook).2⟩

/-- The way that `enter` takes through directories stays open. -/
theorem Keeps.enter {written : Option (List String)} {tree tree' : Tree}
    (hkeeps : tree.Keeps written tree') {here names dir : List String}
    (h : tree.enter here names = .ok dir) : tree'.enter here names = .ok dir := by
  induction names generalizing here with
  | nil => exact h
  | cons name names ih =>
    rw [Tree.enter] at h ⊢
    by_cases hdot : name = "."
    · rw [if_pos hdot] at h ⊢
      exact ih h
    · rw [if_neg hdot] at h ⊢
      by_cases hdots : name = ".."
      · rw [if_pos hdots] at h ⊢
        exact ih h
      · rw [if_neg hdots] at h ⊢
        split at h
        · exact nomatch h
        · exact nomatch h
        · exact nomatch h
        · -- The directory is still there, maybe with other entries.
          rename_i entries hlook
          obtain ⟨hshort, hentries⟩ := lookUp_eq_ok.1 hlook
          obtain ⟨entries', hentries'⟩ := hkeeps.dirs _ ⟨entries, hentries⟩
          rw [lookUp_eq_ok.2 ⟨hshort, hentries'⟩]
          exact ih h

/-! ## Paths -/

/-- The directory from which a path starts. -/
def base (tree : Tree) (path : String) : List String :=
  if Path.isAbsolute path then [] else tree.current

theorem WellFormed.isDirAt_base {tree : Tree} (h : tree.WellFormed) (path : String) :
    tree.IsDirAt (tree.base path) := by
  unfold base
  split
  · exact IsDirAt.nil h
  · exact h

/-- The place of a path, when the directory of its last name is known, as `locate` tells it from
    that name. -/
def placeIn (path last : String) (dir : List String) : Place :=
  if last = "." then .directory dir
  else if last = ".." then .directory dir.dropLast
  else .entry dir last (Path.endsInSlash path)

/-- What it takes for `locate` to find the place of a path. -/
theorem locate_eq_ok {tree : Tree} {path : String} {place : Place}
    (h : tree.locate path = .ok place) :
    Path.fault? path = none ∧ path.isEmpty = false ∧
      ((Path.names path).getLast? = none ∧ place = .directory [] ∨
        ∃ last dir, (Path.names path).getLast? = some last ∧
          tree.enter (tree.base path) (Path.names path).dropLast = .ok dir ∧
          place = placeIn path last dir) := by
  unfold locate at h
  split at h
  · exact nomatch h
  · rename_i hfault
    split at h
    · exact nomatch h
    · rename_i hempty
      refine ⟨hfault, by simpa using hempty, ?_⟩
      simp only at h
      split at h
      · -- Slashes alone lead to the root.
        rename_i hnames
        cases h
        exact .inl ⟨hnames, rfl⟩
      · rename_i last hnames
        rw [bind_eq_ok] at h
        obtain ⟨dir, hdir, h⟩ := h
        refine .inr ⟨last, dir, hnames, hdir, ?_⟩
        -- The last name is looked at in the order in which `locate` does it.
        unfold placeIn
        by_cases hdot : last = "."
        · rw [if_pos hdot] at h ⊢
          exact (Except.ok.inj h).symm
        · rw [if_neg hdot] at h ⊢
          by_cases hdots : last = ".."
          · rw [if_pos hdots] at h ⊢
            exact (Except.ok.inj h).symm
          · rw [if_neg hdots] at h ⊢
            exact (Except.ok.inj h).symm

/-- A path that `locate` has found stays where it is. -/
theorem Keeps.locate {written : Option (List String)} {tree tree' : Tree}
    (hkeeps : tree.Keeps written tree') {path : String} {place : Place}
    (h : tree.locate path = .ok place) : tree'.locate path = .ok place := by
  obtain ⟨hfault, hempty, ⟨hnames, rfl⟩ | ⟨last, dir, hnames, hdir, rfl⟩⟩ := locate_eq_ok h
  · unfold Tree.locate
    simp only [hfault, hempty, hnames]
    rfl
  · -- The path starts from the same directory and goes the same way.
    have hbase : tree'.base path = tree.base path := by
      rw [base, base, hkeeps.current_eq]
    have hdir' := hkeeps.enter hdir
    rw [← hbase, base] at hdir'
    unfold Tree.locate
    simp only [hfault, hempty, hnames, Bool.false_eq_true, ↓reduceIte, hdir']
    unfold placeIn
    split
    · rfl
    · split
      · rfl
      · rfl

/-- The directory of an entry that `locate` finds is a directory. -/
theorem isDirAt_of_locate {tree : Tree} (htree : tree.WellFormed) {path : String}
    {dir : List String} {name : String} {slash : Bool}
    (h : tree.locate path = .ok (.entry dir name slash)) : tree.IsDirAt dir := by
  obtain ⟨-, -, ⟨-, hplace⟩ | ⟨last, found, -, hdir, hplace⟩⟩ := locate_eq_ok h
  · exact nomatch hplace
  · -- Dots lead to directories, so that an entry is not one of them.
    unfold placeIn at hplace
    split at hplace
    · exact nomatch hplace
    · split at hplace
      · exact nomatch hplace
      · cases hplace
        exact isDirAt_of_enter hdir (htree.isDirAt_base path)

/-- A place that dots lead to is a directory (`Place.directory`). -/
theorem isDirAt_of_locate_directory {tree : Tree} (htree : tree.WellFormed) {path : String}
    {names : List String} (h : tree.locate path = .ok (.directory names)) :
    tree.IsDirAt names := by
  obtain ⟨-, -, ⟨-, hplace⟩ | ⟨last, dir, -, hdir, hplace⟩⟩ := locate_eq_ok h
  · -- The path is the root, a directory itself, or the directory above.
    cases hplace
    exact IsDirAt.nil htree
  · have hisDir := isDirAt_of_enter hdir (htree.isDirAt_base path)
    unfold placeIn at hplace
    split at hplace
    · cases hplace
      exact hisDir
    · split at hplace
      · cases hplace
        exact hisDir.dropLast
      · exact nomatch hplace

/-! ## Operations -/

/-- A `put` in place of anything but a directory keeps all other places. -/
theorem put_keeps {tree : Tree} {dir : List String} {name : String} (hdir : tree.IsDirAt dir)
    (hold : ¬ tree.IsDirAt (dir ++ [name])) (node : Node) :
    tree.Keeps (some (dir ++ [name])) (tree.put (dir ++ [name]) node) := by
  obtain ⟨entries, hentries⟩ := hdir
  have hold' (old : List (String × Node)) :
      tree.root.descend (dir ++ [name]) ≠ some (.dir old) := fun h => hold ⟨old, h⟩
  refine ⟨rfl, fun names hnames => ?_, fun names content hwritten hfile => ?_⟩
  · -- A directory is at another place, because none was at this one.
    have hother : names ≠ dir ++ [name] := fun heq => hold (heq ▸ hnames)
    obtain ⟨found, hfound⟩ := hnames
    obtain ⟨_, hfound', hkeeps⟩ := Node.descend_put_keeps hentries hold' node hother hfound
    cases hkeeps with
    | dir _ entries' => exact ⟨entries', hfound'⟩
  · have hother : names ≠ dir ++ [name] := fun heq => hwritten (heq ▸ rfl)
    obtain ⟨_, hfound', hkeeps⟩ := Node.descend_put_keeps hentries hold' node hother hfile
    cases hkeeps with
    | file => exact hfound'

/-- `makeDir` keeps everything. -/
theorem makeDir_keeps {tree tree' : Tree} (htree : tree.WellFormed) {path : String}
    (h : tree.makeDir path = .ok tree') : tree.Keeps none tree' := by
  rw [makeDir, bind_eq_ok] at h
  obtain ⟨place, hplace, h⟩ := h
  split at h
  · exact nomatch h
  · rename_i dir name slash
    rw [bind_eq_ok] at h
    obtain ⟨found, hlook, h⟩ := h
    split at h
    · exact nomatch h
    · cases h
      have hnone := (lookUp_eq_ok.1 hlook).2
      have hold : ¬ tree.IsDirAt (dir ++ [name]) := by
        rintro ⟨old, hdir⟩
        rw [hnone] at hdir
        exact nomatch hdir
      have hput := put_keeps (isDirAt_of_locate htree hplace) hold (.dir [])
      refine ⟨hput.current_eq, hput.dirs, fun names content _ hfile => ?_⟩
      -- There was no file at the new place.
      refine hput.files names content (fun heq => ?_) hfile
      rw [Option.some.inj heq, hnone] at hfile
      exact nomatch hfile

theorem ensureDir_keeps {tree : Tree} (htree : tree.WellFormed) (path : String) :
    tree.Keeps none (tree.ensureDir path).2 := by
  unfold ensureDir
  split
  · rename_i made hmade
    exact makeDir_keeps htree hmade
  · exact .refl none tree

/-- `createDirAll` keeps everything, also when it fails half way. -/
theorem createDirAll_keeps {tree : Tree} (htree : tree.WellFormed) (path : String) :
    tree.Keeps none (tree.createDirAll path).2 := by
  -- The cases are: the empty path, a missing parent that has no name, one that was made, one that
  -- could not be made, and a path above which nothing is missing.
  induction path using createDirAll.induct tree with
  | case1 path hempty =>
    rw [createDirAll, if_pos hempty]
    exact .refl none tree
  | case2 path hempty hmissing hparent =>
    rw [createDirAll, if_neg hempty, hmissing]
    simp only
    split
    · exact .refl none tree
    · rename_i parent hsome
      rw [hparent] at hsome
      exact nomatch hsome
  | case3 path hempty hmissing parent hparent _ made hmade ih =>
    rw [hmade] at ih
    rw [createDirAll, if_neg hempty, hmissing]
    simp only
    split
    · exact .refl none tree
    · rename_i parent' hparent'
      obtain rfl : parent = parent' := Option.some.inj (hparent.symm.trans hparent')
      rw [hmade]
      exact ih.trans (ensureDir_keeps (ih.wellFormed htree) path)
  | case4 path hempty hmissing parent hparent _ hfailed ih =>
    rw [createDirAll, if_neg hempty, hmissing]
    simp only
    split
    · exact .refl none tree
    · rename_i parent' hparent'
      obtain rfl : parent = parent' := Option.some.inj (hparent.symm.trans hparent')
      split
      · rename_i made hmade
        exact (hfailed made hmade).elim
      · exact ih
  | case5 path hempty hother =>
    rw [createDirAll, if_neg hempty]
    split
    · rename_i hmissing
      exact (hother hmissing).elim
    · exact ensureDir_keeps htree path

/-- `writeText` keeps everything but the file, which has the text afterwards. -/
theorem writeText_keeps {tree tree' : Tree} (htree : tree.WellFormed) {path text : String}
    (h : tree.writeText path text = .ok tree') :
    ∃ dir name, tree.locate path = .ok (.entry dir name false) ∧
      name.utf8ByteSize ≤ Path.maxNameLength ∧
      tree.Keeps (some (dir ++ [name])) tree' ∧
      tree'.root.descend (dir ++ [name]) = some (.file (.ok text)) := by
  rw [writeText, bind_eq_ok] at h
  obtain ⟨place, hplace, h⟩ := h
  split at h
  · exact nomatch h
  · exact nomatch h
  · rename_i dir name
    rw [bind_eq_ok] at h
    obtain ⟨found, hlook, h⟩ := h
    obtain ⟨hshort, hfound⟩ := lookUp_eq_ok.1 hlook
    split at h
    · exact nomatch h
    · rename_i hnotDir
      cases h
      -- A file or nothing was at the place, never a directory.
      have hdir := isDirAt_of_locate htree hplace
      have hold : ¬ tree.IsDirAt (dir ++ [name]) := by
        rintro ⟨old, hold⟩
        exact hnotDir old (hfound.symm.trans hold)
      obtain ⟨entries, hentries⟩ := hdir
      exact ⟨dir, name, hplace, hshort, put_keeps ⟨entries, hentries⟩ hold _,
        Node.descend_put_self hentries _⟩

/-! ## Reading -/

/-- What it takes for `readText` to succeed. -/
theorem readText_eq_ok {tree : Tree} (htree : tree.WellFormed) {path text : String} :
    tree.readText path = .ok text ↔
      ∃ dir name, tree.locate path = .ok (.entry dir name false) ∧
        name.utf8ByteSize ≤ Path.maxNameLength ∧
        tree.root.descend (dir ++ [name]) = some (.file (.ok text)) := by
  rw [readText, bind_eq_ok, find]
  constructor
  · rintro ⟨node, hfind, hnode⟩
    obtain ⟨place, hplace, hfind⟩ := bind_eq_ok.1 hfind
    cases node with
    | dir entries => exact nomatch hnode
    | file content =>
      obtain rfl : content = .ok text := hnode
      cases place with
      | directory names =>
        -- There is a directory at such a place, and no file.
        obtain ⟨entries, hentries⟩ := isDirAt_of_locate_directory htree hplace
        simp only [hentries] at hfind
        exact nomatch hfind
      | entry dir name slash =>
        obtain ⟨found, hlook, hfind⟩ := bind_eq_ok.1 hfind
        obtain ⟨hshort, hfound⟩ := lookUp_eq_ok.1 hlook
        cases found with
        | none => exact nomatch hfind
        | some found =>
          -- Behind a slash only a directory is found.
          cases slash with
          | false =>
            obtain rfl : found = .file (.ok text) := Except.ok.inj hfind
            exact ⟨dir, name, hplace, hshort, hfound⟩
          | true =>
            cases found with
            | file content => exact nomatch hfind
            | dir entries => exact nomatch hfind
  · rintro ⟨dir, name, hplace, hshort, hfile⟩
    refine ⟨.file (.ok text), bind_eq_ok.2 ⟨_, hplace, ?_⟩, rfl⟩
    exact bind_eq_ok.2 ⟨_, lookUp_eq_ok.2 ⟨hshort, hfile⟩, rfl⟩

/-- What `writeText` has written, `readText` reads. -/
theorem readText_writeText {tree tree' : Tree} (htree : tree.WellFormed) {path text : String}
    (h : tree.writeText path text = .ok tree') : tree'.readText path = .ok text := by
  obtain ⟨dir, name, hplace, hshort, hkeeps, hfile⟩ := writeText_keeps htree h
  exact (readText_eq_ok (hkeeps.wellFormed htree)).2
    ⟨dir, name, hkeeps.locate hplace, hshort, hfile⟩

/-- The text of a file is still read after an operation that has not written this file
    (`Tree.Keeps`). -/
theorem Keeps.readText {written : Option (List String)} {tree tree' : Tree}
    (hkeeps : tree.Keeps written tree') (htree : tree.WellFormed) {path text : String}
    (h : tree.readText path = .ok text)
    (hother : ∀ dir name, tree.locate path = .ok (.entry dir name false) →
      some (dir ++ [name]) ≠ written) : tree'.readText path = .ok text := by
  obtain ⟨dir, name, hplace, hshort, hfile⟩ := (readText_eq_ok htree).1 h
  exact (readText_eq_ok (hkeeps.wellFormed htree)).2 ⟨dir, name, hkeeps.locate hplace, hshort,
    hkeeps.files _ _ (hother dir name hplace) hfile⟩

/-- Paths to one place lead `readText` to one text. -/
theorem readText_congr {tree : Tree} {path other : String}
    (h : tree.locate path = tree.locate other) : tree.readText path = tree.readText other := by
  rw [readText, readText, find, find, h]

/-- `writeText` leaves the texts at other places as they are. -/
theorem readText_writeText_of_ne {tree tree' : Tree} (htree : tree.WellFormed)
    {path text other kept : String} (h : tree.writeText path text = .ok tree')
    (hother : tree.locate other ≠ tree.locate path) (hkept : tree.readText other = .ok kept) :
    tree'.readText other = .ok kept := by
  obtain ⟨dir, name, hplace, -, hkeeps, -⟩ := writeText_keeps htree h
  -- Entries of one directory with one name are at one place.
  refine hkeeps.readText htree hkept fun dir' name' hplace' heq => hother ?_
  obtain ⟨rfl, hname⟩ := List.append_inj' (Option.some.inj heq) rfl
  obtain rfl : name' = name := List.singleton_inj.1 hname
  rw [hplace, hplace']

end Tree

end IfaceGen
