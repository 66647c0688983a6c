import IfaceGen.Generate.Run
import IfaceGen.Proofs.Disk.Frame
import IfaceGen.Proofs.List

/-!
# Files that a run overwrites

A run writes one file after the other and never looks whether a file is there already. Two packages
whose destinations are one place therefore share a file, and the one processed later wins.

## Key results

- `Tree.Recorded.write`: a write takes its place and leaves the others as they were
- `processAll_recorded`: after a run every place holds what was written there last
- `readText_generate_iff`: a package keeps its file if and only if the last package behind it with
  the same place has the same text
-/

namespace IfaceGen

/-! ## What a run writes -/

/-- A file that was generated for a package, with its imports organized. -/
structure Generated where
  package : Package
  file : File

/-- The files of the packages at `paths`, up to the first package that fails. -/
def Config.outputs (config : Config) (program : Program) :
    Collector → List String → List Generated
  | _, [] => []
  | collector, path :: paths =>
    match program.get? path with
    | none => []
    | some package =>
      let plan := config.output.plan collector package program
      match plan.file with
      | .error _ => []
      | .ok none => config.outputs program plan.collector paths
      | .ok (some file) =>
        match file.prepare (config.destination package.name) with
        | .error _ => []
        | .ok prepared => ⟨package, prepared⟩ :: config.outputs program plan.collector paths

/-- Where the file of a package goes. -/
def Generated.destination (config : Config) (generated : Generated) : String :=
  config.destination generated.package.name

/-- A write: where the file goes, and its text. -/
def Generated.toWrite (config : Config) (style : LayoutStyle) (generated : Generated) :
    String × String :=
  (generated.destination config, generated.file.text style)

theorem Generated.fst_toWrite (config : Config) (style : LayoutStyle) (generated : Generated) :
    (generated.toWrite config style).1 = generated.destination config := by
  rw [Generated.toWrite]

/-- A failure of a file operation. -/
inductive WriteError.OfDisk : WriteError → Prop
  | createDir (dir : String) (fault : IoFault) : OfDisk (.createDir dir fault)
  | write (path : String) (fault : IoFault) : OfDisk (.write path fault)

/-- A run that was stopped by a file operation (`WriteError.OfDisk`). -/
inductive GenerateError.OfDisk : GenerateError → Prop
  | package (path : String) {cause : WriteError} (h : cause.OfDisk) :
      OfDisk (.package path (.write cause))

/-! ## Writing on a tree -/

/-- What comes of writing a file to `path` on a tree. -/
inductive WriteOutcome (style : LayoutStyle) (path : String) (file : File) (tree : Tree) :
    Except WriteError Receipt → Tree → Prop
  /-- The file is not one that can be written. -/
  | refused {error : WriteError} (h : file.prepare path = .error error) :
      WriteOutcome style path file tree (.error error) tree
  /-- A file operation has failed. -/
  | failed {error : WriteError} {tree' : Tree} (h : error.OfDisk) (keeps : tree.Keeps none tree') :
      WriteOutcome style path file tree (.error error) tree'
  /-- The missing directories were made, and then the file was written. -/
  | written {prepared : File} {receipt : Receipt} {between tree' : Tree}
      (h : file.prepare path = .ok prepared) (keeps : tree.Keeps none between)
      (writes : between.writeText path (prepared.text style) = .ok tree') :
      WriteOutcome style path file tree (.ok receipt) tree'

theorem run_createDirAll (tree : Tree) (dir : String) :
    (Tree.disk.createDirAll dir).run tree = tree.createDirAll dir := rfl

theorem run_writeText (tree : Tree) (path text : String) :
    (Tree.disk.writeText path text).run tree = match tree.writeText path text with
      | .ok written => (.ok (), written)
      | .error fault => (.error fault, tree) := rfl

/-- The last step of writing a file, from a tree in which the directories are there, comes to one
    `WriteOutcome` or another. -/
theorem WriteOutcome.of_run {style : LayoutStyle} {path : String} {file prepared : File}
    {tree between tree' : Tree} {result : Except WriteError Receipt}
    {write : StateM Tree (Except WriteError Receipt)} (hprepare : file.prepare path = .ok prepared)
    (hkeeps : tree.Keeps none between) (hrun : write.run between = (result, tree'))
    (hok : ∀ written, between.writeText path (prepared.text style) = .ok written →
      ∃ receipt, write.run between = (.ok receipt, written))
    (herror : ∀ fault, between.writeText path (prepared.text style) = .error fault →
      write.run between = (.error (.write path fault), between)) :
    WriteOutcome style path file tree result tree' := by
  -- Whether the text can be written decides which of the two runs took place.
  cases hwrite : between.writeText path (prepared.text style) with
  | ok written =>
    obtain ⟨receipt, hwritten⟩ := hok written hwrite
    cases hrun.symm.trans hwritten
    exact .written hprepare hkeeps hwrite
  | error fault =>
    cases hrun.symm.trans (herror fault hwrite)
    exact .failed (.write path fault) hkeeps

/-- What `diskWriter` does is a `WriteOutcome`. -/
theorem diskWriter_outcome {style : LayoutStyle} {path : String} {file : File} {tree tree' : Tree}
    {result : Except WriteError Receipt} (htree : tree.WellFormed)
    (h : (diskWriter Tree.disk style path file).run tree = (result, tree')) :
    WriteOutcome style path file tree result tree' := by
  unfold diskWriter at h
  split at h
  · rename_i error hprepare
    cases h
    exact .refused hprepare
  · rename_i prepared hprepare
    -- A file in the current directory needs no directory; any other one does.
    cases hdir : requiredDir? path with
    | none =>
      simp only [hdir] at h
      refine .of_run hprepare (.refl none tree) h (fun written hwrite => ?_) fun fault hwrite => ?_
      · simp only [StateT.run_bind, run_writeText, hwrite]
        exact ⟨_, rfl⟩
      · simp only [StateT.run_bind, run_writeText, hwrite]
        rfl
    | some dir =>
      have hkeeps := Tree.createDirAll_keeps htree dir
      simp only [hdir, StateT.run_bind, run_createDirAll] at h
      generalize tree.createDirAll dir = made at h hkeeps
      obtain ⟨result', between⟩ := made
      cases result' with
      | ok _ =>
        refine .of_run hprepare hkeeps h (fun written hwrite => ?_) fun fault hwrite => ?_
        · simp only [StateT.run_bind, run_writeText, hwrite]
          exact ⟨_, rfl⟩
        · simp only [StateT.run_bind, run_writeText, hwrite]
          rfl
      | error fault =>
        cases h
        exact .failed (.createDir dir fault) hkeeps

/-! ## A sequence of writes -/

/-- Every write has left its text, unless a later one went to the same place. -/
structure Tree.Recorded (tree : Tree) (writes : List (String × String)) : Prop where
  located : ∀ write ∈ writes, ∃ place, tree.locate write.1 = .ok place
  last : ∀ before path text after, writes = before ++ (path, text) :: after →
    (∀ later ∈ after, tree.locate later.1 ≠ tree.locate path) → tree.readText path = .ok text

namespace Tree.Recorded

theorem nil (tree : Tree) : tree.Recorded [] where
  located _ h := nomatch h
  last before path text after h := by
    have hlength := congrArg List.length h
    rw [List.length_append, List.length_cons, List.length_nil] at hlength
    omega

/-- Places that `locate` told apart before an operation are told apart after it. -/
theorem locate_ne {written : Option (List String)} {tree tree' : Tree}
    (hkeeps : tree.Keeps written tree') {path other : String} {place place' : Place}
    (hplace : tree.locate path = .ok place) (hplace' : tree.locate other = .ok place')
    (h : tree'.locate path ≠ tree'.locate other) : tree.locate path ≠ tree.locate other := by
  rw [hkeeps.locate hplace, hkeeps.locate hplace'] at h
  rw [hplace, hplace']
  exact h

/-- An operation that writes nothing changes nothing about the writes before: the tree stays
    `Recorded`. -/
theorem keeps {tree tree' : Tree} {writes : List (String × String)} (h : tree.Recorded writes)
    (htree : tree.WellFormed) (hkeeps : tree.Keeps none tree') : tree'.Recorded writes where
  located write hwrite := by
    obtain ⟨place, hplace⟩ := h.located write hwrite
    exact ⟨place, hkeeps.locate hplace⟩
  last before path text after heq hlater := by
    -- The write and those behind it are among all the writes.
    have hmem {write : String × String} (hwrite : write ∈ (path, text) :: after) :
        write ∈ writes := heq ▸ List.mem_append_right before hwrite
    obtain ⟨place, hplace⟩ := h.located _ (hmem List.mem_cons_self)
    refine hkeeps.readText htree (h.last before path text after heq fun later hafter => ?_)
      fun _ _ _ => nofun
    obtain ⟨place', hplace'⟩ := h.located _ (hmem (List.mem_cons_of_mem _ hafter))
    exact locate_ne hkeeps hplace' hplace (hlater later hafter)

/-- A write takes its place and leaves the others as they were, so that the tree is `Recorded` with
    it. -/
theorem write {tree tree' : Tree} {writes : List (String × String)} (h : tree.Recorded writes)
    (htree : tree.WellFormed) {path text : String} (hwrite : tree.writeText path text = .ok tree') :
    tree'.Recorded (writes ++ [(path, text)]) := by
  obtain ⟨dir, name, hplace, -, hkeeps, -⟩ := Tree.writeText_keeps htree hwrite
  have hlocated : ∀ write ∈ writes ++ [(path, text)], ∃ place, tree.locate write.1 = .ok place := by
    intro write hmem
    rcases List.mem_append.1 hmem with hmem | hmem
    · exact h.located write hmem
    · rw [List.mem_singleton.1 hmem]
      exact ⟨_, hplace⟩
  refine ⟨fun write hmem => ?_, fun before path' text' after heq hlater => ?_⟩
  · obtain ⟨place, hplace⟩ := hlocated write hmem
    exact ⟨place, hkeeps.locate hplace⟩
  · rcases List.eq_nil_or_concat after with rfl | ⟨after, latest, rfl⟩
    · -- The write is the latest one.
      obtain ⟨-, hlatest⟩ := List.append_inj' heq rfl
      cases hlatest
      exact Tree.readText_writeText htree hwrite
    · -- The write came earlier, and the latest one went somewhere else.
      rw [List.concat_eq_append, ← List.cons_append, ← List.append_assoc] at heq
      obtain ⟨hbefore, hlatest⟩ := List.append_inj' heq rfl
      obtain rfl : (path, text) = latest := List.singleton_inj.1 hlatest
      have hmem {write : String × String} (hmem : write ∈ (path', text') :: after) :
          write ∈ writes := hbefore ▸ List.mem_append_right before hmem
      obtain ⟨place', hplace'⟩ := h.located _ (hmem List.mem_cons_self)
      have hother : tree.locate path ≠ tree.locate path' :=
        locate_ne hkeeps hplace hplace' (hlater (path, text) (by simp))
      refine Tree.readText_writeText_of_ne htree hwrite hother.symm
        (h.last before path' text' after hbefore fun later hafter => ?_)
      obtain ⟨place, hplace⟩ := h.located _ (hmem (List.mem_cons_of_mem _ hafter))
      refine locate_ne hkeeps hplace hplace' (hlater later ?_)
      rw [List.concat_eq_append]
      exact List.mem_append_left _ hafter

end Tree.Recorded

/-! ## A run -/

/-- The rest of a run, when something was done before it (`Run.after`). -/
theorem exists_rest {x : StateM Tree Run} {trace : List Action} {tree tree' : Tree} {run : Run}
    (h : (do return (← x).after trace : StateM Tree Run).run tree = (run, tree')) :
    ∃ rest, x.run tree = (rest, tree') ∧ run.result = rest.result := by
  have hstate : (x.run tree).2 = tree' := congrArg Prod.snd h
  have hrun : (x.run tree).1.after trace = run := congrArg Prod.fst h
  exact ⟨(x.run tree).1, Prod.ext rfl hstate, hrun ▸ rfl⟩

/-- After `processAll` every place holds what was written there last. -/
theorem processAll_recorded {config : Config} {style : LayoutStyle} {program : Program}
    {paths : List String} {collector : Collector} {writes : List (String × String)}
    {tree tree' : Tree} {run : Run} (htree : tree.WellFormed) (hwrites : tree.Recorded writes)
    (hrun : (processAll config (diskWriter Tree.disk style) program collector paths).run tree =
      (run, tree'))
    (hdisk : ∀ error, run.result = .error error → ¬ error.OfDisk) :
    tree'.WellFormed ∧ tree'.Recorded (writes ++
      (config.outputs program collector paths).map (·.toWrite config style)) := by
  induction paths generalizing collector writes tree run with
  | nil =>
    cases hrun
    rw [Config.outputs, List.map_nil, List.append_nil]
    exact ⟨htree, hwrites⟩
  | cons path paths ih =>
    rw [processAll] at hrun
    rw [Config.outputs]
    cases hpackage : program.get? path with
    | none =>
      -- The run stops, and nothing is written any more.
      simp only [hpackage] at hrun
      cases hrun
      rw [List.map_nil, List.append_nil]
      exact ⟨htree, hwrites⟩
    | some package =>
      simp only [hpackage] at hrun ⊢
      unfold Plan.carryOut at hrun
      cases hfile : (config.output.plan collector package program).file with
      | error error =>
        simp only [hfile] at hrun ⊢
        cases hrun
        rw [List.map_nil, List.append_nil]
        exact ⟨htree, hwrites⟩
      | ok file? =>
        cases file? with
        | none =>
          -- There is nothing to write, and the run goes on.
          simp only [hfile] at hrun ⊢
          obtain ⟨rest, hrest, hresult⟩ := exists_rest hrun
          exact ih htree hwrites hrest fun error herror => hdisk error (hresult.trans herror)
        | some file =>
          simp only [hfile, bind_assoc, StateT.run_bind] at hrun ⊢
          generalize hwrite : (diskWriter Tree.disk style (config.destination package.name)
            file).run tree = outcome at hrun
          obtain ⟨result, between⟩ := outcome
          have houtcome := diskWriter_outcome htree hwrite
          cases houtcome with
          | refused hprepare =>
            simp only [hprepare]
            cases hrun
            rw [List.map_nil, List.append_nil]
            exact ⟨htree, hwrites⟩
          | failed herror hkeeps =>
            -- File operations do not fail in this run.
            cases hrun
            exact absurd (.package path herror) (hdisk _ rfl)
          | @written prepared receipt made _ hprepare hkeeps hwritten =>
            -- The write is recorded, and the run goes on from the tree after it.
            simp only [hprepare]
            obtain ⟨rest, hrest, hresult⟩ := exists_rest hrun
            have hmade := hkeeps.wellFormed htree
            obtain ⟨_, _, -, -, hkeeps', -⟩ := Tree.writeText_keeps hmade hwritten
            have hrecorded := (hwrites.keeps htree hkeeps).write hmade hwritten
            have hall := ih (hkeeps'.wellFormed hmade) hrecorded hrest
              fun error herror => hdisk error (hresult.trans herror)
            rw [List.append_assoc] at hall
            exact hall

/-- A package keeps its file after `generate` if and only if the last package behind it whose file
    went to the same place has the same text. -/
theorem readText_generate_iff {config : Config} {style : LayoutStyle}
    {loaded : Logged (Except LoadError Program)} {program : Program} {collector : Collector}
    {tree tree' : Tree} {run : Run} (htree : tree.WellFormed)
    (hloaded : loaded.value = .ok program)
    (hrun : (generate config (diskWriter Tree.disk style) loaded collector).run tree =
      (run, tree'))
    (hdisk : ∀ error, run.result = .error error → ¬ error.OfDisk)
    {before after : List Generated} {own : Generated}
    (houtputs : config.outputs program collector config.paths = before ++ own :: after) :
    tree'.readText (own.destination config) = .ok (own.file.text style) ↔
      ∀ between other rest, after = between ++ other :: rest →
        tree'.locate (other.destination config) = tree'.locate (own.destination config) →
        (∀ later ∈ rest, tree'.locate (later.destination config) ≠
          tree'.locate (own.destination config)) →
        other.file.text style = own.file.text style := by
  rw [generate, hloaded] at hrun
  obtain ⟨rest, hrest, hresult⟩ := exists_rest hrun
  have hrecorded := (processAll_recorded htree (.nil tree) hrest
    fun error herror => hdisk error (hresult.trans herror)).2
  rw [List.nil_append, houtputs, List.map_append, List.map_cons] at hrecorded
  -- The last file that went to the place of `other` is read there.
  have hlast {between rest : List Generated} {other : Generated}
      (hafter : after = between ++ other :: rest)
      (hsame : tree'.locate (other.destination config) = tree'.locate (own.destination config))
      (hlater : ∀ later ∈ rest, tree'.locate (later.destination config) ≠
        tree'.locate (own.destination config)) :
      tree'.readText (own.destination config) = .ok (other.file.text style) := by
    rw [← Tree.readText_congr hsame]
    refine hrecorded.last (before.map (·.toWrite config style) ++ own.toWrite config style ::
      between.map (·.toWrite config style)) _ _ (rest.map (·.toWrite config style)) ?_ ?_
    · rw [hafter, List.map_append, List.map_cons, List.append_assoc, List.cons_append]
      rfl
    · intro later hmem
      obtain ⟨generated, hgenerated, rfl⟩ := List.mem_map.1 hmem
      rw [hsame, Generated.fst_toWrite]
      exact hlater generated hgenerated
  constructor
  · intro hown between other rest hafter hsame hlater
    exact Except.ok.inj ((hlast hafter hsame hlater).symm.trans hown)
  · intro htexts
    -- If a later file went to the place, the last of these is read there, else the own one is.
    by_cases hshared : ∃ other ∈ after,
        tree'.locate (other.destination config) = tree'.locate (own.destination config)
    · obtain ⟨between, other, rest, hafter, hsame, hlater⟩ := exists_last hshared
      rw [hlast hafter hsame hlater, htexts between other rest hafter hsame hlater]
    · refine hrecorded.last (before.map (·.toWrite config style)) (own.destination config)
        (own.file.text style) (after.map (·.toWrite config style)) rfl
        fun later hmem hsame => hshared ?_
      obtain ⟨generated, hgenerated, rfl⟩ := List.mem_map.1 hmem
      rw [Generated.fst_toWrite] at hsame
      exact ⟨generated, hgenerated, hsame⟩

/-! ## Two packages of one name -/

namespace Twins

/-- A package `util` whose only struct has one method. -/
def package (dir struct method : String) : Package where
  path := "example.com/" ++ dir ++ "/util"
  name := "util"
  types := [⟨struct, [], .struct [], [⟨method, .empty⟩]⟩]
  errors := []

/-- A configuration for two packages that differ in their paths. -/
def config : Config where
  output := ⟨"mocks", "mocks", "\x7bpackage\x7d.go", "Iface"⟩
  paths := ["example.com/a/util", "example.com/b/util"]

/-- The packages. -/
def program : Program := [package "a" "Reader" "Read", package "b" "Writer" "Write"]

/-- The tree before the run. -/
def tree : Tree := ⟨.dir [("mocks", .dir [])], []⟩

/-- The run, and the tree after it. -/
def outcome : Run × Tree :=
  (generate config (diskWriter Tree.disk {}) ⟨.ok program, []⟩ []).run tree

theorem wellFormed_tree : tree.WellFormed := ⟨_, rfl⟩

/-- The run succeeds. -/
theorem result_outcome : outcome.1.result = .ok () := by
  have hok : outcome.1.result.toBool = true := by decide +kernel
  cases hresult : outcome.1.result with
  | ok _ => rfl
  | error error =>
    rw [hresult] at hok
    exact nomatch hok

/-- Both packages have a file for the same place. -/
theorem exists_outputs : ∃ own other : Generated,
    config.outputs program [] config.paths = [own, other] ∧
      own.destination config = "mocks/util.go" ∧ other.destination config = "mocks/util.go" ∧
      own.file.text {} = "package mocks\n\ntype ReaderIface interface \x7b\n\tRead()\n\x7d\n" ∧
      other.file.text {} =
        "package mocks\n\ntype WriterIface interface \x7b\n\tWrite()\n\x7d\n" := by
  have hwrites : (config.outputs program [] config.paths).map (·.toWrite config {}) =
      [("mocks/util.go", "package mocks\n\ntype ReaderIface interface \x7b\n\tRead()\n\x7d\n"),
        ("mocks/util.go",
          "package mocks\n\ntype WriterIface interface \x7b\n\tWrite()\n\x7d\n")] := by
    decide +kernel
  obtain ⟨own, rest, houtputs, hown, hrest⟩ := List.map_eq_cons_iff.1 hwrites
  obtain ⟨other, rfl, hother⟩ := List.map_eq_singleton_iff.1 hrest
  rw [Generated.toWrite, Prod.mk.injEq] at hown hother
  exact ⟨own, other, houtputs, hown.1, hother.1, hown.2, hother.2⟩

/-- Under a configuration without `violations` a run may succeed and yet overwrite the file of one
    package with that of another. -/
theorem exists_overwritten : ∃ (config : Config) (program : Program) (tree tree' : Tree) (run : Run)
    (own other : Generated), config.violations = [] ∧ tree.WellFormed ∧
      (generate config (diskWriter Tree.disk {}) ⟨.ok program, []⟩ []).run tree = (run, tree') ∧
      run.result = .ok () ∧ config.outputs program [] config.paths = [own, other] ∧
      tree'.readText (own.destination config) ≠ .ok (own.file.text {}) := by
  obtain ⟨own, other, houtputs, hplace, -, htext, -⟩ := exists_outputs
  refine ⟨config, program, tree, outcome.2, outcome.1, own, other, by decide +kernel,
    wellFormed_tree, rfl, result_outcome, houtputs, fun hread => ?_⟩
  have hwritten : (outcome.2.readText "mocks/util.go").toOption =
      some "package mocks\n\ntype WriterIface interface \x7b\n\tWrite()\n\x7d\n" := by
    decide +kernel
  rw [hplace, htext] at hread
  rw [hread] at hwritten
  exact absurd hwritten (by decide)

/-- The package in front has lost its file, the one behind it has kept its own. -/
theorem readText_outcome : ∃ own other : Generated,
    config.outputs program [] config.paths = [own, other] ∧
      outcome.2.readText (own.destination config) ≠ .ok (own.file.text {}) ∧
      outcome.2.readText (other.destination config) = .ok (other.file.text {}) := by
  obtain ⟨own, other, houtputs, hplace, hplace', htext, htext'⟩ := exists_outputs
  have hdisk : ∀ error, outcome.1.result = .error error → ¬ error.OfDisk := by
    intro error herror
    rw [result_outcome] at herror
    exact nomatch herror
  have hrun : (generate config (diskWriter Tree.disk {}) ⟨.ok program, []⟩ []).run tree =
      (outcome.1, outcome.2) := by
    unfold outcome
    rfl
  have hfront : config.outputs program [] config.paths = [] ++ own :: [other] := houtputs
  have hback : config.outputs program [] config.paths = [own] ++ other :: [] := houtputs
  -- Behind the first package comes one for the same place, and behind the second one none.
  have hown := readText_generate_iff wellFormed_tree rfl hrun hdisk hfront
  have hother := readText_generate_iff wellFormed_tree rfl hrun hdisk hback
  refine ⟨own, other, houtputs, fun hread => ?_, hother.2 ?_⟩
  · have hsame := hown.1 hread [] other [] rfl (by rw [hplace, hplace']) fun _ h => nomatch h
    rw [htext, htext'] at hsame
    exact absurd hsame (by decide)
  · intro between later rest hafter
    exact absurd hafter (by simp)

end Twins

end IfaceGen
