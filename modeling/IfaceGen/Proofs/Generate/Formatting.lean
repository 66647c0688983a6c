import IfaceGen.Proofs.Generate.DryRun
import IfaceGen.Proofs.MethodSet.Naming

/-!
# No file is refused for a name

Before a file is written its declared names are looked at, and one that is no identifier makes the
writer refuse the file. For an accepted configuration and a well-named program this never happens:
whatever the packages are called and however many of them have the same name, every file that a run
hands to its writer declares identifiers only.

## Key results

- `Plan.carriedOut`: what carrying out a plan comes to
- `processAll_formats`: no run over well-named packages ends with a refused file
- `generate_formats`: the same for accepted configurations and whole runs
-/

namespace IfaceGen

section Runs

variable {σ : Type}

/-! ## Writers -/

/-- A writer that refuses a file for no other reason than a declared name that is no identifier. -/
def FileWriter.RefusesInvalid (write : FileWriter (StateM σ)) : Prop :=
  ∀ {path : String} {file : File} {s s' : σ} {destination name : String},
    (write path file).run s = (.error (.format destination name), s') →
      file.organizeImports.invalidIdentifier? = some name

theorem File.invalidIdentifier?_of_prepare {file : File} {path destination name : String}
    (h : file.prepare path = .error (.format destination name)) :
    file.organizeImports.invalidIdentifier? = some name := by
  rw [File.prepare] at h
  split at h
  · rename_i invalid hinvalid
    cases h
    exact hinvalid
  · cases h

theorem previewWriter_refusesInvalid (style : LayoutStyle) (colored : Bool) :
    (previewWriter (m := StateM σ) style colored).RefusesInvalid := by
  intro path file s s' destination name h
  -- The preview fails only where the file is not accepted for printing.
  have hanswer : ((file.prepare path).map fun file =>
      ({ printed := file.preview path style colored } : Receipt)) =
        .error (.format destination name) := congrArg Prod.fst h
  cases hprepare : file.prepare path with
  | error error =>
    rw [hprepare] at hanswer
    cases hanswer
    exact File.invalidIdentifier?_of_prepare hprepare
  | ok prepared =>
    rw [hprepare] at hanswer
    cases hanswer

theorem diskWriter_refusesInvalid (disk : Disk (StateM σ)) (style : LayoutStyle) :
    (diskWriter disk style).RefusesInvalid := by
  intro path file s s' destination name h
  obtain ⟨more, -, hstored⟩ := diskWriter_recording h []
  cases hstored with
  | refused hprepare => exact File.invalidIdentifier?_of_prepare hprepare
  | failed herror => exact nomatch herror

/-- The writers that a run can have: `diskWriter`, and `previewWriter`, which shows what would be
    written. -/
inductive FileWriter.Provided : FileWriter (StateM σ) → Prop
  | disk (disk : Disk (StateM σ)) (style : LayoutStyle) : Provided (diskWriter disk style)
  | preview (style : LayoutStyle) (colored : Bool) : Provided (previewWriter style colored)

theorem FileWriter.Provided.refusesInvalid {write : FileWriter (StateM σ)} (h : write.Provided) :
    write.RefusesInvalid := by
  cases h with
  | disk disk style => exact diskWriter_refusesInvalid disk style
  | preview style colored => exact previewWriter_refusesInvalid style colored

/-- `Action.writes` lists the writes among some actions. -/
theorem Action.mem_writes_iff {trace : List Action} {path : String} {file : File} :
    (path, file) ∈ Action.writes trace ↔ .write path file ∈ trace := by
  rw [Action.writes, List.mem_filterMap]
  constructor
  · rintro ⟨action, hmem, heq⟩
    cases action with
    | write => cases heq; exact hmem
    | report | log | print => cases heq
  · exact fun hmem => ⟨_, hmem, rfl⟩

/-! ## Plans -/

/-- What `Plan.carryOut` comes to: its result, what can be seen of it, and the state after it. -/
inductive Plan.CarriedOut (plan : Plan) (write : FileWriter (StateM σ)) (destination path : String)
    (s : σ) : Except PackageError Unit → List Action → σ → Prop
  /-- The file cannot be built. -/
  | unbuilt {error : BuildError} (file_eq : plan.file = .error error) :
      CarriedOut plan write destination path s (.error (.build error)) plan.trace s
  /-- There is no file to write. -/
  | vacant (file_eq : plan.file = .ok none) :
      CarriedOut plan write destination path s (.ok ())
        (plan.trace ++ [.report (.completed path 0)]) s
  /-- The writer does not write the file. -/
  | refused {file : File} {error : WriteError} {s' : σ} (file_eq : plan.file = .ok (some file))
      (call : (write destination file).run s = (.error error, s')) :
      CarriedOut plan write destination path s (.error (.write error))
        (plan.trace ++ [.write destination file]) s'
  /-- The file is written. -/
  | written {file : File} {receipt : Receipt} {s' : σ} (file_eq : plan.file = .ok (some file))
      (call : (write destination file).run s = (.ok receipt, s')) :
      CarriedOut plan write destination path s (.ok ())
        (plan.trace ++ [.write destination file] ++ receipt.trace ++
          [.report (.completed path plan.interfaceCount)]) s'

theorem Plan.carriedOut {plan : Plan} {write : FileWriter (StateM σ)} {destination path : String}
    {result : Except PackageError Unit} {trace : List Action} {s s' : σ}
    (h : (plan.carryOut write destination path).run s = ((result, trace), s')) :
    plan.CarriedOut write destination path s result trace s' := by
  unfold Plan.carryOut at h
  split at h
  · rename_i hfile
    cases h
    exact .unbuilt hfile
  · rename_i hfile
    cases h
    exact .vacant hfile
  · rename_i file hfile
    -- There is a file, and the writer is called.
    simp only [StateT.run_bind] at h
    rcases hanswer : (write destination file).run s with ⟨answer, s₁⟩
    rw [hanswer] at h
    cases answer with
    | error error =>
      cases h
      exact .refused hfile hanswer
    | ok receipt =>
      cases h
      exact .written hfile hanswer

/-- Nothing is written before an `OutputSettings.plan` is carried out. -/
theorem OutputSettings.write_not_mem_trace_plan (output : OutputSettings) (collector : Collector)
    (package : Package) (program : Program) (path : String) (file : File) :
    .write path file ∉ (output.plan collector package program).trace := by
  simp [OutputSettings.plan]

/-- What a writer says (`Receipt.trace`) are no files. -/
theorem Receipt.write_not_mem_trace (receipt : Receipt) (path : String) (file : File) :
    .write path file ∉ receipt.trace := by
  rw [Receipt.trace, List.mem_append, List.mem_map]
  split
  · simp
  · simp

/-- Only the file of the plan is handed to the writer by `carryOut`. -/
theorem Plan.CarriedOut.file_of_mem {plan : Plan} {write : FileWriter (StateM σ)}
    {destination path : String} {result : Except PackageError Unit} {trace : List Action}
    {s s' : σ} (h : plan.CarriedOut write destination path s result trace s') {at' : String}
    {file : File} (hplan : .write at' file ∉ plan.trace) (hmem : .write at' file ∈ trace) :
    plan.file = .ok (some file) := by
  -- Nothing but the call of the writer adds a write to the actions of the plan.
  cases h with
  | unbuilt file_eq => exact absurd hmem hplan
  | vacant file_eq =>
    rcases List.mem_append.1 hmem with hmem | hmem
    · exact absurd hmem hplan
    · cases List.mem_singleton.1 hmem
  | refused file_eq call =>
    rcases List.mem_append.1 hmem with hmem | hmem
    · exact absurd hmem hplan
    · cases List.mem_singleton.1 hmem
      exact file_eq
  | @written _ receipt _ file_eq call =>
    simp only [List.mem_append, List.mem_singleton, Action.write.injEq, reduceCtorEq,
      or_false] at hmem
    rcases hmem with (hmem | ⟨-, rfl⟩) | hmem
    · exact absurd hmem hplan
    · exact file_eq
    · exact absurd hmem (receipt.write_not_mem_trace at' file)

/-- The planned file of a well-named package has identifiers only as `declaredNames`. -/
theorem OutputSettings.isIdentifier_of_plan {output : OutputSettings} (houtput : output.WellNamed)
    {collector : Collector} (hcollector : collector.WellNamed) {package : Package}
    {program : Program} (hscope : (Scope.mk package program).WellNamed) {file : File}
    (hfile : (output.plan collector package program).file = .ok (some file)) :
    ∀ name ∈ file.declaredNames, isIdentifier name = true :=
  OutputSettings.isIdentifier_of_mem_declaredNames houtput hscope.package.name
    (hcollector.collect hscope).1 hfile

/-! ## Runs -/

/-- The only failures that `GenerateError.kind` classifies as refused files. -/
theorem GenerateError.exists_of_kind {error : GenerateError} (h : error.kind = .formatFailure) :
    ∃ path destination name, error = .package path (.write (.format destination name)) := by
  match error with
  | .config _ | .load _ | .package _ .notLoaded => cases h
  | .package _ (.write (.createDir ..)) | .package _ (.write (.write ..)) => cases h
  | .package path (.write (.format destination name)) => exact ⟨path, destination, name, rfl⟩
  | .package _ (.build cause) =>
    -- A failure to spell a type has a class of its own.
    rw [GenerateError.kind, PackageError.kind, SpellError.kind] at h
    split at h
    all_goals cases h

/-- Every file that `processAll` hands to the writer declares identifiers only, and no run ends with
    a file that is refused for a name in it. -/
theorem processAll_formats {config : Config} (houtput : config.output.WellNamed)
    {program : Program} (hprogram : ∀ package ∈ program, package.WellNamed)
    {write : FileWriter (StateM σ)} {paths : List String} {collector : Collector}
    (hcollector : collector.WellNamed) {s s' : σ} {run : Run}
    (h : (processAll config write program collector paths).run s = (run, s')) :
    (∀ path file, .write path file ∈ run.trace →
      ∀ name ∈ file.declaredNames, isIdentifier name = true) ∧
    (write.RefusesInvalid → ∀ error, run.result = .error error →
      error.kind ≠ .formatFailure) := by
  induction paths generalizing collector s run with
  | nil =>
    cases h
    refine ⟨fun _ _ hmem => absurd hmem List.not_mem_nil, fun _ _ herror => ?_⟩
    cases herror
  | cons first paths ih =>
    cases hfound : program.get? first with
    | none =>
      rw [processAll] at h
      simp only [hfound] at h
      cases h
      refine ⟨fun _ _ hmem => absurd hmem List.not_mem_nil, fun _ error herror => ?_⟩
      cases herror
      exact ErrorKind.noConfusion
    | some package =>
      have hscope : (Scope.mk package program).WellNamed :=
        ⟨hprogram package (Program.mem_of_get? hfound).1, hprogram⟩
      have hafter := (hcollector.collect hscope).2
      rcases hcarry : ((config.output.plan collector package program).carryOut write
        (config.destination package.name) package.path).run s with ⟨⟨result, trace⟩, s₁⟩
      have hcarried := Plan.carriedOut hcarry
      -- The plan hands out nothing, so a file of the trace is the one of the plan.
      have hfiles (path : String) (file : File) (hmem : .write path file ∈ trace) :
          ∀ name ∈ file.declaredNames, isIdentifier name = true := by
        have hnew := config.output.write_not_mem_trace_plan collector package program path file
        exact OutputSettings.isIdentifier_of_plan houtput hcollector hscope
          (hcarried.file_of_mem hnew hmem)
      rw [run_processAll_cons hfound hcarry] at h
      cases result with
      | error error =>
        cases h
        refine ⟨hfiles, fun hwrite found herror hkind => ?_⟩
        cases herror
        obtain ⟨path, destination, name, heq⟩ := GenerateError.exists_of_kind hkind
        cases heq
        -- The file is refused only for a name that is no identifier, and it has none.
        cases hcarried with
        | refused file_eq call =>
          have hinvalid := hwrite call
          rw [File.invalidIdentifier?_eq_none (OutputSettings.isIdentifier_of_plan houtput
            hcollector hscope file_eq)] at hinvalid
          cases hinvalid
      | ok _ =>
        obtain ⟨rest, hrest, rfl⟩ := exists_eq_after h
        obtain ⟨hlater, hkind⟩ := ih hafter hrest
        -- A file belongs to this package or to one behind it.
        refine ⟨fun path file hmem => ?_, hkind⟩
        rcases List.mem_append.1 hmem with hmem | hmem
        · exact hfiles path file hmem
        · exact hlater path file hmem

/-- No file of a well-named program is refused under an accepted configuration. Whatever the
    collector was asked before about well-named programs and whatever the writer does, every file
    that is handed to it declares identifiers only once its imports are organized, so that no writer
    refuses the file for a name in it, and no run ends with such a refusal. -/
theorem generate_formats {config : Config} (hconfig : config.violations = [])
    {calls : List (Package × Program)}
    (hcalls : ∀ call ∈ calls, (Scope.mk call.1 call.2).WellNamed) {program : Program}
    (hprogram : ∀ package ∈ program, package.WellNamed) {write : FileWriter (StateM σ)}
    {log : List LogRecord} {s s' : σ} {run : Run}
    (h : (generate config write ⟨.ok program, log⟩ (Collector.afterCalls [] calls)).run s =
      (run, s')) :
    (∀ path file, .write path file ∈ run.trace →
      file.organizeImports.invalidIdentifier? = none ∧
      (∀ name ∈ file.organizeImports.declaredNames, isIdentifier name = true) ∧
      ∀ writer : FileWriter (StateM σ), writer.Provided → ∀ t destination name,
        ((writer path file).run t).1 ≠ .error (.format destination name)) ∧
    (write.Provided → ∀ error, run.result = .error error → error.kind ≠ .formatFailure) := by
  obtain ⟨rest, hrest, rfl⟩ := exists_eq_after h
  obtain ⟨hfiles, hkind⟩ := processAll_formats (Config.output_wellNamed hconfig) hprogram
    (Collector.wellNamed_afterCalls hcalls) hrest
  refine ⟨fun path file hmem => ?_, fun hwrite => hkind hwrite.refusesInvalid⟩
  -- A write stands among the actions for the packages, not in the log of the loader.
  have hnames : ∀ name ∈ file.declaredNames, isIdentifier name = true := by
    rcases List.mem_append.1 hmem with hmem | hmem
    · obtain ⟨record, -, heq⟩ := List.mem_map.1 hmem
      cases heq
    · exact hfiles path file hmem
  have hvalid := File.invalidIdentifier?_eq_none hnames
  refine ⟨hvalid, fun name hname => hnames name (file.declaredNames_organizeImports hname),
    fun writer hwriter t destination name hanswer => ?_⟩
  have hinvalid := hwriter.refusesInvalid (Prod.ext hanswer rfl)
  rw [hvalid] at hinvalid
  cases hinvalid

end Runs

/-! ## Two packages of one name -/

namespace Library

/-- A package called `util` with one generic struct. -/
def shelf : Package where
  path := "example.com/shelf/util"
  name := "util"
  types := [⟨"Shelf", [⟨"T", .any⟩], .struct [],
    [⟨"Find", ⟨[⟨"key", .typeParam "T"⟩], [], false⟩⟩]⟩]
  errors := []

/-- A type of that package. -/
def shelfType (arg : GoType) : GoType := .named ⟨some shelf.ref, "Shelf"⟩ [arg]

/-- Another package named `util`, whose struct embeds a shelf of shelves. -/
def index : Package where
  path := "example.com/index/util"
  name := "util"
  types := [⟨"Übersicht", [⟨"K", .any⟩],
    .struct [⟨"Shelf", .pointer (shelfType (shelfType (.typeParam "K"))), true⟩], []⟩]
  errors := []

/-- A configuration with a suffix that is no identifier itself. -/
def config : Config where
  output := ⟨"mocks", "mocks", "\x7bpackage\x7d.go", "2nd"⟩
  paths := ["example.com/index/util"]

/-- Both packages. -/
def program : Program := [index, shelf]

/-- The run, and the tree after it. -/
def outcome : Run × Tree :=
  (generate config (diskWriter Tree.disk {}) ⟨.ok program, []⟩
    (Collector.afterCalls [] [(shelf, program)])).run ⟨.dir [], []⟩

theorem wellNamed_program : ∀ package ∈ program, package.WellNamed := by decide +kernel

/-- The alias with a number and the name with a suffix are identifiers, and the run succeeds. -/
theorem formats_index :
    (∃ file, .write "mocks/util.go" file ∈ outcome.1.trace ∧
      file.organizeImports.declaredNames = ["mocks", "util1", "Übersicht2nd", "K", "Find"] ∧
      file.organizeImports.invalidIdentifier? = none) ∧
    ∀ error, outcome.1.result = .error error → error.kind ≠ .formatFailure := by
  have hcalls : ∀ call ∈ [(shelf, program)], (Scope.mk call.1 call.2).WellNamed := by
    intro call hcall
    rw [List.mem_singleton.1 hcall]
    exact ⟨wellNamed_program shelf (by simp [program]), wellNamed_program⟩
  have hrun : (generate config (diskWriter Tree.disk {}) ⟨.ok program, []⟩
      (Collector.afterCalls [] [(shelf, program)])).run ⟨.dir [], []⟩ =
        (outcome.1, outcome.2) := by
    unfold outcome
    rfl
  obtain ⟨hfiles, hkind⟩ :=
    generate_formats (by decide +kernel) hcalls wellNamed_program hrun
  refine ⟨?_, hkind (.disk Tree.disk {})⟩
  -- The run writes one file, and its names are computed.
  have hwrites : (Action.writes outcome.1.trace).map (fun written =>
      (written.1, written.2.organizeImports.declaredNames)) =
        [("mocks/util.go", ["mocks", "util1", "Übersicht2nd", "K", "Find"])] := by
    decide +kernel
  obtain ⟨⟨path, file⟩, hwrite, heq⟩ := List.map_eq_singleton_iff.1 hwrites
  obtain ⟨rfl, hnames⟩ := Prod.mk.inj heq
  have hmem : .write "mocks/util.go" file ∈ outcome.1.trace := by
    rw [← Action.mem_writes_iff, hwrite]
    exact List.mem_singleton_self _
  exact ⟨file, hmem, hnames, (hfiles _ _ hmem).1⟩

end Library

end IfaceGen
