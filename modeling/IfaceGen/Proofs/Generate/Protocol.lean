import IfaceGen.Generate.Run
import IfaceGen.Proofs.Imports.Build
import IfaceGen.Proofs.MethodSet.Embedding
import IfaceGen.Proofs.MethodSet.Memory
import Mathlib.Data.String.Basic

/-!
# The protocol of a run

What a run does, in which order, and where it stops, for every loader and every writer. Both may do
what they like to a state of their own, and the writer may refuse any file. The steps of a run fall
into blocks, one for each package, in the configured order; the first package that fails leaves a
block that breaks off, and it is the last one.

## Key results

- `Plan.block_of_carryOut`: the steps of one package make up its block
- `processAll_protocol`: blocks follow each other up to the first failure
- `loadAndGenerate_protocol`: loading comes first, and then the blocks
-/

namespace IfaceGen

/-! ## Steps -/

/-- What a run does for others to see: it reports an event, or it hands a file to the writer, which
    gives an answer. -/
inductive Step where
  | report (event : Event)
  | write (path : String) (file : File) (answer : Except WriteError Receipt)

/-- The `Action` of a step, to which the answer does not belong. -/
def Step.action : Step → Action
  | .report event => .report event
  | .write path file _ => .write path file

/-- Whether an action is a report or a write. Logging and printing are left to the side. -/
def Action.isStep : Action → Bool
  | .report _ | .write .. => true
  | .log _ | .print _ => false

section Environment

variable {σ : Type}

/-- The answers in the steps are those of the writer, which is called once for each write, in order,
    and nothing else touches the state. -/
inductive Answered (write : FileWriter (StateM σ)) : σ → List Step → σ → Prop
  | nil (s : σ) : Answered write s [] s
  | report {s s' : σ} {steps : List Step} (event : Event) (rest : Answered write s steps s') :
      Answered write s (.report event :: steps) s'
  | write {s s₁ s' : σ} {path : String} {file : File} {answer : Except WriteError Receipt}
      {steps : List Step} (call : (write path file).run s = (answer, s₁))
      (rest : Answered write s₁ steps s') : Answered write s (.write path file answer :: steps) s'

theorem Answered.append {write : FileWriter (StateM σ)} {s s₁ s' : σ} {steps more : List Step}
    (h : Answered write s steps s₁) (h' : Answered write s₁ more s') :
    Answered write s (steps ++ more) s' := by
  induction h with
  | nil => exact h'
  | report event _ ih => exact .report event (ih h')
  | write call _ ih => exact .write call (ih h')

theorem Answered.reports (write : FileWriter (StateM σ)) (s : σ) (events : List Event) :
    Answered write s (events.map .report) s := by
  induction events with
  | nil => exact .nil s
  | cons event events ih => exact .report event ih

end Environment

/-! ## Blocks -/

namespace Scope

/-- What is reported about a struct: without methods it is `skipped`, otherwise an interface with
    all of its methods is `generated`. -/
def verdict (scope : Scope) (suffix : String) (decl : TypeDecl) : Event :=
  if (scope.methodSet decl).value.isEmpty then .skipped decl.name .noMethods
  else .generated (decl.name ++ suffix) decl.name (scope.methodSet decl).value.length

/-- The events that open a block: the package is announced, and a verdict follows for each of its
    exported structs, in the order of their names. -/
def opening (scope : Scope) (suffix : String) : List Event :=
  .started scope.package.path :: (structDecls scope.package).map (scope.verdict suffix)

/-- The structs that get an interface: those that have methods. -/
def generatedDecls (scope : Scope) : List TypeDecl :=
  (structDecls scope.package).filter fun decl => !(scope.methodSet decl).value.isEmpty

/-- A file whose declarations are the interfaces of the structs that get one, in the same order. -/
def DeclaredBy (scope : Scope) (suffix : String) (file : File) : Prop :=
  List.Forall₂ (fun decl interface => interface.name = decl.name ++ suffix ∧
      interface.methods.map (·.name) = (scope.methodSet decl).value.map (·.name))
    scope.generatedDecls file.decls

/-- A list of the exported structs of a package, each of them once, in the order of their names. -/
structure StructsInOrder (package : Package) (decls : List TypeDecl) : Prop where
  perm : decls.Perm
    (package.types.filter fun decl => decl.isExported && decl.structFields?.isSome)
  sorted : decls.Pairwise (·.name ≤ ·.name)

theorem structsInOrder_structDecls (package : Package) :
    StructsInOrder package (structDecls package) := by
  refine ⟨List.mergeSort_perm _ _, ?_⟩
  have hsorted : (structDecls package).Pairwise fun a b => decide (a.name ≤ b.name) := by
    refine List.pairwise_mergeSort (fun a b c hab hbc => ?_) (fun a b => ?_) _
    · simp only [decide_eq_true_eq] at hab hbc ⊢
      exact le_trans hab hbc
    · simp only [Bool.or_eq_true, decide_eq_true_eq]
      exact le_total a.name b.name
  exact hsorted.imp fun h => of_decide_eq_true h

end Scope

/-- The steps that belong to the package at `path`, and how its processing ends. -/
inductive Block (config : Config) (program : Program) (path : String) :
    List Step → Except PackageError Unit → Prop
  /-- The package was not loaded, and nothing happens. -/
  | missing (absent : program.get? path = none) :
      Block config program path [] (.error .notLoaded)
  /-- The file cannot be built. -/
  | unbuilt {package : Package} {error : BuildError} (found : program.get? path = some package)
      (generates : Scope.generatedDecls ⟨package, program⟩ ≠ [])
      (builds : config.output.fileFor package (Scope.descriptors ⟨package, program⟩).value =
        .error error) :
      Block config program path
        ((Scope.opening ⟨package, program⟩ config.output.suffix).map .report)
        (.error (.build error))
  /-- The writer refuses the file. -/
  | refused {package : Package} {file : File} {error : WriteError}
      (found : program.get? path = some package)
      (generates : Scope.generatedDecls ⟨package, program⟩ ≠ [])
      (builds : config.output.fileFor package (Scope.descriptors ⟨package, program⟩).value =
        .ok (some file))
      (declares : Scope.DeclaredBy ⟨package, program⟩ config.output.suffix file) :
      Block config program path
        ((Scope.opening ⟨package, program⟩ config.output.suffix).map .report ++
          [.write (config.destination package.name) file (.error error)])
        (.error (.write error))
  /-- There is no interface to generate, and no file is written. -/
  | vacant {package : Package} (found : program.get? path = some package)
      (generates : Scope.generatedDecls ⟨package, program⟩ = []) :
      Block config program path
        ((Scope.opening ⟨package, program⟩ config.output.suffix).map .report ++
          [.report (.completed path 0)])
        (.ok ())
  /-- The file is written. -/
  | written {package : Package} {file : File} {receipt : Receipt}
      (found : program.get? path = some package)
      (generates : Scope.generatedDecls ⟨package, program⟩ ≠ [])
      (builds : config.output.fileFor package (Scope.descriptors ⟨package, program⟩).value =
        .ok (some file))
      (declares : Scope.DeclaredBy ⟨package, program⟩ config.output.suffix file) :
      Block config program path
        ((Scope.opening ⟨package, program⟩ config.output.suffix).map .report ++
          [.write (config.destination package.name) file (.ok receipt),
            .report (.completed path (Scope.generatedDecls ⟨package, program⟩).length)])
        (.ok ())

/-! ## Plans -/

namespace Scope

variable (scope : Scope)

/-- The descriptors with methods are those of the structs in `generatedDecls`. -/
theorem filter_descriptors :
    scope.descriptors.value.filter (·.hasMethods) = scope.generatedDecls.map fun decl =>
      ⟨scope.package.ref, decl.name, decl.typeParams, (scope.methodSet decl).value⟩ := by
  rw [value_descriptors, generatedDecls, List.filter_map]
  rfl

/-- What is reported about the descriptors is the `verdict` on their structs. -/
theorem reports_descriptors (output : OutputSettings) :
    output.reports scope.descriptors.value =
      (structDecls scope.package).map (scope.verdict output.suffix) := by
  rw [OutputSettings.reports, value_descriptors, List.map_map]
  refine List.map_congr_left fun decl _ => ?_
  simp only [Function.comp_apply, FileBuilder.outcome, StructDescriptor.hasMethods, verdict]
  cases (scope.methodSet decl).value with
  | nil => rfl
  | cons method methods => rfl

/-- A file that `fileFor` has built declares the interfaces of the structs that get one. -/
theorem declaredBy_of_fileFor {output : OutputSettings} {file : File}
    (h : output.fileFor scope.package scope.descriptors.value = .ok (some file)) :
    scope.DeclaredBy output.suffix file := by
  have hdecls := (OutputSettings.fileFor_eq_some h).2
  rw [filter_descriptors, List.forall₂_map_left_iff] at hdecls
  refine hdecls.imp fun decl interface hinterface => ?_
  exact ⟨(StructDescriptor.interface_eq_ok hinterface).1,
    StructDescriptor.methods_interface hinterface⟩

/-- There is no file from `fileFor` if and only if no struct gets an interface. -/
theorem fileFor_descriptors_eq_none_iff (output : OutputSettings) :
    output.fileFor scope.package scope.descriptors.value = .ok none ↔
      scope.generatedDecls = [] := by
  rw [OutputSettings.fileFor_eq_none_iff, filter_descriptors, List.map_eq_nil_iff]

end Scope

theorem filter_isStep_logs (records : List LogRecord) :
    (records.map Action.log).filter Action.isStep = [] := by
  simp [Action.isStep]

theorem filter_isStep_reports (events : List Event) :
    (events.map Action.report).filter Action.isStep = (events.map Step.report).map Step.action := by
  rw [List.map_map, List.filter_eq_self.2]
  · rfl
  · intro action haction
    obtain ⟨event, -, rfl⟩ := List.mem_map.1 haction
    rfl

/-- What a writer has to say (`Receipt.trace`) are no steps of the run. -/
theorem filter_isStep_receipt (receipt : Receipt) :
    receipt.trace.filter Action.isStep = [] := by
  rw [Receipt.trace, List.filter_append, filter_isStep_logs, List.nil_append]
  split
  · rfl
  · rfl

section Plan

variable {σ : Type} {config : Config} {program : Program} {package : Package}
  {collector : Collector}

/-- A plan reports the `opening` of the block. -/
theorem OutputSettings.filter_trace_plan (hcollector : collector.Faithful program)
    (hfound : program.get? package.path = some package) (output : OutputSettings) :
    (output.plan collector package program).trace.filter Action.isStep =
      ((Scope.opening ⟨package, program⟩ output.suffix).map .report).map Step.action := by
  have hanswer := (hcollector.collect hfound).1
  simp only [OutputSettings.plan, hanswer, List.filter_append, List.filter_cons, Action.isStep,
    filter_isStep_logs, filter_isStep_reports, Scope.reports_descriptors, Scope.opening,
    List.map_cons, if_true]
  rfl

/-- The file of a plan is made by `fileFor` from the descriptors that are computed. -/
theorem OutputSettings.planned_file (hcollector : collector.Faithful program)
    (hfound : program.get? package.path = some package) (output : OutputSettings) :
    (output.plan collector package program).file =
      output.fileFor package (Scope.descriptors ⟨package, program⟩).value := by
  rw [← (hcollector.collect hfound).1]
  rfl

/-- A plan counts the structs in `generatedDecls`. -/
theorem OutputSettings.planned_count (hcollector : collector.Faithful program)
    (hfound : program.get? package.path = some package) (output : OutputSettings) :
    (output.plan collector package program).interfaceCount =
      (Scope.generatedDecls ⟨package, program⟩).length := by
  show ((collector.collect package program).value.1.filter _).length = _
  rw [(hcollector.collect hfound).1, Scope.filter_descriptors, List.length_map]

/-- The steps of one package, as `carryOut` takes them, make up its `Block`. -/
theorem Plan.block_of_carryOut (hcollector : collector.Faithful program)
    (hfound : program.get? package.path = some package) {write : FileWriter (StateM σ)} {s s' : σ}
    {result : Except PackageError Unit} {trace : List Action}
    (h : ((config.output.plan collector package program).carryOut write
      (config.destination package.name) package.path).run s = ((result, trace), s')) :
    ∃ steps, trace.filter Action.isStep = steps.map Step.action ∧ Answered write s steps s' ∧
      Block config program package.path steps result := by
  have hopening := OutputSettings.filter_trace_plan hcollector hfound config.output
  have hfile := OutputSettings.planned_file hcollector hfound config.output
  have hcount := OutputSettings.planned_count hcollector hfound config.output
  -- All that matters of the plan is in these three facts.
  generalize config.output.plan collector package program = plan at h hopening hfile hcount
  have hvacant := Scope.fileFor_descriptors_eq_none_iff ⟨package, program⟩ config.output
  have hreports := Answered.reports write s (Scope.opening ⟨package, program⟩ config.output.suffix)
  unfold Plan.carryOut at h
  -- Whether there is a file decides how the block goes on.
  cases hplanned : plan.file with
  | error error =>
    simp only [hplanned] at h
    cases h
    rw [hplanned] at hfile
    refine ⟨_, hopening, hreports, .unbuilt hfound (fun hnone => ?_) hfile.symm⟩
    rw [hvacant.2 hnone] at hfile
    exact nomatch hfile
  | ok file? =>
    rw [hplanned] at hfile
    cases file? with
    | none =>
      simp only [hplanned] at h
      cases h
      refine ⟨_, ?_, hreports.append (.report _ (.nil s)), .vacant hfound (hvacant.1 hfile.symm)⟩
      rw [List.filter_append, hopening, List.map_append]
      rfl
    | some file =>
      have hgenerates : Scope.generatedDecls ⟨package, program⟩ ≠ [] := by
        intro hnone
        rw [hvacant.2 hnone] at hfile
        exact nomatch hfile
      have hdeclares := Scope.declaredBy_of_fileFor ⟨package, program⟩ hfile.symm
      simp only [hplanned, StateT.run_bind] at h
      -- The file is handed to the writer, which takes it or refuses it.
      generalize hcall : (write (config.destination package.name) file).run s = called at h
      obtain ⟨answer, s₁⟩ := called
      cases answer with
      | error error =>
        cases h
        refine ⟨_, ?_, hreports.append (.write hcall (.nil s₁)),
          .refused hfound hgenerates hfile.symm hdeclares⟩
        rw [List.filter_append, hopening, List.map_append]
        rfl
      | ok receipt =>
        cases h
        refine ⟨_, ?_, hreports.append (.write hcall (.report _ (.nil s₁))),
          .written hfound hgenerates hfile.symm hdeclares⟩
        rw [List.filter_append, List.filter_append, List.filter_append, hopening,
          filter_isStep_receipt, List.map_append, hcount, List.append_nil, List.append_assoc]
        rfl

end Plan

/-! ## Runs -/

/-- The steps of a run that processes the packages at `paths` in order, and how it ends. -/
inductive Protocol (config : Config) (program : Program) (paths : List String) :
    List Step → Except GenerateError Unit → Prop
  /-- All packages are processed to the end. -/
  | finished {blocks : List (List Step)}
      (complete : List.Forall₂ (Block config program · · (.ok ())) paths blocks) :
      Protocol config program paths blocks.flatten (.ok ())
  /-- Some packages are processed to the end, the next one fails, and nothing is done about the
      others. -/
  | stopped {done later : List String} {path : String} {blocks : List (List Step)}
      {last : List Step} {cause : PackageError} (split : paths = done ++ path :: later)
      (complete : List.Forall₂ (Block config program · · (.ok ())) done blocks)
      (fails : Block config program path last (.error cause)) :
      Protocol config program paths (blocks.flatten ++ last) (.error (.package path cause))

/-- A complete `Block` in front of the others. -/
theorem Protocol.cons {config : Config} {program : Program} {path : String} {paths : List String}
    {block steps : List Step} {result : Except GenerateError Unit}
    (hblock : Block config program path block (.ok ()))
    (h : Protocol config program paths steps result) :
    Protocol config program (path :: paths) (block ++ steps) result := by
  cases h with
  | finished complete => exact .finished (complete.cons hblock)
  | stopped split complete fails =>
    rw [← List.append_assoc]
    exact .stopped (congrArg (path :: ·) split) (complete.cons hblock) fails

section Run

variable {σ : Type} {config : Config} {program : Program}

/-- What is left of a run, when something was done before it (`Run.after`). -/
theorem exists_eq_after {x : StateM σ Run} {trace : List Action} {s s' : σ} {run : Run}
    (h : (do return (← x).after trace : StateM σ Run).run s = (run, s')) :
    ∃ rest, x.run s = (rest, s') ∧ run = rest.after trace := by
  have hstate : (x.run s).2 = s' := congrArg Prod.snd h
  have hrun : (x.run s).1.after trace = run := congrArg Prod.fst h
  exact ⟨(x.run s).1, Prod.ext rfl hstate, hrun.symm⟩

/-- In `processAll` blocks follow each other up to the first failure, and the collector remembers
    nothing but what it has computed. -/
theorem processAll_protocol {write : FileWriter (StateM σ)} {paths : List String}
    {collector : Collector} (hcollector : collector.Faithful program) {s s' : σ} {run : Run}
    (h : (processAll config write program collector paths).run s = (run, s')) :
    run.collector.Faithful program ∧
      ∃ steps, run.trace.filter Action.isStep = steps.map Step.action ∧
        Answered write s steps s' ∧ Protocol config program paths steps run.result := by
  induction paths generalizing collector s run with
  | nil =>
    cases h
    exact ⟨hcollector, [], rfl, .nil s', .finished .nil⟩
  | cons path paths ih =>
    rw [processAll] at h
    cases hfound : program.get? path with
    | none =>
      simp only [hfound] at h
      cases h
      exact ⟨hcollector, [], rfl, .nil s', .stopped rfl .nil (.missing hfound)⟩
    | some package =>
      obtain rfl : package.path = path := (Program.mem_of_get? hfound).2
      have hafter : (config.output.plan collector package program).collector.Faithful program :=
        (hcollector.collect hfound).2
      simp only [hfound, StateT.run_bind] at h
      generalize hcarried : ((config.output.plan collector package program).carryOut write
        (config.destination package.name) package.path).run s = carried at h
      obtain ⟨⟨result, trace⟩, s₁⟩ := carried
      obtain ⟨block, htrace, hanswered, hblock⟩ := Plan.block_of_carryOut hcollector hfound hcarried
      cases result with
      | error cause =>
        -- The block breaks off, and the run with it.
        cases h
        exact ⟨hafter, block, htrace, hanswered, .stopped rfl .nil hblock⟩
      | ok _ =>
        -- The block is complete, and the run goes on with the other packages.
        obtain ⟨rest, hrest, rfl⟩ := exists_eq_after h
        obtain ⟨hmemory, steps, hsteps, hlater, hprotocol⟩ := ih hafter hrest
        refine ⟨hmemory, block ++ steps, ?_, hanswered.append hlater, hprotocol.cons hblock⟩
        rw [Run.after, List.filter_append, htrace, hsteps, List.map_append]

/-- After loading, the run goes on with `generate`. -/
theorem run_loadAndGenerate {load : PackageLoader (StateM σ)} (write : FileWriter (StateM σ))
    (collector : Collector) {loaded : Logged (Except LoadError Program)} {s s₁ : σ}
    (h : (load config.paths).run s = (loaded, s₁)) :
    (loadAndGenerate config load write collector).run s =
      (generate config write loaded collector).run s₁ := by
  rw [loadAndGenerate, StateT.run_bind, h]
  rfl

/-- Loading comes first. If it fails, the run does nothing else; otherwise the steps of the run are
    the blocks of the packages, in the configured order, up to the first failure (`Protocol`). Each
    block has a `verdict` for every exported struct, in the order of their names. -/
theorem loadAndGenerate_protocol (config : Config) (load : PackageLoader (StateM σ))
    (write : FileWriter (StateM σ)) (s : σ) :
    (∃ loaded s₁ run s' steps, (load config.paths).run s = (loaded, s₁) ∧
      (loadAndGenerate config load write []).run s = (run, s') ∧
      run.trace.filter Action.isStep = steps.map Step.action ∧ Answered write s₁ steps s' ∧
      match loaded.value with
      | .error error => steps = [] ∧ run.result = .error (.load error)
      | .ok program => Protocol config program config.paths steps run.result) ∧
      ∀ package, Scope.StructsInOrder package (Scope.structDecls package) := by
  refine ⟨?_, Scope.structsInOrder_structDecls⟩
  cases hload : (load config.paths).run s with
  | mk loaded s₁ =>
    obtain ⟨value, log⟩ := loaded
    have hrun := run_loadAndGenerate write [] hload
    cases value with
    | error error =>
      refine ⟨_, _, _, _, [], rfl, hrun, ?_, .nil s₁, rfl, rfl⟩
      show (log.map Action.log ++ []).filter Action.isStep = []
      rw [List.append_nil]
      exact filter_isStep_logs log
    | ok program =>
      obtain ⟨-, steps, hsteps, hanswered, hprotocol⟩ :=
        processAll_protocol (Collector.faithful_nil program)
          (rfl : (processAll config write program [] config.paths).run s₁ = _)
      refine ⟨_, _, _, _, steps, rfl, hrun, ?_, hanswered, hprotocol⟩
      -- What the loader logged is no step.
      show (log.map Action.log ++ _).filter Action.isStep = _
      rw [List.filter_append, filter_isStep_logs, List.nil_append]
      exact hsteps

end Run

end IfaceGen
