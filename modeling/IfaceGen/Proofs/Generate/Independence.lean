import IfaceGen.Proofs.Generate.Protocol
import IfaceGen.Proofs.MethodSet.Agreement

/-!
# Packages do not influence each other

What a run does for a package depends on the package, on the packages that own the types which are
reached from its structs, and on the shape of the output. It does not matter which packages come
before it, nor what else was loaded. This is about two runs at once: with loaders and writers of
their own, over states of their own.

## Key results

- `Block.writes_eq` / `Block.events_eq`: what can be seen of a block, from the descriptors alone
- `Visit.exists_trace_eq`: where the actions for a package stand in the trace of the whole run
- `Visit.independent`: two runs do the same for a package
-/

namespace IfaceGen

/-! ## What can be seen of a block -/

namespace Action

/-- Events are steps in the sense of `isStep`. -/
theorem events_filter_isStep (trace : List Action) :
    events (trace.filter isStep) = events trace := by
  rw [events, List.filterMap_filter, events]
  refine List.filterMap_congr fun action _ => ?_
  cases action with
  | _ => rfl

/-- Writes are steps in the sense of `isStep`. -/
theorem writes_filter_isStep (trace : List Action) :
    writes (trace.filter isStep) = writes trace := by
  rw [writes, List.filterMap_filter, writes]
  refine List.filterMap_congr fun action _ => ?_
  cases action with
  | _ => rfl

theorem events_append (trace more : List Action) :
    events (trace ++ more) = events trace ++ events more :=
  List.filterMap_append

theorem writes_append (trace more : List Action) :
    writes (trace ++ more) = writes trace ++ writes more :=
  List.filterMap_append

theorem events_reports (reports : List Event) :
    events ((reports.map Step.report).map Step.action) = reports := by
  rw [events, List.map_map, List.filterMap_map]
  exact List.filterMap_some

theorem writes_reports (reports : List Event) :
    writes ((reports.map Step.report).map Step.action) = [] := by
  rw [writes, List.map_map, List.filterMap_map]
  exact List.filterMap_none reports

end Action

/-- What is handed to the writer for a package with the given descriptors. -/
def Config.handed (config : Config) (package : Package) (descriptors : List StructDescriptor) :
    List (String × File) :=
  match config.output.fileFor package descriptors with
  | .ok (some file) => [(config.destination package.name, file)]
  | _ => []

section Block

variable {config : Config} {program : Program} {package : Package} {path : String}
  {steps : List Step} {result : Except PackageError Unit}

/-- What stands in a `Block` behind its opening: at most one write, and the report of its
    completion. -/
theorem Block.exists_tail (h : Block config program path steps result)
    (hfound : program.get? path = some package) :
    ∃ tail, steps =
        (Scope.opening ⟨package, program⟩ config.output.suffix).map Step.report ++ tail ∧
      Action.writes (tail.map Step.action) =
        config.handed package (Scope.descriptors ⟨package, program⟩).value ∧
      Action.events (tail.map Step.action) = if result.isOk then
        [.completed path (Scope.generatedDecls ⟨package, program⟩).length] else [] := by
  unfold Config.handed
  -- The ways in which a block can end.
  cases h with
  | missing absent =>
    rw [hfound] at absent
    cases absent
  | unbuilt found generates builds =>
    cases hfound.symm.trans found
    rw [builds]
    exact ⟨[], (List.append_nil _).symm, rfl, rfl⟩
  | refused found generates builds =>
    cases hfound.symm.trans found
    rw [builds]
    exact ⟨_, rfl, rfl, rfl⟩
  | vacant found generates =>
    cases hfound.symm.trans found
    rw [(Scope.fileFor_descriptors_eq_none_iff ⟨package, program⟩ config.output).2 generates,
      generates]
    exact ⟨_, rfl, rfl, rfl⟩
  | written found generates builds =>
    cases hfound.symm.trans found
    rw [builds]
    exact ⟨_, rfl, rfl, rfl⟩

/-- The file of a `Block` is the one that is built from the descriptors. -/
theorem Block.writes_eq (h : Block config program path steps result)
    (hfound : program.get? path = some package) :
    Action.writes (steps.map Step.action) =
      config.handed package (Scope.descriptors ⟨package, program⟩).value := by
  obtain ⟨tail, rfl, hwrites, -⟩ := h.exists_tail hfound
  rw [List.map_append, Action.writes_append, Action.writes_reports, hwrites, List.nil_append]

/-- The events of a `Block` are its opening, and the report of its completion if it is complete. -/
theorem Block.events_eq (h : Block config program path steps result)
    (hfound : program.get? path = some package) :
    Action.events (steps.map Step.action) =
      Scope.opening ⟨package, program⟩ config.output.suffix ++ if result.isOk then
        [.completed path (Scope.generatedDecls ⟨package, program⟩).length] else [] := by
  obtain ⟨tail, rfl, -, hevents⟩ := h.exists_tail hfound
  rw [List.map_append, Action.events_append, Action.events_reports, hevents]

end Block

/-- `carryOut` comes to the end if the file could be built and the writer takes it. -/
theorem Plan.isOk_carryOut {σ : Type} (plan : Plan) (write : FileWriter (StateM σ))
    (destination path : String) (s : σ) :
    ((plan.carryOut write destination path).run s).1.1.isOk =
      match plan.file with
      | .error _ => false
      | .ok none => true
      | .ok (some file) => ((write destination file).run s).1.isOk := by
  unfold Plan.carryOut
  cases plan.file with
  | error error => rfl
  | ok file? =>
    cases file? with
    | none => rfl
    | some file =>
      simp only [StateT.run_bind]
      generalize (write destination file).run s = called
      obtain ⟨answer, s₁⟩ := called
      cases answer with
      | error error => rfl
      | ok receipt => rfl

/-! ## The place of a package in a run -/

section Run

variable {σ : Type} {config : Config} {program : Program} {write : FileWriter (StateM σ)}

/-- If the packages in front do not fail, `processAll` goes on with the others where those have left
    it. -/
theorem processAll_append {collector : Collector} {before : List String} {s s₁ : σ} {front : Run}
    (h : (processAll config write program collector before).run s = (front, s₁))
    (hok : front.result = .ok ()) (paths : List String) :
    (processAll config write program collector (before ++ paths)).run s =
      (((processAll config write program front.collector paths).run s₁).1.after front.trace,
        ((processAll config write program front.collector paths).run s₁).2) := by
  -- The induction is on the packages in front; their collector and their trace are handed on.
  induction before generalizing collector s front with
  | nil =>
    cases h
    rfl
  | cons path before ih =>
    rw [List.cons_append, processAll]
    rw [processAll] at h
    cases hfound : program.get? path with
    | none =>
      -- A package that is missing would have failed.
      simp only [hfound] at h
      cases h
      cases hok
    | some package =>
      simp only [hfound, StateT.run_bind] at h ⊢
      generalize ((config.output.plan collector package program).carryOut write
        (config.destination package.name) package.path).run s = carried at h ⊢
      obtain ⟨⟨result, trace⟩, s₂⟩ := carried
      cases result with
      | error error =>
        cases h
        cases hok
      | ok _ =>
        -- What is left of the run in front goes on like the run as a whole.
        obtain ⟨rest, hrest, rfl⟩ := exists_eq_after h
        show (((processAll config write program _ (before ++ paths)).run s₂).1.after trace,
          ((processAll config write program _ (before ++ paths)).run s₂).2) = _
        rw [ih hrest hok]
        simp only [Run.after, List.append_assoc]

/-- `processAll` begins with the actions for its first package. -/
theorem exists_trace_processAll (config : Config) (write : FileWriter (StateM σ))
    (collector : Collector) {package : Package} (hfound : program.get? package.path = some package)
    (paths : List String) (s : σ) :
    ∃ later, ((processAll config write program collector (package.path :: paths)).run s).1.trace =
      (((config.output.plan collector package program).carryOut write
        (config.destination package.name) package.path).run s).1.2 ++ later := by
  rw [processAll]
  simp only [hfound, StateT.run_bind]
  generalize ((config.output.plan collector package program).carryOut write
    (config.destination package.name) package.path).run s = carried
  obtain ⟨⟨result, trace⟩, s₁⟩ := carried
  cases result with
  -- A failure ends the run, so nothing follows the actions of the package.
  | error error => exact ⟨[], (List.append_nil trace).symm⟩
  | ok _ => exact ⟨_, rfl⟩

/-- The place of a package in a run of a fresh generator: what was loaded, and what became of the
    packages in front, none of which failed. -/
structure Visit (config : Config) (load : PackageLoader (StateM σ))
    (write : FileWriter (StateM σ)) (s : σ) where
  program : Program
  /-- What the loader logged. -/
  log : List LogRecord
  /-- The state after loading. -/
  loaded : σ
  load_eq : (load config.paths).run s = (⟨.ok program, log⟩, loaded)
  before : List String
  package : Package
  after : List String
  paths_eq : config.paths = before ++ package.path :: after
  found : program.get? package.path = some package
  /-- The run of the packages in front. -/
  front : Run
  /-- The state when it is the turn of the package. -/
  reached : σ
  front_eq : (processAll config write program [] before).run loaded = (front, reached)
  front_ok : front.result = .ok ()

namespace Visit

variable {load : PackageLoader (StateM σ)} {s : σ} (visit : Visit config load write s)

/-- Where the types of the package are looked up. -/
def scope : Scope := ⟨visit.package, visit.program⟩

/-- What comes of the package, and the state after it. -/
def outcome : (Except PackageError Unit × List Action) × σ :=
  ((config.output.plan visit.front.collector visit.package visit.program).carryOut write
    (config.destination visit.package.name) visit.package.path).run visit.reached

/-- How the processing of the package ends. -/
def result : Except PackageError Unit := visit.outcome.1.1

/-- The actions for the package. -/
def block : List Action := visit.outcome.1.2

/-- The actions before. -/
def earlier : List Action := visit.log.map .log ++ visit.front.trace

/-- The actions in the `block` of the package stand in the trace of the run behind those of the
    packages in front. -/
theorem exists_trace_eq : ∃ later, ((loadAndGenerate config load write []).run s).1.trace =
    visit.earlier ++ visit.block ++ later := by
  obtain ⟨later, hlater⟩ := exists_trace_processAll config write visit.front.collector visit.found
    visit.after visit.reached
  refine ⟨later, ?_⟩
  -- First comes what the loader logged, then the packages in front, then the package itself.
  rw [run_loadAndGenerate write [] visit.load_eq]
  show visit.log.map Action.log ++
    ((processAll config write visit.program [] config.paths).run visit.loaded).1.trace = _
  rw [visit.paths_eq, processAll_append visit.front_eq visit.front_ok]
  show _ ++ (_ ++ _) = _
  rw [hlater, earlier, List.append_assoc, List.append_assoc]
  rfl

/-- What the packages in front have left in the collector is what would be computed again: it is
    `Faithful`. -/
theorem faithful : visit.front.collector.Faithful visit.program :=
  (processAll_protocol (Collector.faithful_nil visit.program) visit.front_eq).1

theorem exists_block : ∃ steps, visit.block.filter Action.isStep = steps.map Step.action ∧
    Block config visit.program visit.package.path steps visit.result := by
  obtain ⟨steps, hsteps, -, hblock⟩ := Plan.block_of_carryOut visit.faithful visit.found
    (rfl : _ = ((visit.result, visit.block), visit.outcome.2))
  exact ⟨steps, hsteps, hblock⟩

theorem writes_block : Action.writes visit.block =
    config.handed visit.package visit.scope.descriptors.value := by
  obtain ⟨steps, hsteps, hblock⟩ := visit.exists_block
  rw [← Action.writes_filter_isStep, hsteps, hblock.writes_eq visit.found]
  rfl

theorem events_block : Action.events visit.block =
    visit.scope.opening config.output.suffix ++ if visit.result.isOk then
      [.completed visit.package.path visit.scope.generatedDecls.length] else [] := by
  obtain ⟨steps, hsteps, hblock⟩ := visit.exists_block
  rw [← Action.events_filter_isStep, hsteps, hblock.events_eq visit.found]
  rfl

/-- The package is processed to the end if its file could be built (`OutputSettings.fileFor`) and
    the writer takes it. -/
theorem isOk_result : visit.result.isOk =
    match config.output.fileFor visit.package visit.scope.descriptors.value with
    | .error _ => false
    | .ok none => true
    | .ok (some file) =>
      ((write (config.destination visit.package.name) file).run visit.reached).1.isOk := by
  rw [result, outcome, Plan.isOk_carryOut, OutputSettings.planned_file visit.faithful visit.found]
  rfl

end Visit

end Run

/-! ## Two runs -/

namespace Scope.Agrees

variable {scope scope' : Scope}

theorem generatedDecls_eq (h : scope.Agrees scope') :
    scope.generatedDecls = scope'.generatedDecls := by
  rw [generatedDecls, generatedDecls, ← h.package_eq]
  refine List.filter_congr fun decl hdecl => ?_
  rw [h.methodSet_eq hdecl]

theorem opening_eq (h : scope.Agrees scope') (suffix : String) :
    scope.opening suffix = scope'.opening suffix := by
  rw [opening, opening, ← h.package_eq]
  congr 1
  refine List.map_congr_left fun decl hdecl => ?_
  rw [verdict, verdict, h.methodSet_eq hdecl]

end Scope.Agrees

/-- Two runs that come to the same package, with the same output settings and with programs that
    agree on the package and on the owners of all types reached from its structs
    (`Scope.OwnsReached`), do the same for it. They hand the same file to the writer, for the same
    destination, and they report the same; only the report of the completion may be missing, if the
    writer of one run refuses the file. -/
theorem Visit.independent {σ σ' : Type} {config config' : Config}
    {load : PackageLoader (StateM σ)} {load' : PackageLoader (StateM σ')}
    {write : FileWriter (StateM σ)} {write' : FileWriter (StateM σ')} {s : σ} {s' : σ'}
    (visit : Visit config load write s) (visit' : Visit config' load' write' s')
    (houtput : config.output = config'.output) (hagrees : visit.scope.Agrees visit'.scope) :
    (∃ later, ((loadAndGenerate config load write []).run s).1.trace =
      visit.earlier ++ visit.block ++ later) ∧
    (∃ later, ((loadAndGenerate config' load' write' []).run s').1.trace =
      visit'.earlier ++ visit'.block ++ later) ∧
    Action.writes visit.block = Action.writes visit'.block ∧
    (∃ opening closing,
      Action.events visit.block = opening ++ (if visit.result.isOk then [closing] else []) ∧
      Action.events visit'.block = opening ++ if visit'.result.isOk then [closing] else []) ∧
    ((∀ handed ∈ Action.writes visit.block,
        ((write handed.1 handed.2).run visit.reached).1.isOk =
          ((write' handed.1 handed.2).run visit'.reached).1.isOk) →
      Action.events visit.block = Action.events visit'.block) := by
  have hpackage : visit.package = visit'.package := hagrees.package_eq
  have hdescriptors := hagrees.descriptors_eq
  have hdestination : config.destination = config'.destination := by
    funext name
    rw [Config.destination, Config.destination, houtput]
  -- All that can be seen comes from the descriptors and from the opening, and these agree.
  have hevents := visit.events_block
  have hevents' := visit'.events_block
  rw [← houtput, ← hpackage, ← hagrees.opening_eq, ← hagrees.generatedDecls_eq] at hevents'
  refine ⟨visit.exists_trace_eq, visit'.exists_trace_eq, ?_, ⟨_, _, hevents, hevents'⟩, ?_⟩
  · rw [visit.writes_block, visit'.writes_block, Config.handed, Config.handed, houtput, hpackage,
      hdescriptors, hdestination]
  · intro hanswers
    suffices visit.result.isOk = visit'.result.isOk by rw [hevents, hevents', this]
    rw [visit.isOk_result, visit'.isOk_result, ← houtput, ← hpackage, ← hdescriptors,
      ← hdestination]
    rw [visit.writes_block, Config.handed] at hanswers
    -- The writers have a say only if there is a file.
    generalize config.output.fileFor visit.package visit.scope.descriptors.value = built
      at hanswers ⊢
    cases built with
    | error error => rfl
    | ok file? =>
      cases file? with
      | none => rfl
      | some file =>
        simp only [List.mem_singleton, forall_eq] at hanswers ⊢
        exact hanswers

/-! ## A package alone, and behind the one it embeds -/

namespace Fleet

/-- A struct with a method. -/
def base : TypeDecl := ⟨"Base", [], .struct [], [⟨"Ping", .empty⟩]⟩

/-- The package of the struct. -/
def lib : Package := ⟨"example.com/lib", "lib", [base], []⟩

/-- A pointer to the struct. -/
def baseType : GoType := .pointer (.named ⟨some lib.ref, "Base"⟩ [])

/-- A struct that embeds the other one. -/
def server : TypeDecl := ⟨"Server", [], .struct [⟨"Base", baseType, true⟩], []⟩

/-- The package that both runs come to. -/
def app : Package := ⟨"example.com/app", "app", [server], []⟩

/-- A package that has nothing to do with the others. -/
def stray : Package := ⟨"example.com/stray", "stray", [base], []⟩

/-- A configuration for some packages. -/
def config (paths : List String) : Config where
  output := ⟨"mocks", "mocks", "\x7bpackage\x7d.go", "Iface"⟩
  paths := paths

/-- Returns a program, whatever is asked for. -/
def load (program : Program) : PackageLoader (StateM Unit) := fun _ => pure ⟨.ok program, []⟩

/-- Takes every file. -/
def write : FileWriter (StateM Unit) := fun _ _ => pure (.ok {})

/-- The package comes first. -/
def first : Visit (config ["example.com/app"]) (load [app, lib]) write () where
  program := [app, lib]
  log := []
  loaded := ()
  load_eq := rfl
  before := []
  package := app
  after := []
  paths_eq := rfl
  found := rfl
  front := ⟨.ok (), [], []⟩
  reached := ()
  front_eq := rfl
  front_ok := rfl

/-- The run of the package in front. -/
def front : Run :=
  ((processAll (config ["example.com/lib", "example.com/app"]) write [stray, lib, app] []
    ["example.com/lib"]).run ()).1

theorem result_front : front.result = .ok () := by
  have hok : front.result.isOk = true := by decide +kernel
  cases hresult : front.result with
  | ok _ => rfl
  | error error =>
    rw [hresult] at hok
    cases hok

/-- The package comes behind the one it embeds, in another program. -/
def second : Visit (config ["example.com/lib", "example.com/app"]) (load [stray, lib, app]) write
    () where
  program := [stray, lib, app]
  log := []
  loaded := ()
  load_eq := rfl
  before := ["example.com/lib"]
  package := app
  after := []
  paths_eq := rfl
  found := rfl
  front := front
  reached := ()
  front_eq := rfl
  front_ok := result_front

/-- From the struct `server` only itself and the embedded one are reached. -/
theorem decl_of_reaches {program : Program} (h : program.get? "example.com/lib" = some lib)
    {e : Embedding} (he : Scope.Reaches ⟨app, program⟩ (Scope.root ⟨app, program⟩ server) e) :
    e.decl = server ∨ e.decl = base := by
  induction he with
  | start => exact .inl rfl
  | @embedded e target type reached embeds refers ih =>
    rcases ih with hdecl | hdecl
    · rw [hdecl] at embeds
      have resolves := Scope.resolve_eq_some_iff.2 refers
      rw [List.mem_singleton.1 embeds, Scope.value_resolve] at resolves
      -- The only type that the struct embeds is found in the other package.
      have hbase : Scope.instance? ⟨app, program⟩ ⟨some lib.ref, "Base"⟩ [] =
          some ⟨"example.com/lib", base, [], false⟩ := by
        show (program.get? "example.com/lib").bind _ = _
        rw [h]
        rfl
      cases hbase.symm.trans resolves
      exact .inr rfl
    · rw [hdecl] at embeds
      cases embeds

/-- No package but that of `base` is reached. -/
theorem path_of_ownsReached {program : Program} (h : program.get? "example.com/lib" = some lib)
    {path : String} (howns : Scope.OwnsReached ⟨app, program⟩ path) :
    path = "example.com/lib" := by
  obtain ⟨decl, hdecl, e, he, type, htype, ref, name, args, hname, rfl, -⟩ := howns
  obtain rfl := List.mem_singleton.1 (Scope.mem_types_of_mem_structDecls hdecl)
  -- The root embeds the type of the library, and that type embeds nothing.
  rcases decl_of_reaches h he with heq | heq
  · rw [heq] at htype
    rw [List.mem_singleton.1 htype] at hname
    cases hname
    rfl
  · rw [heq] at htype
    cases htype

theorem agrees : first.scope.Agrees second.scope where
  package_eq := rfl
  get?_eq path howns := by
    have hpath : path = "example.com/lib" := by
      rcases howns with howns | howns
      · exact path_of_ownsReached rfl howns
      · exact path_of_ownsReached rfl howns
    rw [hpath]
    rfl

/-- The file is the same, although the programs differ and the collector of the second run has seen
    the embedded struct before. -/
theorem independent_app :
    (Action.writes first.block).map (fun (path, file) => (path, file.organizeImports.text {})) =
        [("mocks/app.go",
          "package mocks\n\ntype ServerIface interface \x7b\n\tPing()\n\x7d\n")] ∧
      Action.writes first.block = Action.writes second.block ∧
      Action.events first.block = Action.events second.block := by
  obtain ⟨-, -, hwrites, -, hevents⟩ := Visit.independent first second rfl agrees
  exact ⟨by decide +kernel, hwrites, hevents fun _ _ => rfl⟩

end Fleet

end IfaceGen
