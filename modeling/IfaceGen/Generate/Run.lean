import IfaceGen.Generate.Error
import IfaceGen.Generate.Plan

/-!
# Runs

A run processes the configured packages in order and stops at the first failure. Files that were
written before stay. The only effect of a run is that of its writer; everything else it does is
listed in its trace.
-/

namespace IfaceGen

/-- What came of a run. The state that the writer leaves behind is not part of it. -/
structure Run where
  result : Except GenerateError Unit
  trace : List Action
  /-- The collector after the run. -/
  collector : Collector

namespace Run

/-- The run that fails at once, with the collector as it was. -/
def failed (error : GenerateError) (collector : Collector) : Run :=
  ⟨.error error, [], collector⟩

/-- The run with something done before it, at the front of its `trace`. -/
def after (trace : List Action) (run : Run) : Run :=
  { run with trace := trace ++ run.trace }

end Run

/-- What can be seen of a writer at work: its log records, then what it printed. -/
def Receipt.trace (receipt : Receipt) : List Action :=
  receipt.log.map .log ++ (if receipt.printed.isEmpty then [] else [.print receipt.printed])

variable {m : Type → Type} [Monad m]

/-- Carries out the plan for a package: writes its file, if it has one, and reports the end. -/
def Plan.carryOut (plan : Plan) (write : FileWriter m) (destination path : String) :
    m (Except PackageError Unit × List Action) := do
  match plan.file with
  | .error error => return (.error (.build error), plan.trace)
  | .ok none => return (.ok (), plan.trace ++ [.report (.completed path 0)])
  | .ok (some file) =>
    -- The writer has the file from here on, whatever it answers.
    let handed := plan.trace ++ [.write destination file]
    match ← write destination file with
    | .error error => return (.error (.write error), handed)
    | .ok receipt =>
      return (.ok (), handed ++ receipt.trace ++ [.report (.completed path plan.interfaceCount)])

/-- Processes the packages at `paths` in order, each by `OutputSettings.plan` and
    `Plan.carryOut`. -/
def processAll (config : Config) (write : FileWriter m) (program : Program)
    (collector : Collector) : List String → m Run
  | [] => return ⟨.ok (), [], collector⟩
  | path :: paths => do
    match program.get? path with
    | none => return .failed (.package path .notLoaded) collector
    | some package =>
      let plan := config.output.plan collector package program
      match ← plan.carryOut write (config.destination package.name) package.path with
      | (.error error, trace) =>
        return ⟨.error (.package path error), trace, plan.collector⟩
      | (.ok (), trace) =>
        return (← processAll config write program plan.collector paths).after trace

/-- Generates the files of all configured packages (`processAll`) from what the loader returned. -/
def generate (config : Config) (write : FileWriter m)
    (loaded : Logged (Except LoadError Program)) (collector : Collector) : m Run := do
  let trace := loaded.log.map .log
  match loaded.value with
  | .error error => return (Run.failed (.load error) collector).after trace
  | .ok program => return (← processAll config write program collector config.paths).after trace

/-- Loads the configured packages, with one call of the loader, and generates their files by
    `generate`. -/
def loadAndGenerate (config : Config) (load : PackageLoader m) (write : FileWriter m)
    (collector : Collector) : m Run := do
  generate config write (← load config.paths) collector

/-- Generates the files that the configuration file at `path` asks for, from the models that
    `modelLoader` finds. -/
def generateFrom (disk : Disk m) (write : FileWriter m) (path : String) : m Run := do
  match Config.ofFile path (← disk.readText path) with
  | .error error => return .failed (.config error) []
  | .ok config => loadAndGenerate config (modelLoader disk config.models) write []

end IfaceGen
