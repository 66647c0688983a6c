import IfaceGen.Generate.Run
import IfaceGen.Proofs.MethodSet.Shuffle

/-!
# Runs do not depend on the order of listings

A run is made of the descriptors of its packages: these decide what is reported, which imports a
file has and what stands in it. The descriptors are the same for every order in which a program
lists things, and for every order in which the names of a level are gone through. So the same is
seen of the run; only its log may say the same things in another order.

## Key results

- `Plan.SeenAlike.carryOut_eq`: plans that look alike are carried out alike
- `seen_processAll_eq`: so are the packages of two programs, one after the other
- `seen_generate_shuffled`: the same is seen of both runs
-/

namespace IfaceGen

/-! ## What is seen of a run -/

/-- Whether an action can be seen outside of the log. -/
def Action.isSeen : Action → Bool
  | .log _ => false
  | .report _ | .write .. | .print _ => true

/-- The result of a run and, in order, the events, the files handed to the writer and what is
    printed: all actions with `isSeen`. -/
def Run.seen (run : Run) : Except GenerateError Unit × List Action :=
  (run.result, run.trace.filter Action.isSeen)

theorem Run.seen_after (trace : List Action) (run : Run) :
    (run.after trace).seen = (run.result, trace.filter Action.isSeen ++ run.seen.2) := by
  rw [Run.seen, Run.after, List.filter_append]
  rfl

theorem filter_isSeen_logs (records : List LogRecord) :
    (records.map Action.log).filter Action.isSeen = [] := by
  simp [List.filter_map, Action.isSeen]

/-- Plans that differ in nothing but what is logged and remembered. -/
structure Plan.SeenAlike (plan plan' : Plan) : Prop where
  trace_eq : plan.trace.filter Action.isSeen = plan'.trace.filter Action.isSeen
  file_eq : plan.file = plan'.file
  interfaceCount_eq : plan.interfaceCount = plan'.interfaceCount

/-- The result for a package and what is seen of its processing. -/
def seenOutcome (outcome : Except PackageError Unit × List Action) :
    Except PackageError Unit × List Action :=
  (outcome.1, outcome.2.filter Action.isSeen)

section Runs

variable {m : Type → Type} [Monad m] [LawfulMonad m]

/-- Plans that look alike are carried out alike by `carryOut`. -/
theorem Plan.SeenAlike.carryOut_eq {plan plan' : Plan} (h : plan.SeenAlike plan')
    (write : FileWriter m) (destination path : String) :
    seenOutcome <$> plan.carryOut write destination path =
      seenOutcome <$> plan'.carryOut write destination path := by
  unfold Plan.carryOut
  rw [← h.file_eq]
  -- Without a file both plans only log; with one they call the writer alike.
  split
  · simp only [map_pure, seenOutcome, h.trace_eq]
  · simp only [map_pure, seenOutcome, List.filter_append, h.trace_eq]
  · simp only [map_bind]
    refine bind_congr fun answer => ?_
    cases answer with
    | error error => simp only [map_pure, seenOutcome, List.filter_append, h.trace_eq]
    | ok receipt =>
      simp only [map_pure, seenOutcome, List.filter_append, h.trace_eq, h.interfaceCount_eq]

/-- How a run goes on behind a package. -/
def proceed (path : String) (rest : m (Except GenerateError Unit × List Action)) :
    Except PackageError Unit × List Action → m (Except GenerateError Unit × List Action)
  | (.error error, trace) => pure (.error (.package path error), trace)
  | (.ok (), trace) => (fun seen => (seen.1, trace ++ seen.2)) <$> rest

/-- What is seen of `processAll` comes from what is seen of its first package and of the rest. -/
theorem seen_processAll_cons {config : Config} {write : FileWriter m} {program : Program}
    {collector : Collector} {path : String} {paths : List String} {package : Package}
    (hfound : program.get? path = some package) :
    Run.seen <$> processAll config write program collector (path :: paths) =
      (seenOutcome <$> (config.output.plan collector package program).carryOut write
        (config.destination package.name) package.path) >>=
      proceed path (Run.seen <$> processAll config write program
        (config.output.plan collector package program).collector paths) := by
  rw [processAll, hfound]
  simp only [map_bind, bind_map_left]
  refine bind_congr fun outcome => ?_
  obtain ⟨result, trace⟩ := outcome
  -- After a failure no package follows; otherwise the rest of the paths does.
  cases result with
  | error error => simp only [map_pure, seenOutcome, proceed, Run.seen]
  | ok _ =>
    simp only [map_bind, map_pure, seenOutcome, proceed, Functor.map_map, Run.seen_after]
    rw [map_eq_pure_bind]
    rfl

/-! ## Shuffled programs -/

/-- The same imports are needed, under the same aliases: `importsFor` does not depend on the
    order. -/
theorem importsFor_eq {package package' : Package} (h : package.Shuffled package')
    (descriptors : List StructDescriptor) :
    importsFor package descriptors = importsFor package' descriptors := by
  rw [importsFor, importsFor, h.ref_eq]

/-- Where the same is known of corresponding packages, the plans are `SeenAlike`. -/
theorem OutputSettings.plan_seenAlike (output : OutputSettings) {package package' : Package}
    (h : package.Shuffled package') {program program' : Program} {collector collector' : Collector}
    (hdescriptors : (collector.collect package program).value.1 =
      (collector'.collect package' program').value.1) :
    (output.plan collector package program).SeenAlike
      (output.plan collector' package' program') where
  trace_eq := by
    simp only [OutputSettings.plan, List.filter_append, List.filter_cons, filter_isSeen_logs,
      hdescriptors, h.path_eq]
  file_eq := by
    simp only [OutputSettings.plan, OutputSettings.fileFor, hdescriptors, importsFor_eq h]
  interfaceCount_eq := by
    simp only [OutputSettings.plan, hdescriptors]

/-- A scope of a program all of whose packages are `Package.Keyed`. -/
theorem Scope.keyed_of_get? {program : Program} (hkeyed : ∀ package ∈ program, package.Keyed)
    {path : String} {package : Package} (hfound : program.get? path = some package) :
    Scope.Keyed ⟨package, program⟩ := by
  rintro other (rfl | ⟨otherPath, hother⟩)
  · exact hkeyed _ (Program.mem_of_get? hfound).1
  · exact hkeyed _ (Program.mem_of_get? hother).1

/-- The same is seen of `processAll` in both programs, one package after the other. -/
theorem seen_processAll_eq {program program' : Program}
    (hkeyed : ∀ package ∈ program, package.Keyed) (hshuffled : program.Shuffled program')
    (config : Config) (write : FileWriter m) (paths : List String)
    {collector collector' : Collector} (hcollector : collector.Faithful program)
    (hcollector' : collector'.Faithful program') :
    Run.seen <$> processAll config write program collector paths =
      Run.seen <$> processAll config write program' collector' paths := by
  induction paths generalizing collector collector' with
  | nil => simp only [processAll, map_pure, Run.seen]
  | cons path paths ih =>
    rcases optionRel_cases (hshuffled.get?_rel path) with
      ⟨hnone, hnone'⟩ | ⟨package, package', hfound, hfound', hpackage⟩
    · simp only [processAll, hnone, hnone', map_pure, Run.seen, Run.failed]
    · rw [seen_processAll_cons hfound, seen_processAll_cons hfound']
      -- Both packages are found under their own paths, so that the memories answer for them.
      have hpath := (Program.mem_of_get? hfound).2
      have hpath' := (Program.mem_of_get? hfound').2
      obtain ⟨hanswer, hafter⟩ := hcollector.collect (hpath.symm ▸ hfound)
      obtain ⟨hanswer', hafter'⟩ := hcollector'.collect (hpath'.symm ▸ hfound')
      have hscopes : Scope.Shuffled ⟨package, program⟩ ⟨package', program'⟩ :=
        ⟨hpackage, hshuffled⟩
      have hdescriptors := hscopes.descriptors_eq (Scope.keyed_of_get? hkeyed hfound)
      rw [← hanswer, ← hanswer'] at hdescriptors
      have hplans := config.output.plan_seenAlike hpackage hdescriptors
      have hrest : Run.seen <$> processAll config write program
            (config.output.plan collector package program).collector paths =
          Run.seen <$> processAll config write program'
            (config.output.plan collector' package' program').collector paths :=
        ih hafter hafter'
      rw [hplans.carryOut_eq, hpackage.name_eq, hpackage.path_eq, hrest]

/-- Loading leaves its traces in the log only, so that `generate` looks like `processAll`. -/
theorem seen_generate (config : Config) (write : FileWriter m) (program : Program)
    (log : List LogRecord) (collector : Collector) :
    Run.seen <$> generate config write ⟨.ok program, log⟩ collector =
      Run.seen <$> processAll config write program collector config.paths := by
  have hafter (run : Run) : (run.after (log.map .log)).seen = run.seen := by
    rw [Run.seen_after, filter_isSeen_logs]
    rfl
  simp only [generate, map_bind, map_pure, hafter]
  exact (map_eq_pure_bind _ _).symm

end Runs

/-- A collector that remembers nothing but descriptors that some searches within the program come
    to, whatever the orders in which they go through the names of a level. -/
def Collector.Described (collector : Collector) (program : Program) : Prop :=
  collector.Remembers fun path descriptors => ∀ package, program.get? path = some package →
    Scope.Describes ⟨package, program⟩ descriptors

theorem Collector.Described.faithful {collector : Collector} {program : Program}
    (hkeyed : ∀ package ∈ program, package.Keyed) (h : collector.Described program) :
    collector.Faithful program := by
  intro path descriptors hlookup package hfound
  exact (h path descriptors hlookup package hfound).eq_descriptors
    (Scope.keyed_of_get? hkeyed hfound)

theorem Program.Shuffled.keyed {program program' : Program} (h : program.Shuffled program')
    (hkeyed : ∀ package ∈ program, package.Keyed) : ∀ package ∈ program', package.Keyed := by
  intro package' hmem
  obtain ⟨package, hpackage, hshuffled⟩ := exists_left_of_forall₂ h hmem
  exact hshuffled.keyed (hkeyed package hpackage)

/-- Nothing but the log of a run depends on an order. Let the types, the methods of a type and the
    fields of a struct be listed in any other order, and let the searches go through the names of
    each level in any order (`memory` holds the descriptors that they come to, or nothing if they
    are left to the run). Then the descriptors and the aliases of the imports are the same, and the
    same is seen of the run, whatever the writer does. -/
theorem seen_generate_shuffled {program program' : Program}
    (hkeyed : ∀ package ∈ program, package.Keyed) (hshuffled : program.Shuffled program') :
    (∀ path package package', program.get? path = some package →
      program'.get? path = some package' →
        (∀ descriptors, Scope.Describes ⟨package', program'⟩ descriptors ↔
          descriptors = (Scope.descriptors ⟨package, program⟩).value) ∧
        ∀ descriptors, importsFor package' descriptors = importsFor package descriptors) ∧
    ∀ {m : Type → Type} [Monad m] [LawfulMonad m] (config : Config) (write : FileWriter m)
      (log log' : List LogRecord) (memory : Collector), memory.Described program' →
        Run.seen <$> generate config write ⟨.ok program', log'⟩ memory =
          Run.seen <$> generate config write ⟨.ok program, log⟩ [] := by
  have hkeyed' := hshuffled.keyed hkeyed
  constructor
  · intro path package package' hfound hfound'
    have hrel := hshuffled.get?_rel path
    rw [hfound, hfound'] at hrel
    cases hrel with
    | some hpackage =>
      -- The two packages correspond, and so do the scopes around them.
      have hscopes : Scope.Shuffled ⟨package, program⟩ ⟨package', program'⟩ :=
        ⟨hpackage, hshuffled⟩
      have hscope' := Scope.keyed_of_get? hkeyed' hfound'
      refine ⟨fun descriptors => ?_, fun descriptors => (importsFor_eq hpackage descriptors).symm⟩
      rw [hscopes.descriptors_eq (Scope.keyed_of_get? hkeyed hfound)]
      constructor
      · exact fun h => h.eq_descriptors hscope'
      · rintro rfl
        exact Scope.describes_descriptors hscope'
  · intro m _ _ config write log log' memory hmemory
    rw [seen_generate, seen_generate]
    exact (seen_processAll_eq hkeyed hshuffled config write config.paths
      (Collector.faithful_nil program) (hmemory.faithful hkeyed')).symm

/-! ## A package listed backwards -/

namespace Garage

/-- A struct with the given methods. -/
def engine (methods : List Method) : TypeDecl := ⟨"Engine", [], .struct [], methods⟩

/-- A struct with the given fields. -/
def car (fields : List Field) : TypeDecl := ⟨"Car", [], .struct fields, []⟩

/-- A package with the given types. -/
def package (types : List TypeDecl) : Package :=
  ⟨"example.com/garage", "garage", types, []⟩

/-- The field by which a car embeds its engine. -/
def motor : Field := ⟨"Engine", .pointer (.named ⟨some (package []).ref, "Engine"⟩ []), true⟩

/-- A field that hides a method of the engine. -/
def stop : Field := ⟨"Stop", .basic "bool", false⟩

/-- The package in one order. -/
def forwards : Program :=
  [package [engine [⟨"Start", .empty⟩, ⟨"Stop", .empty⟩], car [motor, stop]]]

/-- The package in the opposite order. -/
def backwards : Program :=
  [package [car [stop, motor], engine [⟨"Stop", .empty⟩, ⟨"Start", .empty⟩]]]

/-- A configuration for the package. -/
def config : Config where
  output := ⟨"mocks", "mocks", "\x7bpackage\x7d.go", "Iface"⟩
  paths := ["example.com/garage"]

theorem keyed : ∀ package ∈ forwards, package.Keyed := by
  intro package hpackage
  rw [List.mem_singleton.1 hpackage]
  refine ⟨by decide, by decide, fun decl hdecl type htype => ?_⟩
  rcases List.mem_pair.1 hdecl with rfl | rfl
  · exact nomatch htype
  · rw [List.mem_singleton.1 htype]
    rfl

theorem shuffled : forwards.Shuffled backwards := by
  have hengine : (engine [⟨"Start", .empty⟩, ⟨"Stop", .empty⟩]).Shuffled
      (engine [⟨"Stop", .empty⟩, ⟨"Start", .empty⟩]) :=
    ⟨rfl, rfl, .refl _, .swap _ _ _⟩
  have hcar : (car [motor, stop]).Shuffled (car [stop, motor]) :=
    ⟨rfl, rfl, .struct (.swap _ _ _), .refl _⟩
  refine .cons ⟨rfl, rfl, rfl, ?_⟩ .nil
  -- As multisets the declarations are equal up to the order of their methods.
  have hswap : (([car [stop, motor], engine [⟨"Stop", .empty⟩, ⟨"Start", .empty⟩]] :
      List TypeDecl) : Multiset TypeDecl) =
        ([engine [⟨"Stop", .empty⟩, ⟨"Start", .empty⟩], car [stop, motor]] : List TypeDecl) :=
    Multiset.coe_eq_coe.2 (.swap _ _ _)
  show Multiset.Rel _ _ (([car [stop, motor], _] : List TypeDecl) : Multiset TypeDecl)
  rw [hswap]
  exact .cons hengine (.cons hcar .zero)

/-- Both orders give the same run. -/
theorem seen_backwards :
    (∀ package ∈ forwards, package.Keyed) ∧ forwards.Shuffled backwards ∧
      (generate config (previewWriter (m := Id) {} false) ⟨.ok backwards, []⟩ []).run.seen =
        (generate config (previewWriter (m := Id) {} false) ⟨.ok forwards, []⟩ []).run.seen := by
  have hruns := (seen_generate_shuffled keyed shuffled).2 config (previewWriter (m := Id) {} false)
    [] [] [] (Collector.remembers_nil _)
  exact ⟨keyed, shuffled, congrArg Id.run hruns⟩

end Garage

end IfaceGen
