import IfaceGen.Proofs.Generate.Independence
import IfaceGen.Proofs.Generate.Overwriting
import IfaceGen.Proofs.Layout.Rendering

/-!
# Dry runs

A dry run shows the files that the real run writes. The two are compared package by package: the
plan for a package does not depend on the writer, both writers refuse the same files before they do
anything, and what one of them shows is what the other one writes.

## Key results

- `diskWriter_recording`: what comes of a file, on a disk that records its writes
- `Plan.carryOut_foretold`: the processing of one package in both runs
- `processAll_foretold`: the packages one after the other
- `processAll_refused`: a run that refuses a file leaves the state in which it came to the package
- `loadAndGenerate_foretold`: a dry run foretells the real run
-/

namespace IfaceGen

/-! ## Recording the writes -/

/-- The last step of `diskWriter`, when the directories are there. -/
def Disk.save {m : Type → Type} [Monad m] (disk : Disk m) (path text : String) :
    m (Except WriteError Receipt) := do
  if let .error fault ← disk.writeText path text then
    return .error (.write path fault)
  return .ok { log := [⟨.writer, .debug, "Wrote " ++ path⟩] }

/-- The steps of `diskWriter`: prepare the file, make its directory, and `Disk.save` it. -/
theorem diskWriter_eq {m : Type → Type} [Monad m] (disk : Disk m) (style : LayoutStyle)
    (path : String) (file : File) :
    diskWriter disk style path file =
      (match file.prepare path with
      | .error error => pure (.error error)
      | .ok prepared =>
        match requiredDir? path with
        | none => disk.save path (prepared.text style)
        | some dir => do
          match ← disk.createDirAll dir with
          | .error fault => return .error (.createDir dir fault)
          | .ok () => disk.save path (prepared.text style)) := by
  unfold diskWriter
  cases file.prepare path with
  | error error => rfl
  | ok prepared =>
    cases requiredDir? path with
    | none => rfl
    | some dir =>
      -- Both sides make the directory first and differ only in how they go on.
      refine bind_congr fun made => ?_
      cases made with
      | error fault => rfl
      | ok _ => rfl

section Recording

variable {σ : Type}

/-- A computation beside a record of writes, which it leaves alone. -/
def beside {α : Type} (x : StateM σ α) : StateM (σ × List (String × String)) α :=
  fun (s, writes) => ((x.run s).1, (x.run s).2, writes)

/-- The disk with a record of what was written to it: the paths and the texts, in order. It does
    what the disk does, `beside` the record. -/
def Disk.recording (disk : Disk (StateM σ)) : Disk (StateM (σ × List (String × String))) where
  readText path := beside (disk.readText path)
  snapshot path := beside (disk.snapshot path)
  isPresent path := beside (disk.isPresent path)
  createDirAll dir := beside (disk.createDirAll dir)
  writeText path text := do
    let answer ← beside (disk.writeText path text)
    if answer.isOk then
      modify fun (s, writes) => (s, writes ++ [(path, text)])
    return answer

/-- The loader beside a record of writes. -/
def PackageLoader.recording (load : PackageLoader (StateM σ)) :
    PackageLoader (StateM (σ × List (String × String))) :=
  fun paths => beside (load paths)

theorem run_beside {α : Type} {x : StateM σ α} {a : α} {s s' : σ} (h : x.run s = (a, s'))
    (writes : List (String × String)) : (beside x).run (s, writes) = (a, s', writes) := by
  show ((x.run s).1, (x.run s).2, writes) = _
  rw [h]

/-- What does nothing (`pure`) adds nothing to the record. -/
theorem run_pure_recording {α : Type} (a : α) (s : σ) (writes : List (String × String)) :
    (pure a : StateM (σ × List (String × String)) α).run (s, writes) = (a, s, writes ++ []) := by
  rw [List.append_nil]
  rfl

/-- What comes of handing a file to the disk writer: its answer, the state after it, and what is
    written. -/
inductive Stored (style : LayoutStyle) (path : String) (file : File) (s : σ) :
    Except WriteError Receipt → σ → List (String × String) → Prop
  /-- The file is not one that can be written, and nothing is done. -/
  | refused {error : WriteError} (h : file.prepare path = .error error) :
      Stored style path file s (.error error) s []
  /-- A file operation has failed. -/
  | failed {error : WriteError} {s' : σ} (h : error.OfDisk) :
      Stored style path file s (.error error) s' []
  /-- The file was written. -/
  | written {prepared : File} {receipt : Receipt} {s' : σ} (h : file.prepare path = .ok prepared) :
      Stored style path file s (.ok receipt) s' [(path, prepared.text style)]

/-- A file that is saved is on record, whatever was made of the state `s₀` before. -/
theorem Disk.save_recording {disk : Disk (StateM σ)} {style : LayoutStyle} {path : String}
    {file prepared : File} {answer : Except WriteError Receipt} {s s' : σ} (s₀ : σ)
    (hprepare : file.prepare path = .ok prepared)
    (h : (disk.save path (prepared.text style)).run s = (answer, s'))
    (writes : List (String × String)) :
    ∃ more, (disk.recording.save path (prepared.text style)).run (s, writes) =
      (answer, s', writes ++ more) ∧ Stored style path file s₀ answer s' more := by
  unfold Disk.save Disk.recording at *
  simp only [StateT.run_bind, bind_assoc] at h ⊢
  cases hwrite : (disk.writeText path (prepared.text style)).run s with
  | mk written s₁ =>
    rw [run_beside hwrite]
    rw [hwrite] at h
    -- A write that fails is not recorded.
    cases written with
    | error fault =>
      cases h
      exact ⟨[], run_pure_recording _ s₁ writes, .failed (.write path fault)⟩
    | ok _ =>
      cases h
      exact ⟨_, rfl, .written hprepare⟩

/-- `Disk.recording` does not change what `diskWriter` does. -/
theorem diskWriter_recording {disk : Disk (StateM σ)} {style : LayoutStyle} {path : String}
    {file : File} {answer : Except WriteError Receipt} {s s' : σ}
    (h : (diskWriter disk style path file).run s = (answer, s')) (writes : List (String × String)) :
    ∃ more, (diskWriter disk.recording style path file).run (s, writes) =
      (answer, s', writes ++ more) ∧ Stored style path file s answer s' more := by
  rw [diskWriter_eq] at h ⊢
  -- The steps of the writer are taken one by one, each beside the record.
  cases hprepare : file.prepare path with
  | error error =>
    simp only [hprepare] at h ⊢
    cases h
    exact ⟨[], run_pure_recording _ s writes, .refused hprepare⟩
  | ok prepared =>
    cases hdir : requiredDir? path with
    | none =>
      simp only [hprepare, hdir] at h ⊢
      exact Disk.save_recording s hprepare h writes
    | some dir =>
      simp only [hprepare, hdir, StateT.run_bind] at h ⊢
      cases hmade : (disk.createDirAll dir).run s with
      | mk made s₁ =>
        have hbeside : (disk.recording.createDirAll dir).run (s, writes) = (made, s₁, writes) :=
          run_beside hmade writes
        rw [hbeside]
        rw [hmade] at h
        cases made with
        | error fault =>
          cases h
          exact ⟨[], run_pure_recording _ s₁ writes, .failed (.createDir dir fault)⟩
        | ok _ => exact Disk.save_recording s hprepare h writes

end Recording

/-! ## What a dry run foretells -/

/-- How `previewWriter` shows writes: each with its destination in a comment, its text and an empty
    line. -/
def shown (writes : List (String × String)) : String :=
  String.join (writes.map fun (path, text) => "// " ++ path ++ "\n" ++ text ++ "\n")

theorem shown_append (writes more : List (String × String)) :
    shown (writes ++ more) = shown writes ++ shown more := by
  rw [shown, List.map_append, String.join_append]
  rfl

theorem File.preview_eq_shown (file : File) (path : String) (style : LayoutStyle) :
    file.preview path style false = shown [(path, file.text style)] := by
  rw [File.preview, file.printed_false style, shown, List.map_singleton, String.join_cons,
    String.join_nil, String.append_empty]

theorem Action.printed_append (trace more : List Action) :
    Action.printed (trace ++ more) = Action.printed trace ++ Action.printed more := by
  rw [Action.printed, List.filterMap_append, String.join_append]
  rfl

theorem Action.printed_eq_empty {trace : List Action} (h : ∀ text, .print text ∉ trace) :
    Action.printed trace = "" := by
  rw [Action.printed, List.filterMap_eq_nil_iff.2, String.join_nil]
  intro action haction
  cases action with
  | print text => exact absurd haction (h text)
  | _ => rfl

/-- The actions of an `OutputSettings.plan` print nothing. -/
theorem OutputSettings.printed_plan (output : OutputSettings) (collector : Collector)
    (package : Package) (program : Program) :
    Action.printed (output.plan collector package program).trace = "" :=
  Action.printed_eq_empty fun text => by simp [OutputSettings.plan]

theorem Receipt.printed_trace (receipt : Receipt) :
    Action.printed receipt.trace = receipt.printed := by
  have hlogs : Action.printed (receipt.log.map Action.log) = "" :=
    Action.printed_eq_empty fun text => by simp
  rw [Receipt.trace, Action.printed_append, hlogs, String.empty_append]
  split
  · rename_i hempty
    rw [String.isEmpty_iff.1 hempty]
    rfl
  · show String.join [receipt.printed] = receipt.printed
    rw [String.join_cons, String.join_nil, String.append_empty]

/-- What is done in a dry run, next to what is done in a real one that makes the given writes. -/
structure Foretells (dry real : List Action) (writes : List (String × String)) : Prop where
  events_eq : Action.events dry = Action.events real
  printed_eq : Action.printed dry = shown writes

namespace Foretells

theorem append {dry real dry' real' : List Action} {writes writes' : List (String × String)}
    (h : Foretells dry real writes) (h' : Foretells dry' real' writes') :
    Foretells (dry ++ dry') (real ++ real') (writes ++ writes') where
  events_eq := by rw [Action.events_append, Action.events_append, h.events_eq, h'.events_eq]
  printed_eq := by rw [Action.printed_append, shown_append, h.printed_eq, h'.printed_eq]

/-- What does not print is done in both runs, so that it `Foretells` itself. -/
theorem of_printed {trace : List Action} (h : Action.printed trace = "") :
    Foretells trace trace [] :=
  ⟨rfl, h⟩

/-- What the writers have to say about a file: the preview `Foretells` the write. -/
theorem receipt (file : File) (path : String) (style : LayoutStyle) (real : Receipt) :
    Foretells (Receipt.trace { printed := file.preview path style false }) real.trace
      [(path, file.text style)] where
  events_eq := by
    rw [← Action.events_filter_isStep, ← Action.events_filter_isStep real.trace,
      filter_isStep_receipt, filter_isStep_receipt]
  printed_eq := by rw [Receipt.printed_trace, File.preview_eq_shown]

end Foretells

/-! ## One package in both runs -/

section Runs

variable {σ : Type} {disk : Disk (StateM σ)} {style : LayoutStyle}

theorem run_previewWriter (style : LayoutStyle) (path : String) (file : File) (t : σ) :
    (previewWriter (m := StateM σ) style false path file).run t =
      ((file.prepare path).map fun prepared => { printed := prepared.preview path style false },
        t) :=
  rfl

/-- Unless a file operation fails, `carryOut` ends in the same way in both runs, and the dry run
    foretells what is reported and written. It leaves the state alone. -/
theorem Plan.carryOut_foretold {plan : Plan} (hplan : Action.printed plan.trace = "")
    {destination path : String} {dry real : Except PackageError Unit × List Action} {s s' t t' : σ}
    (hreal : (plan.carryOut (diskWriter disk style) destination path).run s = (real, s'))
    (hdry : (plan.carryOut (previewWriter (m := StateM σ) style false) destination path).run t =
      (dry, t'))
    (hdisk : ∀ error, real.1 = .error (.write error) → ¬ error.OfDisk)
    (writes : List (String × String)) :
    t' = t ∧ dry.1 = real.1 ∧
      ∃ more, (plan.carryOut (diskWriter disk.recording style) destination path).run (s, writes) =
        (real, s', writes ++ more) ∧ Foretells dry.2 real.2 more := by
  have htrace := Foretells.of_printed hplan
  unfold Plan.carryOut at hreal hdry ⊢
  -- Both runs have the same plan, so they part only where the writers are called.
  cases hfile : plan.file with
  | error error =>
    simp only [hfile] at hreal hdry ⊢
    cases hreal
    cases hdry
    exact ⟨rfl, rfl, [], run_pure_recording _ s writes, htrace⟩
  | ok file? =>
    cases file? with
    | none =>
      simp only [hfile] at hreal hdry ⊢
      cases hreal
      cases hdry
      have hcompleted := htrace.append
        (.of_printed (rfl : Action.printed [.report (.completed path 0)] = ""))
      exact ⟨rfl, rfl, [], run_pure_recording _ s writes, hcompleted⟩
    | some file =>
      simp only [hfile, StateT.run_bind, run_previewWriter] at hreal hdry ⊢
      have hhanded := htrace.append
        (.of_printed (rfl : Action.printed [.write destination file] = ""))
      cases hanswer : (diskWriter disk style destination file).run s with
      | mk answer s₁ =>
        obtain ⟨more, hrecorded, hstored⟩ := diskWriter_recording hanswer writes
        rw [hrecorded]
        rw [hanswer] at hreal
        cases hstored with
        | refused hprepare =>
          -- Both writers refuse the file, before they do anything.
          rw [hprepare] at hdry
          cases hreal
          cases hdry
          exact ⟨rfl, rfl, [], rfl, hhanded⟩
        | failed herror =>
          cases hreal
          -- The real run fails for no fault of the disk, so this cannot be.
          exact absurd herror (hdisk _ rfl)
        | @written prepared receipt _ hprepare =>
          -- What one of them writes is what the other one shows.
          rw [hprepare] at hdry
          cases hreal
          cases hdry
          have hreceipts := Foretells.receipt prepared destination style receipt
          exact ⟨rfl, rfl, _, rfl, (hhanded.append hreceipts).append (.of_printed rfl)⟩

/-! ## All packages in both runs -/

/-- `processAll` goes on behind a package that was processed to the end. -/
theorem run_processAll_cons {τ : Type} {config : Config} {write : FileWriter (StateM τ)}
    {program : Program} {collector : Collector} {path : String} {package : Package}
    (hfound : program.get? path = some package) {result : Except PackageError Unit}
    {trace : List Action} {s s₁ : τ}
    (h : ((config.output.plan collector package program).carryOut write
      (config.destination package.name) package.path).run s = ((result, trace), s₁))
    (paths : List String) :
    (processAll config write program collector (path :: paths)).run s =
      match result with
      | .error error => (⟨.error (.package path error), trace,
          (config.output.plan collector package program).collector⟩, s₁)
      | .ok () => Prod.map (Run.after trace) id ((processAll config write program
          (config.output.plan collector package program).collector paths).run s₁) := by
  rw [processAll]
  simp only [hfound, StateT.run_bind, h]
  cases result with
  | error error => rfl
  | ok _ => rfl

/-- Unless a file operation fails, `processAll` ends in the same way in both runs, and the dry run
    foretells what is reported and written. It leaves the state alone. -/
theorem processAll_foretold {config : Config} {program : Program} {paths : List String}
    {collector : Collector} {dry real : Run} {s s' t t' : σ}
    (hreal : (processAll config (diskWriter disk style) program collector paths).run s =
      (real, s'))
    (hdry : (processAll config (previewWriter (m := StateM σ) style false) program collector
      paths).run t = (dry, t'))
    (hdisk : ∀ error, real.result = .error error → ¬ error.OfDisk)
    (writes : List (String × String)) :
    t' = t ∧ dry.result = real.result ∧
      ∃ more, (processAll config (diskWriter disk.recording style) program collector paths).run
        (s, writes) = (real, s', writes ++ more) ∧ Foretells dry.trace real.trace more := by
  -- The runs go side by side; the real one hands its state on, with what is on record so far.
  induction paths generalizing collector s dry real writes with
  | nil =>
    cases hreal
    cases hdry
    exact ⟨rfl, rfl, [], run_pure_recording _ _ writes, .of_printed rfl⟩
  | cons path paths ih =>
    cases hfound : program.get? path with
    | none =>
      rw [processAll] at hreal hdry ⊢
      simp only [hfound] at hreal hdry ⊢
      cases hreal
      cases hdry
      exact ⟨rfl, rfl, [], run_pure_recording _ _ writes, .of_printed rfl⟩
    | some package =>
      have hplan := config.output.printed_plan collector package program
      rcases hcarried : ((config.output.plan collector package program).carryOut
        (diskWriter disk style) (config.destination package.name) package.path).run s with
        ⟨⟨result, trace⟩, s₁⟩
      rcases hcarried' : ((config.output.plan collector package program).carryOut
        (previewWriter (m := StateM σ) style false) (config.destination package.name)
        package.path).run t with ⟨⟨result', trace'⟩, t₁⟩
      rw [run_processAll_cons hfound hcarried] at hreal
      rw [run_processAll_cons hfound hcarried'] at hdry
      -- A fault of the disk would be the result of the whole run.
      have hpackage : ∀ error, result = .error (.write error) → ¬ error.OfDisk := by
        rintro error rfl herror
        cases hreal
        exact hdisk _ rfl (.package path herror)
      obtain ⟨rfl, rfl, more, hrecorded, hforetold⟩ :=
        Plan.carryOut_foretold hplan hcarried hcarried' hpackage writes
      rw [run_processAll_cons hfound hrecorded]
      cases result' with
      | error error =>
        cases hreal
        cases hdry
        exact ⟨rfl, rfl, more, rfl, hforetold⟩
      | ok _ =>
        -- Both runs go on with the other packages.
        obtain ⟨rest, hrest, rfl⟩ := exists_eq_after hreal
        obtain ⟨rest', hrest', rfl⟩ := exists_eq_after hdry
        obtain ⟨ht, hresult, later, hlater, hforetold'⟩ := ih hrest hrest' hdisk (writes ++ more)
        rw [List.append_assoc] at hlater
        exact ⟨ht, hresult, more ++ later, congrArg (Prod.map (Run.after trace) id) hlater,
          hforetold.append hforetold'⟩

/-- What was loaded is the same for both runs, so that `generate` is foretold as `processAll` is. -/
theorem generate_foretold {config : Config} {loaded : Logged (Except LoadError Program)}
    {collector : Collector} {dry real : Run} {s s' t t' : σ}
    (hreal : (generate config (diskWriter disk style) loaded collector).run s = (real, s'))
    (hdry : (generate config (previewWriter (m := StateM σ) style false) loaded collector).run t =
      (dry, t'))
    (hdisk : ∀ error, real.result = .error error → ¬ error.OfDisk) :
    t' = t ∧ dry.result = real.result ∧
      ∃ writes, (generate config (diskWriter disk.recording style) loaded collector).run (s, []) =
        (real, s', writes) ∧ Foretells dry.trace real.trace writes := by
  obtain ⟨value, log⟩ := loaded
  have hlog : Foretells (log.map .log) (log.map .log) [] :=
    .of_printed (Action.printed_eq_empty fun text => by simp)
  cases value with
  | error error =>
    cases hreal
    cases hdry
    exact ⟨rfl, rfl, [], rfl, hlog.append (.of_printed rfl)⟩
  | ok program =>
    -- Both runs begin with what the loader logged.
    obtain ⟨rest, hrest, rfl⟩ := exists_eq_after hreal
    obtain ⟨rest', hrest', rfl⟩ := exists_eq_after hdry
    obtain ⟨ht, hresult, writes, hrecorded, hforetold⟩ :=
      processAll_foretold hrest hrest' hdisk []
    exact ⟨ht, hresult, writes, congrArg (Prod.map (Run.after (log.map .log)) id) hrecorded,
      hlog.append hforetold⟩

/-! ## Refused files -/

/-- A writer that does nothing before it refuses a file for a name in it. -/
def FileWriter.RefusesFirst (write : FileWriter (StateM σ)) : Prop :=
  ∀ {path : String} {file : File} {s s' : σ} {destination name : String},
    (write path file).run s = (.error (.format destination name), s') → s' = s

theorem previewWriter_refusesFirst (style : LayoutStyle) (colored : Bool) :
    (previewWriter (m := StateM σ) style colored).RefusesFirst := by
  intro path file s s' destination name h
  exact (congrArg Prod.snd h).symm

theorem diskWriter_refusesFirst (disk : Disk (StateM σ)) (style : LayoutStyle) :
    (diskWriter disk style).RefusesFirst := by
  intro path file s s' destination name h
  obtain ⟨more, -, hstored⟩ := diskWriter_recording h []
  cases hstored with
  | refused hprepare => rfl
  | failed herror => exact nomatch herror

/-- A package whose file is refused leaves the state as it was, if the writer `RefusesFirst`. -/
theorem Plan.carryOut_refused {write : FileWriter (StateM σ)} (hwrite : write.RefusesFirst)
    {plan : Plan} {destination path : String} {trace : List Action} {s s' : σ}
    {refused name : String}
    (h : (plan.carryOut write destination path).run s =
      ((.error (.write (.format refused name)), trace), s')) : s' = s := by
  unfold Plan.carryOut at h
  split at h
  · cases h
  · cases h
  · rename_i file hfile
    simp only [StateT.run_bind] at h
    rcases hanswer : (write destination file).run s with ⟨answer, s₁⟩
    rw [hanswer] at h
    -- Only the writer refuses files, and its answer is passed on.
    cases answer with
    | error error =>
      cases h
      exact hwrite hanswer
    | ok receipt => cases h

/-- A run that ends with a refused file leaves the state in which it came to the package, if the
    writer `RefusesFirst`. -/
theorem processAll_refused {write : FileWriter (StateM σ)} (hwrite : write.RefusesFirst)
    {config : Config} {program : Program} {paths : List String} {collector : Collector} {run : Run}
    {s s' : σ} {path destination name : String}
    (h : (processAll config write program collector paths).run s = (run, s'))
    (hrefused : run.result = .error (.package path (.write (.format destination name)))) :
    ∃ before after front, paths = before ++ path :: after ∧
      (processAll config write program collector before).run s = (front, s') ∧
      front.result = .ok () := by
  induction paths generalizing collector s run with
  | nil =>
    cases h
    cases hrefused
  | cons first paths ih =>
    cases hfound : program.get? first with
    | none =>
      rw [processAll] at h
      simp only [hfound] at h
      cases h
      cases hrefused
    | some package =>
      rcases hcarried : ((config.output.plan collector package program).carryOut write
        (config.destination package.name) package.path).run s with ⟨⟨result, trace⟩, s₁⟩
      rw [run_processAll_cons hfound hcarried] at h
      cases result with
      | error error =>
        -- It is the file of the first package that is refused.
        cases h
        cases hrefused
        cases Plan.carryOut_refused hwrite hcarried
        exact ⟨[], paths, _, rfl, rfl, rfl⟩
      | ok _ =>
        obtain ⟨rest, hrest, rfl⟩ := exists_eq_after h
        obtain ⟨before, after, front, hpaths, hfront, hok⟩ := ih hrest hrefused
        -- The first package goes before those that the rest of the run has done.
        refine ⟨first :: before, after, front.after trace, ?_, ?_, hok⟩
        · rw [hpaths, List.cons_append]
        · rw [run_processAll_cons hfound hcarried, hfront]
          rfl

/-! ## From loading to the end -/

/-- The state in which a run comes to the package at `path`: the packages in front were processed to
    the end. -/
inductive ComesTo (config : Config) (load : PackageLoader (StateM σ))
    (write : FileWriter (StateM σ)) (collector : Collector) (s : σ) (path : String) : σ → Prop
  | intro {program : Program} {log : List LogRecord} {loaded reached : σ}
      {before after : List String} {front : Run}
      (load_eq : (load config.paths).run s = (⟨.ok program, log⟩, loaded))
      (paths_eq : config.paths = before ++ path :: after)
      (front_eq : (processAll config write program collector before).run loaded = (front, reached))
      (front_ok : front.result = .ok ()) : ComesTo config load write collector s path reached

/-- A run that ends with a refused file `ComesTo` the package of the file. -/
theorem ComesTo.of_refused {config : Config} {load : PackageLoader (StateM σ)}
    {write : FileWriter (StateM σ)} (hwrite : write.RefusesFirst) {collector : Collector}
    {run : Run} {s s' : σ} {path destination name : String}
    (h : (loadAndGenerate config load write collector).run s = (run, s'))
    (hrefused : run.result = .error (.package path (.write (.format destination name)))) :
    ComesTo config load write collector s path s' := by
  rcases hload : (load config.paths).run s with ⟨⟨value, log⟩, loaded⟩
  rw [run_loadAndGenerate write collector hload] at h
  cases value with
  | error error =>
    cases h
    -- A failure of the loader is no refusal of a file.
    cases hrefused
  | ok program =>
    obtain ⟨rest, hrest, rfl⟩ := exists_eq_after h
    obtain ⟨before, after, front, hpaths, hfront, hok⟩ := processAll_refused hwrite hrest hrefused
    exact .intro hload hpaths hfront hok

/-- A dry run foretells the real run. Unless a file operation fails, the real run ends in the same
    way and reports the same events, and what the dry run prints is made of the writes of the real
    run (`Disk.recording`), in their order. The dry run does nothing to the state after loading; and
    where a file is refused, the real run leaves the state in which it came to the package
    (`ComesTo`). -/
theorem loadAndGenerate_foretold {config : Config} {load : PackageLoader (StateM σ)}
    {collector : Collector} {dry real : Run} {s s' t : σ}
    (hreal : (loadAndGenerate config load (diskWriter disk style) collector).run s = (real, s'))
    (hdry : (loadAndGenerate config load (previewWriter style false) collector).run s = (dry, t))
    (hdisk : ∀ error, real.result = .error error → ¬ error.OfDisk) :
    dry.result = real.result ∧ Action.events dry.trace = Action.events real.trace ∧
      (∃ writes, (loadAndGenerate config load.recording (diskWriter disk.recording style)
          collector).run (s, []) = (real, s', writes) ∧
        Action.printed dry.trace = String.join
          (writes.map fun (path, text) => "// " ++ path ++ "\n" ++ text ++ "\n")) ∧
      t = ((load config.paths).run s).2 ∧
      ∀ path destination name,
        real.result = .error (.package path (.write (.format destination name))) →
          ComesTo config load (diskWriter disk style) collector s path s' ∧
            ComesTo config load (previewWriter style false) collector s path t := by
  -- Both runs load first, and the same is loaded.
  rcases hload : (load config.paths).run s with ⟨loaded, s₁⟩
  have hreal' := (run_loadAndGenerate _ collector hload).symm.trans hreal
  have hdry' := (run_loadAndGenerate _ collector hload).symm.trans hdry
  obtain ⟨ht, hresult, writes, hrecorded, hforetold⟩ := generate_foretold hreal' hdry' hdisk
  have hload' : (load.recording config.paths).run (s, []) = (loaded, s₁, []) := run_beside hload []
  have hrecorded' := (run_loadAndGenerate _ collector hload').trans hrecorded
  refine ⟨hresult, hforetold.events_eq, ⟨writes, hrecorded', hforetold.printed_eq⟩, ht,
    fun path destination name hrefused => ⟨?_, ?_⟩⟩
  · exact .of_refused (diskWriter_refusesFirst disk style) hreal hrefused
  · exact .of_refused (previewWriter_refusesFirst style false) hdry (hresult.trans hrefused)

end Runs

/-! ## A run that refuses a file -/

namespace Workshop

/-- A package whose only struct has one method. -/
def package (name struct method : String) : Package where
  path := "example.com/" ++ name
  name := name
  types := [⟨struct, [], .struct [], [⟨method, .empty⟩]⟩]
  errors := []

/-- A configuration that puts the file of each package into a directory of its own. -/
def config : Config where
  output := ⟨"mocks", "mocks", "\x7bpackage\x7d/iface.go", "Iface"⟩
  paths := ["example.com/tools", "example.com/parts"]

/-- The packages; a method of the second one has no name that can be written. -/
def program : Program := [package "tools" "Hammer" "Strike", package "parts" "Screw" "Turn Left"]

/-- A loader that has the packages at hand. -/
def load : PackageLoader (StateM Tree) := fun _ => pure ⟨.ok program, []⟩

/-- The tree before the runs. -/
def tree : Tree := ⟨.dir [], []⟩

/-- The real run, and the tree after it. -/
def real : Run × Tree :=
  (loadAndGenerate config load (diskWriter Tree.disk {}) []).run tree

/-- The dry run, and the tree after it. -/
def dry : Run × Tree :=
  (loadAndGenerate config load (previewWriter {} false) []).run tree

/-- How the real run ends, and which directories are there after it. -/
theorem real_eq : real.1.result = .error
      (.package "example.com/parts" (.write (.format "mocks/parts/iface.go" "Turn Left"))) ∧
    real.2.isPresent "mocks/tools" = true ∧ real.2.isPresent "mocks/parts" = false := by
  decide +kernel

/-- The first package is shown and written; then both runs refuse the second one, and the real run
    leaves the tree in which it came to it (`ComesTo`). -/
theorem foretold_real :
    dry.1.result = .error
      (.package "example.com/parts" (.write (.format "mocks/parts/iface.go" "Turn Left"))) ∧
    Action.events dry.1.trace = Action.events real.1.trace ∧
    (∃ writes, (loadAndGenerate config load.recording (diskWriter Tree.disk.recording {})
        []).run (tree, []) = (real.1, real.2, writes) ∧
      Action.printed dry.1.trace = String.join
        (writes.map fun (path, text) => "// " ++ path ++ "\n" ++ text ++ "\n")) ∧
    Action.printed dry.1.trace = "// mocks/tools/iface.go\n" ++
      "package mocks\n\ntype HammerIface interface \x7b\n\tStrike()\n\x7d\n" ++ "\n" ∧
    dry.2 = tree ∧
    ComesTo config load (diskWriter Tree.disk {}) [] tree "example.com/parts" real.2 ∧
    real.2.isPresent "mocks/tools" = true ∧ real.2.isPresent "mocks/parts" = false := by
  have hreal : (loadAndGenerate config load (diskWriter Tree.disk {}) []).run tree =
      (real.1, real.2) := by
    unfold real
    rfl
  have hdry : (loadAndGenerate config load (previewWriter {} false) []).run tree =
      (dry.1, dry.2) := by
    unfold dry
    rfl
  -- No file operation fails: the run ends with a refused file.
  have hdisk : ∀ error, real.1.result = .error error → ¬ error.OfDisk := by
    intro error herror hofDisk
    rw [real_eq.1] at herror
    cases herror
    cases hofDisk with
    | package _ h => exact nomatch h
  obtain ⟨hresult, hevents, hwrites, htree, hrefused⟩ :=
    loadAndGenerate_foretold hreal hdry hdisk
  obtain ⟨hcomes, -⟩ := hrefused _ _ _ real_eq.1
  exact ⟨hresult.trans real_eq.1, hevents, hwrites, by decide +kernel, htree, hcomes, real_eq.2⟩

end Workshop

end IfaceGen
