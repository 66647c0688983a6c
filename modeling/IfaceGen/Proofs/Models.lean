import IfaceGen.Models
import IfaceGen.Proofs.Disk.Walk
import IfaceGen.Proofs.Except
import IfaceGen.Proofs.Package

/-!
# Loading models

What comes of loading is a matter of the files in the directory of models, each known by the names
that lead to it. `ModelDir.Declares` says that names lead to a model of a package,
`ModelDir.Effective` that no later file declares the path of the package again, `ModelDir.Faulty`
why names lead to a model file without a model. Earlier and later is the order of a walk, which is
an order of names.

Loading takes two passes. The first one reads every model file and stops at the first faulty one;
the second one goes through the requests and stops at the first one that the effective packages do
not meet. So a fault counts before any offence, whichever packages are asked for, and the errors of
a package that a later file replaces do not count.

## Key results

- `value_readModels`, `value_loadModels`: the two passes, without what is logged
- `Program.get?_iff_of_forall₂`: of the packages with one path the last one counts
- `ModelDir.mapM_read_eq_error`: the first pass fails with the first fault
- `ModelDir.requested_eq_error`: what a request fails with
- `modelLoader_outcome`: what comes of loading
-/

namespace IfaceGen

/-! ## The two passes -/

/-- The package of the model in a file, or the reason why there is none: it cannot be read, or
    `Package.ofJson?` does not take it. -/
def packageIn (path : String) : Except IoFault String → Except LoadError Package
  | .error fault => .error (.io path fault)
  | .ok text => (Package.ofJson? text).elim (.error (.decode path)) .ok

theorem packageIn_eq_ok {path : String} {content : Except IoFault String} {package : Package} :
    packageIn path content = .ok package ↔
      ∃ text, content = .ok text ∧ Package.ofJson? text = some package := by
  cases content with
  | error fault => simp [packageIn]
  | ok text => cases htext : Package.ofJson? text <;> simp [packageIn, htext]

theorem packageIn_eq_error {path : String} {content : Except IoFault String} {error : LoadError} :
    packageIn path content = .error error ↔
      (∃ fault, content = .error fault ∧ error = .io path fault) ∨
        ∃ text, content = .ok text ∧ Package.ofJson? text = none ∧ error = .decode path := by
  cases content with
  | error fault => simp [packageIn, eq_comm]
  | ok text => cases htext : Package.ofJson? text <;> simp [packageIn, htext, eq_comm]

/-- `readModels` takes the files one by one. -/
theorem value_readModels (files : List (String × Except IoFault String)) :
    (readModels files).value = files.mapM fun file => packageIn file.1 file.2 := by
  induction files with
  | nil => rfl
  | cons file files ih =>
    obtain ⟨path, content⟩ := file
    rw [List.mapM_cons]
    -- A file that cannot be read or decoded ends the pass.
    cases content with
    | error fault => rfl
    | ok text =>
      rw [readModels, packageIn]
      cases Package.ofJson? text with
      | none => rfl
      | some package =>
        simp only [Logged.value_bind, Logged.value_pure, ih]
        rfl

/-- The package that a request asks for, or the reason why the request fails. -/
def Program.requested (program : Program) (path : String) : Except LoadError Package :=
  match program.get? path with
  | none => .error (.notFound path)
  | some package =>
    if package.errors.isEmpty then .ok package else .error (.typeCheckFailure path package.errors)

/-- `Program.checkRequested` takes the requests one by one. -/
theorem Program.checkRequested_eq (program : Program) (paths : List String) :
    program.checkRequested paths = (paths.mapM program.requested).map fun _ => () := by
  induction paths with
  | nil => rfl
  | cons path paths ih =>
    rw [checkRequested, List.mapM_cons, requested]
    cases program.get? path with
    | none => rfl
    | some package =>
      dsimp only
      split
      · rw [ih]
        cases paths.mapM program.requested <;> rfl
      · rfl

/-- `loadModels` makes both passes, one after the other. -/
theorem value_loadModels (dir : String) (node : Node) {paths : List String} (hpaths : paths ≠ []) :
    (loadModels dir (.ok node) paths).value = do
      let program : Program ← ((node.files dir).filter (isModelFile ·.1)).mapM fun file =>
        packageIn file.1 file.2
      let _ ← paths.mapM program.requested
      return program := by
  rw [loadModels, if_neg (by simpa using hpaths)]
  simp only [Logged.value_bind, Logged.value_pure, value_readModels]
  refine congrArg _ (funext fun program => ?_)
  rw [Program.request, Program.checkRequested_eq]
  cases paths.mapM program.requested <;> rfl

/-! ## Packages with one path -/

/-- Of the packages with one path `Program.get?` takes the last one. If the packages come from
    things that are in order, that is the one of the last thing. -/
theorem Program.get?_iff_of_forall₂ {α : Type} {r : α → Package → Prop} {lt : α → α → Prop}
    (hfun : ∀ x package other, r x package → r x other → package = other)
    (hasymm : ∀ x y, lt x y → ¬ lt y x) {xs : List α} (hsorted : xs.Pairwise lt) {program : Program}
    (h : List.Forall₂ r xs program) {path : String} {package : Package} :
    program.get? path = some package ↔ package.path = path ∧ ∃ x ∈ xs, r x package ∧
      ∀ later ∈ xs, lt x later → ∀ other, r later other → other.path ≠ path := by
  induction h with
  | nil => simp [get?]
  | @cons first found xs program hfirst hrest ih =>
    rw [List.pairwise_cons] at hsorted
    rw [get?, Option.or_eq_some_iff, ih hsorted.2, get?_eq_none_iff]
    constructor
    · -- The package is found in the rest, or it is the first one and the rest has none of the path.
      rintro (⟨hpath, x, hx, hpackage, hlater⟩ | ⟨hnone, hfound⟩)
      · refine ⟨hpath, x, List.mem_cons_of_mem _ hx, hpackage, fun later hmem hlt => ?_⟩
        rcases List.mem_cons.1 hmem with rfl | hmem
        · exact absurd hlt (hasymm _ _ (hsorted.1 x hx))
        · exact hlater later hmem hlt
      · obtain ⟨hpath, hsome⟩ := Option.ite_none_right_eq_some.1 hfound
        cases hsome
        refine ⟨hpath, first, List.mem_cons_self, hfirst, fun later hmem hlt other hother => ?_⟩
        rcases List.mem_cons.1 hmem with rfl | hmem
        · exact absurd hlt (hasymm _ _ hlt)
        · obtain ⟨partner, hpartner, hr⟩ := exists_right_of_forall₂ hrest hmem
          exact hfun later other partner hother hr ▸ hnone partner hpartner
    · rintro ⟨hpath, x, hx, hpackage, hlater⟩
      -- Where the first thing is the last one for the path, the rest has nothing with it.
      rcases List.mem_cons.1 hx with rfl | hx
      · refine .inr ⟨fun other hother => ?_, ?_⟩
        · obtain ⟨later, hmem, hr⟩ := exists_left_of_forall₂ hrest hother
          exact hlater later (List.mem_cons_of_mem _ hmem) (hsorted.1 later hmem) other hr
        · rw [hfun _ _ _ hfirst hpackage, if_pos hpath]
      · exact .inl ⟨hpath, x, hx, hpackage, fun later hmem =>
          hlater later (List.mem_cons_of_mem _ hmem)⟩

/-! ## Directories of models -/

/-- A directory of models: where it stands, and what is in it. -/
structure ModelDir where
  path : String
  node : Node
  wellFormed : node.WellFormed

namespace ModelDir

variable (models : ModelDir)

/-- The names lead to a model file with the given content. -/
def Stores (names : List String) (content : Except IoFault String) : Prop :=
  models.node.descend names = some (.file content) ∧
    isModelFile (Path.below models.path names) = true

/-- The names lead to a model of a package. -/
def Declares (names : List String) (package : Package) : Prop :=
  ∃ text, models.Stores names (.ok text) ∧ Package.ofJson? text = some package

/-- The package has a model, and no later file `Declares` its path. -/
def Effective (package : Package) : Prop :=
  ∃ names, models.Declares names package ∧
    ∀ later other, names < later → models.Declares later other → other.path ≠ package.path

/-- The names lead to a model file without a model; the error says why, with the path of the
    file. -/
inductive Faulty : List String → LoadError → Prop
  | unreadable {names : List String} {fault : IoFault}
      (hfile : models.Stores names (.error fault)) :
      Faulty names (.io (Path.below models.path names) fault)
  | undecodable {names : List String} {text : String} (hfile : models.Stores names (.ok text))
      (htext : Package.ofJson? text = none) :
      Faulty names (.decode (Path.below models.path names))

/-- What is wrong with the first `Faulty` model file. -/
def FirstFault (error : LoadError) : Prop :=
  ∃ names, models.Faulty names error ∧ ∀ earlier < names, ∀ other, ¬ models.Faulty earlier other

/-- A request that the `Effective` packages do not meet; the error says why. -/
inductive Offends (path : String) : LoadError → Prop
  | notFound (hnone : ∀ names package, models.Declares names package → package.path ≠ path) :
      Offends path (.notFound path)
  | broken {package : Package} (heffective : models.Effective package)
      (hpath : package.path = path) (herrors : package.errors ≠ []) :
      Offends path (.typeCheckFailure path package.errors)

/-- What is wrong with the first request that `Offends`. -/
def FirstOffence (paths : List String) (error : LoadError) : Prop :=
  ∃ before path after, paths = before ++ path :: after ∧ models.Offends path error ∧
    ∀ earlier ∈ before, ∀ other, ¬ models.Offends earlier other

/-! ### The first pass -/

/-- The model files in the order of `Node.walk`. -/
def files : List (List String × Except IoFault String) :=
  models.node.walk.filter fun file => isModelFile (Path.below models.path file.1)

/-- The package of the model in one of the files. -/
def read (file : List String × Except IoFault String) : Except LoadError Package :=
  packageIn (Path.below models.path file.1) file.2

variable {models}

theorem mem_files {names : List String} {content : Except IoFault String} :
    (names, content) ∈ models.files ↔ models.Stores names content := by
  rw [files, List.mem_filter, Node.mem_walk_iff models.wellFormed, Stores]

theorem pairwise_files : models.files.Pairwise (·.1 < ·.1) :=
  (Node.pairwise_walk models.wellFormed).filter _

theorem mapM_packageIn_eq :
    (((models.node.files models.path).filter (isModelFile ·.1)).mapM fun file =>
      packageIn file.1 file.2) = models.files.mapM models.read := by
  rw [Node.files_eq_map_walk, List.filter_map, List.mapM_map]
  rfl

theorem declares_iff {names : List String} {package : Package} :
    models.Declares names package ↔
      ∃ file ∈ models.files, file.1 = names ∧ models.read file = .ok package := by
  constructor
  · rintro ⟨text, hfile, htext⟩
    exact ⟨(names, .ok text), mem_files.2 hfile, rfl, packageIn_eq_ok.2 ⟨text, rfl, htext⟩⟩
  · rintro ⟨⟨names, content⟩, hfile, rfl, hread⟩
    obtain ⟨text, rfl, htext⟩ := packageIn_eq_ok.1 hread
    exact ⟨text, mem_files.1 hfile, htext⟩

theorem faulty_iff {names : List String} {error : LoadError} :
    models.Faulty names error ↔
      ∃ file ∈ models.files, file.1 = names ∧ models.read file = .error error := by
  constructor
  · rintro (⟨hfile⟩ | ⟨hfile, htext⟩)
    · exact ⟨_, mem_files.2 hfile, rfl, rfl⟩
    · exact ⟨_, mem_files.2 hfile, rfl, packageIn_eq_error.2 (.inr ⟨_, rfl, htext, rfl⟩)⟩
  · rintro ⟨⟨names, content⟩, hfile, rfl, hread⟩
    rcases packageIn_eq_error.1 hread with ⟨fault, rfl, rfl⟩ | ⟨text, rfl, htext, rfl⟩
    · exact .unreadable (mem_files.1 hfile)
    · exact .undecodable (mem_files.1 hfile) htext

theorem asymm_names (file file' : List String × Except IoFault String) (h : file.1 < file'.1) :
    ¬ file'.1 < file.1 :=
  lt_asymm h

/-- The first pass fails with the `FirstFault`. -/
theorem mapM_read_eq_error {error : LoadError} :
    models.files.mapM models.read = .error error ↔ models.FirstFault error := by
  rw [mapM_eq_error, exists_split_first_iff asymm_names pairwise_files]
  -- The first file without a model is the one before which no file is faulty, as the files are
  -- sorted.
  constructor
  · rintro ⟨file, hfile, herror, hsmaller⟩
    refine ⟨file.1, faulty_iff.2 ⟨file, hfile, rfl, herror⟩, fun earlier hlt other hfaulty => ?_⟩
    obtain ⟨file', hfile', rfl, herror'⟩ := faulty_iff.1 hfaulty
    exact exists_eq_ok_iff.1 (hsmaller file' hfile' hlt) other herror'
  · rintro ⟨names, hfaulty, hearlier⟩
    obtain ⟨file, hfile, rfl, herror⟩ := faulty_iff.1 hfaulty
    refine ⟨file, hfile, herror, fun file' hfile' hlt => exists_eq_ok_iff.2 fun other herror' => ?_⟩
    exact hearlier file'.1 hlt other (faulty_iff.2 ⟨file', hfile', rfl, herror'⟩)

/-- The first pass succeeds if no model file is `Faulty`. -/
theorem exists_mapM_read_eq_ok :
    (∃ program, models.files.mapM models.read = .ok program) ↔
      ∀ names error, ¬ models.Faulty names error := by
  rw [exists_mapM_eq_ok_iff]
  constructor
  · intro hall names error hfaulty
    obtain ⟨file, hfile, -, herror⟩ := faulty_iff.1 hfaulty
    exact exists_eq_ok_iff.1 (hall file hfile) error herror
  · intro hnone file hfile
    exact exists_eq_ok_iff.2 fun error herror =>
      hnone file.1 error (faulty_iff.2 ⟨file, hfile, rfl, herror⟩)

/-- No model file is `Faulty` if all of them can be read and decoded. -/
theorem forall_not_faulty_iff : (∀ names error, ¬ models.Faulty names error) ↔
    ∀ names content, models.Stores names content →
      ∃ text, content = .ok text ∧ (Package.ofJson? text).isSome := by
  constructor
  · intro hnone names content hfile
    cases content with
    | error fault => exact absurd (.unreadable hfile) (hnone _ _)
    | ok text =>
      refine ⟨text, rfl, ?_⟩
      rw [Option.isSome_iff_ne_none]
      exact fun htext => hnone _ _ (.undecodable hfile htext)
  · rintro hall names error (⟨hfile⟩ | ⟨hfile, htext⟩)
    · obtain ⟨text, htext, -⟩ := hall _ _ hfile
      exact nomatch htext
    · obtain ⟨text, hok, hsome⟩ := hall _ _ hfile
      cases hok
      rw [htext] at hsome
      exact nomatch hsome

/-! ### The second pass -/

section Requests

variable {program : Program} (hread : models.files.mapM models.read = .ok program)
include hread

/-- The program maps each path to the `Effective` package with this path. -/
theorem get?_eq_some_iff {path : String} {package : Package} :
    program.get? path = some package ↔ models.Effective package ∧ package.path = path := by
  rw [Program.get?_iff_of_forall₂ (fun _ _ _ h h' => Except.ok.inj (h.symm.trans h')) asymm_names
    pairwise_files (mapM_eq_ok.1 hread), and_comm]
  -- The last of the files that declare the path is the one behind which no other does.
  refine and_congr_left ?_
  rintro rfl
  constructor
  · rintro ⟨file, hfile, hpackage, hlater⟩
    refine ⟨file.1, declares_iff.2 ⟨file, hfile, rfl, hpackage⟩, ?_⟩
    intro later other hlt hdeclares
    obtain ⟨file', hfile', rfl, hother⟩ := declares_iff.1 hdeclares
    exact hlater file' hfile' hlt other hother
  · rintro ⟨names, hdeclares, hlater⟩
    obtain ⟨file, hfile, rfl, hpackage⟩ := declares_iff.1 hdeclares
    exact ⟨file, hfile, hpackage, fun file' hfile' hlt other hother =>
      hlater file'.1 other hlt (declares_iff.2 ⟨file', hfile', rfl, hother⟩)⟩

theorem get?_eq_none_iff {path : String} : program.get? path = none ↔
    ∀ names package, models.Declares names package → package.path ≠ path := by
  rw [Program.get?_eq_none_iff]
  constructor
  · intro hnone names package hdeclares
    obtain ⟨file, hfile, -, hpackage⟩ := declares_iff.1 hdeclares
    obtain ⟨other, hother, hread⟩ := exists_right_of_forall₂ (mapM_eq_ok.1 hread) hfile
    exact Except.ok.inj (hread.symm.trans hpackage) ▸ hnone other hother
  · intro hnone package hpackage
    obtain ⟨file, hfile, hread⟩ := exists_left_of_forall₂ (mapM_eq_ok.1 hread) hpackage
    exact hnone file.1 package (declares_iff.2 ⟨file, hfile, rfl, hread⟩)

/-- A request is met by the `Effective` package, if that is free of errors. -/
theorem requested_eq_ok {path : String} {package : Package} :
    program.requested path = .ok package ↔
      models.Effective package ∧ package.path = path ∧ package.errors = [] := by
  rw [← and_assoc, ← get?_eq_some_iff hread, Program.requested]
  cases program.get? path with
  | none => exact ⟨(nomatch ·), fun h => nomatch h.1⟩
  | some found =>
    rw [Option.some.injEq, ← List.isEmpty_iff]
    dsimp only
    split
    · rename_i hempty
      rw [Except.ok.injEq]
      exact ⟨fun h => ⟨h, h ▸ hempty⟩, fun h => h.1⟩
    · rename_i hnonempty
      exact ⟨(nomatch ·), fun h => absurd (h.1 ▸ h.2) hnonempty⟩

/-- What a request fails with, in the sense of `Offends`. -/
theorem requested_eq_error {path : String} {error : LoadError} :
    program.requested path = .error error ↔ models.Offends path error := by
  rw [Program.requested]
  cases hget : program.get? path with
  | none =>
    rw [Except.error.injEq]
    constructor
    · rintro rfl
      exact .notFound ((get?_eq_none_iff hread).1 hget)
    · rintro (_ | ⟨heffective, hpath, -⟩)
      · rfl
      · exact nomatch hget.symm.trans ((get?_eq_some_iff hread).2 ⟨heffective, hpath⟩)
  | some found =>
    -- The package that is found is the effective one, and there is no other of its path.
    obtain ⟨heffective, hpath⟩ := (get?_eq_some_iff hread).1 hget
    dsimp only
    constructor
    · intro h
      split at h
      · exact nomatch h
      · cases h
        exact .broken heffective hpath (by rwa [List.isEmpty_iff] at *)
    · rintro (hnone | ⟨heffective', hpath', herrors⟩)
      · exact nomatch hget.symm.trans ((get?_eq_none_iff hread).2 hnone)
      · obtain rfl := Option.some.inj
          (hget.symm.trans ((get?_eq_some_iff hread).2 ⟨heffective', hpath'⟩))
        rw [if_neg (by rwa [List.isEmpty_iff])]

/-- The second pass fails with the `FirstOffence`. -/
theorem mapM_requested_eq_error {paths : List String} {error : LoadError} :
    paths.mapM program.requested = .error error ↔ models.FirstOffence paths error := by
  simp only [mapM_eq_error, exists_eq_ok_iff, ne_eq, requested_eq_error hread, FirstOffence]

end Requests

end ModelDir

/-! ## Loading -/

theorem value_modelLoader {tree : Tree} {models : ModelDir}
    (hfind : tree.find models.path = .ok models.node) {paths : List String} (hpaths : paths ≠ []) :
    ((modelLoader Tree.disk models.path paths).run tree).1.value = do
      let program : Program ← models.files.mapM models.read
      let _ ← paths.mapM program.requested
      return program := by
  have hrun : (modelLoader Tree.disk models.path paths).run tree =
      (loadModels models.path (tree.find models.path) paths, tree) := rfl
  rw [hrun, hfind, value_loadModels _ _ hpaths, ModelDir.mapM_packageIn_eq]

/-- Loading succeeds if every model file can be read and decoded and the effective package of each
    path that is asked for is there and free of errors; the program then maps paths to effective
    packages. Otherwise it fails with the first faulty file, whatever is asked for, or, if there
    is none, with the first request that is not met. -/
theorem modelLoader_outcome {tree : Tree} {models : ModelDir}
    (hfind : tree.find models.path = .ok models.node) {paths : List String} (hpaths : paths ≠ []) :
    let outcome := ((modelLoader Tree.disk models.path paths).run tree).1.value
    ((∃ program, outcome = .ok program) ↔
      (∀ names content, models.Stores names content →
        ∃ text, content = .ok text ∧ (Package.ofJson? text).isSome) ∧
      ∀ path ∈ paths, ∃ package, models.Effective package ∧ package.path = path ∧
        package.errors = []) ∧
    (∀ program, outcome = .ok program → ∀ path package, program.get? path = some package ↔
      models.Effective package ∧ package.path = path) ∧
    ∀ error, outcome = .error error ↔ models.FirstFault error ∨
      (∀ names other, ¬ models.Faulty names other) ∧ models.FirstOffence paths error := by
  rw [value_modelLoader hfind hpaths]
  refine ⟨?_, fun program hok => ?_, fun error => ?_⟩
  · rw [← ModelDir.forall_not_faulty_iff, ← ModelDir.exists_mapM_read_eq_ok]
    simp only [bind_eq_ok, pure_eq_ok]
    -- Both passes succeed: every file has a model, and every request is met.
    constructor
    · rintro ⟨_, program, hread, packages, hrequested, rfl⟩
      refine ⟨⟨program, hread⟩, fun path hpath => ?_⟩
      obtain ⟨package, hpackage⟩ := exists_mapM_eq_ok_iff.1 ⟨packages, hrequested⟩ path hpath
      exact ⟨package, (ModelDir.requested_eq_ok hread).1 hpackage⟩
    · rintro ⟨⟨program, hread⟩, hmet⟩
      have hall : ∀ path ∈ paths, ∃ package, Program.requested program path = .ok package :=
        fun path hpath => (hmet path hpath).imp fun package => (ModelDir.requested_eq_ok hread).2
      obtain ⟨packages, hrequested⟩ := exists_mapM_eq_ok_iff.2 hall
      exact ⟨program, program, hread, packages, hrequested, rfl⟩
  · simp only [bind_eq_ok, pure_eq_ok] at hok
    obtain ⟨program', hread, -, -, rfl⟩ := hok
    exact fun path package => ModelDir.get?_eq_some_iff hread
  · rw [← ModelDir.mapM_read_eq_error, ← ModelDir.exists_mapM_read_eq_ok, bind_eq_error]
    -- The first pass fails, or it succeeds and the second one fails.
    refine or_congr_right ?_
    constructor
    · rintro ⟨program, hread, hfail⟩
      rcases bind_eq_error.1 hfail with hfail | ⟨packages, -, hpure⟩
      · exact ⟨⟨program, hread⟩, (ModelDir.mapM_requested_eq_error hread).1 hfail⟩
      · exact nomatch hpure
    · rintro ⟨⟨program, hread⟩, hoffence⟩
      exact ⟨program, hread, bind_eq_error.2
        (.inl ((ModelDir.mapM_requested_eq_error hread).2 hoffence))⟩

namespace Archive

/-- The model of the package `p` with a name of one character. -/
def document (name : Char) : String :=
  String.ofList ['[', '"', 'p', '"', ',', '"', name, '"', ']']

/-- The directory `a`, which holds a model of the package `p`. -/
def subdir : String × Node := ("a", .dir [("z.json", .file (.ok (document 'x')))])

/-- Another model of the package, and a file that is no model and need not be readable. The file
    `a.json` in the directory `subdir` is sorted behind the first one. -/
def besides : List (String × Node) :=
  [("b.json", .file (.ok (document 'y'))), ("readme.md", .file (.error .invalidData))]

/-- The directory of models. -/
def models : ModelDir := ⟨"models", .dir (besides ++ [subdir]), by simp [besides, subdir]⟩

/-- The tree in which it stands. -/
def tree : Tree := ⟨.dir [("models", .dir (besides ++ [subdir]))], []⟩

/-- The package with the given name. -/
def package (name : Char) : Package := ⟨"p", String.singleton name, [], []⟩

theorem value_string {c : Char} (hc : c = 'p' ∨ c = 'x' ∨ c = 'y') (rest : List Char) :
    Json.value ('"' :: c :: '"' :: rest) =
      some (.str (String.singleton c), ⟨rest, by simp only [List.length_cons]; omega⟩) := by
  rw [Json.value]
  rcases hc with rfl | rfl | rfl <;> rfl

theorem ofJson?_document {name : Char} (hname : name = 'x' ∨ name = 'y') :
    Package.ofJson? (document name) = some (package name) := by
  -- The reader recurses on the length of the text: its steps are taken one by one, from the end.
  have hlast : Json.elements ['"', name, '"', ']'] =
      some ([.str (String.singleton name)], ⟨[], Nat.succ_pos _⟩) := by
    rw [Json.elements, value_string (.inr hname)]
    rfl
  have hitems : Json.elements ['"', 'p', '"', ',', '"', name, '"', ']'] =
      some ([.str "p", .str (String.singleton name)], ⟨[], Nat.succ_pos _⟩) := by
    rw [Json.elements, value_string (.inl rfl)]
    change (Json.elements ['"', name, '"', ']']).bind _ = _
    rw [hlast]
    rfl
  have hwhole : Json.value ['[', '"', 'p', '"', ',', '"', name, '"', ']'] =
      some (.list [.str "p", .str (String.singleton name)], ⟨[], Nat.succ_pos _⟩) := by
    rw [Json.value]
    change (Json.elements ['"', 'p', '"', ',', '"', name, '"', ']']).bind _ = _
    rw [hitems]
    rfl
  have hparse : ∀ s, (document name).toList = s → Json.parse (document name) =
      (Json.value (Json.skipBlank s)).bind fun found =>
        if (Json.skipBlank found.2.val).isEmpty then some found.1 else none := by
    rintro _ rfl
    rfl
  rw [Package.ofJson?, hparse _ String.toList_ofList]
  change ((Json.value ['[', '"', 'p', '"', ',', '"', name, '"', ']']).bind _).bind _ = _
  rw [hwhole]
  rfl

theorem files_models : models.files =
    [(["a", "z.json"], .ok (document 'x')), (["b.json"], .ok (document 'y'))] := by
  -- The directory comes first by name, although it is listed last.
  have hsort : (besides ++ [subdir]).mergeSort (fun a b => a.1 ≤ b.1) = subdir :: besides := by
    rw [mergeSort_eq_of_perm List.perm_append_comm (by decide)]
    exact List.mergeSort_of_pairwise (by decide)
  have hwalk : models.node.walk = [(["a", "z.json"], .ok (document 'x')),
      (["b.json"], .ok (document 'y')), (["readme.md"], .error .invalidData)] := by
    rw [models, Node.walk_dir, hsort]
    simp [subdir, besides, Node.walk, Node.entriesWalk]
  rw [ModelDir.files, hwalk]
  have hjson : isModelFile "models/a/z.json" = true ∧ isModelFile "models/b.json" = true ∧
      isModelFile "models/readme.md" = false := by decide +kernel
  have hbelow : Path.below "models" ["a", "z.json"] = "models/a/z.json" ∧
      Path.below "models" ["b.json"] = "models/b.json" ∧
      Path.below "models" ["readme.md"] = "models/readme.md" := by decide +kernel
  simp [models, hbelow, hjson]

/-- What comes of a request. -/
def outcome (paths : List String) : Except LoadError Program :=
  ((modelLoader Tree.disk "models" paths).run tree).1.value

/-- Of the two models of one package the one in the later file is `Effective`, and a request for a
    package without a model is the first one that fails. -/
theorem outcome_requests :
    (∃ program, outcome ["p"] = .ok program ∧ program.get? "p" = some (package 'y')) ∧
    models.Effective (package 'y') ∧ outcome ["p", "q", "r"] = .error (.notFound "q") ∧
    models.FirstOffence ["p", "q", "r"] (.notFound "q") := by
  have hfind : tree.find models.path = .ok models.node := rfl
  obtain ⟨-, hprogram, hnofault⟩ := modelLoader_outcome hfind (List.cons_ne_nil "p" [])
  obtain ⟨-, -, herror⟩ := modelLoader_outcome hfind (List.cons_ne_nil "p" ["q", "r"])
  have hread : models.files.mapM models.read = .ok [package 'x', package 'y'] := by
    rw [files_models]
    exact mapM_eq_ok.2 (.cons (packageIn_eq_ok.2 ⟨_, rfl, ofJson?_document (.inl rfl)⟩)
      (.cons (packageIn_eq_ok.2 ⟨_, rfl, ofJson?_document (.inr rfl)⟩) .nil))
  have hok : outcome ["p"] = .ok [package 'x', package 'y'] := by
    refine (value_modelLoader hfind (List.cons_ne_nil _ _)).trans ?_
    rw [hread]
    rfl
  have hfail : outcome ["p", "q", "r"] = .error (.notFound "q") := by
    refine (value_modelLoader hfind (List.cons_ne_nil _ _)).trans ?_
    rw [hread]
    rfl
  refine ⟨⟨_, hok, rfl⟩, ((hprogram _ hok "p" _).1 rfl).1, hfail, ?_⟩
  -- A fault would have kept the first request from being met.
  rcases (herror _).1 hfail with hfault | ⟨-, hoffence⟩
  · exact nomatch hok.symm.trans ((hnofault _).2 (.inl hfault))
  · exact hoffence

end Archive

end IfaceGen
