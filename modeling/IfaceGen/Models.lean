import IfaceGen.Disk.Access
import IfaceGen.Json.Parser
import IfaceGen.Log
import IfaceGen.Package.Codec
import IfaceGen.Text.Quoted

/-!
# Loading models

The models of packages are JSON documents in a directory, one package per file. All of them are
read, in walking order, whether they are asked for or not; then the packages that are asked for have
to be there and free of errors.
-/

namespace IfaceGen

/-- Why the packages could not be loaded. `notFound` and `typeCheckFailure` are about packages that
    were asked for, the others about files. -/
inductive LoadError where
  | notFound (path : String)
  | typeCheckFailure (path : String) (errors : List String)
  | io (path : String) (fault : IoFault)
  | decode (path : String)
deriving DecidableEq, Repr

/-- What a failure says. -/
def LoadError.diagnostic : LoadError → Diagnostic
  | .notFound path =>
    { message := "requested package " ++ Text.quote path ++ " was not loaded"
      code := "L-001", help := some "Export a model of the package into the models directory" }
  | .typeCheckFailure path errors =>
    { message := "errors loading package " ++ Text.quote path ++ ": " ++ "; ".intercalate errors
      code := "L-002" }
  | .io path fault => { message := "reading " ++ path, code := "L-003", sources := [.io fault] }
  | .decode path =>
    { message := "decoding package model " ++ path, code := "L-004", sources := [.json] }

/-- How many lists and records may be open around a type of a model. -/
def modelDepthLimit : Nat := 127

/-- The package that a JSON text denotes, if it nests no deeper than `modelDepthLimit`. -/
def Package.ofJson? (text : String) : Option Package :=
  (Json.parse text).bind (Package.decodeWithin modelDepthLimit)

/-- Checks that the packages that are asked for are there and free of errors, in the order in which
    they are asked for. -/
def Program.checkRequested (program : Program) : List String → Except LoadError Unit
  | [] => .ok ()
  | path :: paths =>
    match program.get? path with
    | none => .error (.notFound path)
    | some package =>
      if package.errors.isEmpty then program.checkRequested paths
      else .error (.typeCheckFailure path package.errors)

/-- The program, if it passes `Program.checkRequested`. It holds all packages, not only those that
    are asked for. -/
def Program.request (program : Program) (paths : List String) : Except LoadError Program :=
  (program.checkRequested paths).map fun _ => program

/-- Reads models from files, up to the first one that cannot be read or is not a package
    (`Package.ofJson?`). -/
def readModels : List (String × Except IoFault String) → Logged (Except LoadError Program)
  | [] => pure (.ok [])
  | (path, .error fault) :: _ => pure (.error (.io path fault))
  | (path, .ok text) :: files =>
    match Package.ofJson? text with
    | none => pure (.error (.decode path))
    | some package => do
      Logged.tell .models .debug ("Loaded model of " ++ package.path ++ " from " ++ path)
      let others ← readModels files
      return others.map (package :: ·)

/-- Whether a file holds a model, by its `Path.extension?`. -/
def isModelFile (path : String) : Bool :=
  Path.extension? path = some "json"

/-- Loads the packages with the given paths from the directory `dir`, given what is there. Nothing
    is read if nothing is asked for. -/
def loadModels (dir : String) (found : Except IoFault Node) (paths : List String) :
    Logged (Except LoadError Program) :=
  if paths.isEmpty then pure (.ok [])
  else match found with
    | .error fault => pure (.error (.io dir fault))
    | .ok node => do
      let models ← readModels ((node.files dir).filter (isModelFile ·.1))
      return models.bind (Program.request · paths)

/-- Takes the paths of the packages that are asked for, and answers with a `Program` that has
    them. -/
abbrev PackageLoader (m : Type → Type) := List String → m (Logged (Except LoadError Program))

/-- Loads packages from the models in the directory `dir`. -/
def modelLoader {m : Type → Type} [Monad m] (disk : Disk m) (dir : String) : PackageLoader m :=
  fun paths => return loadModels dir (← disk.snapshot dir) paths

end IfaceGen
