import IfaceGen.Data.Record
import IfaceGen.Disk.Path

/-!
# The configuration

What to generate and where: the directory with the models, the packages, and the shape of the
output. The name of an output file is a template with holes for the name of the package.
-/

namespace IfaceGen

/-- The shape of the output. -/
structure OutputSettings where
  /-- The directory the files are written to. -/
  dir : String := ""
  /-- The package clause of the files. -/
  package : String := ""
  /-- The template for the names of the files. -/
  filename : String := ""
  /-- What is appended to the name of a struct to name its interface. -/
  suffix : String := ""
deriving DecidableEq, Repr

/-- A configuration. -/
structure Config where
  /-- The directory with the models of the packages. -/
  models : String := "models"
  output : OutputSettings := {}
  /-- The import paths of the packages, in the order in which they are processed. -/
  paths : List String := []
deriving DecidableEq, Repr

/-! ## Names of output files -/

/-- A template: characters, and holes in place of the text `{package}`. -/
def template : List Char → List (Option Char)
  | '\x7b' :: 'p' :: 'a' :: 'c' :: 'k' :: 'a' :: 'g' :: 'e' :: '\x7d' :: rest =>
    none :: template rest
  | c :: rest => some c :: template rest
  | [] => []

/-- The template with each hole (`none`) filled with the name. -/
def fillTemplate (name : List Char) (parts : List (Option Char)) : List Char :=
  parts.flatMap fun
    | none => name
    | some c => [c]

/-- The name of the output file for the package called `name`. -/
def OutputSettings.filenameFor (output : OutputSettings) (name : String) : String :=
  String.ofList (fillTemplate name.toList (template output.filename.toList))

/-- The path of the output file for the package called `name`. -/
def Config.destination (config : Config) (name : String) : String :=
  Path.join config.output.dir (config.output.filenameFor name)

/-! ## As a document -/

/-- A configuration as a record. -/
def Config.encode (config : Config) : Data :=
  .record [("models", .str config.models),
    ("output", .record [("dir", .str config.output.dir), ("package", .str config.output.package),
      ("filename", .str config.output.filename),
      ("naming", .record [("suffix", .str config.output.suffix)])]),
    ("packages", .list (config.paths.map fun path => .record [("path", .str path)]))]

/-- Reads the naming rule: the suffix. -/
def decodeNaming (whole : Data) : Option String := do
  match ← whole.slots ["suffix"] with
  | [suffix] => Data.field? "" (·.val.str?) suffix
  | _ => none

/-- Reads the shape of the output. -/
def OutputSettings.decode (whole : Data) : Option OutputSettings := do
  match ← whole.slots ["dir", "package", "filename", "naming"] with
  | [dir, package, filename, naming] =>
    return ⟨← Data.field? "" (·.val.str?) dir, ← Data.field? "" (·.val.str?) package,
      ← Data.field? "" (·.val.str?) filename, ← Data.field? "" (decodeNaming ·.val) naming⟩
  | _ => none

/-- Reads an entry of the list of packages. -/
def decodePackageEntry (whole : Data) : Option String := do
  match ← whole.slots ["path"] with
  | [path] => Data.required? (·.val.str?) path
  | _ => none

/-- Reads a configuration. -/
def Config.decode (whole : Data) : Option Config := do
  match ← whole.slots ["models", "output", "packages"] with
  | [models, output, packages] =>
    return ⟨← Data.field? "models" (·.val.str?) models,
      ← Data.field? {} (OutputSettings.decode ·.val) output,
      ← Data.field? [] (·.mapItems? (decodePackageEntry ·.val)) packages⟩
  | _ => none

end IfaceGen
