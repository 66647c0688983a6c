import IfaceGen.Builder
import IfaceGen.Config.Read
import IfaceGen.FileWriter
import IfaceGen.Models

/-!
# Why a run fails

The failures of a run, around those of its steps, and a coarse classification of them.
-/

namespace IfaceGen

/-- Why a package could not be processed: the loader did not return it, its file could not be built
    (`BuildError`) or not be written (`WriteError`). -/
inductive PackageError where
  | notLoaded
  | build (cause : BuildError)
  | write (cause : WriteError)
deriving DecidableEq, Repr

/-- Why a run failed: in its configuration, its loader or the package at `path`. -/
inductive GenerateError where
  | config (cause : ConfigError)
  | load (cause : LoadError)
  | package (path : String) (cause : PackageError)
deriving DecidableEq, Repr

/-- A coarse classification of failures, from `GenerateError.kind`. -/
inductive ErrorKind where
  | configInvalid
  | packageLoadFailure
  | unsupportedType
  | invalidVariadic
  | emptyUnion
  | ioFailure
  | formatFailure
deriving DecidableEq, Repr

/-- The class of a failure to spell a type, which its `SpellError.root` decides. -/
def SpellError.kind (error : SpellError) : ErrorKind :=
  match error.root with
  | .invalidVariadic _ => .invalidVariadic
  | .emptyUnion => .emptyUnion
  | .unsupported _ | .inside .. => .unsupportedType

namespace PackageError

/-- The class of a failure. -/
def kind : PackageError → ErrorKind
  | .notLoaded => .packageLoadFailure
  | .build cause => cause.cause.kind
  | .write (.format ..) => .formatFailure
  | .write _ => .ioFailure

/-- What a failure says. -/
def diagnostic : PackageError → Diagnostic
  | .notLoaded => { message := "package was not returned by the loader", code := "G-001" }
  | .build cause =>
    { message := "building declarations", code := "G-002", sources := cause.diagnostic.chain }
  | .write cause =>
    { message := "writing file", code := "G-003", sources := cause.diagnostic.chain }

/-- The codes of a failure and of what caused it. -/
def codes (error : PackageError) : List String :=
  error.diagnostic.code :: match error with
    | .notLoaded => []
    | .build cause => [cause.diagnostic.code]
    | .write cause => [cause.diagnostic.code]

end PackageError

namespace GenerateError

/-- The class of a failure. -/
def kind : GenerateError → ErrorKind
  | .config _ => .configInvalid
  | .load _ => .packageLoadFailure
  | .package _ cause => cause.kind

/-- What a failure says. A failure of the configuration speaks for itself. -/
def diagnostic : GenerateError → Diagnostic
  | .config cause => cause.diagnostic
  | .load cause =>
    { message := "loading packages", code := "L-000", sources := cause.diagnostic.chain }
  | .package path cause =>
    { message := "processing package " ++ Text.quote path, code := "G-000"
      sources := cause.diagnostic.chain }

/-- The codes of a failure and of what caused it. -/
def codes (error : GenerateError) : List String :=
  error.diagnostic.code :: match error with
    | .config _ => []
    | .load cause => [cause.diagnostic.code]
    | .package _ cause => cause.codes

end GenerateError

end IfaceGen
