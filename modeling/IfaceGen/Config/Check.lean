import IfaceGen.Config.Basic
import IfaceGen.Diagnostic
import IfaceGen.Ident
import IfaceGen.Text.Blank
import IfaceGen.Text.Quoted

/-!
# Checking a configuration

`Config.violations` lists everything that is wrong with a configuration: at most one violation for
each setting of the output, in the order of the settings, and then those of the packages.
-/

namespace IfaceGen

/-- A rule that a configuration breaks. -/
inductive ConfigViolation where
  | missingDir
  | missingPackage
  | invalidPackage (name : String)
  | missingFilename
  | missingPlaceholder (filename : String)
  | missingSuffix
  | invalidSuffix (character : Char) (position : Nat)
  | noPackages
  | missingPackagePath
  | duplicatePackage (path : String)
deriving DecidableEq, Repr

/-- What a violation says. -/
def ConfigViolation.diagnostic : ConfigViolation → Diagnostic
  | .missingDir => { message := "output directory is required", code := "C-001" }
  | .missingPackage => { message := "output package is required", code := "C-002" }
  | .invalidPackage name =>
    { message := "output package name " ++ Text.quote name ++ " must be a valid identifier"
      code := "C-003", help := some "Go keywords cannot be used as package names" }
  | .missingFilename => { message := "output filename is required", code := "C-004" }
  | .missingPlaceholder filename =>
    { message := "output filename " ++ Text.quote filename
        ++ " must contain the \x7bpackage\x7d placeholder"
      code := "C-005" }
  | .missingSuffix => { message := "suffix is required", code := "C-006" }
  | .invalidSuffix character position =>
    { message := "suffix contains invalid character " ++ Text.quoteChar character
        ++ " at position " ++ Nat.repr position
      code := "C-007", help := some "Only letters, digits and '_' are allowed" }
  | .noPackages => { message := "at least one package must be specified", code := "C-008" }
  | .missingPackagePath => { message := "package path is required", code := "C-009" }
  | .duplicatePackage path =>
    { message := "package " ++ Text.quote path ++ " is specified more than once", code := "C-010" }

/-- Whether a setting is left blank. -/
def isBlankSetting (text : String) : Bool :=
  text.toList.all Text.isBlank

/-- What is wrong with a suffix: the first character that no identifier may hold. -/
def suffixViolation? (suffix : String) : Option ConfigViolation :=
  if isBlankSetting suffix then some .missingSuffix
  else
    (suffix.toList.zipIdx.find? fun (c, _) => !isIdentChar c).map fun (c, position) =>
      .invalidSuffix c position

/-- What is wrong with a template for file names. -/
def filenameViolation? (filename : String) : Option ConfigViolation :=
  if isBlankSetting filename then some .missingFilename
  else if (template filename.toList).contains none then none
  else some (.missingPlaceholder filename)

/-- What is wrong with the output package. -/
def packageViolation? (package : String) : Option ConfigViolation :=
  if isBlankSetting package then some .missingPackage
  else if isIdentifier package then none
  else some (.invalidPackage package)

/-- What is wrong with the output directory. -/
def dirViolation? (dir : String) : Option ConfigViolation :=
  if isBlankSetting dir then some .missingDir else none

/-- Everything that is wrong with the shape of the output. -/
def OutputSettings.violations (output : OutputSettings) : List ConfigViolation :=
  [dirViolation? output.dir, packageViolation? output.package, filenameViolation? output.filename,
    suffixViolation? output.suffix].filterMap id

/-- Everything that is wrong with the packages behind those in `seen`: a path may not be blank, and
    no path may stand twice. -/
def pathViolations (seen : List String) : List String → List ConfigViolation
  | [] => []
  | path :: paths =>
    if isBlankSetting path then .missingPackagePath :: pathViolations seen paths
    else if seen.contains path then .duplicatePackage path :: pathViolations seen paths
    else pathViolations (path :: seen) paths

/-- Everything that is wrong with a configuration. -/
def Config.violations (config : Config) : List ConfigViolation :=
  config.output.violations ++ (if config.paths.isEmpty then [.noPackages] else [])
    ++ pathViolations [] config.paths

/-- What a list of violations says as a whole. -/
def ConfigViolation.summary : Diagnostic where
  message := "invalid configuration"
  code := "C-000"

end IfaceGen
