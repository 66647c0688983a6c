import IfaceGen.Config.Check
import IfaceGen.Toml.Document

/-!
# Reading a configuration file

A configuration file is a TOML document. It is read, parsed and checked.
-/

namespace IfaceGen

/-- The usual name of the configuration file. -/
def configFile : String := "moldable.toml"

/-- Why there is no configuration. -/
inductive ConfigError where
  | read (path : String) (fault : IoFault)
  | parse (path : String)
  | invalid (violations : List ConfigViolation)
deriving DecidableEq, Repr

/-- What a failure says. -/
def ConfigError.diagnostic : ConfigError → Diagnostic
  | .read path fault =>
    { message := "reading configuration file " ++ path
      code := "C-011"
      help := some "Run `moldable init` to create a starter configuration"
      sources := [.io fault] }
  | .parse path =>
    { message := "parsing configuration file " ++ path, code := "C-012", sources := [.toml] }
  | .invalid _ => ConfigViolation.summary

/-- The configuration that a TOML text denotes. -/
def Config.ofToml? (text : String) : Option Config :=
  (Toml.parse text).bind Config.decode

/-- The configuration in the file at `path`, given what reading the file gave. -/
def Config.ofFile (path : String) (content : Except IoFault String) : Except ConfigError Config :=
  match content with
  | .error fault => .error (.read path fault)
  | .ok text =>
    match Config.ofToml? text with
    | none => .error (.parse path)
    | some config =>
      if config.violations.isEmpty then .ok config else .error (.invalid config.violations)

end IfaceGen
