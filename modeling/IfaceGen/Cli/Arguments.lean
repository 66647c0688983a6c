import IfaceGen.Config.Read

/-!
# The command line

    moldable [-c FILE | --config-file FILE] [--dry-run]
    moldable init [-f | --force]

The arguments are taken one by one. An option and its value may be two arguments, and then the
value is looked at when the next argument has been understood. Nothing may be given twice.
`parseArguments` decides what is to be done.
-/

namespace IfaceGen

/-- What the command line asks for. -/
inductive Command where
  | generate (configFile : String) (dryRun : Bool)
  | init (force : Bool)
deriving DecidableEq, Repr

/-- What help is about. -/
inductive HelpTopic where
  | program
  | init
  | help
deriving DecidableEq, Repr

/-- Why nothing is to be done. -/
inductive Stop where
  | help (topic : HelpTopic)
  | version
  /-- The command line makes no sense. -/
  | misuse
deriving DecidableEq, Repr

/-- Splits a long option from the value behind its equals sign. -/
def splitEquals (chars : List Char) : String × Option String :=
  (String.ofList (chars.takeWhile (· ≠ '=')),
    match chars.dropWhile (· ≠ '=') with
    | _ :: value => some (String.ofList value)
    | [] => none)

/-! ## The command `init` -/

/-- Takes the short options in one argument of `init`. -/
def initShortOptions (force : Bool) : List Char → Except Stop Bool
  | [] => .ok force
  | 'f' :: rest => if force then .error .misuse else initShortOptions true rest
  | 'h' :: _ => .error (.help .init)
  | _ => .error .misuse

/-- Takes the arguments of `init`: whether an existing file is overwritten. -/
def initArguments (force : Bool) : List String → Except Stop Bool
  | [] => .ok force
  | argument :: rest =>
    match argument.toList with
    | ['-', '-'] => if rest.isEmpty then .ok force else .error .misuse
    | '-' :: '-' :: option =>
      match splitEquals option with
      | ("force", none) => if force then .error .misuse else initArguments true rest
      | ("help", none) => .error (.help .init)
      | _ => .error .misuse
    | '-' :: c :: options => do initArguments (← initShortOptions force (c :: options)) rest
    | _ => .error .misuse

/-! ## Options -/

/-- A value that has not been looked at. -/
inductive Pending where
  | nothing
  /-- An option waits for its value. -/
  | expected
  | value (text : String)
deriving DecidableEq, Repr

/-- The options so far. -/
structure Options where
  configFile : Option String := none
  dryRun : Bool := false
  pending : Pending := .nothing

namespace Options

/-- Sets the configuration file, which may be neither empty nor set before. -/
def setConfigFile (options : Options) (path : String) : Except Stop Options :=
  if path.isEmpty || options.configFile.isSome then .error .misuse
  else .ok { options with configFile := some path }

/-- Looks at the value that has not been looked at. -/
def settle (options : Options) : Except Stop Options :=
  match options.pending with
  | .nothing => .ok options
  | .expected => .error .misuse
  | .value path => { options with pending := .nothing }.setConfigFile path

/-- Takes a long option. -/
def long (options : Options) (option : List Char) : Except Stop Options := do
  let options ← options.settle
  match splitEquals option with
  | ("config-file", none) => return { options with pending := .expected }
  | ("config-file", some path) => options.setConfigFile path
  | ("dry-run", none) =>
    if options.dryRun then .error .misuse else return { options with dryRun := true }
  | ("help", none) => .error (.help .program)
  | ("version", none) => .error .version
  | _ => .error .misuse

/-- Takes the short options in one argument. -/
def short (options : Options) (chars : List Char) : Except Stop Options := do
  let options ← options.settle
  match chars with
  | ['c'] => return { options with pending := .expected }
  | 'c' :: '=' :: path => options.setConfigFile (String.ofList path)
  | 'c' :: path => options.setConfigFile (String.ofList path)
  | 'h' :: _ => .error (.help .program)
  | 'V' :: _ => .error .version
  | _ => .error .misuse

/-- The command that the options describe. -/
def command (options : Options) : Except Stop Command := do
  let options ← options.settle
  return .generate (options.configFile.getD IfaceGen.configFile) options.dryRun

end Options

/-- The topic that the arguments of `help` name. -/
def helpTopic : List String → Stop
  | [] => .help .program
  | ["init"] => .help .init
  | ["help"] => .help .help
  | _ => .misuse

/-- Takes the arguments of the program behind `options`. -/
def takeArguments (options : Options) : List String → Except Stop Command
  | [] => options.command
  | argument :: rest =>
    if options.pending = .expected then
      -- What starts with a hyphen is no value, a hyphen alone apart.
      if argument.toList.head? = some '-' && argument ≠ "-" then .error .misuse
      else takeArguments { options with pending := .value argument } rest
    else if argument = "init" then do
      let force ← initArguments false rest
      let _ ← options.settle
      return .init force
    else if argument = "help" then .error (helpTopic rest)
    else match argument.toList with
      | ['-', '-'] => if rest.isEmpty then options.command else .error .misuse
      | '-' :: '-' :: option => do takeArguments (← options.long option) rest
      | '-' :: c :: chars => do takeArguments (← options.short (c :: chars)) rest
      | _ => .error .misuse

/-- What the command line asks for. -/
def parseArguments (arguments : List String) : Except Stop Command :=
  takeArguments {} arguments

/-! ## Help -/

/-- The name and version of the program. -/
def versionText : String := "moldable 0.1.0\n"

/-- The text of the help on a topic. -/
def HelpTopic.text : HelpTopic → String
  | .program =>
    "Generate Go interfaces from the method sets of exported structs\n\n"
      ++ "Usage: moldable [OPTIONS] [COMMAND]\n\n"
      ++ "Commands:\n"
      ++ "  init  Write a starter configuration file into the current directory\n"
      ++ "  help  Print this message or the help of the given subcommand(s)\n\n"
      ++ "Options:\n"
      ++ "  -c, --config-file <FILE>  Path of the configuration file [default: moldable.toml]\n"
      ++ "      --dry-run             Print the generated files to stdout instead of writing them\n"
      ++ "  -h, --help                Print help\n"
      ++ "  -V, --version             Print version\n"
  | .init =>
    "Write a starter configuration file into the current directory\n\n"
      ++ "Usage: moldable init [OPTIONS]\n\n"
      ++ "Options:\n"
      ++ "  -f, --force  Overwrite an existing config file\n"
      ++ "  -h, --help   Print help\n"
  | .help =>
    "Print this message or the help of the given subcommand(s)\n\n"
      ++ "Usage: moldable help [COMMAND]...\n\n"
      ++ "Arguments:\n"
      ++ "  [COMMAND]...  Print help for the subcommand(s)\n"

end IfaceGen
