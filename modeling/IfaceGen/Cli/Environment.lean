import IfaceGen.Cli.LogFilter

/-!
# Settings from the environment

How much is logged, and what is coloured.
-/

namespace IfaceGen

/-- The environment variables that matter. -/
structure Environment where
  /-- How much to log: the name of a severity, or `off`. -/
  logLevel : Option String := none
  /-- What to log of which component: a log filter. -/
  logFilter : Option String := none
  /-- When to colour: `always`, `always-ansi`, `auto` or `never`. -/
  colorize : Option String := none
  /-- Set by users who want no colours. -/
  noColor : Option String := none
  /-- The kind of terminal. -/
  terminal : Option String := none

/-- The names of the variables that matter. -/
def Environment.variableNames : List String :=
  ["MOLDABLE_LOG_LEVEL", "RUST_LOG", "MOLDABLE_COLORIZE", "NO_COLOR", "TERM"]

/-- Reads the variables that matter. -/
def Environment.ofLookup (value? : String → Option String) : Environment where
  logLevel := value? "MOLDABLE_LOG_LEVEL"
  logFilter := value? "RUST_LOG"
  colorize := value? "MOLDABLE_COLORIZE"
  noColor := value? "NO_COLOR"
  terminal := value? "TERM"

/-- Upper case, as far as the names of severities are concerned: of the other letters, only the
    ligature `ﬀ` and the dotless `ı` have ASCII letters that occur there as their upper case. -/
def upperCase (text : String) : String :=
  String.ofList (text.toList.flatMap fun c =>
    if c = 'ﬀ' then ['F', 'F'] else if c = 'ı' then ['I'] else [c.toUpper])

namespace Environment

/-- The threshold of the components that the log filter says nothing about. -/
def threshold (environment : Environment) : Threshold :=
  (environment.logLevel.bind fun name => Threshold.ofName? (upperCase name)).getD (some .info)

/-- Which records are shown. -/
def filter (environment : Environment) : LogFilter :=
  (environment.logFilter.elim {} LogFilter.parse).insert ⟨none, environment.threshold⟩

/-- Whether colours are asked for, if anything is said about them. -/
def wantsColor? (environment : Environment) : Option Bool :=
  match environment.colorize.map String.toLower with
  | some "never" => some false
  | some "always" | some "always-ansi" => some true
  | _ => none

/-- Whether previews are coloured. Unless it is said otherwise, they are if the terminal is known to
    be capable and colours are not unwanted. -/
def previewColored (environment : Environment) : Bool :=
  environment.wantsColor?.getD
    (environment.noColor.isNone && environment.terminal.any (· ≠ "dumb"))

/-- Whether the log is coloured. Unless it is said otherwise, it is not. -/
def logColored (environment : Environment) : Bool :=
  environment.wantsColor?.getD false

end Environment

end IfaceGen
