import IfaceGen.Cli.Arguments
import IfaceGen.Cli.Environment
import IfaceGen.Cli.LogText
import IfaceGen.Cli.Starter
import IfaceGen.Generate.Run

/-!
# Sessions

One call of the program: what it does to the disk, what it prints and logs, and how it ends.
-/

namespace IfaceGen

/-- Why a session failed. -/
inductive SessionError where
  | misuse
  | generate (cause : GenerateError)
  | writeConfig (path : String) (fault : IoFault)
deriving DecidableEq, Repr

/-- What a failure says, if it says anything but how the program is used. -/
def SessionError.diagnostic? : SessionError → Option Diagnostic
  | .misuse => none
  | .generate cause => some cause.diagnostic
  | .writeConfig path fault => some
    { message := "writing config file " ++ path, code := "I-001", sources := [.io fault] }

/-- How a session ended. -/
structure Session where
  result : Except SessionError Unit
  /-- What went to the standard output. -/
  output : String := ""
  /-- What was logged, before it is decided what is shown. -/
  log : List LogRecord := []

/-- The exit code of a session. -/
def Session.exitCode (session : Session) : Nat :=
  match session.result with
  | .ok () => 0
  | .error .misuse => 2
  | .error _ => 1

variable {m : Type → Type} [Monad m]

/-- Writes the starter configuration, unless there is one that may not be overwritten. -/
def initSession (disk : Disk m) (force : Bool) : m Session := do
  if (← disk.isPresent configFile) && !force then
    return { result := .ok ()
             log := [⟨.initCommand, .info,
               "config file already exists, skipping creation filepath=" ++ configFile⟩] }
  match ← disk.writeText configFile starterConfig with
  | .error fault => return { result := .error (.writeConfig configFile fault) }
  | .ok () =>
    return { result := .ok ()
             log := [⟨.initCommand, .info, "config file written filepath=" ++ configFile⟩] }

/-- The session that a run makes up. -/
def Run.session (run : Run) : Session :=
  let log := Action.logRecords run.trace
  { result := run.result.mapError .generate
    output := Action.printed run.trace
    log := match run.result with
      | .ok () => log ++ [⟨.generateCommand, .info, "interfaces generated successfully"⟩]
      | .error _ => log }

/-- Does what a command asks for. -/
def Command.session (disk : Disk m) (environment : Environment) : Command → m Session
  | .init force => initSession disk force
  | .generate path dryRun => do
    let write := if dryRun then previewWriter {} environment.previewColored else diskWriter disk {}
    return (← generateFrom disk write path).session

/-- Does what the command line asks for. -/
def session (disk : Disk m) (environment : Environment) (arguments : List String) : m Session :=
  match parseArguments arguments with
  | .ok command => command.session disk environment
  | .error (.help topic) => return { result := .ok (), output := topic.text }
  | .error .version => return { result := .ok (), output := versionText }
  | .error .misuse => return { result := .error .misuse }

/-- What went to the log. -/
def Session.logText (session : Session) (environment : Environment) : String :=
  IfaceGen.logText environment.logColored (session.log.filter environment.filter.admits)

end IfaceGen
