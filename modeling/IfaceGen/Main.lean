import IfaceGen.Cli.Session

/-!
# The program

The outer layer: file operations of the operating system, and the streams of the process.
-/

namespace IfaceGen

/-- The number by which POSIX systems say that something is a directory. -/
def isADirectoryCode : UInt32 := 21

/-- The reason behind an error of the operating system. -/
def IoFault.ofError : IO.Error → IoFault
  | .noFileOrDirectory .. => .notFound
  | .alreadyExists .. => .alreadyExists
  | .inappropriateType _ code _ =>
    if code = isADirectoryCode then .isADirectory else .notADirectory
  | .invalidArgument .. => .invalidFilename
  | _ => .other

/-- Tries an operation on a path. -/
def attempt {α : Type} (path : String) (operation : IO α) : IO (Except IoFault α) := do
  if let some fault := Path.fault? path then return .error fault
  try
    return .ok (← operation)
  catch error =>
    return .error (.ofError error)

/-- Reads a file that should hold text. -/
def readTextFile (path : String) : IO (Except IoFault String) := do
  match ← attempt path (IO.FS.readBinFile path) with
  | .error fault => return .error fault
  | .ok bytes =>
    match String.fromUTF8? bytes with
    | some text => return .ok text
    | none => return .error .invalidData

/-- Reads everything at and below a path. -/
partial def readNode (path : String) : IO Node := do
  let place := (← IO.currentDir) / path
  if ← place.isDir then
    let entries ← place.readDir
    return .dir (← entries.toList.mapM fun entry => do
      return (entry.fileName, ← readNode (Path.join path entry.fileName)))
  else
    let _ ← place.metadata
    return .file (← readTextFile path)

/-- The files of the operating system. -/
def systemDisk : Disk IO where
  readText := readTextFile
  snapshot path := if path.isEmpty then return .error .notFound else attempt path (readNode path)
  isPresent path := do return (← attempt path do ((← IO.currentDir) / path).metadata).toBool
  createDirAll path := attempt path (IO.FS.createDirAll path)
  writeText path text := attempt path (IO.FS.writeFile path text)

/-- A line of the explanation of an error. -/
def Cause.text : Cause → String
  | .message text => text
  | .io .notFound => "no such file or directory"
  | .io .notADirectory => "not a directory"
  | .io .isADirectory => "is a directory"
  | .io .alreadyExists => "already exists"
  | .io .invalidFilename => "file name too long"
  | .io .invalidInput => "file name with a NUL character"
  | .io .invalidData => "not valid UTF-8"
  | .io .other => "file operation failed"
  | .json => "not a valid model"
  | .toml => "not a valid configuration"

/-- The lines that explain an error. -/
def Diagnostic.lines (diagnostic : Diagnostic) : List String :=
  ["Error: " ++ diagnostic.code, "", "  × " ++ diagnostic.message]
    ++ diagnostic.sources.map ("  ╰─▶ " ++ ·.text)
    ++ diagnostic.help.toList.map ("  help: " ++ ·)

/-- The lines that explain why a session failed. -/
def SessionError.lines : SessionError → List String
  | .generate (.config (.invalid violations)) =>
    ConfigViolation.summary.lines ++ violations.flatMap (·.diagnostic.lines)
  | error =>
    (error.diagnostic?.map Diagnostic.lines).getD
      ["error: unexpected arguments", "", "For more information, try '--help'."]

end IfaceGen

open IfaceGen in
/-- Runs the program. -/
def main (arguments : List String) : IO UInt32 := do
  let values ← Environment.variableNames.mapM fun name => do return (name, ← IO.getEnv name)
  let environment := Environment.ofLookup fun name => (values.lookup name).join
  let session ← session systemDisk environment arguments
  IO.print session.output
  IO.eprint (session.logText environment)
  if let .error error := session.result then
    for line in error.lines do
      IO.eprintln line
  return session.exitCode.toUInt32
