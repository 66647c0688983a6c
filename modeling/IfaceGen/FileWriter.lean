import IfaceGen.Disk.Access
import IfaceGen.Layout.File
import IfaceGen.Log
import IfaceGen.Text.Quoted

/-!
# Writing files

A writer takes a file and its destination. `diskWriter` writes to disk, `previewWriter` shows what
would be written. Both first organize the imports and refuse names that are no identifiers.
-/

namespace IfaceGen

/-- Why a file could not be written. `format` names what the file declares that is not an
    identifier. -/
inductive WriteError where
  | createDir (dir : String) (fault : IoFault)
  | format (path name : String)
  | write (path : String) (fault : IoFault)
deriving DecidableEq, Repr

/-- What a failure says. -/
def WriteError.diagnostic : WriteError → Diagnostic
  | .createDir dir fault =>
    { message := "creating directory " ++ dir, code := "W-001", sources := [.io fault] }
  | .format path name =>
    { message := "formatting " ++ path ++ ": " ++ Text.quote name ++ " is not a valid identifier"
      code := "W-002" }
  | .write path fault =>
    { message := "writing file to disk " ++ path, code := "W-003", sources := [.io fault] }

/-- What a `FileWriter` has to say about a file that it wrote. -/
structure Receipt where
  log : List LogRecord := []
  /-- What was printed. -/
  printed : String := ""

/-- Takes a path and a file, and answers with a `Receipt` or a failure. -/
abbrev FileWriter (m : Type → Type) := String → File → m (Except WriteError Receipt)

/-- The file as it is written to `path`. -/
def File.prepare (file : File) (path : String) : Except WriteError File :=
  match file.organizeImports.invalidIdentifier? with
  | some name => .error (.format path name)
  | none => .ok file.organizeImports

/-- The directory that has to exist before a file is written to `path`. -/
def requiredDir? (path : String) : Option String :=
  (Path.parent? path).filter (!·.isEmpty)

/-- Writes files to disk and makes the directories that are missing (`requiredDir?`). A file that
    `File.prepare` refuses leaves the disk untouched. -/
def diskWriter {m : Type → Type} [Monad m] (disk : Disk m) (style : LayoutStyle) : FileWriter m :=
  fun path file => do
    match file.prepare path with
    | .error error => return .error error
    | .ok file =>
      if let some dir := requiredDir? path then
        if let .error fault ← disk.createDirAll dir then
          return .error (.createDir dir fault)
      if let .error fault ← disk.writeText path (file.text style) then
        return .error (.write path fault)
      return .ok { log := [⟨.writer, .debug, "Wrote " ++ path⟩] }

/-- How a file is shown: its path in a comment, its text as it is printed (`File.printed`), and an
    empty line. -/
def File.preview (file : File) (path : String) (style : LayoutStyle) (colored : Bool) : String :=
  "// " ++ path ++ "\n" ++ file.printed style colored ++ "\n"

/-- Shows files instead of writing them, each as its `File.preview`. -/
def previewWriter {m : Type → Type} [Monad m] (style : LayoutStyle) (colored : Bool) :
    FileWriter m :=
  fun path file => return (file.prepare path).map fun file =>
    { printed := file.preview path style colored }

end IfaceGen
