/-!
# Diagnostics

What an error says to its reader: a message, a code, sometimes a hint, and the causes behind it.
Each error type of this library is an inductive type of causes with one function that gives its
diagnostic.
-/

namespace IfaceGen

/-- Why the operating system refused an operation on a file. -/
inductive IoFault where
  | notFound
  | notADirectory
  | isADirectory
  | alreadyExists
  /-- A name or the whole path is too long. -/
  | invalidFilename
  /-- The path holds a character that no path may hold. -/
  | invalidInput
  /-- The content is not UTF-8 text. -/
  | invalidData
  /-- Any other reason. -/
  | other
deriving DecidableEq, Repr

/-- A line of the explanation of an error: a message of this program, or the failure of a file
    operation, of a JSON document or of a TOML document, where the explanation ends. -/
inductive Cause where
  | message (text : String)
  | io (fault : IoFault)
  | json
  | toml
deriving DecidableEq, Repr

/-- What an error says. -/
structure Diagnostic where
  message : String
  code : String
  help : Option String := none
  /-- The causes behind the error, outermost first. -/
  sources : List Cause := []
deriving DecidableEq, Repr

/-- The explanation of an error, outermost cause first: its message, then its `sources`. -/
def Diagnostic.chain (diagnostic : Diagnostic) : List Cause :=
  .message diagnostic.message :: diagnostic.sources

end IfaceGen
