import IfaceGen.Log
import IfaceGen.Text.Terminal

/-!
# The text of a log

How records look on a stream. With colours a record goes out as it is; without them it loses
everything that only a terminal understands, whoever put it there.
-/

namespace IfaceGen

/-- The codes for how a severity is drawn. -/
def LogLevel.style : LogLevel → String
  | .error => "\x1b[1m\x1b[31m"
  | .warn => "\x1b[33m"
  | .info => "\x1b[32m"
  | .debug => "\x1b[34m"
  | .trace => "\x1b[36m"

/-- The code for how the brackets around a severity are drawn. -/
def bracketStyle : String := "\x1b[90m"

/-- A text that is drawn in a style of its own. -/
def styled (style text : String) : String :=
  style ++ text ++ "\x1b[0m"

/-- The name of a severity, padded to five characters. -/
def LogLevel.paddedName (level : LogLevel) : String :=
  level.name ++ String.ofList (List.replicate (5 - level.name.length) ' ')

namespace LogRecord

/-- The text of a record with its line end. Further lines are indented. -/
def lines (record : LogRecord) : String :=
  let chars := record.text.toList.flatMap fun c => if c = '\n' then "\n    ".toList else [c]
  String.ofList chars ++ "\n"

/-- A record in colours. -/
def coloredText (record : LogRecord) : String :=
  styled bracketStyle "[" ++ styled record.level.style record.level.paddedName
    ++ styled bracketStyle "]" ++ " " ++ record.lines

/-- A record for a stream that is no terminal. -/
def plainText (record : LogRecord) : String :=
  Text.plain ("[" ++ record.level.paddedName ++ "] " ++ record.lines)

end LogRecord

/-- The text of a log. -/
def logText (colored : Bool) (log : List LogRecord) : String :=
  String.join (log.map fun record => if colored then record.coloredText else record.plainText)

end IfaceGen
