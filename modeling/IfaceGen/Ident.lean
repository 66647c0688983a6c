import IfaceGen.Text.Alphabetic
import IfaceGen.Text.Numeral
import IfaceGen.Text.Uppercase

/-!
# Go identifiers

An identifier is a letter or an underscore followed by letters, decimal digits and underscores, and
is not one of the keywords. A name is exported if it starts with an upper-case letter.
-/

namespace IfaceGen

/-- The keywords of Go. -/
def keywords : List String :=
  ["break", "case", "chan", "const", "continue", "default", "defer", "else", "fallthrough", "for",
   "func", "go", "goto", "if", "import", "interface", "map", "package", "range", "return", "select",
   "struct", "switch", "type", "var"]

/-- Letters as Go defines them: letter numbers such as Roman numerals are alphabetic, but they are
    not letters. -/
def isLetter (c : Char) : Bool :=
  Text.isAlphabetic c && !Text.isNumeral c

/-- Decimal digits. Digits of other scripts and superscripts do not count, unlike in
    `Text.isNumeral`. -/
def isDigit (c : Char) : Bool :=
  c.isDigit

/-- Whether `c` may stand inside an identifier. -/
def isIdentChar (c : Char) : Bool :=
  isLetter c || isDigit c || c = '_'

/-- Whether `name` is a Go identifier. -/
def isIdentifier (name : String) : Bool :=
  match name.toList with
  | [] => false
  | first :: rest =>
    (isLetter first || first = '_') && rest.all isIdentChar && !keywords.contains name

/-- Whether `name` is visible outside its package. -/
def isExported (name : String) : Bool :=
  match name.toList with
  | [] => false
  | first :: _ => Text.isUppercase first && !Text.isNumeral first

end IfaceGen
