import IfaceGen.Text.Extender
import IfaceGen.Text.Unprintable

/-!
# Quoted text

Names, paths and single characters appear in messages and in import declarations between
delimiters. Inside, the delimiter and the backslash are escaped, four control characters have
short forms, and every other character that would not show on its own is written by its code point.
-/

namespace IfaceGen.Text

/-- The code point of `c` in lower-case hexadecimal, in the form of an escape. -/
def codePointEscape (c : Char) : List Char :=
  ['\\', 'u', '\x7b'] ++ Nat.toDigits 16 c.toNat ++ ['\x7d']

/-- The form of one character between two delimiters. -/
def escapeChar (delimiter c : Char) : List Char :=
  if c = '\x00' then ['\\', '0']
  else if c = '\t' then ['\\', 't']
  else if c = '\r' then ['\\', 'r']
  else if c = '\n' then ['\\', 'n']
  else if c = '\\' || c = delimiter then ['\\', c]
  else if isExtender c || isUnprintable c then codePointEscape c
  else [c]

/-- A text between double quotes. A single quote needs no escape there. -/
def quote (text : String) : String :=
  String.ofList ('"' :: text.toList.flatMap (escapeChar '"') ++ ['"'])

/-- A character between single quotes. A double quote needs no escape there. -/
def quoteChar (c : Char) : String :=
  String.ofList ('\x27' :: escapeChar '\x27' c ++ ['\x27'])

end IfaceGen.Text
