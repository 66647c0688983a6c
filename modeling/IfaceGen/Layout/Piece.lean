/-!
# Text in pieces

Source text is laid out as a list of pieces, some of which have a colour. The same pieces give the
plain text and the text with ANSI colours.
-/

namespace IfaceGen

/-- What a coloured piece of text is, which decides its colour (`Hue.code`). -/
inductive Hue where
  | keyword
  | type
  | qualifier
  | literal
deriving DecidableEq, Repr

/-- A piece of text with or without a colour. -/
structure Piece where
  hue : Option Hue
  text : String
deriving DecidableEq, Repr

/-- The settings of the layout: the text that is inserted once per level of indentation. Lines are
    broken at fixed places, whatever their width. -/
structure LayoutStyle where
  indent : String := "\t"

/-- The ANSI colour of a hue: magenta, blue, green, yellow. -/
def Hue.code : Hue → String
  | .keyword => "35"
  | .type => "34"
  | .qualifier => "32"
  | .literal => "33"

namespace Piece

/-- A piece without a colour. -/
def plain (text : String) : Piece := ⟨none, text⟩

/-- A keyword. -/
def keyword (text : String) : Piece := ⟨some .keyword, text⟩

/-- The name of a type. -/
def type (text : String) : Piece := ⟨some .type, text⟩

/-- The name of a package. -/
def qualifier (text : String) : Piece := ⟨some .qualifier, text⟩

/-- A number or a quoted text. -/
def literal (text : String) : Piece := ⟨some .literal, text⟩

/-- A line break. -/
def newline : Piece := plain "\n"

/-- The escape sequence with the given parameter, which a terminal takes for a change of colour. -/
def ansi (parameter : String) : String :=
  "\x1b[" ++ parameter ++ "m"

end Piece

/-- The text without colours: that of every `Piece`. -/
def plainText (pieces : List Piece) : String :=
  String.join (pieces.map (·.text))

/-- The lists of pieces with `separator` between them. -/
def separated (separator : Piece) : List (List Piece) → List Piece
  | [] => []
  | [pieces] => pieces
  | pieces :: others => pieces ++ separator :: separated separator others

end IfaceGen
