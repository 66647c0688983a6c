import IfaceGen.Layout.Piece

/-!
# Printing in colours

A printer tells a stream what to write, and in which colour. It keeps the colours that are open on
a stack, so that the colour around a piece comes back behind it. Whether the stream shows colours
is no concern of the printer: a stream that does not is asked for them all the same.
-/

namespace IfaceGen

/-- What a printer is told: a text to write, or that a colour begins or ends. -/
inductive Signal where
  | write (text : String)
  | push (hue : Hue)
  | pop
deriving DecidableEq, Repr

/-- The signals of a piece: a coloured one is written between `push` and `pop`. -/
def Piece.signals (piece : Piece) : List Signal :=
  match piece.hue with
  | none => [.write piece.text]
  | some hue => [.push hue, .write piece.text, .pop]

/-- What makes a terminal write in a colour: a reset, then the code of the colour (`Hue.code`). -/
def Hue.sequence (hue : Hue) : String :=
  Piece.ansi "0" ++ Piece.ansi hue.code

/-- What makes a terminal write in the innermost of the colours that are open, or in none. -/
def innermost : List Hue → String
  | [] => Piece.ansi "0"
  | hue :: _ => hue.sequence

/-- What a stream writes when it is asked for a colour: nothing unless it is `colored`. -/
def onRequest (colored : Bool) (sequence : String) : String :=
  if colored then sequence else ""

/-- The text on a stream, where the colours of `stack` are open, the innermost one in front. -/
def render (colored : Bool) (stack : List Hue) : List Signal → String
  | [] => ""
  | .write text :: signals => text ++ render colored stack signals
  | .push hue :: signals =>
    onRequest colored hue.sequence ++ render colored (hue :: stack) signals
  | .pop :: signals =>
    onRequest colored (innermost stack.tail) ++ render colored stack.tail signals

end IfaceGen
