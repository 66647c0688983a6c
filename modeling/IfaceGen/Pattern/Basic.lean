import IfaceGen.Pattern.CharSet

/-!
# Patterns

Regular expressions over characters, without captures. The meaning of a pattern is a function from
positions in a text to positions (`ends`): where a match that starts at one of the former may end.
A text is found by a pattern if there is a match anywhere in it (`finds`).
-/

namespace IfaceGen

/-- A condition on a position in a text. Words are made of letters and digits of ASCII and
    underscores. -/
inductive Anchor where
  | textStart
  | textEnd
  /-- The start of a line, which a carriage return may end as well as a line feed. -/
  | lineStart (carriageReturns : Bool)
  | lineEnd (carriageReturns : Bool)
  /-- What stands before and after the position, as far as it is given: a character of a word, or
      not. -/
  | word (before after : Option Bool)
  /-- The start or the end of a word. -/
  | wordBoundary
  | noWordBoundary
deriving DecidableEq, Repr

/-- A pattern. -/
inductive Pattern where
  | empty
  | anchor (condition : Anchor)
  /-- One character of a set. -/
  | char (set : CharSet)
  | seq (first second : Pattern)
  | alt (first second : Pattern)
  /-- At least `least` matches in a row, and at most `most`, if that is given. -/
  | loop (body : Pattern) (least : Nat) (most : Option Nat)
deriving DecidableEq, Repr

/-- Whether a condition asks for words. -/
def Anchor.concernsWords : Anchor → Bool
  | .word .. | .wordBoundary | .noWordBoundary => true
  | _ => false

/-- The character before a position. -/
def charBefore? (text : Array Char) (position : Nat) : Option Char :=
  if position = 0 then none else text[position - 1]?

/-- Whether an anchor holds at a position. -/
def Anchor.holds (text : Array Char) (position : Nat) (anchor : Anchor) : Bool :=
  let before := charBefore? text position
  let after := text[position]?
  let wordBefore := before.any CharSet.word.contains
  let wordAfter := after.any CharSet.word.contains
  match anchor with
  | .textStart => before.isNone
  | .textEnd => after.isNone
  | .lineStart carriageReturns =>
    before.isNone || before = some '\n'
      || (carriageReturns && before = some '\r' && after ≠ some '\n')
  | .lineEnd carriageReturns =>
    after.isNone || (after = some '\n' && !(carriageReturns && before = some '\r'))
      || (carriageReturns && after = some '\r')
  | .word isBefore isAfter => isBefore.all (· = wordBefore) && isAfter.all (· = wordAfter)
  | .wordBoundary => wordBefore != wordAfter
  | .noWordBoundary => wordBefore = wordAfter

/-- Applies `step` to a set of positions `n` times. -/
def stepTimes (step : List Nat → List Nat) : Nat → List Nat → List Nat
  | 0, positions => positions
  | n + 1, positions => stepTimes step n (step positions)

/-- The positions that at most `n` steps lead to. -/
def stepUpTo (step : List Nat → List Nat) : Nat → List Nat → List Nat
  | 0, positions => positions
  | n + 1, positions => stepUpTo step n (positions ++ step positions).eraseDups

namespace Pattern

/-- Where matches may end that start at one of the given positions. More repetitions than there are
    characters lead to no other positions, since all but one of the additional ones match
    nothing. -/
def ends (text : Array Char) : Pattern → List Nat → List Nat
  | empty, positions => positions
  | anchor condition, positions => positions.filter fun i => condition.holds text i
  | char set, positions =>
    (positions.filter fun i => text[i]?.any set.contains).map (· + 1)
  | seq first second, positions => second.ends text (first.ends text positions)
  | alt first second, positions =>
    (first.ends text positions ++ second.ends text positions).eraseDups
  | loop body least most, positions =>
    let enough := text.size + 1
    let further := most.elim enough fun most => min (most - least) enough
    stepUpTo (body.ends text) further (stepTimes (body.ends text) (min least enough) positions)

/-- Whether a pattern matches somewhere in a text. -/
def finds (pattern : Pattern) (text : String) : Bool :=
  let chars := text.toList.toArray
  !(pattern.ends chars (List.range (chars.size + 1))).isEmpty

end Pattern

end IfaceGen
