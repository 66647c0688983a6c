/-!
# Flags of patterns

How a part of a pattern is to be read. Flags are letters behind a question mark: `(?m)` sets one
for the rest of a group, `(?m:…)` for a group of its own, and behind a hyphen they are taken away.
-/

namespace IfaceGen.Pattern

/-- How a part of a pattern is to be read. -/
structure Flags where
  /-- Letters stand for their other case, too. -/
  anyCase : Bool := false
  /-- Anchors hold at the ends of lines, too. -/
  multiLine : Bool := false
  /-- A dot stands for the end of a line, too. -/
  dotAll : Bool := false
  /-- A carriage return ends a line, with or without a line feed behind it. -/
  carriageReturns : Bool := false
  /-- Blanks and comments mean nothing. -/
  verbose : Bool := false
  /-- Sets are sets of characters and not of bytes. -/
  unicode : Bool := true
deriving DecidableEq, Repr

/-- Sets the flag with the given letter. That of short matches makes no difference. -/
def Flags.set? (flags : Flags) (letter : Char) (on : Bool) : Option Flags :=
  match letter with
  | 'i' => some { flags with anyCase := on }
  | 'm' => some { flags with multiLine := on }
  | 's' => some { flags with dotAll := on }
  | 'R' => some { flags with carriageReturns := on }
  | 'x' => some { flags with verbose := on }
  | 'u' => some { flags with unicode := on }
  | 'U' => some flags
  | _ => none

end IfaceGen.Pattern
