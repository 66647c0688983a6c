/-!
# Texts without control sequences

A stream that is no terminal gets a text without what only a terminal understands: control
characters, and the sequences that an escape character starts. `plain` gives that text.
-/

namespace IfaceGen.Text

/-- What a terminal is in the middle of. -/
inductive TerminalState where
  | text
  /-- Behind an escape character. -/
  | escape
  /-- Behind an escape character and intermediate characters. -/
  | longEscape
  /-- A control sequence, which a letter or a similar character ends. -/
  | control
  /-- The start of a string for a device. -/
  | deviceStart
  /-- The parameters of a string for a device. -/
  | deviceParameters
  /-- The intermediate characters of a string for a device. -/
  | deviceIntermediates
  /-- A string that a string terminator ends. -/
  | string
  /-- A command for the system, which a bell ends. -/
  | command
deriving DecidableEq, Repr

/-- The control characters that are white space. -/
def isSpaceControl (c : Char) : Bool :=
  c = '\t' || c = '\n' || c = '\x0c' || c = '\r'

/-- Whether a character has the byte of a string terminator in its UTF-8 form. -/
def hasTerminatorByte (c : Char) : Bool :=
  (String.singleton c).toUTF8.toList.contains 0x9c

namespace TerminalState

/-- Whether a character shows. White space shows in the middle of most sequences, too. -/
def shows (state : TerminalState) (c : Char) : Bool :=
  match state with
  | .text => (0x20 ≤ c.toNat && c.toNat ≠ 0x7f) || isSpaceControl c
  | .escape | .longEscape | .control => isSpaceControl c
  | _ => false

/-- The state behind a character that does not show. -/
def next (state : TerminalState) (c : Char) : TerminalState :=
  let code := c.toNat
  let isFinal := 0x40 ≤ code && code < 0x7f
  let isParameter := 0x30 ≤ code && code < 0x40
  let isIntermediate := 0x20 ≤ code && code < 0x30
  if c = '\x1b' then .escape
  else if c = '\x18' || c = '\x1a' then .text
  else match state with
    | .text => .text
    | .escape =>
      if c = '[' then .control
      else if c = ']' then .command
      else if c = 'P' then .deviceStart
      else if c = 'X' || c = '^' || c = '_' then .string
      else if isIntermediate then .longEscape
      else if isParameter || isFinal then .text
      else .escape
    | .longEscape => if isParameter || isFinal then .text else .longEscape
    | .control => if isFinal then .text else .control
    | .deviceStart =>
      if isIntermediate then .deviceIntermediates
      else if isParameter then .deviceParameters
      else if isFinal then .string
      else .deviceStart
    | .deviceParameters =>
      if isIntermediate then .deviceIntermediates
      else if isFinal || 0x3c ≤ code && code < 0x40 then .string
      else .deviceParameters
    | .deviceIntermediates => if isParameter || isFinal then .string else .deviceIntermediates
    | .string => if hasTerminatorByte c then .text else .string
    | .command => if c = '\x07' then .text else .command

/-- The state that decides whether a character shows: in a run of characters that show, it is that
    of text. -/
def deciding (state : TerminalState) (running : Bool) : TerminalState :=
  if running then .text else state

end TerminalState

/-- What shows of a text that starts in `state`. Behind a character that shows, `running` is set,
    and everything shows up to the next control character; a sequence that was interrupted by white
    space goes on from there. -/
def plainFrom (running : Bool) (state : TerminalState) : List Char → List Char
  | [] => []
  | c :: rest =>
    if (state.deciding running).shows c then
      c :: plainFrom true (if c.toNat < 0x80 then state else .text) rest
    else plainFrom false (state.next c) rest

/-- What shows of a text. -/
def plain (text : String) : String :=
  String.ofList (plainFrom false .text text.toList)

/-- All of what shows was there before, in the same order. -/
theorem plainFrom_sublist (running : Bool) (state : TerminalState) (s : List Char) :
    (plainFrom running state s).Sublist s := by
  induction s generalizing running state with
  | nil => exact .slnil
  | cons c rest ih =>
    rw [plainFrom]
    split
    · exact (ih _ _).cons_cons c
    · exact (ih _ _).cons c

end IfaceGen.Text
