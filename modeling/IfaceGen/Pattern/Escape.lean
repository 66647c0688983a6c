import IfaceGen.Pattern.Basic
import IfaceGen.Text.Blank
import IfaceGen.Text.Hex
import IfaceGen.Text.Rest

/-!
# Small parts of written patterns

Blanks and comments that verbose patterns may hold, numbers, and escapes.
-/

namespace IfaceGen.Pattern

open Text (Rest Tail hexDigit?)

/-- Drops blanks, and comments up to the ends of their lines. -/
def dropSpace (s : List Char) : List Char :=
  match s with
  | [] => []
  | c :: rest =>
    if Text.isBlank c then dropSpace rest
    else if c = '#' then
      have := Text.length_dropWhile_le (· ≠ '\n') rest
      dropSpace (rest.dropWhile (· ≠ '\n'))
    else c :: rest
termination_by s.length
decreasing_by
  · exact Nat.lt_succ_self _
  · exact Nat.lt_succ_of_le this

theorem length_dropSpace_le (s : List Char) : (dropSpace s).length ≤ s.length := by
  fun_induction dropSpace s with
  | case1 => exact Nat.le_refl _
  | case2 c rest _ ih => exact Nat.le_succ_of_le ih
  | case3 rest hle _ ih => exact Nat.le_succ_of_le (Nat.le_trans ih hle)
  | case4 c rest => exact Nat.le_refl _

/-- What is left behind blanks and comments, which mean nothing in a verbose pattern only. -/
def space (verbose : Bool) (s : List Char) : Tail s :=
  if verbose then ⟨dropSpace s, length_dropSpace_le s⟩ else .all s

/-- What is left behind blanks. -/
def blanks (s : List Char) : Tail s :=
  ⟨s.dropWhile Text.isBlank, Text.length_dropWhile_le _ s⟩

/-- Reads a number that fits into 32 bits, and the blanks around it. -/
def decimal (s : List Char) : Option (Nat × Tail s) :=
  let start := blanks s
  let digits := start.val.takeWhile Char.isDigit
  let value := digits.foldl (fun n c => 10 * n + (c.toNat - '0'.toNat)) 0
  if digits.isEmpty || UInt32.size ≤ value then none
  else
    let behind : Tail start.val := ⟨start.val.dropWhile Char.isDigit, Text.length_dropWhile_le _ _⟩
    some (value, (start.followed behind).followed (blanks behind.val))

/-- What an escape stands for. -/
inductive Escape where
  | char (c : Char)
  /-- A character or a byte that is given by two hexadecimal digits. -/
  | byte (c : Char)
  | anchor (condition : Anchor)
  /-- A set of characters of ASCII, or its complement. -/
  | set (chars : CharSet) (negated : Bool)

/-- The character whose code point is spelled by hexadecimal digits. -/
def charOfDigits? (digits : List Char) : Option Char := do
  let values ← digits.mapM hexDigit?
  let code := values.foldl (fun n value => 16 * n + value) 0
  if !values.isEmpty && code.isValidChar then return Char.ofNat code else none

/-- Reads a code point: digits in braces, or exactly `count` digits. -/
def codePoint (count : Nat) (s : List Char) : Option (Char × Tail s) :=
  match s with
  | '\x7b' :: rest => do
    let digits := rest.takeWhile (· ≠ '\x7d')
    if digits.length = rest.length then none
    let c ← charOfDigits? digits
    return (c, ((Tail.drop (digits.length + 1) rest).after _).toTail)
  | s => do
    if s.length < count then none
    let c ← charOfDigits? (s.take count)
    return (c, .drop count s)

/-- Whether a backslash in front of `c` makes it stand for itself. -/
def isEscapable (c : Char) : Bool :=
  c.toNat < 0x80 && !c.isAlphanum && c ≠ '<' && c ≠ '>'

/-- The control character that a letter behind a backslash stands for. -/
def controlEscape? (c : Char) : Option Char :=
  match c with
  | 'a' => some '\x07'
  | 'f' => some '\x0c'
  | 'n' => some '\n'
  | 'r' => some '\r'
  | 't' => some '\t'
  | 'v' => some '\x0b'
  | _ => none

/-- The set or the condition that a character behind a backslash stands for. -/
def classEscape? (c : Char) : Option Escape :=
  match c with
  | 'd' => some (.set .digit false)
  | 'D' => some (.set .digit true)
  | 's' => some (.set .space false)
  | 'S' => some (.set .space true)
  | 'w' => some (.set .word false)
  | 'W' => some (.set .word true)
  | 'A' => some (.anchor .textStart)
  | 'z' => some (.anchor .textEnd)
  | 'B' => some (.anchor .noWordBoundary)
  | '<' => some (.anchor (.word (some false) (some true)))
  | '>' => some (.anchor (.word (some true) (some false)))
  | _ => none

/-- The condition on words with the given name. -/
def wordCondition? (name : String) : Option Anchor :=
  match name with
  | "start" => some (.word (some false) (some true))
  | "end" => some (.word (some true) (some false))
  | "start-half" => some (.word (some false) none)
  | "end-half" => some (.word none (some false))
  | _ => none

/-- Reads a condition on words behind its letter: one with a name in braces, or that there is some
    boundary. Braces around numbers belong to a repetition. -/
def wordCondition (s : List Char) : Option (Anchor × Tail s) :=
  match s with
  | '\x7b' :: rest =>
    let name := rest.takeWhile fun c => c.isAlpha || c = '-'
    if rest.isEmpty then none
    else if name.isEmpty then some (.wordBoundary, .all _)
    else if rest[name.length]? ≠ some '\x7d' then none
    else (wordCondition? (String.ofList name)).map
      (·, ((Tail.drop (name.length + 1) rest).after _).toTail)
  | s => some (.wordBoundary, .all s)

/-- Reads what follows a backslash. -/
def escape (s : List Char) : Option (Escape × Rest s) :=
  match s with
  | [] => none
  | c :: rest =>
    match c with
    | 'x' => (codePoint 2 rest).map fun (d, left) =>
      (if rest.head? = some '\x7b' then .char d else .byte d, left.after c)
    | 'u' => (codePoint 4 rest).map fun (d, left) => (.char d, left.after c)
    | 'U' => (codePoint 8 rest).map fun (d, left) => (.char d, left.after c)
    | 'b' => (wordCondition rest).map fun (condition, left) => (.anchor condition, left.after c)
    | c =>
      if isEscapable c then some (.char c, .behind c rest)
      else match classEscape? c with
        | some escape => some (escape, .behind c rest)
        | none => (controlEscape? c).map fun d => (.char d, .behind c rest)

end IfaceGen.Pattern
