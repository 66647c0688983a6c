import IfaceGen.Pattern.Basic
import IfaceGen.Pattern.Bracket
import IfaceGen.Text.Alphabetic
import IfaceGen.Text.Numeral

/-!
# Reading patterns

`Pattern.parse?` reads a pattern in the usual notation of regular expressions: groups, alternatives,
sets in brackets, repetitions, anchors and flags. Whether a repetition is greedy makes no
difference to what is found, so that is read and forgotten, and so are the names of groups.

Patterns know neither the classes nor the cases of Unicode. With the flag for Unicode, which is set
at the start, a pattern is refused if it needs them; without it, if it could match a part of a
character.
-/

namespace IfaceGen.Pattern

open Text (Rest Tail)

/-- Reads letters of flags, each of which may occur once, up to a colon or the end of the group.
    Behind a hyphen (`seen` holds it, too) flags are switched off. -/
def flagLetters (flags : Flags) (seen : List Char) : (s : List Char) → Option (Flags × Tail s)
  | [] => none
  | c :: rest =>
    if c = ':' || c = ')' then
      if seen.head? = some '-' then none else some (flags, .all _)
    else if seen.contains c then none
    else do
      let flags ← if c = '-' then some flags else flags.set? c (!seen.contains '-')
      let (flags, left) ← flagLetters flags (c :: seen) rest
      return (flags, (left.after c).toTail)

/-- What a parenthesis starts. -/
inductive GroupStart where
  /-- A group, whose name does not matter but for its being used once. -/
  | group (flags : Flags) (name : Option (List Char))
  /-- No group, but flags for the rest of the group around it. -/
  | directive (flags : Flags)

/-- Whether a list of characters is the name of a group. -/
def isGroupName : List Char → Bool
  | [] => false
  | c :: rest => (c = '_' || Text.isAlphabetic c) && rest.all fun d =>
    d = '_' || d = '.' || d = '[' || d = ']' || Text.isAlphabetic d || Text.isNumeral d

/-- Reads the name of a group, up to the angle bracket that ends it. -/
def groupName (flags : Flags) (s : List Char) : Option (GroupStart × Tail s) :=
  let name := s.takeWhile (· ≠ '>')
  if isGroupName name && name.length < s.length then
    some (.group flags (some name), .drop (name.length + 1) s)
  else none

/-- Reads the start of a group behind its parenthesis. -/
def groupStart (flags : Flags) (s : List Char) : Option (GroupStart × Tail s) :=
  match s with
  | '?' :: 'P' :: '<' :: rest =>
    (groupName flags rest).map fun (start, left) =>
      (start, (((left.after _).after _).after _).toTail)
  | '?' :: '<' :: rest =>
    (groupName flags rest).map fun (start, left) => (start, ((left.after _).after _).toTail)
  | '?' :: rest => do
    let (changed, behindFlags) ← flagLetters flags [] rest
    let left := behindFlags.followed (.drop 1 behindFlags.val)
    if behindFlags.val.head? = some ':' then
      return (.group changed none, (left.after _).toTail)
    else if rest.head? = some ')' then none
    else return (.directive changed, (left.after _).toTail)
  | s => some (.group flags none, .all s)

/-- What is left behind a question mark, which asks for a short match. -/
def laziness (s : List Char) : Tail s :=
  match s with
  | '?' :: rest => (Rest.behind _ rest).toTail
  | s => .all s

/-- Reads bounds of a repetition behind their opening brace. -/
def bracedBounds (verbose : Bool) (s : List Char) : Option ((Nat × Option Nat) × Tail s) := do
  let (least, behindLeast) ← decimal s
  match h : behindLeast.val with
  | '\x7d' :: rest =>
    return ((least, some least), behindLeast.followed (h ▸ (Rest.behind _ rest).toTail))
  | ',' :: rest =>
    let next := space verbose rest
    match h' : next.val with
    | '\x7d' :: rest' =>
      let left := next.followed (h' ▸ (Rest.behind _ rest').toTail)
      return ((least, none), behindLeast.followed (h ▸ (left.after _).toTail))
    | _ =>
      let (most, behindMost) ← decimal next.val
      if most < least || behindMost.val.head? ≠ some '\x7d' then none
      let left := (next.followed behindMost).followed (.drop 1 _)
      return ((least, some most), behindLeast.followed (h ▸ (left.after _).toTail))
  | _ => none

/-- Reads bounds of a repetition behind their opening brace, and whether short matches are asked
    for, which makes no difference. -/
def bounds (verbose : Bool) (s : List Char) : Option ((Nat × Option Nat) × Tail s) := do
  let (range, behindBrace) ← bracedBounds verbose s
  let next := behindBrace.followed (space verbose behindBrace.val)
  return (range, next.followed (laziness next.val))

/-- A group that has not been closed. -/
structure OpenGroup where
  flags : Flags := {}
  /-- The alternatives that are complete, the last one first. -/
  alternatives : List Pattern := []
  /-- The parts of the current alternative, the last one first. A directive is no pattern. -/
  parts : List (Option Pattern) := []

namespace OpenGroup

/-- The current alternative. -/
def current (group : OpenGroup) : Pattern :=
  group.parts.foldl (fun pattern part => part.elim pattern (seq · pattern)) .empty

/-- The pattern that the group stands for. -/
def close (group : OpenGroup) : Pattern :=
  group.alternatives.foldl (fun pattern other => alt other pattern) group.current

/-- Adds a part to the current alternative. -/
def add (group : OpenGroup) (part : Pattern) : OpenGroup :=
  { group with parts := some part :: group.parts }

/-- Starts another alternative. -/
def branch (group : OpenGroup) : OpenGroup :=
  { group with alternatives := group.current :: group.alternatives, parts := [] }

/-- Changes the flags for the rest of the group. -/
def direct (group : OpenGroup) (flags : Flags) : OpenGroup :=
  { group with flags := flags, parts := none :: group.parts }

/-- Repeats the last part. -/
def repeatLast? (group : OpenGroup) (least : Nat) (most : Option Nat) : Option OpenGroup :=
  match group.parts with
  | some part :: parts => some { group with parts := some (.loop part least most) :: parts }
  | _ => none

/-- Adds a character that stands for itself. -/
def addLiteral? (group : OpenGroup) (c : Char) : Option OpenGroup :=
  if group.flags.anyCase && group.flags.unicode then none
  else some (group.add (.char (group.flags.fold (.single c))))

/-- Adds what an escape stands for. -/
def addEscape? (group : OpenGroup) : Escape → Option OpenGroup
  | .char c => group.addLiteral? c
  | .byte c => if group.flags.unicode || c.toNat < 0x80 then group.addLiteral? c else none
  | .set chars negated =>
    if group.flags.unicode || negated then none else some (group.add (.char chars))
  | .anchor condition =>
    if group.flags.unicode && condition.concernsWords then none
    else some (group.add (.anchor condition))

/-- Adds what an unescaped character stands for. -/
def addChar? (group : OpenGroup) (c : Char) : Option OpenGroup :=
  let flags := group.flags
  match c with
  | '.' =>
    let lineEnds := if flags.carriageReturns then ['\r', '\n'] else ['\n']
    if !flags.unicode then none
    else some (group.add (.char (.compl (.ofList (if flags.dotAll then [] else lineEnds)))))
  | '^' => some (group.add (.anchor
    (if flags.multiLine then .lineStart flags.carriageReturns else .textStart)))
  | '$' => some (group.add (.anchor
    (if flags.multiLine then .lineEnd flags.carriageReturns else .textEnd)))
  | c => group.addLiteral? c

end OpenGroup

/-- The bounds that a single character gives to a repetition. -/
def shortBounds? (c : Char) : Option (Nat × Option Nat) :=
  match c with
  | '?' => some (0, some 1)
  | '*' => some (0, none)
  | '+' => some (1, none)
  | _ => none

/-- Reads the rest of a pattern. `outer` are the groups around the current one, the nearest first,
    and `names` the names of groups so far. -/
def body (names : List (List Char)) (outer : List OpenGroup) (group : OpenGroup)
    (s : List Char) : Option Pattern := do
  let verbose := group.flags.verbose
  let next := space verbose s
  match h : next.val with
  | [] => if outer.isEmpty then some group.close else none
  | c :: rest =>
    have : rest.length < s.length := (next.behindHead h).property
    match c with
    | '(' =>
      let start := space verbose rest
      have := start.property
      let (opening, left) ← groupStart group.flags start.val
      have := left.property
      match opening with
      | .directive flags => body names outer (group.direct flags) left.val
      | .group flags none => body names (group :: outer) { flags := flags } left.val
      | .group flags (some name) =>
        if names.contains name then none
        body (name :: names) (group :: outer) { flags := flags } left.val
    | ')' =>
      match outer with
      | [] => none
      | parent :: outer => body names outer (parent.add group.close) rest
    | '|' => body names outer group.branch rest
    | '[' =>
      let (set, left) ← bracketSet group.flags rest
      have := left.property
      body names outer (group.add (.char set)) left.val
    | '\x7b' =>
      let ((least, most), left) ← bounds verbose rest
      have := left.property
      body names outer (← group.repeatLast? least most) left.val
    | '\\' =>
      let (escaped, left) ← escape rest
      have := left.property
      body names outer (← group.addEscape? escaped) left.val
    | c =>
      match shortBounds? c with
      | some (least, most) =>
        have := (laziness rest).property
        body names outer (← group.repeatLast? least most) (laziness rest).val
      | none => body names outer (← group.addChar? c) rest
termination_by s.length

/-- The pattern that a text spells. -/
def parse? (text : String) : Option Pattern :=
  body [] [] {} text.toList

end IfaceGen.Pattern
