import IfaceGen.Pattern.Escape
import IfaceGen.Pattern.Flags

/-!
# Sets in brackets

A set of characters in a pattern stands in brackets: characters, ranges, named sets and further
sets in brackets. Sets are united by standing side by side, and `&&`, `--` and `~~` intersect,
subtract and compare what stands to their left and right.

Patterns know neither the classes nor the cases of Unicode. So with the flag for Unicode, escapes
that stand for sets and sets in any case are refused; without it, everything that reaches beyond
ASCII is.
-/

namespace IfaceGen.Pattern

open Text (Rest Tail)

/-- The set of one character, as far as the flags admit it in brackets. -/
def Flags.member? (flags : Flags) (c : Char) : Option Char :=
  if flags.unicode || c.toNat < 0x80 then some c else none

/-- The complement of a set, as far as the flags admit it. -/
def Flags.negate? (flags : Flags) (negated : Bool) (set : CharSet) : Option CharSet :=
  if !negated then some set else if flags.unicode then some (.compl set) else none

/-- A set as the flags want it. -/
def Flags.fold (flags : Flags) (set : CharSet) : CharSet :=
  if flags.anyCase then .anyCase set else set

/-- Joins two sets. -/
abbrev SetOperator := CharSet → CharSet → CharSet

/-- A bracket that has not been closed. -/
structure OpenBracket where
  negated : Bool := false
  /-- The operator that was read last, and what stands to its left. -/
  left : Option (SetOperator × CharSet) := none
  /-- What has been read since. -/
  items : CharSet := .empty

namespace OpenBracket

/-- Adds a set to what has been read. -/
def add (bracket : OpenBracket) (set : CharSet) : OpenBracket :=
  { bracket with items := .union bracket.items set }

/-- What has been read, with the last operator applied. -/
def operand (bracket : OpenBracket) (flags : Flags) : CharSet :=
  match bracket.left with
  | none => bracket.items
  | some (operator, left) => operator (flags.fold left) (flags.fold bracket.items)

/-- The bracket behind an operator. -/
def apply (bracket : OpenBracket) (flags : Flags) (operator : SetOperator) : OpenBracket :=
  { bracket with left := some (operator, bracket.operand flags), items := .empty }

/-- The set that the bracket stands for. -/
def close? (bracket : OpenBracket) (flags : Flags) : Option CharSet :=
  flags.negate? bracket.negated (flags.fold (bracket.operand flags))

end OpenBracket

/-- Reads hyphens that stand for themselves. -/
def hyphens (verbose : Bool) (bracket : OpenBracket) (s : List Char) : OpenBracket × Tail s :=
  match s with
  | '-' :: rest =>
    let next := space verbose rest
    let (bracket, left) := hyphens verbose (bracket.add (.single '-')) next.val
    (bracket, ((next.followed left).after _).toTail)
  | s => (bracket, .all s)
termination_by s.length
decreasing_by exact Nat.lt_succ_of_le (space verbose rest).property

/-- Reads the start of a bracket behind its delimiter: the sign of negation, and hyphens or a
    closing delimiter that stand for themselves. -/
def bracketStart (verbose : Bool) (s : List Char) : OpenBracket × Tail s :=
  let start := space verbose s
  let (negated, behindSign) : Bool × Tail start.val := match start.val with
    | '^' :: rest => (true, ((space verbose rest).after _).toTail)
    | s => (false, .all s)
  let (bracket, behindHyphens) := hyphens verbose { negated := negated } behindSign.val
  let (bracket, left) : OpenBracket × Tail behindHyphens.val := match behindHyphens.val with
    | ']' :: rest =>
      if behindHyphens.val.length = behindSign.val.length then
        (bracket.add (.single ']'), ((space verbose rest).after _).toTail)
      else (bracket, .all _)
    | s => (bracket, .all s)
  (bracket, ((start.followed behindSign).followed behindHyphens).followed left)

/-- A named set as it is read: the set, and whether it is negated. -/
structure NamedSet where
  chars : CharSet
  negated : Bool

/-- Reads a named set behind its opening bracket. -/
def namedSet (s : List Char) : Option (NamedSet × Tail s) :=
  match s with
  | ':' :: rest => do
    let (negated, name) : Bool × Tail rest := match rest with
      | '^' :: rest => (true, (Rest.behind _ rest).toTail)
      | rest => (false, .all rest)
    let letters := name.val.takeWhile (· ≠ ':')
    let chars ← CharSet.named? (String.ofList letters)
    let left := name.followed (.drop (letters.length + 2) name.val)
    if (name.val.drop letters.length).take 2 = [':', ']'] then
      return (⟨chars, negated⟩, (left.after _).toTail)
    else none
  | _ => none

/-- What stands in brackets: a character, which may start or end a range, or a set. -/
inductive BracketItem where
  | char (c : Char)
  | set (chars : CharSet)

/-- What an escape stands for in brackets. -/
def Escape.item? (flags : Flags) : Escape → Option BracketItem
  | .char c | .byte c => (flags.member? c).map .char
  | .set chars negated => if flags.unicode || negated then none else some (.set chars)
  | .anchor _ => none

/-- Reads a character, which may be escaped, or an escape that stands for a set. -/
def bracketItem (flags : Flags) (s : List Char) : Option (BracketItem × Rest s) :=
  match s with
  | [] => none
  | '\\' :: rest => do
    let (escape, left) ← escape rest
    return (← escape.item? flags, left.after _)
  | c :: rest => (flags.member? c).map fun c => (.char c, .behind _ rest)

/-- Reads a set, a character or a range. A hyphen makes no range if a closing bracket or another
    hyphen follows it. -/
def bracketPart (flags : Flags) (s : List Char) : Option (CharSet × Rest s) := do
  let (item, behindItem) ← bracketItem flags s
  let next := behindItem.trans (space flags.verbose behindItem.val)
  let alone : CharSet := match item with
    | .char c => .single c
    | .set chars => chars
  match h : next.val with
  | '-' :: rest =>
    let last := space flags.verbose rest
    if last.val.head? = some ']' || last.val.head? = some '-' then return (alone, next)
    let (lastItem, left) ← bracketItem flags last.val
    match item, lastItem with
    | .char first, .char second =>
      if second.toNat < first.toNat then none
      let behindHyphen := next.toTail.behindHead h
      return (.between first second, behindHyphen.trans (last.trans left).toTail)
    | _, _ => none
  | _ => return (alone, next)

/-- The operator that two characters stand for. -/
def setOperator? (c d : Char) : Option SetOperator :=
  match c, d with
  | '&', '&' => some .inter
  | '-', '-' => some .diff
  | '~', '~' => some .symmDiff
  | _, _ => none

/-- Reads a bracket behind its start, up to the bracket that closes it. `outer` are the brackets
    around it, the nearest first. -/
def bracketBody (flags : Flags) (outer : List OpenBracket) (bracket : OpenBracket)
    (s : List Char) : Option (CharSet × Rest s) := do
  let next := space flags.verbose s
  match h : next.val with
  | [] => none
  | c :: rest =>
    let behind := next.behindHead h
    have : rest.length < s.length := behind.property
    if c = ']' then
      let closed ← bracket.close? flags
      match outer with
      | [] => return (closed, behind)
      | parent :: outer =>
        let (set, left) ← bracketBody flags outer (parent.add closed) rest
        return (set, behind.trans left.toTail)
    else if c = '[' then
      match namedSet rest with
      | some (named, behindName) =>
        have := behindName.property
        let chars ← flags.negate? named.negated (flags.fold named.chars)
        let (set, left) ← bracketBody flags outer (bracket.add chars) behindName.val
        return (set, behind.trans (behindName.trans left).toTail)
      | none =>
        let (inner, behindStart) := bracketStart flags.verbose rest
        have := behindStart.property
        let (set, left) ← bracketBody flags (bracket :: outer) inner behindStart.val
        return (set, behind.trans (behindStart.trans left).toTail)
    else
      match rest.head?.bind (setOperator? c) with
      | some operator =>
        have := (Tail.drop 1 rest).property
        let (set, left) ←
          bracketBody flags outer (bracket.apply flags operator) (Tail.drop 1 rest).val
        return (set, behind.trans ((Tail.drop 1 rest).trans left).toTail)
      | none =>
        let (part, behindPart) ← bracketPart flags next.val
        have := behindPart.property
        have := next.property
        let (set, left) ← bracketBody flags outer (bracket.add part) behindPart.val
        return (set, next.trans (behindPart.trans left.toTail))
termination_by s.length

/-- Reads a set behind its opening bracket. -/
def bracketSet (flags : Flags) (s : List Char) : Option (CharSet × Tail s) := do
  let (bracket, start) := bracketStart flags.verbose s
  let (set, left) ← bracketBody flags [] bracket start.val
  if flags.unicode && flags.anyCase then none
  return (set, (start.trans left).toTail)

end IfaceGen.Pattern
