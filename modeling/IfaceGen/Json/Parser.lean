import IfaceGen.Json.Number
import IfaceGen.Text.Hex
import IfaceGen.Text.Rest

/-!
# Reading JSON text

`Json.parse` reads a whole text as one JSON value: no comments, no trailing commas, no raw control
characters in strings, nothing but blanks after the value. Nesting is not limited here, and a
string with half a surrogate pair or a number with no double near it is read as
`Data.unreadable`, because a reader that skips the value never looks at it.

Every reader returns the text it leaves over together with the fact that it is shorter, so that the
recursion is on the length of the text.
-/

namespace IfaceGen.Json

open Text (Rest Tail hexDigit?)

/-- The characters that may stand between tokens. -/
def isBlank (c : Char) : Bool :=
  c = ' ' || c = '\t' || c = '\n' || c = '\r'

/-- Drops leading blanks. -/
def skipBlank (s : List Char) : List Char :=
  s.dropWhile isBlank

theorem length_skipBlank_le (s : List Char) : (skipBlank s).length ≤ s.length :=
  Text.length_dropWhile_le _ s

/-- The code unit that four hexadecimal digits spell. -/
def hexUnit? (a b c d : Char) : Option Nat := do
  let a ← hexDigit? a
  let b ← hexDigit? b
  let c ← hexDigit? c
  let d ← hexDigit? d
  return ((a * 16 + b) * 16 + c) * 16 + d

/-- The character that a backslash and `c` stand for. -/
def shortEscape? (c : Char) : Option Char :=
  match c with
  | '"' => some '"'
  | '\\' => some '\\'
  | '/' => some '/'
  | 'b' => some '\x08'
  | 'f' => some '\x0c'
  | 'n' => some '\n'
  | 'r' => some '\r'
  | 't' => some '\t'
  | _ => none

/-- Reads the inside of a string up to the closing quote, as code points and surrogate units. -/
def stringUnits : (s : List Char) → Option (List Nat × Rest s)
  | [] => none
  | '"' :: rest => some ([], .behind _ rest)
  | '\\' :: 'u' :: a :: b :: c :: d :: rest => do
    let unit ← hexUnit? a b c d
    let (units, ⟨left, h⟩) ← stringUnits rest
    return (unit :: units, ⟨left, by simp only [List.length_cons]; omega⟩)
  | '\\' :: c :: rest => do
    let char ← shortEscape? c
    let (units, ⟨left, h⟩) ← stringUnits rest
    return (char.toNat :: units, ⟨left, by simp only [List.length_cons]; omega⟩)
  | c :: rest =>
    if c.toNat < 0x20 || c = '\\' then none
    else do
      let (units, ⟨left, h⟩) ← stringUnits rest
      return (c.toNat :: units, ⟨left, by simp only [List.length_cons]; omega⟩)

/-- Whether a unit is the first half of a surrogate pair. -/
def isHighSurrogate (unit : Nat) : Bool :=
  0xd800 ≤ unit && unit < 0xdc00

/-- Whether a unit is the second half of a surrogate pair. -/
def isLowSurrogate (unit : Nat) : Bool :=
  0xdc00 ≤ unit && unit < 0xe000

/-- Joins surrogate pairs; fails if one half stands alone. -/
def charsOfUnits : List Nat → Option (List Char)
  | [] => some []
  | [unit] =>
    if isHighSurrogate unit || isLowSurrogate unit then none else some [Char.ofNat unit]
  | high :: low :: units =>
    if isHighSurrogate high then
      if isLowSurrogate low then
        let char := Char.ofNat (0x10000 + (high - 0xd800) * 0x400 + (low - 0xdc00))
        (charsOfUnits units).map (char :: ·)
      else none
    else if isLowSurrogate high then none
    else (charsOfUnits (low :: units)).map (Char.ofNat high :: ·)

/-- The text of a string, missing if it holds half a surrogate pair. -/
def textOfUnits (units : List Nat) : Option String :=
  (charsOfUnits units).map String.ofList

/-- Reads a run of digits with at least one digit. -/
def digits (s : List Char) : Option (List Char × Rest s) :=
  let run := s.takeWhile Char.isDigit
  let left := s.dropWhile Char.isDigit
  if h : left.length < s.length then some (run, ⟨left, h⟩) else none

/-- Reads the digits before the point: a zero that no digit follows, or a run without a leading
    zero. -/
def wholeDigits (s : List Char) : Option (List Char × Rest s) := do
  let (run, rest) ← digits s
  if run.head? = some '0' && run.length != 1 then none else return (run, rest)

/-- Reads the digits after a point, if there is a point. -/
def fractionDigits (s : List Char) : Option (Option (List Char) × Tail s) :=
  match s with
  | '.' :: rest => do
    let (run, left) ← digits rest
    return (some run, (left.after _).toTail)
  | s => some (none, .all s)

/-- Reads an exponent, if there is one. -/
def exponentPart (s : List Char) : Option (Option Int × Tail s) :=
  match s with
  | c :: rest =>
    if c = 'e' || c = 'E' then
      match rest with
      | '-' :: rest => do
        let (run, left) ← digits rest
        return (some (-(Text.natOfDigits run : Int)), ((left.after _).after _).toTail)
      | '+' :: rest => do
        let (run, left) ← digits rest
        return (some (Text.natOfDigits run : Int), ((left.after _).after _).toTail)
      | rest => do
        let (run, left) ← digits rest
        return (some (Text.natOfDigits run : Int), (left.after _).toTail)
    else some (none, .all (c :: rest))
  | [] => some (none, .all [])

/-- Reads a number without its sign. -/
def unsignedNumber (negative : Bool) (s : List Char) : Option (NumberToken × Rest s) := do
  let (whole, ⟨s₁, h₁⟩) ← wholeDigits s
  let (fraction, ⟨s₂, h₂⟩) ← fractionDigits s₁
  let (exponent, ⟨s₃, h₃⟩) ← exponentPart s₂
  return (⟨negative, whole, fraction, exponent⟩, ⟨s₃, by omega⟩)

/-- Reads a number. -/
def number (s : List Char) : Option (NumberToken × Rest s) :=
  match s with
  | '-' :: rest => do
    let (token, left) ← unsignedNumber true rest
    return (token, left.after _)
  | s => unsignedNumber false s

/-- The record with the given members, unreadable if one of the names is. -/
def recordOfMembers (members : List (Option String × Data)) : Data :=
  match members.mapM fun (name, value) => name.map (·, value) with
  | some fields => .record fields
  | none => .unreadable

mutual
/-- Reads one value. No blank stands before it. -/
def value (s : List Char) : Option (Data × Rest s) :=
  match s with
  | 'n' :: 'u' :: 'l' :: 'l' :: rest => some (.null, ⟨rest, by simp only [List.length_cons]; omega⟩)
  | 't' :: 'r' :: 'u' :: 'e' :: rest =>
    some (.bool true, ⟨rest, by simp only [List.length_cons]; omega⟩)
  | 'f' :: 'a' :: 'l' :: 's' :: 'e' :: rest =>
    some (.bool false, ⟨rest, by simp only [List.length_cons]; omega⟩)
  | '"' :: rest => do
    let (units, ⟨left, h⟩) ← stringUnits rest
    let text := (textOfUnits units).elim Data.unreadable Data.str
    return (text, ⟨left, by simp only [List.length_cons]; omega⟩)
  | '[' :: rest =>
    have := length_skipBlank_le rest
    match h : skipBlank rest with
    | ']' :: left =>
      some (.list [], ⟨left, by simp only [h, List.length_cons] at this ⊢; omega⟩)
    | inner => do
      have : inner.length ≤ rest.length := h ▸ this
      let (items, ⟨left, h⟩) ← elements inner
      return (.list items, ⟨left, by simp only [List.length_cons]; omega⟩)
  | '\x7b' :: rest =>
    have := length_skipBlank_le rest
    match h : skipBlank rest with
    | '\x7d' :: left =>
      some (.record [], ⟨left, by simp only [h, List.length_cons] at this ⊢; omega⟩)
    | inner => do
      have : inner.length ≤ rest.length := h ▸ this
      let (fields, ⟨left, h⟩) ← members inner
      return (recordOfMembers fields, ⟨left, by simp only [List.length_cons]; omega⟩)
  | s => do
    let (token, rest) ← number s
    return (token.toData, rest)
termination_by (s.length, 0)
decreasing_by all_goals (subst_vars; simp only [List.length_cons] at *; omega)

/-- Reads the values of a list with at least one value, and the closing bracket. -/
def elements (s : List Char) : Option (List Data × Rest s) := do
  let (item, ⟨s₁, h₁⟩) ← value s
  have h₂ := length_skipBlank_le s₁
  match h : skipBlank s₁ with
  | ',' :: s₂ =>
    have h₃ := length_skipBlank_le s₂
    have h₄ : (skipBlank s₂).length < s.length := by
      simp only [h, List.length_cons] at h₂; omega
    let (items, ⟨left, h₅⟩) ← elements (skipBlank s₂)
    return (item :: items, ⟨left, by omega⟩)
  | ']' :: left => return ([item], ⟨left, by simp only [h, List.length_cons] at h₂; omega⟩)
  | _ => none
termination_by (s.length, 1)

/-- Reads the members of a record with at least one member, and the closing brace. -/
def members (s : List Char) : Option (List (Option String × Data) × Rest s) :=
  match s with
  | '"' :: s₀ => do
    let (units, ⟨s₁, h₁⟩) ← stringUnits s₀
    have h₂ := length_skipBlank_le s₁
    match h : skipBlank s₁ with
    | ':' :: s₂ =>
      have h₃ := length_skipBlank_le s₂
      have h₃' : (skipBlank s₂).length < s₀.length := by
        simp only [h, List.length_cons] at h₂; omega
      let (item, ⟨s₃, h₄⟩) ← value (skipBlank s₂)
      have h₅ := length_skipBlank_le s₃
      have h₆ : (skipBlank s₃).length < s₀.length := by
        simp only [h, List.length_cons] at h₂; omega
      match h' : skipBlank s₃ with
      | ',' :: s₄ =>
        have h₇ := length_skipBlank_le s₄
        have h₈ : (skipBlank s₄).length < s₀.length := by
          simp only [h', List.length_cons] at h₆; omega
        let (items, ⟨left, h₉⟩) ← members (skipBlank s₄)
        return ((textOfUnits units, item) :: items,
          ⟨left, by simp only [List.length_cons]; omega⟩)
      | '\x7d' :: left =>
        return ([(textOfUnits units, item)],
          ⟨left, by simp only [h', List.length_cons] at h₆ ⊢; omega⟩)
      | _ => none
    | _ => none
  | _ => none
termination_by (s.length, 1)
end

/-- Reads a whole text as one value. -/
def parse (text : String) : Option Data := do
  let (result, ⟨rest, _⟩) ← value (skipBlank text.toList)
  if (skipBlank rest).isEmpty then return result else none

end IfaceGen.Json
