import IfaceGen.Text.Hex
import IfaceGen.Text.Rest

/-!
# TOML tokens

A TOML text is cut into tokens before it is parsed. Line ends are unified first, and a byte order
mark at the start is dropped. Basic texts (in double quotes) have escapes, literal texts (in single
quotes) have none; both have a form with three quotes that runs over several lines.
-/

namespace IfaceGen.Toml

open Text (Rest Tail hexDigit?)

/-- A token. -/
inductive Token where
  | newline
  /-- A run of blanks and tabs. -/
  | blank (single : Bool)
  /-- A number sign and what follows it, up to the end of the line or a control character. -/
  | comment
  | equals
  | period
  | comma
  | colon
  | plus
  | leftBrace
  | rightBrace
  | leftBracket
  | rightBracket
  /-- A run of ASCII letters, digits, hyphens and underscores. -/
  | bare (chars : List Char)
  | text (value : String) (multiline : Bool)
deriving DecidableEq, Repr

/-- Unifies line ends. -/
def foldLineEnds : List Char → List Char
  | [] => []
  | '\r' :: '\n' :: rest => '\n' :: foldLineEnds rest
  | c :: rest => c :: foldLineEnds rest

/-- Blanks within a line. -/
def isBlank (c : Char) : Bool :=
  c = ' ' || c = '\t'

/-- The characters of bare keys and of numbers. -/
def isBare (c : Char) : Bool :=
  c.isAlphanum || c = '-' || c = '_'

/-- The characters of a comment. -/
def isCommentChar (c : Char) : Bool :=
  c = '\t' || 0x20 ≤ c.toNat

/-- The characters a text may hold. -/
def isTextChar (c : Char) : Bool :=
  c = '\t' || (0x20 ≤ c.toNat && c.toNat ≠ 0x7f)

/-- The character whose code point the given digits spell. -/
def charOfHex? (digits : List Char) : Option Char := do
  let values ← digits.mapM hexDigit?
  let code := values.foldl (fun n digit => 16 * n + digit) 0
  if code.isValidChar then return Char.ofNat code else none

/-- Reads what follows a backslash in a basic text: the characters it stands for, and the rest. -/
def escape (multiline : Bool) (s : List Char) : Option (List Char × Rest s) :=
  match s with
  | '"' :: rest => some (['"'], .behind _ rest)
  | '\\' :: rest => some (['\\'], .behind _ rest)
  | 'b' :: rest => some (['\x08'], .behind _ rest)
  | 'f' :: rest => some (['\x0c'], .behind _ rest)
  | 'n' :: rest => some (['\n'], .behind _ rest)
  | 'r' :: rest => some (['\r'], .behind _ rest)
  | 't' :: rest => some (['\t'], .behind _ rest)
  | 'u' :: rest => do
    let digits := rest.take 4
    let c ← if digits.length = 4 then charOfHex? digits else none
    return ([c], ⟨rest.drop 4, by simp only [List.length_drop, List.length_cons]; omega⟩)
  | 'U' :: rest => do
    let digits := rest.take 8
    let c ← if digits.length = 8 then charOfHex? digits else none
    return ([c], ⟨rest.drop 8, by simp only [List.length_drop, List.length_cons]; omega⟩)
  | c :: rest =>
    -- At the end of a line of a long text, the line break and the blanks around it vanish.
    if multiline && (isBlank c || c = '\n') then
      let line := if c = '\n' then c :: rest else rest.dropWhile isBlank
      have : line.length ≤ rest.length + 1 := by
        simp only [line]
        split
        · simp
        · have := Text.length_dropWhile_le isBlank rest; omega
      match h : line with
      | '\n' :: next =>
        let left := next.dropWhile fun d => isBlank d || d = '\n'
        some ([], ⟨left, by
          have := Text.length_dropWhile_le (fun d => isBlank d || d = '\n') next
          simp only [left, List.length_cons] at *
          omega⟩)
      | _ => none
    else none
  | [] => none

/-- Reads a text behind its opening delimiter. -/
def textBody (delimiter : Char) (multiline : Bool) (s : List Char) : Option (List Char × Rest s) :=
  match s with
  | [] => none
  | c :: rest =>
    if c = '\n' then
      if multiline then do
        let (chars, left) ← textBody delimiter multiline rest
        return ('\n' :: chars, left.after c)
      else none
    else if c = delimiter then
      if !multiline then some ([], .behind c rest)
      else
        -- Three delimiters close a long text, and up to two more before them belong to it.
        let run := (rest.takeWhile (· = delimiter)).length + 1
        let extra := min run 5 - 3
        if run < 3 then do
          let (chars, left) ← textBody delimiter multiline rest
          return (delimiter :: chars, left.after c)
        else
          some (List.replicate extra delimiter, (Tail.drop (extra + 2) rest).after c)
    else if c = '\\' && delimiter = '"' then do
      let (escaped, next) ← escape multiline rest
      have := next.property
      let (chars, left) ← textBody delimiter multiline next.val
      return (escaped ++ chars, (next.trans left.toTail).after c)
    else if isTextChar c then do
      let (chars, left) ← textBody delimiter multiline rest
      return (c :: chars, left.after c)
    else none
termination_by s.length

/-- Reads a text token behind its first delimiter. A line break right behind three delimiters does
    not belong to the text. -/
def textToken (delimiter : Char) (s : List Char) : Option (Token × Tail s) :=
  let run := (s.takeWhile (· = delimiter)).length
  if run = 0 then do
    let (chars, left) ← textBody delimiter false s
    return (.text (String.ofList chars) false, left.toTail)
  else if run = 1 then
    some (.text "" false, .drop 1 s)
  else do
    let body : Tail s := .drop (if (s.drop 2).head? = some '\n' then 3 else 2) s
    let (chars, left) ← textBody delimiter true body.val
    return (.text (String.ofList chars) true, (body.trans left).toTail)

/-- The token of a single character. -/
def symbol? (c : Char) : Option Token :=
  match c with
  | '\n' => some .newline
  | '=' => some .equals
  | '.' => some .period
  | ',' => some .comma
  | ':' => some .colon
  | '+' => some .plus
  | '\x7b' => some .leftBrace
  | '\x7d' => some .rightBrace
  | '[' => some .leftBracket
  | ']' => some .rightBracket
  | _ => none

/-- Reads the token that starts with `c`. -/
def next (c : Char) (s : List Char) : Option (Token × Tail s) :=
  if let some token := symbol? c then some (token, .all s)
  else if isBlank c then
    let single := c = ' ' && (s.takeWhile isBlank).isEmpty
    some (.blank single, ⟨s.dropWhile isBlank, Text.length_dropWhile_le _ s⟩)
  else if c = '#' then
    some (.comment, ⟨s.dropWhile isCommentChar, Text.length_dropWhile_le _ s⟩)
  else if c = '\x27' || c = '"' then textToken c s
  else if isBare c then
    some (.bare (c :: s.takeWhile isBare), ⟨s.dropWhile isBare, Text.length_dropWhile_le _ s⟩)
  else none

/-- Cuts a text into tokens. -/
def tokens (s : List Char) : Option (List Token) :=
  match s with
  | [] => some []
  | c :: rest => do
    let (token, ⟨left, _⟩) ← next c rest
    let others ← tokens left
    return token :: others
termination_by s.length

/-- The tokens of a document. -/
def tokenize (text : String) : Option (List Token) :=
  let chars := match text.toList with
    | '\ufeff' :: rest => rest
    | chars => chars
  tokens (foldLineEnds chars)

end IfaceGen.Toml
