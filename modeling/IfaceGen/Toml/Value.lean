import IfaceGen.Toml.Number

/-!
# TOML keys and values

A key may be dotted: each part but the last names a table inside the one before. Tables that come
about through dotted keys stay open for further keys; a table that was written as a value is closed.
-/

namespace IfaceGen.Toml

open Text (Rest Tail)

/-- What a key stands for. -/
inductive Item where
  /-- A value as it was written. -/
  | plain (value : Data)
  /-- A table that came about through dotted keys. -/
  | dotted (entries : List (String × Item))

/-- The entries of a table, in document order. -/
abbrev Entries := List (String × Item)

mutual
/-- The value of an item. -/
def Item.toData : Item → Data
  | .plain value => value
  | .dotted entries => .record (fieldsOf entries)

/-- The fields of a table. -/
def fieldsOf : Entries → List (String × Data)
  | [] => []
  | (key, item) :: entries => (key, item.toData) :: fieldsOf entries
end

/-- Changes the dotted table called `key`, or adds one at the end. Fails if the first entry of that
    name is no dotted table. -/
def Entries.update (key : String) (change : Entries → Option Entries) : Entries → Option Entries
  | [] => do return [(key, .dotted (← change []))]
  | (other, item) :: rest =>
    if other = key then
      match item with
      | .dotted inner => do return (other, .dotted (← change inner)) :: rest
      | .plain _ => none
    else do return (other, item) :: (← Entries.update key change rest)

/-- Adds a value under a dotted key. -/
def Entries.insert (value : Data) : List String → Entries → Option Entries
  | [], _ => none
  | [key], entries => some (entries ++ [(key, .plain value)])
  | key :: path, entries => entries.update key (Entries.insert value path)

/-- Whether a token is blank. -/
def Token.isBlank : Token → Bool
  | .blank _ => true
  | _ => false

/-- Whether a token may stand around the items of a list. -/
def Token.isGap : Token → Bool
  | .blank _ | .newline | .comment => true
  | _ => false

/-- Skips blanks. -/
def skipBlank (ts : List Token) : List Token :=
  ts.dropWhile Token.isBlank

/-- Skips blanks, line ends and comments. -/
def skipGap (ts : List Token) : List Token :=
  ts.dropWhile Token.isGap

theorem length_skipBlank_le (ts : List Token) : (skipBlank ts).length ≤ ts.length :=
  Text.length_dropWhile_le _ ts

theorem length_skipGap_le (ts : List Token) : (skipGap ts).length ≤ ts.length :=
  Text.length_dropWhile_le _ ts

/-- What follows a part of a key, the blanks before it skipped, is shorter than what the part is
    read from. -/
theorem length_lt_of_skipBlank_eq {ts ts₁ left : List Token} (h₁ : ts₁.length < ts.length)
    (h : skipBlank ts₁ = left) : left.length < ts.length :=
  h ▸ Nat.lt_of_le_of_lt (length_skipBlank_le ts₁) h₁

/-- The same behind a separator and the blanks around it. -/
theorem length_skipBlank_lt_of_eq_cons {ts ts₁ ts₂ : List Token} {t : Token}
    (h₁ : ts₁.length < ts.length) (h : skipBlank ts₁ = t :: ts₂) :
    (skipBlank ts₂).length < ts.length :=
  Nat.lt_of_le_of_lt (length_skipBlank_le ts₂)
    (Nat.lt_of_succ_lt (length_lt_of_skipBlank_eq h₁ h))

/-- Reads a part of a key. -/
def keyPart (ts : List Token) : Option (String × Rest ts) :=
  match ts with
  | .bare chars :: rest => some (String.ofList chars, .behind _ rest)
  | .text value false :: rest => some (value, .behind _ rest)
  | _ => none

/-- Reads a dotted key and the blanks behind it. -/
def key (ts : List Token) : Option (List String × Rest ts) := do
  let (part, ⟨ts₁, h₁⟩) ← keyPart ts
  match h : skipBlank ts₁ with
  | .period :: ts₂ =>
    have h₂ := length_skipBlank_lt_of_eq_cons h₁ h
    let (parts, ⟨left, h₃⟩) ← key (skipBlank ts₂)
    return (part :: parts, ⟨left, Nat.lt_trans h₃ h₂⟩)
  | left => return ([part], ⟨left, length_lt_of_skipBlank_eq h₁ h⟩)
termination_by ts.length

/-- Reads a dotted key, the equals sign behind it and the blanks around that. -/
def keyEquals (ts : List Token) : Option (List String × Rest ts) := do
  let (path, ⟨ts₁, h₁⟩) ← key ts
  match ts₁, h₁ with
  | .equals :: ts₂, h₁ =>
    have h₂ := length_skipBlank_le ts₂
    return (path, ⟨skipBlank ts₂, by simp only [List.length_cons] at h₁; omega⟩)
  | _, _ => none

/-- Reads a value that is one word. -/
def word (s : List Char) (ts : List Token) : Option (Data × Tail ts) :=
  if s = ['t', 'r', 'u', 'e'] then some (.bool true, .all ts)
  else if s = ['f', 'a', 'l', 's', 'e'] then some (.bool false, .all ts)
  else if s = ['i', 'n', 'f'] || s = ['n', 'a', 'n'] || s.head?.any (fun c => c = '-' || c.isDigit)
  then numberOrDate s ts
  else none

mutual
/-- Reads a value. -/
def value (ts : List Token) : Option (Data × Rest ts) :=
  match ts with
  | .text text _ :: rest => some (.str text, .behind _ rest)
  | .bare s :: rest => do
    let (data, left) ← word s rest
    return (data, left.after _)
  | .plus :: .bare s :: rest => do
    let (data, left) ← number s rest
    return (data, (left.after _).after _)
  | .leftBrace :: rest =>
    have := length_skipBlank_le rest
    match h : skipBlank rest with
    | .rightBrace :: left =>
      some (.record [], ⟨left, by simp only [h, List.length_cons] at this ⊢; omega⟩)
    | inner => do
      have : inner.length ≤ rest.length := h ▸ this
      let (entries, ⟨left, h'⟩) ← members [] inner
      return (.record (fieldsOf entries), ⟨left, by simp only [List.length_cons]; omega⟩)
  | .leftBracket :: rest => do
    let (items, left) ← elements rest
    return (.list items, left.after _)
  | _ => none
termination_by 2 * ts.length

/-- Reads the items of a list and the closing bracket. A comma may follow the last item. -/
def elements (ts : List Token) : Option (List Data × Rest ts) :=
  have h₁ := length_skipGap_le ts
  match h : skipGap ts with
  | .rightBracket :: left => some ([], ⟨left, by simp only [h, List.length_cons] at h₁; omega⟩)
  | ts₁ => do
    have h₁ : ts₁.length ≤ ts.length := h ▸ h₁
    let (item, ⟨ts₂, h₂⟩) ← value ts₁
    have h₃ := length_skipGap_le ts₂
    match h : skipGap ts₂ with
    | .comma :: ts₃ =>
      have : ts₃.length < ts.length := by simp only [h, List.length_cons] at h₃; omega
      let (items, ⟨left, h₄⟩) ← elements ts₃
      return (item :: items, ⟨left, by omega⟩)
    | .rightBracket :: left =>
      return ([item], ⟨left, by simp only [h, List.length_cons] at h₃; omega⟩)
    | _ => none
termination_by 2 * ts.length + 1

/-- Reads the members of an inline table behind `entries`, and the closing brace. -/
def members (entries : Entries) (ts : List Token) : Option (Entries × Rest ts) := do
  let (path, ⟨ts₁, h₁⟩) ← keyEquals ts
  let (item, ⟨ts₂, h₂⟩) ← value ts₁
  let entries ← entries.insert item path
  have h₃ := length_skipBlank_le ts₂
  match h : skipBlank ts₂ with
  | .rightBrace :: left =>
    return (entries, ⟨left, by simp only [h, List.length_cons] at h₃; omega⟩)
  | .comma :: ts₃ =>
    have h₄ := length_skipBlank_le ts₃
    have : (skipBlank ts₃).length < ts.length := by
      simp only [h, List.length_cons] at h₃; omega
    let (entries, ⟨left, h₅⟩) ← members entries (skipBlank ts₃)
    return (entries, ⟨left, by omega⟩)
  | _ => none
termination_by 2 * ts.length + 1
end

end IfaceGen.Toml
