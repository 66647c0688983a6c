import IfaceGen.Toml.Value

/-!
# TOML documents

A document is a list of lines: headers that open tables, and keys with values. Headers are paths
from the root; `nest` gathers the tables under one another.

`parse` gives the value of a document. Keys that are set twice keep both values, as in every record
of `Data`, except where two headers open the same table, which fails.
-/

namespace IfaceGen.Toml

open Text (Rest Tail)

/-- A line of a document. -/
inductive Line where
  /-- Opens the table at `path`, or adds one to the list of tables at `path`. -/
  | header (path : List String) (repeated : Bool)
  | entry (path : List String) (value : Data)

/-- Reads the end of a line. -/
def lineEnd (ts : List Token) : Option (Tail ts) :=
  have h₁ := length_skipBlank_le ts
  match h : skipBlank ts with
  | [] => some ⟨[], Nat.zero_le _⟩
  | .newline :: left | .comment :: left =>
    some ⟨left, by simp only [h, List.length_cons] at h₁; omega⟩
  | _ => none

/-- Reads a closing bracket. -/
def closingBracket (ts : List Token) : Option (Tail ts) :=
  match ts with
  | .rightBracket :: rest => some (Rest.behind _ rest).toTail
  | _ => none

/-- Reads a header behind its opening brackets. -/
def headerLine (repeated : Bool) (ts : List Token) : Option (Line × Rest ts) := do
  let start : Tail ts := ⟨skipBlank ts, length_skipBlank_le ts⟩
  let (path, behindKey) ← key start.val
  let bracket ← closingBracket behindKey.val
  let brackets ← if repeated then closingBracket bracket.val else some (.all bracket.val)
  let left ← lineEnd brackets.val
  let behindLine := ((behindKey.trans bracket).trans brackets).trans left
  return (.header path repeated, start.trans behindLine)

/-- Reads a line that is neither blank nor a comment. -/
def line (ts : List Token) : Option (Line × Rest ts) :=
  match ts with
  | .leftBracket :: .leftBracket :: rest => do
    let (header, left) ← headerLine true rest
    return (header, (left.after _).after _)
  | .leftBracket :: rest => do
    let (header, left) ← headerLine false rest
    return (header, left.after _)
  | ts => do
    let (path, ⟨ts₁, h₁⟩) ← keyEquals ts
    let (data, ⟨ts₂, h₂⟩) ← value ts₁
    let ⟨left, h₃⟩ ← lineEnd ts₂
    return (.entry path data, ⟨left, by omega⟩)

/-- Reads the lines of a document. -/
def lines (ts : List Token) : Option (List Line) :=
  have h₁ := length_skipGap_le ts
  match h : skipGap ts with
  | [] => some []
  | t :: ts₁ => do
    let (first, ⟨left, h₂⟩) ← line (t :: ts₁)
    have : left.length < ts.length := by rw [h] at h₁; omega
    let others ← lines left
    return first :: others
termination_by ts.length

/-- A table: its path, relative to where it is looked at from, and its own fields. -/
structure Table where
  path : List String
  /-- Whether the table is one of a list of tables. -/
  repeated : Bool
  fields : List (String × Data)

/-- The fields that stand in front of the next header, behind `entries`, and the tables from that
    header on. -/
def gather (entries : Entries) : List Line → Option (List (String × Data) × List Table)
  | [] => some (fieldsOf entries, [])
  | .entry path value :: rest => do gather (← entries.insert value path) rest
  | .header path repeated :: rest => do
    let (fields, tables) ← gather [] rest
    return (fieldsOf entries, ⟨path, repeated, fields⟩ :: tables)

/-- How much there is to nest: the tables and the parts of their paths. -/
def weight : List Table → Nat
  | [] => 0
  | table :: tables => table.path.length + 1 + weight tables

/-- The tables under `key`, as they look from there. -/
def under (key : String) : List Table → List Table
  | [] => []
  | table :: tables =>
    match table.path with
    | first :: path =>
      if first = key then { table with path := path } :: under key tables else under key tables
    | [] => under key tables

/-- The tables that are not under `key`. -/
def beside (key : String) (tables : List Table) : List Table :=
  tables.filter fun table => table.path.head? ≠ some key

/-- Whether a table starts the next element of the list it is looked at from. -/
def Table.startsElement (table : Table) : Bool :=
  table.repeated && table.path.isEmpty

theorem weight_under_le (key : String) (tables : List Table) :
    weight (under key tables) ≤ weight tables := by
  induction tables with
  | nil => exact Nat.le_refl _
  | cons table tables ih =>
    rw [under]
    split
    · rename_i h
      split <;> simp only [weight, h, List.length_cons] <;> omega
    · simp only [weight]; omega

theorem weight_le_of_sublist {xs ys : List Table} (h : xs.Sublist ys) : weight xs ≤ weight ys := by
  induction h with
  | slnil => exact Nat.le_refl _
  | cons _ _ ih => simp only [weight]; omega
  | cons_cons _ _ ih => simp only [weight]; omega

theorem weight_beside_le (key : String) (tables : List Table) :
    weight (beside key tables) ≤ weight tables :=
  weight_le_of_sublist List.filter_sublist

mutual
/-- The fields of the table at whose place all `tables` are looked at from. `opened` says that a
    header for it has been seen: there may be only one, and it may not be that of a list. -/
def nest (opened : Bool) (tables : List Table) : Option (List (String × Data)) :=
  match tables with
  | [] => some []
  | ⟨[], repeated, fields⟩ :: rest =>
    if opened || repeated then none
    else do
      have : weight rest < weight (⟨[], repeated, fields⟩ :: rest) := by
        simp only [weight]; omega
      return fields ++ (← nest true rest)
  | ⟨key :: path, repeated, fields⟩ :: rest => do
    have := weight_under_le key rest
    have := weight_beside_le key rest
    let value ← if repeated && path.isEmpty then
        (nestList fields (under key rest)).map Data.list
      else (nest false (⟨path, repeated, fields⟩ :: under key rest)).map Data.record
    let others ← nest opened (beside key rest)
    return (key, value) :: others
termination_by 2 * weight tables
decreasing_by all_goals simp only [weight, List.length_cons, List.length_nil] at *; omega

/-- The elements of a list of tables, the first of which has the fields `fields`. -/
def nestList (fields : List (String × Data)) (tables : List Table) : Option (List Data) := do
  have h₁ := weight_le_of_sublist (List.takeWhile_sublist (fun table => !table.startsElement)
    (l := tables))
  have h₂ := weight_le_of_sublist (List.dropWhile_sublist (fun table => !table.startsElement)
    (l := tables))
  let inner ← nest true (tables.takeWhile fun table => !table.startsElement)
  match h : tables.dropWhile (fun table => !table.startsElement) with
  | [] => return [.record (fields ++ inner)]
  | next :: later =>
    have : weight later < weight tables := by
      rw [h] at h₂; simp only [weight] at h₂; omega
    let others ← nestList next.fields later
    return .record (fields ++ inner) :: others
termination_by 2 * weight tables + 1
end

/-- The value of a TOML document. -/
def parse (text : String) : Option Data := do
  let (fields, tables) ← gather [] (← lines (← tokenize text))
  let nested ← nest false tables
  return .record (fields ++ nested)

end IfaceGen.Toml
