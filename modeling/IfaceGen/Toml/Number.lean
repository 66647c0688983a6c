import IfaceGen.Data.Basic
import IfaceGen.Text.DoubleRange
import IfaceGen.Toml.Token

/-!
# TOML numbers, dates and times

A number is spread over several tokens: the decimal point, a plus sign and the colons of a time are
tokens of their own. Numbers are checked and then forgotten, since no setting is a number; dates
are only delimited, and stand for a record without fields.
-/

namespace IfaceGen.Toml

open Text (Tail hexDigit?)

/-- The value of a digit in the given radix. -/
def digitValue? (radix : Nat) (c : Char) : Option Nat :=
  (hexDigit? c).filter (· < radix)

/-- Whether the text ends in a digit and every underscore stands between digits. `afterDigit` says
    whether a digit stands before the text. -/
def separated (afterDigit : Bool) : List Char → Bool
  | [] => afterDigit
  | c :: rest => if c = '_' then afterDigit && separated false rest else separated true rest

/-- A run of digits, without its underscores, and what follows it in the same token. -/
structure DigitRun where
  digits : List Char
  suffix : List Char

/-- Reads a run of at least one digit. A leading zero needs `zeros`, unless it stands alone. -/
def digitRun? (radix : Nat) (zeros : Bool) (s : List Char) : Option DigitRun :=
  let run := s.takeWhile fun c => c = '_' || (digitValue? radix c).isSome
  let digits := run.filter (· ≠ '_')
  if separated false run && (zeros || digits.head? ≠ some '0' || digits.length = 1) then
    some ⟨digits, s.drop run.length⟩
  else none

/-- Splits off a minus sign. -/
def splitSign : List Char → Bool × List Char
  | '-' :: rest => (true, rest)
  | s => (false, s)

/-- The integer that the whole of `s` spells, if it fits into 64 bits with a sign. Only decimal
    integers have a sign, and only they may not start with a zero. -/
def integer? (radix : Nat) (s : List Char) : Option Data := do
  let (negative, body) := if radix = 10 then splitSign s else (false, s)
  let run ← digitRun? radix (radix ≠ 10) body
  let value := run.digits.foldl (fun n c => radix * n + (digitValue? radix c).getD 0) 0
  if !run.suffix.isEmpty then none
  else if negative then
    if value ≤ Nat.pow 2 63 then some .number else none
  else
    if value < Nat.pow 2 63 then some (.nat value) else none

/-- The exponent that the whole of `s` spells. -/
def exponent? (negative : Bool) (s : List Char) : Option Int := do
  let run ← digitRun? 10 true s
  let size := Text.natOfDigits run.digits
  if !run.suffix.isEmpty then none
  else if negative then some (-(size : Int))
  else some size

/-- Reads the exponent of a number behind its digits; `suffix` is what follows them in their token.
    An exponent with a plus sign goes on in the tokens behind. -/
def exponent (suffix : List Char) (ts : List Token) : Option (Int × Tail ts) :=
  match suffix, ts with
  | [], ts => some (0, .all ts)
  | c :: after, ts =>
    if c ≠ 'e' && c ≠ 'E' then none
    else if !after.isEmpty then
      let (negative, body) := splitSign after
      (exponent? negative body).map (·, Tail.all ts)
    else match ts with
      | .plus :: .bare digits :: rest =>
        (exponent? false digits).map (·, ⟨rest, by simp only [List.length_cons]; omega⟩)
      | .bare digits :: rest =>
        (exponent? false digits).map (·, (Text.Rest.behind _ rest).toTail)
      | _ => none

/-- Checks that a number is within the range of a double. -/
def decimal? (whole fraction : List Char) (exponent : Int) : Option Data :=
  if Text.fitsDouble (Text.natOfDigits (whole ++ fraction)) (exponent - fraction.length) then
    some .number
  else none

/-- Reads a number without a decimal point. -/
def scaled (s : List Char) (ts : List Token) : Option (Data × Tail ts) := do
  let whole ← digitRun? 10 false (splitSign s).2
  let (exponent, rest) ← exponent whole.suffix ts
  return (← decimal? whole.digits [] exponent, rest)

/-- Reads a number with a decimal point between `s` and `after`. -/
def fractional (s after : List Char) (ts : List Token) : Option (Data × Tail ts) := do
  let whole ← digitRun? 10 false (splitSign s).2
  if !whole.suffix.isEmpty then none
  let fraction ← digitRun? 10 true after
  let (exponent, rest) ← exponent fraction.suffix ts
  return (← decimal? whole.digits fraction.digits exponent, rest)

/-- Reads a number whose first token is `s`. -/
def number (s : List Char) (ts : List Token) : Option (Data × Tail ts) :=
  match s with
  | '0' :: 'x' :: digits => (integer? 16 digits).map (·, Tail.all ts)
  | '0' :: 'o' :: digits => (integer? 8 digits).map (·, Tail.all ts)
  | '0' :: 'b' :: digits => (integer? 2 digits).map (·, Tail.all ts)
  | s =>
    if s.contains 'e' || s.contains 'E' then scaled s ts
    else match ts with
      | .period :: .bare after :: rest => do
        let (value, left) ← fractional s after rest
        return (value, ((left.after _).after _).toTail)
      | .period :: _ => none
      | ts =>
        if String.ofList (splitSign s).2 ∈ ["inf", "nan"] then
          some (.number, .all ts)
        else (integer? 10 s).map (·, Tail.all ts)

/-- Skips the fraction of a second. -/
def skipFraction (ts : List Token) : Option (Tail ts) :=
  match ts with
  | .period :: .bare _ :: rest => some ⟨rest, by simp only [List.length_cons]; omega⟩
  | .period :: _ => none
  | ts => some (.all ts)

/-- Skips the sign and the hours of an offset to the east. The hours of an offset to the west belong
    to the token of the seconds, as a hyphen is a character of bare tokens. -/
def skipEasternHours (ts : List Token) : Option (Tail ts) :=
  match ts with
  | .plus :: .bare _ :: rest => some ⟨rest, by simp only [List.length_cons]; omega⟩
  | .plus :: _ => none
  | ts => some (.all ts)

/-- Skips the minutes of an offset. -/
def skipOffsetMinutes (ts : List Token) : Option (Tail ts) :=
  match ts with
  | .colon :: .bare _ :: rest => some ⟨rest, by simp only [List.length_cons]; omega⟩
  | .colon :: _ => none
  | ts => some (.all ts)

/-- Skips a time behind the colon that follows the hour. -/
def skipClock (ts : List Token) : Option (Tail ts) :=
  match ts with
  | .bare _ :: .colon :: .bare _ :: rest => do
    let behindFraction ← skipFraction rest
    let behindHours ← skipEasternHours behindFraction.val
    let left ← skipOffsetMinutes behindHours.val
    let behindSeconds := (behindFraction.followed behindHours).followed left
    return (((behindSeconds.after _).after _).after _).toTail
  | _ => none

/-- Skips a date or time behind its first token. A single blank may stand between a date and a time;
    `colonRead` says that the first token was an hour and its colon is gone. -/
def skipDate (colonRead : Bool) (ts : List Token) : Option (Tail ts) := do
  let ⟨ts₁, h₁⟩ : Tail ts := match ts with
    | .blank true :: .bare _ :: rest => ⟨rest, by simp only [List.length_cons]; omega⟩
    | ts => .all ts
  if colonRead then
    let ⟨ts₂, h₂⟩ ← skipClock ts₁
    return ⟨ts₂, by omega⟩
  else match ts₁, h₁ with
    | .colon :: rest, h₁ => do
      let ⟨ts₂, h₂⟩ ← skipClock rest
      return ⟨ts₂, by simp only [List.length_cons] at h₁; omega⟩
    | ts₁, h₁ => return ⟨ts₁, h₁⟩

/-- Whether a token holds an exponent with a minus sign. -/
def hasNegativeExponent : List Char → Bool
  | 'e' :: '-' :: _ | 'E' :: '-' :: _ => true
  | _ :: rest => hasNegativeExponent rest
  | [] => false

/-- Whether a token has the look of a date: a letter `T`, or a hyphen that is neither its sign nor
    that of its exponent. -/
def looksLikeDate (s : List Char) : Bool :=
  s.contains 'T' || s.contains 't' ||
    ((s.drop 1).contains '-' && !hasNegativeExponent s)

/-- Reads a number, date or time whose first token is `s`. -/
def numberOrDate (s : List Char) (ts : List Token) : Option (Data × Tail ts) :=
  if looksLikeDate s then
    (skipDate false ts).map (.record [], ·)
  else match ts with
    | .colon :: rest => do
      let left ← skipDate true rest
      return (.record [], (left.after _).toTail)
    | ts => number s ts

end IfaceGen.Toml
