import IfaceGen.Data.Basic
import IfaceGen.Text.DoubleRange

/-!
# JSON numbers

A number token becomes a natural number if it is spelled as one and fits into 64 bits, and otherwise
a double, provided there is one near it. For the double only the leading digits count, as many as
fit into 64 bits (`Significand`).
-/

namespace IfaceGen.Json

/-- A number token: its sign, its digits before and after the point, and its exponent. -/
structure NumberToken where
  negative : Bool
  whole : List Char
  fraction : Option (List Char)
  exponent : Option Int

/-- The leading digits of a number and the power of ten that scales them. -/
structure Significand where
  value : Nat
  scale : Int
deriving DecidableEq, Repr

namespace Significand

/-- The value with one more digit behind it, if it fits into 64 bits. -/
def extend? (value : Nat) (digit : Char) : Option Nat :=
  let longer := 10 * value + (digit.toNat - '0'.toNat)
  if longer < UInt64.size then some longer else none

/-- Reads on in the digits before the point. The first digit that does not fit and all behind it
    only count towards the scale. -/
def readWhole (value : Nat) : List Char → Significand
  | [] => ⟨value, 0⟩
  | digit :: digits =>
    match extend? value digit with
    | some longer => readWhole longer digits
    | none => ⟨value, digits.length + 1⟩

/-- Reads on in the digits behind the point, up to the first one that does not fit. -/
def readFraction (s : Significand) : List Char → Significand
  | [] => s
  | digit :: digits =>
    match extend? s.value digit with
    | some longer => readFraction ⟨longer, s.scale - 1⟩ digits
    | none => s

end Significand

/-- The digits of a number token that count. -/
def NumberToken.significand (token : NumberToken) : Significand :=
  (Significand.readWhole 0 token.whole).readFraction (token.fraction.getD [])

/-- The value a number token denotes. -/
def NumberToken.toData (token : NumberToken) : Data :=
  let s := token.significand
  if !Text.scalesToDouble s.value (s.scale + token.exponent.getD 0) then .unreadable
  else if token.negative || token.fraction.isSome || token.exponent.isSome || s.scale ≠ 0 then
    .number
  else .nat s.value

end IfaceGen.Json
