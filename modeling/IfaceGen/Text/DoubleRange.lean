/-!
# Decimal numbers within the range of a double

Numbers are never computed with, but a document may hold only numbers that a double can
approximate by a finite value. There are two ways to approximate: `fitsDouble` rounds the number
once, `scalesToDouble` rounds the digits and the power of ten and multiplies what comes out. The
two differ for a few numbers that are next to the largest double.
-/

namespace IfaceGen.Text

/-- The least number that rounds to infinity as a double: the largest finite double is
    `2 ^ 1024 - 2 ^ 971`, and half a step above it the rounding goes up. -/
def doubleBound : Nat := Nat.pow 2 1024 - Nat.pow 2 970

/-- Whether `mantissa * 10 ^ exponent` rounds to a finite double. Only numbers with exactly 309
    digits before the decimal point have to be compared with the bound. -/
def fitsDouble (mantissa : Nat) (exponent : Int) : Bool :=
  let magnitude := (Nat.toDigits 10 mantissa).length + exponent
  if mantissa = 0 || magnitude < 309 then true
  else if magnitude > 309 then false
  else mantissa * Nat.pow 10 exponent.toNat < doubleBound * Nat.pow 10 (-exponent).toNat

/-- The double next to a number below `doubleBound`: 53 binary digits are kept, and a number half
    way between two doubles goes to the one whose last digit is even. -/
def nearestDouble (n : Nat) : Nat :=
  let step := Nat.pow 2 (n.log2 + 1 - 53)
  let lower := n / step
  let past := 2 * (n % step)
  if past > step || (past = step && lower % 2 = 1) then (lower + 1) * step else lower * step

/-- Whether the product of the doubles next to `significand` and `10 ^ exponent` rounds to a finite
    double. No double is next to a power of ten beyond the 308th. -/
def scalesToDouble (significand : Nat) (exponent : Int) : Bool :=
  significand = 0 || exponent < 0 ||
    (exponent ≤ 308 &&
      nearestDouble significand * nearestDouble (Nat.pow 10 exponent.toNat) < doubleBound)

/-- The number that a list of decimal digits spells. -/
def natOfDigits (digits : List Char) : Nat :=
  digits.foldl (fun n c => 10 * n + (c.toNat - '0'.toNat)) 0

/-- A number with few digits is a double itself. -/
theorem nearestDouble_of_lt {n : Nat} (h : n.log2 < 53) : nearestDouble n = n := by
  have hstep : n.log2 + 1 - 53 = 0 := by omega
  simp only [nearestDouble, hstep]
  simp [Nat.mod_one]

end IfaceGen.Text
