/-!
# Character classes given by ranges

A character class is a list of closed ranges of code points. The tables of the neighbouring
modules (`Alphabetic`, `Uppercase`, `Numeral`, `Blank`, `Extender`, `Unprintable`) are values of
this type, and `Ranges.contains` is the only way they are read.
-/

namespace IfaceGen.Text

/-- Closed ranges of code points, in increasing order. -/
abbrev Ranges := List (Nat × Nat)

/-- Whether the code point of `c` lies in one of the ranges. -/
def Ranges.contains (table : Ranges) (c : Char) : Bool :=
  table.any fun range => range.1 ≤ c.toNat && c.toNat ≤ range.2

/-- Membership in a class, range by range. -/
theorem Ranges.contains_iff (table : Ranges) (c : Char) :
    table.contains c = true ↔ ∃ range ∈ table, range.1 ≤ c.toNat ∧ c.toNat ≤ range.2 := by
  simp [Ranges.contains]

end IfaceGen.Text
