import IfaceGen.Text.Ranges

/-!
# Blank characters

The characters with the Unicode property `White_Space`.
-/

namespace IfaceGen.Text

/-- The ranges of the class. -/
def blankRanges : Ranges :=
  [(0x9, 0xd), (0x20, 0x20), (0x85, 0x85), (0xa0, 0xa0), (0x1680, 0x1680), (0x2000, 0x200a),
   (0x2028, 0x2029), (0x202f, 0x202f), (0x205f, 0x205f), (0x3000, 0x3000)]

/-- Whether `c` is white space. -/
def isBlank (c : Char) : Bool :=
  blankRanges.contains c

end IfaceGen.Text
