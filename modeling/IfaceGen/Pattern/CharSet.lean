/-!
# Sets of characters

Sets as they are written in patterns: ranges of code points, and what set operations make of them.
-/

namespace IfaceGen

/-- A set of characters. -/
inductive CharSet where
  | empty
  /-- The characters from one code point to another, both included. -/
  | range (first last : Nat)
  | union (a b : CharSet)
  | inter (a b : CharSet)
  /-- What is in the first set only. -/
  | diff (a b : CharSet)
  /-- What is in exactly one of the sets. -/
  | symmDiff (a b : CharSet)
  | compl (a : CharSet)
  /-- The characters of a set and the letters of ASCII that differ from one of them by case only. -/
  | anyCase (a : CharSet)
deriving DecidableEq, Repr

namespace CharSet

/-- Whether a character is in a set. -/
def contains : CharSet → Char → Bool
  | empty, _ => false
  | range first last, c => first ≤ c.toNat && c.toNat ≤ last
  | union a b, c => a.contains c || b.contains c
  | inter a b, c => a.contains c && b.contains c
  | diff a b, c => a.contains c && !b.contains c
  | symmDiff a b, c => a.contains c != b.contains c
  | compl a, c => !a.contains c
  | anyCase a, c => a.contains c || a.contains c.toLower || a.contains c.toUpper

/-- The set of one character. -/
def single (c : Char) : CharSet :=
  range c.toNat c.toNat

/-- The set of some characters. -/
def ofList (cs : List Char) : CharSet :=
  cs.foldr (fun c set => union (single c) set) empty

/-- The characters between two characters, both included. -/
def between (first last : Char) : CharSet :=
  range first.toNat last.toNat

theorem contains_single (c d : Char) : (single c).contains d = true ↔ d = c := by
  simp only [single, contains, Bool.and_eq_true, decide_eq_true_eq]
  constructor
  · intro h
    exact Char.toNat_inj.1 (Nat.le_antisymm h.2 h.1)
  · rintro rfl
    exact ⟨Nat.le_refl _, Nat.le_refl _⟩

theorem contains_ofList (cs : List Char) (d : Char) :
    (ofList cs).contains d = true ↔ d ∈ cs := by
  induction cs with
  | nil => simp [ofList, contains]
  | cons c cs ih =>
    rw [ofList, List.foldr_cons, ← ofList, contains, Bool.or_eq_true, ih, contains_single]
    simp

/-- The letters of ASCII in lower case. -/
def lower : CharSet := between 'a' 'z'

/-- The letters of ASCII in upper case. -/
def upper : CharSet := between 'A' 'Z'

/-- The decimal digits. -/
def digit : CharSet := between '0' '9'

/-- The letters of ASCII. -/
def alpha : CharSet := union lower upper

/-- The letters and digits of ASCII. -/
def alnum : CharSet := union alpha digit

/-- The characters of ASCII that have a shape. -/
def graph : CharSet := between '!' '~'

/-- The letters and digits of ASCII and the underscore. -/
def word : CharSet := union alnum (single '_')

/-- The white space of ASCII. -/
def space : CharSet := union (range 0x09 0x0d) (single ' ')

/-- The set of ASCII characters with the given name. -/
def named? (name : String) : Option CharSet :=
  match name with
  | "alnum" => some alnum
  | "alpha" => some alpha
  | "ascii" => some (range 0 0x7f)
  | "blank" => some (ofList ['\t', ' '])
  | "cntrl" => some (union (range 0 0x1f) (range 0x7f 0x7f))
  | "digit" => some digit
  | "graph" => some graph
  | "lower" => some lower
  | "print" => some (between ' ' '~')
  | "punct" => some (diff graph alnum)
  | "space" => some space
  | "upper" => some upper
  | "word" => some word
  | "xdigit" => some (union digit (union (between 'a' 'f') (between 'A' 'F')))
  | _ => none

end CharSet

end IfaceGen
