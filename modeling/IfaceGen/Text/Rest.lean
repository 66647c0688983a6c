/-!
# What a reader leaves over

A reader that consumes something returns the rest of its input together with the fact that the rest
is shorter. Recursion on the length of the input then needs no other argument.
-/

namespace IfaceGen.Text

/-- A list that is shorter than `s`. -/
abbrev Rest {α : Type} (s : List α) := { r : List α // r.length < s.length }

/-- A list that is no longer than `s`: what is left behind something that may be missing. -/
abbrev Tail {α : Type} (s : List α) := { r : List α // r.length ≤ s.length }

/-- What stands behind the first item. -/
def Rest.behind {α : Type} (a : α) (s : List α) : Rest (a :: s) :=
  ⟨s, Nat.lt_succ_self _⟩

/-- What is left over if one more item stands in front. -/
def Rest.after {α : Type} {s : List α} (left : Rest s) (a : α) : Rest (a :: s) :=
  ⟨left.val, Nat.lt_succ_of_lt left.property⟩

/-- Everything, behind nothing. -/
def Tail.all {α : Type} (s : List α) : Tail s :=
  ⟨s, Nat.le_refl _⟩

/-- What is left over if one more item stands in front. -/
def Tail.after {α : Type} {s : List α} (left : Tail s) (a : α) : Rest (a :: s) :=
  ⟨left.val, Nat.lt_succ_of_le left.property⟩

/-- What is left over behind the first `n` items. -/
def Tail.drop {α : Type} (n : Nat) (s : List α) : Tail s :=
  ⟨s.drop n, List.length_drop ▸ Nat.sub_le _ _⟩

/-- What is left over behind the first item of a tail. -/
def Tail.behindHead {α : Type} {s rest : List α} {a : α} (left : Tail s)
    (h : left.val = a :: rest) : Rest s :=
  ⟨rest, Nat.lt_of_lt_of_le (h ▸ Nat.lt_succ_self rest.length) left.property⟩

/-- What is left over of what is left over. -/
def Rest.trans {α : Type} {s : List α} (outer : Rest s) (inner : Tail outer.val) : Rest s :=
  ⟨inner.val, Nat.lt_of_le_of_lt inner.property outer.property⟩

/-- What is left over of a tail. -/
def Tail.trans {α : Type} {s : List α} (outer : Tail s) (inner : Rest outer.val) : Rest s :=
  ⟨inner.val, Nat.lt_of_lt_of_le inner.property outer.property⟩

/-- What is left over of a tail by a reader that need not consume anything. -/
def Tail.followed {α : Type} {s : List α} (outer : Tail s) (inner : Tail outer.val) : Tail s :=
  ⟨inner.val, Nat.le_trans inner.property outer.property⟩

/-- What is left over is no longer than the whole. -/
def Rest.toTail {α : Type} {s : List α} (left : Rest s) : Tail s :=
  ⟨left.val, Nat.le_of_lt left.property⟩

/-- Dropping a leading run leaves nothing longer over. -/
theorem length_dropWhile_le {α : Type} (p : α → Bool) (s : List α) :
    (s.dropWhile p).length ≤ s.length :=
  (List.dropWhile_sublist p).length_le

end IfaceGen.Text
