/-!
# Parts of a text

A text is taken apart at each occurrence of a character. There is one part more than there are
occurrences, and joined by that character the parts give the text back.
-/

namespace IfaceGen.Text

/-- The parts of a text between the occurrences of `separator`. -/
def split (separator : Char) : List Char → List (List Char)
  | [] => [[]]
  | c :: rest =>
    if c = separator then [] :: split separator rest
    else match split separator rest with
      | [] => [[c]]
      | first :: others => (c :: first) :: others

theorem split_ne_nil (separator : Char) (s : List Char) : split separator s ≠ [] := by
  induction s with
  | nil => simp [split]
  | cons c rest ih =>
    rw [split]
    split
    · simp
    · split <;> simp

/-- The parts with the separator between them are the text. -/
theorem intercalate_split (separator : Char) (s : List Char) :
    [separator].intercalate (split separator s) = s := by
  induction s with
  | nil => simp [split]
  | cons c rest ih =>
    rw [split]
    split
    · rename_i h
      cases hs : split separator rest with
      | nil => exact absurd hs (split_ne_nil _ _)
      | cons first others =>
        rw [hs] at ih
        simp [List.intercalate_cons_cons, ih, h]
    · split
      · rename_i hs
        exact absurd hs (split_ne_nil _ _)
      · rename_i first others hs
        rw [hs] at ih
        cases others with
        | nil => simpa using ih
        | cons second others => simpa [List.intercalate_cons_cons] using ih

end IfaceGen.Text
