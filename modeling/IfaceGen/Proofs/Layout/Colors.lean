import IfaceGen.Layout.Signal
import IfaceGen.Proofs.List

/-!
# Colours and the text under them

A layout engine tells a renderer what to write and where a colour starts and ends. The plain
renderer only writes; the other one keeps the colours that are open on a stack and asks for a colour
whenever it changes. A stream without colours ignores this and shows the plain text
(`render_false`), a terminal gets a sequence of characters. `stripAnsi` removes such sequences.

Whatever the signals are, and whichever colours are open when they start, the coloured text without
its sequences is the plain text (`dropAnsi_renderColored`). All that this takes is that no escape
character is written: a sequence then starts only where a colour changes.
-/

namespace IfaceGen

/-! ## Two renderers -/

/-- The text that is written, without what `push` and `pop` ask for. -/
def renderPlain : List Signal → String
  | [] => ""
  | .write text :: signals => text ++ renderPlain signals
  | .push _ :: signals | .pop :: signals => renderPlain signals

/-- The text in colours, where the colours of `stack` are open: what a stream shows that is asked
    for colours and has them. -/
abbrev renderColored (stack : List Hue) (signals : List Signal) : String :=
  render true stack signals

theorem renderColored_nil (stack : List Hue) : renderColored stack [] = "" := rfl

theorem renderColored_write (stack : List Hue) (text : String) (signals : List Signal) :
    renderColored stack (.write text :: signals) = text ++ renderColored stack signals := rfl

theorem renderColored_push (stack : List Hue) (hue : Hue) (signals : List Signal) :
    renderColored stack (.push hue :: signals) =
      hue.sequence ++ renderColored (hue :: stack) signals := rfl

theorem renderColored_pop (stack : List Hue) (signals : List Signal) :
    renderColored stack (.pop :: signals) =
      innermost stack.tail ++ renderColored stack.tail signals := rfl

/-- A stream without colours shows what `renderPlain` does, whichever colours it is asked for. -/
theorem render_false (stack : List Hue) (signals : List Signal) :
    render false stack signals = renderPlain signals := by
  induction signals generalizing stack with
  | nil => rfl
  | cons signal signals ih =>
    cases signal with
    | write text => rw [render, renderPlain, ih]
    | push hue => exact String.empty_append.trans (ih _)
    | pop => exact String.empty_append.trans (ih _)

/-! ## Sequences -/

/-- What stands behind the sequence that a text starts with: an escape character, a bracket, digits
    and the letter `m`. -/
def afterAnsi? : List Char → Option (List Char)
  | '\x1b' :: '[' :: rest =>
    match rest.takeWhile Char.isDigit, rest.dropWhile Char.isDigit with
    | _ :: _, 'm' :: left => some left
    | _, _ => none
  | _ => none

theorem length_lt_of_afterAnsi? {text left : List Char} (h : afterAnsi? text = some left) :
    left.length < text.length := by
  unfold afterAnsi? at h
  split at h
  · rename_i rest
    have hle := (List.dropWhile_sublist Char.isDigit (l := rest)).length_le
    split at h
    · rename_i hdrop
      cases h
      rw [hdrop] at hle
      simp only [List.length_cons] at hle ⊢
      omega
    · exact nomatch h
  · exact nomatch h

/-- The characters that do not belong to an escape sequence, which `afterAnsi?` recognises. -/
def dropAnsi : List Char → List Char
  | [] => []
  | c :: text =>
    match _h : afterAnsi? (c :: text) with
    | some left => dropAnsi left
    | none => c :: dropAnsi text
termination_by text => text.length
decreasing_by
  · exact length_lt_of_afterAnsi? _h
  · exact Nat.lt_succ_self _

/-- The text without its escape sequences. -/
def stripAnsi (text : String) : String :=
  String.ofList (dropAnsi text.toList)

/-- A text without an escape character, in which no sequence can start. -/
def Unescaped (text : String) : Prop := '\x1b' ∉ text.toList

instance (text : String) : Decidable (Unescaped text) :=
  inferInstanceAs (Decidable ('\x1b' ∉ text.toList))

@[simp] theorem dropAnsi_nil : dropAnsi [] = [] := by
  rw [dropAnsi]

theorem dropAnsi_of_some {text left : List Char} (h : afterAnsi? text = some left) :
    dropAnsi text = dropAnsi left := by
  cases text with
  | nil => exact nomatch h
  | cons c text =>
    rw [dropAnsi]
    split
    · rename_i hleft
      cases h.symm.trans hleft
      rfl
    · rename_i hnone
      exact nomatch h.symm.trans hnone

theorem dropAnsi_of_none {c : Char} {text : List Char} (h : afterAnsi? (c :: text) = none) :
    dropAnsi (c :: text) = c :: dropAnsi text := by
  rw [dropAnsi]
  split
  · rename_i hleft
    exact nomatch h.symm.trans hleft
  · rfl

/-- `afterAnsi?` finds no sequence that does not start with an escape character. -/
theorem afterAnsi?_eq_none {c : Char} (hc : c ≠ '\x1b') (text : List Char) :
    afterAnsi? (c :: text) = none := by
  unfold afterAnsi?
  split
  · rename_i hchars
    exact absurd (List.cons.inj hchars).1 hc
  · rfl

/-- `dropAnsi` drops nothing from an `Unescaped` text. -/
theorem dropAnsi_append {text : String} (htext : Unescaped text) (rest : List Char) :
    dropAnsi (text.toList ++ rest) = text.toList ++ dropAnsi rest := by
  unfold Unescaped at htext
  generalize text.toList = text at htext ⊢
  induction text with
  | nil => rfl
  | cons c text ih =>
    rw [List.mem_cons, not_or] at htext
    have hnone := afterAnsi?_eq_none (Ne.symm htext.1) (text ++ rest)
    rw [List.cons_append, dropAnsi_of_none hnone, ih htext.2, List.cons_append]

/-- `dropAnsi` drops a sequence made by `Piece.ansi`. -/
theorem dropAnsi_ansi {parameter : String} (hne : parameter ≠ "")
    (hdigits : parameter.toList.all Char.isDigit = true) (rest : List Char) :
    dropAnsi ((Piece.ansi parameter).toList ++ rest) = dropAnsi rest := by
  have hchars : (Piece.ansi parameter).toList ++ rest =
      '\x1b' :: '[' :: (parameter.toList ++ 'm' :: rest) := by
    simp [Piece.ansi]
  -- The letter `m` is no digit: whatever follows, the run of digits is the parameter.
  have htake : (parameter.toList ++ 'm' :: rest).takeWhile Char.isDigit = parameter.toList := by
    rw [List.takeWhile_append_of_pos (List.all_eq_true.1 hdigits)]
    simp
  have hdrop : (parameter.toList ++ 'm' :: rest).dropWhile Char.isDigit = 'm' :: rest := by
    rw [List.dropWhile_append_of_pos (List.all_eq_true.1 hdigits)]
    simp
  refine dropAnsi_of_some ?_
  rw [hchars, afterAnsi?, htake, hdrop]
  cases hparameter : parameter.toList with
  | nil => exact absurd (String.toList_eq_nil_iff.1 hparameter) hne
  | cons first more => rfl

theorem dropAnsi_reset (rest : List Char) :
    dropAnsi ((Piece.ansi "0").toList ++ rest) = dropAnsi rest :=
  dropAnsi_ansi (by decide) (by decide) rest

theorem dropAnsi_sequence (hue : Hue) (rest : List Char) :
    dropAnsi (hue.sequence.toList ++ rest) = dropAnsi rest := by
  rw [Hue.sequence, String.toList_append, List.append_assoc, dropAnsi_reset]
  cases hue <;> exact dropAnsi_ansi (by decide) (by decide) rest

theorem dropAnsi_innermost (stack : List Hue) (rest : List Char) :
    dropAnsi ((innermost stack).toList ++ rest) = dropAnsi rest := by
  cases stack with
  | nil => exact dropAnsi_reset rest
  | cons hue stack => exact dropAnsi_sequence hue rest

/-- Colours do not change the text, whichever are open: without its sequences it is that of
    `renderPlain`. -/
theorem dropAnsi_renderColored (stack : List Hue) {signals : List Signal}
    (hwrites : ∀ text, .write text ∈ signals → Unescaped text) :
    dropAnsi (renderColored stack signals).toList = (renderPlain signals).toList := by
  -- A colour that starts or ends changes the stack, hence all stacks at once.
  -- What is written is kept, and what a colour adds is a sequence, at each signal.
  induction signals generalizing stack with
  | nil => rw [renderColored_nil, renderPlain, String.toList_empty, dropAnsi_nil]
  | cons signal signals ih =>
    have ih (stack : List Hue) := ih stack fun text htext =>
      hwrites text (List.mem_cons_of_mem _ htext)
    cases signal with
    | write text =>
      rw [renderColored_write, renderPlain, String.toList_append, String.toList_append,
        dropAnsi_append (hwrites text List.mem_cons_self), ih]
    | push hue => rw [renderColored_push, renderPlain, String.toList_append, dropAnsi_sequence, ih]
    | pop => rw [renderColored_pop, renderPlain, String.toList_append, dropAnsi_innermost, ih]

theorem stripAnsi_renderColored (stack : List Hue) {signals : List Signal}
    (hwrites : ∀ text, .write text ∈ signals → Unescaped text) :
    stripAnsi (renderColored stack signals) = renderPlain signals := by
  rw [stripAnsi, dropAnsi_renderColored stack hwrites, String.ofList_toList]

end IfaceGen
