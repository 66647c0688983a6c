import IfaceGen.Proofs.Layout.Document
import IfaceGen.Proofs.Layout.Tokens

/-!
# Printing in colours

Whatever source text is printed, an expression or a whole file, the text in colours is the plain
text with sequences in it, and neither depends on the width that the layout engine is told. An
escape character could only come from a name or from the indentation: paths are quoted, and numbers
have digits only.

## Key results

- `unescaped_quote`: a quoted text has no escape character
- `Expr.escapeless_pieces`, `File.escapeless_pieces`: nor has a text whose names have none
- `Printable.drawAlike_pieces`: whatever the engine and the width, a renderer draws the pieces
- `Printable.colors_exact`: colours and widths do not change a text
-/

namespace IfaceGen

open Piece

/-! ## Texts without escape characters -/

/-- A property of the digits of a base holds of all characters in `Nat.toDigits`. -/
theorem forall_mem_toDigits {base : Nat} (hbase : 1 < base) {p : Char → Prop}
    (hdigit : ∀ d < base, p (Nat.digitChar d)) (n : Nat) : ∀ c ∈ Nat.toDigits base n, p c := by
  induction n using Nat.strong_induction_on with
  | _ n ih =>
    rw [Nat.toDigits_eq_if hbase]
    split
    · rename_i hlt
      exact List.forall_mem_singleton.2 (hdigit n hlt)
    · rename_i hle
      have hsmaller : n / base < n := Nat.div_lt_self (by omega) hbase
      exact List.forall_mem_append.2 ⟨ih _ hsmaller,
        List.forall_mem_singleton.2 (hdigit _ (Nat.mod_lt _ (by omega)))⟩

theorem unescaped_repr (n : Nat) : Unescaped (Nat.repr n) := by
  rw [Unescaped, Nat.toList_repr]
  intro hmem
  exact forall_mem_toDigits (p := (· ≠ '\x1b')) (by decide) (by decide) n _ hmem rfl

/-- `Text.quote` writes an escape character by its code point. -/
theorem unescaped_quote (text : String) : Unescaped (Text.quote text) := by
  rw [Unescaped, Text.quote, String.toList_ofList]
  have hchar : ∀ c, '\x1b' ∉ Text.escapeChar '"' c := by
    intro c
    unfold Text.escapeChar
    -- The characters with an escape of their own.
    split; · decide
    split; · decide
    split; · decide
    split; · decide
    split
    · rename_i hspecial
      simp only [Bool.or_eq_true, decide_eq_true_eq] at hspecial
      rcases hspecial with rfl | rfl <;> decide
    split
    · have hdigits : '\x1b' ∉ Nat.toDigits 16 c.toNat := fun hmem =>
        forall_mem_toDigits (p := (· ≠ '\x1b')) (by decide) (by decide) c.toNat _ hmem rfl
      simp [Text.codePointEscape, hdigits]
    · rename_i hshows
      -- What is left is written as it is, which an escape character never is.
      rw [List.mem_singleton]
      rintro rfl
      exact hshows (by decide +kernel)
  simp [List.mem_flatMap, hchar]

/-- No piece has an escape character: all texts are `Unescaped`. -/
def Escapeless (pieces : List Piece) : Prop :=
  ∀ piece ∈ pieces, Unescaped piece.text

@[simp] theorem escapeless_nil : Escapeless [] :=
  List.forall_mem_nil _

@[simp] theorem escapeless_cons {piece : Piece} {pieces : List Piece} :
    Escapeless (piece :: pieces) ↔ Unescaped piece.text ∧ Escapeless pieces :=
  List.forall_mem_cons

@[simp] theorem escapeless_append {front back : List Piece} :
    Escapeless (front ++ back) ↔ Escapeless front ∧ Escapeless back :=
  List.forall_mem_append

theorem escapeless_flatMap {α : Type} {step : α → List Piece} {items : List α}
    (h : ∀ item ∈ items, Escapeless (step item)) : Escapeless (items.flatMap step) := by
  intro piece hpiece
  obtain ⟨item, hitem, hpiece⟩ := List.mem_flatMap.1 hpiece
  exact h item hitem piece hpiece

theorem escapeless_separated {separator : Piece} (hseparator : Unescaped separator.text)
    {parts : List (List Piece)} (h : ∀ part ∈ parts, Escapeless part) :
    Escapeless (separated separator parts) := by
  cases parts with
  | nil => exact escapeless_nil
  | cons first others =>
    rw [List.forall_mem_cons] at h
    rw [separated_cons, escapeless_append]
    refine ⟨h.1, escapeless_flatMap fun part hpart => ?_⟩
    exact escapeless_cons.2 ⟨hseparator, h.2 part hpart⟩

/-- Lines that start with an indentation are `Escapeless` if the indentation is and what stands in
    them. -/
theorem escapeless_lines {α : Type} {indent : String} (hindent : Unescaped indent)
    {line : α → List Piece} {items : List α} (h : ∀ item ∈ items, Escapeless (line item)) :
    Escapeless (items.flatMap fun item => newline :: plain indent :: line item) := by
  refine escapeless_flatMap fun item hitem => ?_
  exact escapeless_cons.2 ⟨by decide, escapeless_cons.2 ⟨hindent, h item hitem⟩⟩

/-! ## Names -/

mutual
/-- The names in an expression, those of parameters included. -/
def Expr.words : Expr → List String
  | .ident name => [name]
  | .selector qualifier name => [qualifier, name]
  | .array _ elem | .chan _ elem | .star elem | .ellipsis elem | .tilde elem => elem.words
  | .map left right | .index left right | .or left right => left.words ++ right.words
  | .func t => t.words
  | .indexList base args => base.words ++ exprsWords args

/-- The names in parameters and results. -/
def FuncType.words : FuncType → List String
  | ⟨params, results⟩ => paramsWords params ++ paramsWords results

/-- The names in the expressions, one after the other. -/
def exprsWords : List Expr → List String
  | [] => []
  | expr :: exprs => expr.words ++ exprsWords exprs

/-- The names of the fields and those in their types. -/
def paramsWords : List Param → List String
  | [] => []
  | ⟨name, type⟩ :: params => name.toList ++ type.words ++ paramsWords params
end

theorem escapeless_namePieces {named : Bool} {name : Option String}
    (hname : ∀ word ∈ name.toList, Unescaped word) : Escapeless (namePieces named name) := by
  cases name with
  | none => cases named <;> simp +decide [namePieces]
  | some name => simpa +decide [namePieces] using hname

mutual
theorem Expr.escapeless_pieces : (expr : Expr) → (∀ name ∈ expr.words, Unescaped name) →
    Escapeless expr.pieces
  | .ident name, h => by
    simpa [Expr.pieces] using h name List.mem_cons_self
  | .selector qualifier name, h => by
    rw [Expr.words, List.forall_mem_cons, List.forall_mem_singleton] at h
    simp +decide [Expr.pieces, h]
  | .array len elem, h => by
    cases len <;> simp +decide [Expr.pieces, elem.escapeless_pieces h, unescaped_repr]
  | .map left right, h => by
    rw [Expr.words, List.forall_mem_append] at h
    simp +decide [Expr.pieces, left.escapeless_pieces h.1, right.escapeless_pieces h.2]
  | .index left right, h => by
    rw [Expr.words, List.forall_mem_append] at h
    simp +decide [Expr.pieces, left.escapeless_pieces h.1, right.escapeless_pieces h.2]
  | .or left right, h => by
    rw [Expr.words, List.forall_mem_append] at h
    simp +decide [Expr.pieces, left.escapeless_pieces h.1, right.escapeless_pieces h.2]
  -- The parentheses depend on the element, and where they stand on the direction.
  | .chan dir elem, h => by
    have helem := elem.escapeless_pieces h
    cases hrecv : elem.isRecvChan <;> cases dir <;>
      simp +decide [Expr.pieces, ChanDir.pieces, hrecv, helem]
  | .star elem, h => by simp +decide [Expr.pieces, elem.escapeless_pieces h]
  | .ellipsis elem, h => by simp +decide [Expr.pieces, elem.escapeless_pieces h]
  | .tilde elem, h => by simp +decide [Expr.pieces, elem.escapeless_pieces h]
  | .func type, h => by simp +decide [Expr.pieces, type.escapeless_pieces h]
  | .indexList base args, h => by
    rw [Expr.words, List.forall_mem_append] at h
    have hargs := escapeless_separated (by decide : Unescaped (plain ", ").text)
      (escapeless_exprsPieces args h.2)
    simp +decide [Expr.pieces, base.escapeless_pieces h.1, hargs]

theorem FuncType.escapeless_pieces : (type : FuncType) → (∀ name ∈ type.words, Unescaped name) →
    Escapeless type.pieces
  | ⟨params, results⟩, h => by
    rw [FuncType.words, List.forall_mem_append] at h
    have hparams := escapeless_separated (by decide : Unescaped (plain ", ").text)
      (escapeless_paramsPieces (anyNamed params) params h.1)
    have hresults := escapeless_separated (by decide : Unescaped (plain ", ").text)
      (escapeless_paramsPieces (anyNamed results) results h.2)
    simp only [FuncType.pieces]
    split <;> simp +decide [hparams, hresults]

theorem escapeless_exprsPieces : (exprs : List Expr) →
    (∀ name ∈ exprsWords exprs, Unescaped name) → ∀ part ∈ exprsPieces exprs, Escapeless part
  | [], _ => List.forall_mem_nil _
  | expr :: exprs, h => by
    rw [exprsWords, List.forall_mem_append] at h
    exact List.forall_mem_cons.2 ⟨expr.escapeless_pieces h.1, escapeless_exprsPieces exprs h.2⟩

theorem escapeless_paramsPieces (named : Bool) : (params : List Param) →
    (∀ name ∈ paramsWords params, Unescaped name) →
      ∀ part ∈ paramsPieces named params, Escapeless part
  | [], _ => List.forall_mem_nil _
  | ⟨name, type⟩ :: params, h => by
    rw [paramsWords, List.forall_mem_append, List.forall_mem_append] at h
    refine List.forall_mem_cons.2 ⟨?_, escapeless_paramsPieces named params h.2⟩
    exact escapeless_append.2 ⟨escapeless_namePieces h.1.1, type.escapeless_pieces h.1.2⟩
end

/-- The names in a declaration. -/
def InterfaceDecl.words (decl : InterfaceDecl) : List String :=
  decl.name :: paramsWords decl.typeParams ++
    decl.methods.flatMap fun method => method.name :: method.type.words

/-- The names in a file. -/
def File.words (file : File) : List String :=
  file.package :: file.imports.flatMap (·.name.toList) ++ file.decls.flatMap (·.words)

theorem escapeless_fieldListPieces {params : List Param}
    (h : ∀ name ∈ paramsWords params, Unescaped name) : Escapeless (fieldListPieces params) :=
  escapeless_separated (by decide) (escapeless_paramsPieces _ params h)

theorem Import.escapeless_pieces {spec : Import} (h : ∀ name ∈ spec.name.toList, Unescaped name) :
    Escapeless spec.pieces := by
  unfold Import.pieces
  cases hname : spec.name with
  | none => simp [unescaped_quote]
  | some name =>
    rw [hname] at h
    simp +decide [unescaped_quote, h name List.mem_cons_self]

theorem MethodSpec.escapeless_pieces {method : MethodSpec}
    (h : ∀ name ∈ method.name :: method.type.words, Unescaped name) : Escapeless method.pieces := by
  rw [List.forall_mem_cons] at h
  exact escapeless_cons.2 ⟨h.1, method.type.escapeless_pieces h.2⟩

section Style

variable {style : LayoutStyle} (hindent : Unescaped style.indent)
include hindent

theorem escapeless_importsPieces {specs : List Import}
    (h : ∀ spec ∈ specs, ∀ name ∈ spec.name.toList, Unescaped name) :
    Escapeless (importsPieces style specs) := by
  have hspecs (spec : Import) (hspec : spec ∈ specs) : Escapeless spec.pieces :=
    Import.escapeless_pieces (h spec hspec)
  unfold importsPieces
  split
  · simp +decide [hspecs]
  · have hlines := escapeless_lines hindent hspecs
    simp +decide [hlines]

theorem InterfaceDecl.escapeless_pieces {decl : InterfaceDecl}
    (h : ∀ name ∈ decl.words, Unescaped name) : Escapeless (decl.pieces style) := by
  rw [words, List.forall_mem_append, List.forall_mem_cons] at h
  obtain ⟨⟨hname, hparams⟩, hmethods⟩ := h
  have hlines := escapeless_lines hindent fun method hmethod =>
    MethodSpec.escapeless_pieces fun name hname =>
      hmethods name (List.mem_flatMap.2 ⟨method, hmethod, hname⟩)
  have hfields := escapeless_fieldListPieces hparams
  unfold InterfaceDecl.pieces
  cases decl.typeParams.isEmpty <;> cases decl.methods.isEmpty <;>
    simp +decide [hname, hfields, hlines]

theorem File.escapeless_pieces {file : File} (h : ∀ name ∈ file.words, Unescaped name) :
    Escapeless (file.pieces style) := by
  rw [words, List.forall_mem_append, List.forall_mem_cons] at h
  obtain ⟨⟨hpackage, himports⟩, hdecls⟩ := h
  have himports := escapeless_importsPieces hindent fun spec hspec name hname =>
    himports name (List.mem_flatMap.2 ⟨spec, hspec, hname⟩)
  have hdecls : Escapeless
      (file.decls.flatMap fun decl => newline :: newline :: decl.pieces style) := by
    refine escapeless_flatMap fun decl hdecl => ?_
    have hdecl := InterfaceDecl.escapeless_pieces hindent fun name hname =>
      hdecls name (List.mem_flatMap.2 ⟨decl, hdecl, hname⟩)
    simp +decide [hdecl]
  unfold File.pieces
  cases file.imports.isEmpty <;> simp +decide [hpackage, himports, hdecls]

end Style

/-! ## Both texts -/

/-- The piece between the escape sequences of its colour: a reset, the code of the colour, and a
    reset behind the text. -/
def Piece.colored (piece : Piece) : String :=
  match piece.hue with
  | none => piece.text
  | some hue => ansi "0" ++ ansi hue.code ++ piece.text ++ ansi "0"

/-- The text with ANSI colours. -/
def coloredText (pieces : List Piece) : String :=
  String.join (pieces.map (·.colored))

theorem renderPlain_signals (pieces : List Piece) :
    renderPlain (pieces.flatMap Piece.signals) = plainText pieces := by
  induction pieces with
  | nil => rfl
  | cons piece pieces ih =>
    obtain ⟨hue, text⟩ := piece
    rw [plainText, List.map_cons, String.join_cons, ← plainText, ← ih]
    cases hue <;> rfl

theorem renderColored_signals (pieces : List Piece) :
    renderColored [] (pieces.flatMap Piece.signals) = coloredText pieces := by
  induction pieces with
  | nil => rfl
  | cons piece pieces ih =>
    obtain ⟨hue, text⟩ := piece
    rw [coloredText, List.map_cons, String.join_cons, ← coloredText, ← ih]
    cases hue with
    | none => rfl
    -- No colour is open around a piece, so that the reset behind it leaves none.
    | some hue =>
      have hpiece (rest : List Signal) :
          renderColored [] ((Piece.mk (some hue) text).signals ++ rest) =
            hue.sequence ++ (text ++ (Piece.ansi "0" ++ renderColored [] rest)) := rfl
      rw [List.flatMap_cons, hpiece]
      simp only [Piece.colored, Hue.sequence, String.append_assoc]

/-- What `File.printed` shows without colours is the text that is written to disk. -/
theorem File.printed_false (file : File) (style : LayoutStyle) :
    file.printed style false = file.text style := by
  rw [printed, render_false, renderPlain_signals, text]

theorem unescaped_of_write_mem {pieces : List Piece} (h : Escapeless pieces) {text : String}
    (htext : .write text ∈ pieces.flatMap Piece.signals) : Unescaped text := by
  obtain ⟨⟨hue, spelling⟩, hpiece, htext⟩ := List.mem_flatMap.1 htext
  have hspelling : text = spelling := by
    cases hue <;> simpa [Piece.signals] using htext
  rw [hspelling]
  exact h _ hpiece

/-- What can be laid out as source text, from an expression to a file. -/
inductive Printable where
  | expr (expr : Expr)
  | func (type : FuncType)
  | fields (params : List Param)
  | imported (spec : Import)
  | method (method : MethodSpec)
  | decl (decl : InterfaceDecl)
  | file (file : File)

namespace Printable

/-- The document. -/
def doc (style : LayoutStyle) : Printable → Doc
  | .expr e => e.doc
  | .func t => t.doc
  | .fields params => fieldListDoc params
  | .imported spec => spec.doc
  | .method m => m.doc
  | .decl d => d.doc style
  | .file f => f.doc style

/-- The pieces. -/
def pieces (style : LayoutStyle) : Printable → List Piece
  | .expr e => e.pieces
  | .func t => t.pieces
  | .fields params => fieldListPieces params
  | .imported spec => spec.pieces
  | .method m => m.pieces
  | .decl d => d.pieces style
  | .file f => f.pieces style

/-- The names. -/
def words : Printable → List String
  | .expr e => e.words
  | .func t => t.words
  | .fields params => paramsWords params
  | .imported spec => spec.name.toList
  | .method m => m.name :: m.type.words
  | .decl d => d.words
  | .file f => f.words

theorem signals_doc (style : LayoutStyle) (source : Printable) :
    (source.doc style).signals = (source.pieces style).flatMap Piece.signals := by
  cases source with
  | expr expr => exact expr.signals_doc
  | func type => exact type.signals_doc
  | fields params => exact signals_fieldListDoc params
  | imported spec => exact spec.signals_doc
  | method method => exact method.signals_doc
  | decl decl => exact decl.signals_doc style
  | file file => exact file.signals_doc style

theorem escapeless_pieces {style : LayoutStyle} (hindent : Unescaped style.indent)
    {source : Printable} (hwords : ∀ word ∈ source.words, Unescaped word) :
    Escapeless (source.pieces style) := by
  cases source with
  | expr expr => exact expr.escapeless_pieces hwords
  | func type => exact type.escapeless_pieces hwords
  | fields params => exact escapeless_fieldListPieces hwords
  | imported spec => exact Import.escapeless_pieces hwords
  | method method => exact MethodSpec.escapeless_pieces hwords
  | decl decl => exact InterfaceDecl.escapeless_pieces hindent hwords
  | file file => exact File.escapeless_pieces hindent hwords

variable (layout : Nat → Doc → List Signal) (style : LayoutStyle) (width : Nat)
  (source : Printable)

/-- The text without colours, as the engine lays it out at the given width. -/
def printPlain : String := renderPlain (layout width (source.doc style))

/-- The text in colours, as the engine lays it out at the given width. -/
def printColored : String := renderColored [] (layout width (source.doc style))

variable {layout} (hlayout : Documented layout)
include hlayout

/-- Whatever the engine and the width, a renderer draws the `pieces`. -/
theorem drawAlike_pieces : DrawAlike (layout width (source.doc style))
    ((source.pieces style).flatMap Piece.signals) := by
  have hnil : DrawAlike [] [] := ⟨rfl, fun _ => rfl⟩
  have hdraws := hlayout.draws width (source.doc style) hnil
  rwa [List.append_nil, List.append_nil, signals_doc] at hdraws

theorem printPlain_eq : source.printPlain layout style width = plainText (source.pieces style) := by
  rw [printPlain, (drawAlike_pieces style width source hlayout).plain, renderPlain_signals]

theorem printColored_eq :
    source.printColored layout style width = coloredText (source.pieces style) := by
  rw [printColored, (drawAlike_pieces style width source hlayout).colored, renderColored_signals]

/-- Colours and widths do not change a text: the text of `printColored` without its sequences is the
    text of `printPlain`, and both are those of the pieces at any width. -/
theorem colors_exact (hindent : Unescaped style.indent)
    (hwords : ∀ word ∈ source.words, Unescaped word) :
    stripAnsi (source.printColored layout style width) = source.printPlain layout style width ∧
    source.printPlain layout style width = plainText (source.pieces style) ∧
    source.printColored layout style width = coloredText (source.pieces style) ∧
    ∀ other, source.printPlain layout style other = source.printPlain layout style width ∧
      source.printColored layout style other = source.printColored layout style width := by
  have hplain (width : Nat) := printPlain_eq style width source hlayout
  have hcolored (width : Nat) := printColored_eq style width source hlayout
  refine ⟨?_, hplain width, hcolored width, fun other => ?_⟩
  · rw [hcolored, hplain, ← renderColored_signals, ← renderPlain_signals]
    exact stripAnsi_renderColored [] fun text htext =>
      unescaped_of_write_mem (escapeless_pieces hindent hwords) htext
  · exact ⟨(hplain other).trans (hplain width).symm, (hcolored other).trans (hcolored width).symm⟩

end Printable

/-- An engine may write each text in one part, as `Doc.signals` does, whatever the width. -/
theorem documented_signals : Documented fun _ => Doc.signals where
  nil _ := ⟨[], rfl, rfl⟩
  text _ content := ⟨[content], rfl, by simp⟩
  hardline _ := ⟨["\n"], rfl, rfl⟩
  append _ _ _ := rfl
  annotate _ _ _ := rfl

namespace Kiosk

/-- A file with two imports, channels and parameters of which one has no name. -/
def file : File where
  package := "p"
  imports := [⟨none, "a/q"⟩, ⟨some "r", "b"⟩]
  decls := [⟨"I", [⟨some "T", .ident "any"⟩], [⟨"F",
    [⟨some "c", .selector "q" "C"⟩, ⟨none, .chan .both (.chan .recv (.ident "T"))⟩], []⟩]⟩]

/-- In colours and at any width `file` has the same text. -/
theorem colors_file :
    (Unescaped "\t" ∧ ∀ word ∈ (Printable.file file).words, Unescaped word) ∧
    (Printable.file file).printPlain (fun _ => Doc.signals) ⟨"\t"⟩ 100 =
      "package p\n\nimport (\n\t\"a/q\"\n\tr \"b\"\n)\n\n" ++
        "type I[T any] interface \x7b\n\tF(c q.C, _ chan (<-chan T))\n\x7d\n" ∧
    stripAnsi ((Printable.file file).printColored (fun _ => Doc.signals) ⟨"\t"⟩ 1) =
      (Printable.file file).printPlain (fun _ => Doc.signals) ⟨"\t"⟩ 100 := by
  have hindent : Unescaped "\t" := by decide
  have hwords : ∀ word ∈ (Printable.file file).words, Unescaped word := by decide
  obtain ⟨hstrip, hplain, -, hother⟩ := Printable.colors_exact ⟨"\t"⟩ 100 (.file file)
    documented_signals hindent hwords
  refine ⟨⟨hindent, hwords⟩, ?_, ?_⟩
  · -- The printer without colours prints the words alone, whatever the width.
    rw [hplain]
    decide +kernel
  · rw [(hother 1).2]
    exact hstrip

end Kiosk

end IfaceGen
