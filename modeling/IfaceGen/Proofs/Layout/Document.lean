import IfaceGen.Layout.File
import IfaceGen.Proofs.Layout.Colors

/-!
# Documents

Source text can be laid out by way of a document: a term over texts, line breaks and colours that a
layout engine hands to a renderer. `Doc` has the operations that documents of source text are built
with; none of them leaves the engine a choice of layout. Of the engine no more is assumed than what
it says about them (`Documented`). In particular it may write a text in any number of parts,
differently for each width.

A renderer sees nothing of that: an engine draws a document as `Doc.signals` does
(`Documented.draws`), for whichever width. The signals of the document of some source text are
those of its pieces.

## Key results

- `Documented.draws`: what comes of a document does not depend on the engine or the width
- `Expr.signals_doc`, `File.signals_doc`: documents and pieces come to the same
-/

namespace IfaceGen

/-! ## Documents and engines -/

/-- A document, as a layout engine takes it: texts, line breaks and annotations. -/
inductive Doc where
  | nil
  | text (content : String)
  | hardline
  | append (front back : Doc)
  | annotate (hue : Hue) (doc : Doc)

namespace Doc

instance : Append Doc := ⟨append⟩

/-- A blank. -/
def space : Doc := text " "

/-- A keyword. -/
def keyword (name : String) : Doc := annotate .keyword (text name)

/-- The name of a type. -/
def type (name : String) : Doc := annotate .type (text name)

/-- The name of a package. -/
def qualifier (name : String) : Doc := annotate .qualifier (text name)

/-- A number or a quoted text. -/
def literal (spelling : String) : Doc := annotate .literal (text spelling)

/-- A document between two texts. -/
def enclose (doc : Doc) (before after : String) : Doc := text before ++ doc ++ text after

/-- Documents one after the other, behind the empty one. -/
def concat (docs : List Doc) : Doc := docs.foldl append nil

/-- Documents with a text between them. -/
def intersperse (separator : String) : List Doc → Doc
  | [] => nil
  | doc :: docs => docs.foldl (fun front next => front ++ text separator ++ next) (nil ++ doc)

/-- The signals of a document, each text in one part: what the simplest engine makes of it. -/
def signals : Doc → List Signal
  | .nil => []
  | .text content => [.write content]
  | .hardline => [.write "\n"]
  | .append front back => front.signals ++ back.signals
  | .annotate hue doc => .push hue :: doc.signals ++ [.pop]

@[simp] theorem signals_append (front back : Doc) :
    (front ++ back).signals = front.signals ++ back.signals := rfl

end Doc

/-- The signals write a text, in some number of parts. -/
def Writes (signals : List Signal) (text : String) : Prop :=
  ∃ parts : List String, signals = parts.map .write ∧ String.join parts = text

/-- What a layout engine says about documents: each form of `Doc` comes to the signals that it
    stands for. Its first argument is the width. -/
structure Documented (layout : Nat → Doc → List Signal) : Prop where
  nil : ∀ width, Writes (layout width .nil) ""
  text : ∀ width content, Writes (layout width (.text content)) content
  hardline : ∀ width, Writes (layout width .hardline) "\n"
  append : ∀ width front back,
    layout width (.append front back) = layout width front ++ layout width back
  annotate : ∀ width hue doc,
    layout width (.annotate hue doc) = .push hue :: layout width doc ++ [.pop]

/-- Signals of which either renderer, `renderPlain` or `renderColored`, makes the same. -/
structure DrawAlike (signals signals' : List Signal) : Prop where
  plain : renderPlain signals = renderPlain signals'
  colored : ∀ stack, renderColored stack signals = renderColored stack signals'

/-- In how many parts a text is written makes no difference to what is drawn (`DrawAlike`). -/
theorem Writes.drawAlike {signals : List Signal} {text : String} (h : Writes signals text)
    {rest rest' : List Signal} (hrest : DrawAlike rest rest') :
    DrawAlike (signals ++ rest) (.write text :: rest') := by
  obtain ⟨parts, rfl, rfl⟩ := h
  -- One part after the other is joined to the text in front of the rest.
  induction parts with
  | nil =>
    constructor
    · rw [renderPlain, String.join_nil, String.empty_append]
      exact hrest.plain
    · intro stack
      rw [renderColored_write, String.join_nil, String.empty_append]
      exact hrest.colored stack
  | cons part parts ih =>
    constructor
    · rw [List.map_cons, List.cons_append, renderPlain, ih.plain, renderPlain, renderPlain,
        String.join_cons, String.append_assoc]
    · intro stack
      rw [List.map_cons, List.cons_append, renderColored_write, ih.colored,
        renderColored_write, renderColored_write, String.join_cons, String.append_assoc]

/-- What comes of a document depends neither on the engine nor on the width: it draws like
    `Doc.signals`. -/
theorem Documented.draws {layout : Nat → Doc → List Signal} (h : Documented layout) (width : Nat)
    (doc : Doc) {rest rest' : List Signal} (hrest : DrawAlike rest rest') :
    DrawAlike (layout width doc ++ rest) (doc.signals ++ rest') := by
  -- The signals that follow vary: a front stands before its back, annotated text before its end.
  induction doc generalizing rest rest' with
  | nil =>
    -- The engine may write an empty text here, which `Doc.signals` does not mention.
    obtain ⟨hplain, hcolored⟩ := (h.nil width).drawAlike hrest
    constructor
    · rw [hplain, renderPlain, String.empty_append]
      rfl
    · intro stack
      rw [hcolored, renderColored_write, String.empty_append]
      rfl
  | text content => exact (h.text width content).drawAlike hrest
  | hardline => exact (h.hardline width).drawAlike hrest
  | append front back ihfront ihback =>
    rw [h.append, Doc.signals, List.append_assoc, List.append_assoc]
    exact ihfront (ihback hrest)
  | annotate hue doc ih =>
    rw [h.annotate, Doc.signals, List.append_assoc, List.append_assoc]
    have hpop : DrawAlike (.pop :: rest) (.pop :: rest') :=
      ⟨hrest.plain, fun stack => by
        rw [renderColored_pop, renderColored_pop, hrest.colored]⟩
    obtain ⟨hplain, hcolored⟩ := ih hpop
    exact ⟨hplain, fun stack => congrArg (hue.sequence ++ ·) (hcolored (hue :: stack))⟩

/-! ## The documents of source text -/

open Doc

mutual
/-- The document of an expression. -/
def Expr.doc : Expr → Doc
  | .ident name => type name
  | .selector package name => qualifier package ++ text "." ++ type name
  | .array len elem =>
    let size := len.elim nil fun n => literal (Nat.repr n.toNat)
    size.enclose "[" "]" ++ elem.doc
  | .map key value => keyword "map" ++ key.doc.enclose "[" "]" ++ value.doc
  | .chan dir value =>
    let head := match dir with
      | .both => keyword "chan"
      | .send => keyword "chan" ++ text "<-"
      | .recv => text "<-" ++ keyword "chan"
    let inner :=
      if dir = .both && value.isRecvChan then value.doc.enclose "(" ")" else value.doc
    head ++ space ++ inner
  | .star elem => text "*" ++ elem.doc
  | .func type => keyword "func" ++ type.doc
  | .ellipsis elem => text "..." ++ elem.doc
  | .index base arg => base.doc ++ arg.doc.enclose "[" "]"
  | .indexList base args => base.doc ++ (intersperse ", " (exprsDocs args)).enclose "[" "]"
  | .or left right => left.doc ++ space ++ text "|" ++ space ++ right.doc
  | .tilde elem => text "~" ++ elem.doc

/-- The document of parameters and results. -/
def FuncType.doc : FuncType → Doc
  | ⟨params, []⟩ => (intersperse ", " (paramsDocs (anyNamed params) params)).enclose "(" ")"
  | ⟨params, [⟨none, type⟩]⟩ =>
    (intersperse ", " (paramsDocs (anyNamed params) params)).enclose "(" ")" ++ space ++ type.doc
  | ⟨params, results⟩ =>
    (intersperse ", " (paramsDocs (anyNamed params) params)).enclose "(" ")" ++ space ++
      (intersperse ", " (paramsDocs (anyNamed results) results)).enclose "(" ")"

/-- The document of each expression. -/
def exprsDocs : List Expr → List Doc
  | [] => []
  | expr :: exprs => expr.doc :: exprsDocs exprs

/-- The document of each field of a list. -/
def paramsDocs (inNamedList : Bool) : List Param → List Doc
  | [] => []
  | ⟨some name, type⟩ :: params =>
    (text name ++ space ++ type.doc) :: paramsDocs inNamedList params
  | ⟨none, type⟩ :: params =>
    (if inNamedList then text "_" ++ space ++ type.doc else type.doc) ::
      paramsDocs inNamedList params
end

/-- The document of a list of fields. -/
def fieldListDoc (params : List Param) : Doc :=
  intersperse ", " (paramsDocs (anyNamed params) params)

/-- The document of an import. -/
def Import.doc (spec : Import) : Doc :=
  let path := literal (Text.quote spec.path)
  match spec.name with
  | some name => qualifier name ++ space ++ path
  | none => path

/-- The document of all imports. -/
def importsDoc (style : LayoutStyle) (specs : List Import) : Doc :=
  let head := keyword "import" ++ space
  match specs with
  | [spec] => head ++ spec.doc
  | specs =>
    head ++ text "(" ++ concat (specs.map fun spec => hardline ++ text style.indent ++ spec.doc) ++
      hardline ++ text ")"

/-- The document of a method. -/
def MethodSpec.doc (method : MethodSpec) : Doc :=
  text method.name ++ method.type.doc

/-- The document of a declaration. -/
def InterfaceDecl.doc (style : LayoutStyle) (decl : InterfaceDecl) : Doc :=
  let typeParams :=
    if decl.typeParams.isEmpty then nil else (fieldListDoc decl.typeParams).enclose "[" "]"
  let head := keyword "type" ++ space ++ type decl.name ++ typeParams ++ space ++
    keyword "interface"
  if decl.methods.isEmpty then head ++ text "\x7b\x7d"
  else
    head ++ space ++ text "\x7b" ++
      concat (decl.methods.map fun method => hardline ++ text style.indent ++ method.doc) ++
      hardline ++ text "\x7d"

/-- The document of a file. -/
def File.doc (style : LayoutStyle) (file : File) : Doc :=
  let clause := keyword "package" ++ space ++ Doc.text file.package
  let opening :=
    if file.imports.isEmpty then clause
    else clause ++ hardline ++ hardline ++ importsDoc style file.imports
  file.decls.foldl (fun doc decl => doc ++ hardline ++ hardline ++ decl.doc style) opening ++
    hardline

/-! ## Documents and pieces -/

section Signals

variable (name : String)

@[simp] theorem Piece.signals_plain : (plain name).signals = [.write name] := rfl
@[simp] theorem Piece.signals_newline : newline.signals = [.write "\n"] := rfl
@[simp] theorem Piece.signals_keyword : (keyword name).signals = (Doc.keyword name).signals := rfl
@[simp] theorem Piece.signals_type : (type name).signals = (Doc.type name).signals := rfl
@[simp] theorem Piece.signals_qualifier :
    (qualifier name).signals = (Doc.qualifier name).signals := rfl
@[simp] theorem Piece.signals_literal : (literal name).signals = (Doc.literal name).signals := rfl

@[simp] theorem Doc.signals_nil : nil.signals = [] := rfl
@[simp] theorem Doc.signals_text : (text name).signals = [.write name] := rfl
@[simp] theorem Doc.signals_space : space.signals = [.write " "] := rfl
@[simp] theorem Doc.signals_hardline : hardline.signals = [.write "\n"] := rfl

@[simp] theorem Doc.signals_enclose (doc : Doc) (before after : String) :
    (doc.enclose before after).signals = .write before :: doc.signals ++ [.write after] := rfl

end Signals

/-- A loop that adds to the end of a document adds to the end of its `signals`. -/
theorem Doc.signals_foldl {α : Type} {step : Doc → α → Doc} (added : α → List Signal)
    (hstep : ∀ doc item, (step doc item).signals = doc.signals ++ added item) (front : Doc)
    (items : List α) :
    (items.foldl step front).signals = front.signals ++ items.flatMap added := by
  induction items generalizing front with
  | nil => simp
  | cons item items ih => simp [ih, hstep]

@[simp] theorem Doc.signals_concat (docs : List Doc) :
    (concat docs).signals = docs.flatMap signals :=
  Doc.signals_foldl signals (fun _ _ => rfl) nil docs

/-- A separator stands in front of each part but the first in `separated`. -/
theorem separated_cons (separator : Piece) (first : List Piece) (others : List (List Piece)) :
    separated separator (first :: others) = first ++ others.flatMap (separator :: ·) := by
  induction others generalizing first with
  | nil => simp [separated]
  | cons second others ih =>
    rw [separated, ih, List.flatMap_cons, List.cons_append]
    exact List.cons_ne_nil second others

/-- What `intersperse` puts between documents, `separated` puts between pieces. -/
theorem Doc.signals_intersperse (separator : String) {docs : List Doc} {parts : List (List Piece)}
    (h : List.Forall₂ (fun doc part => doc.signals = part.flatMap Piece.signals) docs parts) :
    (intersperse separator docs).signals =
      (separated (.plain separator) parts).flatMap Piece.signals := by
  cases h with
  | nil => rfl
  | @cons doc part docs parts hdoc hdocs =>
    -- Documents are put together from the left and pieces from the right.
    have hrest : docs.flatMap (fun next => .write separator :: next.signals) =
        (parts.flatMap (.plain separator :: ·)).flatMap Piece.signals := by
      induction hdocs with
      | nil => rfl
      | cons hnext _ ih => simp [ih, hnext]
    rw [intersperse, Doc.signals_foldl (fun next => .write separator :: next.signals) (by simp),
      separated_cons, List.flatMap_append, hrest, ← hdoc]
    rfl

/-- In `FuncType.doc` results stand in parentheses unless there is none or a single one without a
    name. -/
theorem FuncType.doc_of_listed (params : List Param) {results : List Param} (hne : results ≠ [])
    (hnamed : ∀ type, results ≠ [⟨none, type⟩]) :
    (FuncType.mk params results).doc = (fieldListDoc params).enclose "(" ")" ++ space ++
      (fieldListDoc results).enclose "(" ")" :=
  match results with
  | [] => absurd rfl hne
  | [⟨none, type⟩] => absurd rfl (hnamed type)
  | ⟨some _, _⟩ :: _ | ⟨none, _⟩ :: _ :: _ => rfl

theorem FuncType.pieces_of_listed (params : List Param) {results : List Param} (hne : results ≠ [])
    (hnamed : ∀ type, results ≠ [⟨none, type⟩]) :
    (FuncType.mk params results).pieces = .plain "(" :: fieldListPieces params ++
      [.plain ")", .plain " ", .plain "("] ++ fieldListPieces results ++ [.plain ")"] :=
  match results with
  | [] => absurd rfl hne
  | [⟨none, type⟩] => absurd rfl (hnamed type)
  | ⟨some _, _⟩ :: _ | ⟨none, _⟩ :: _ :: _ => by simp [FuncType.pieces, fieldListPieces]

theorem FuncType.signals_doc_mk {params results : List Param}
    (hparams : (fieldListDoc params).signals = (fieldListPieces params).flatMap Piece.signals)
    (hresults : (fieldListDoc results).signals = (fieldListPieces results).flatMap Piece.signals) :
    (FuncType.mk params results).doc.signals =
      (FuncType.mk params results).pieces.flatMap Piece.signals := by
  -- Nothing is written for no results, and no parentheses for one without a name.
  by_cases hne : results = []
  · subst hne
    have hdoc : (FuncType.mk params []).doc = (fieldListDoc params).enclose "(" ")" := rfl
    have hpieces : (FuncType.mk params []).pieces =
        .plain "(" :: fieldListPieces params ++ [.plain ")"] := rfl
    simp [hdoc, hpieces, hparams]
  by_cases hnamed : ∃ type, results = [⟨none, type⟩]
  · obtain ⟨type, rfl⟩ := hnamed
    have hdoc : (FuncType.mk params [⟨none, type⟩]).doc =
        (fieldListDoc params).enclose "(" ")" ++ space ++ type.doc := rfl
    have hpieces : (FuncType.mk params [⟨none, type⟩]).pieces =
        .plain "(" :: fieldListPieces params ++ [.plain ")"] ++ [.plain " "] ++
          fieldListPieces [⟨none, type⟩] := rfl
    have hsingle : (fieldListDoc [⟨none, type⟩]).signals = type.doc.signals := rfl
    simp [hdoc, hpieces, hparams, ← hresults, hsingle]
  · rw [FuncType.doc_of_listed params hne (not_exists.1 hnamed),
      FuncType.pieces_of_listed params hne (not_exists.1 hnamed)]
    simp [hparams, hresults]

mutual
/-- The document of an expression and its `pieces` come to the same signals. -/
theorem Expr.signals_doc : (expr : Expr) → expr.doc.signals = expr.pieces.flatMap Piece.signals
  | .ident name => by simp [Expr.doc, Expr.pieces]
  | .selector package name => by simp [Expr.doc, Expr.pieces]
  | .array len elem => by
    cases len <;> simp [Expr.doc, Expr.pieces, elem.signals_doc]
  | .map key value => by simp [Expr.doc, Expr.pieces, key.signals_doc, value.signals_doc]
  -- Parentheses stand around a receive-only channel inside a channel, in either form.
  | .chan dir value => by
    cases hrecv : value.isRecvChan <;> cases dir <;>
      simp [Expr.doc, Expr.pieces, ChanDir.pieces, hrecv, value.signals_doc]
  | .star elem => by simp [Expr.doc, Expr.pieces, elem.signals_doc]
  | .func type => by simp [Expr.doc, Expr.pieces, type.signals_doc]
  | .ellipsis elem => by simp [Expr.doc, Expr.pieces, elem.signals_doc]
  | .index base arg => by simp [Expr.doc, Expr.pieces, base.signals_doc, arg.signals_doc]
  | .indexList base args => by
    simp [Expr.doc, Expr.pieces, base.signals_doc,
      Doc.signals_intersperse _ (signals_exprsDocs args)]
  | .or left right => by simp [Expr.doc, Expr.pieces, left.signals_doc, right.signals_doc]
  | .tilde elem => by simp [Expr.doc, Expr.pieces, elem.signals_doc]

theorem FuncType.signals_doc : (type : FuncType) →
    type.doc.signals = type.pieces.flatMap Piece.signals
  | ⟨params, results⟩ =>
    FuncType.signals_doc_mk (Doc.signals_intersperse _ (signals_paramsDocs _ params))
      (Doc.signals_intersperse _ (signals_paramsDocs _ results))

theorem signals_exprsDocs : (exprs : List Expr) →
    List.Forall₂ (fun doc part => doc.signals = part.flatMap Piece.signals) (exprsDocs exprs)
      (exprsPieces exprs)
  | [] => .nil
  | expr :: exprs => .cons expr.signals_doc (signals_exprsDocs exprs)

theorem signals_paramsDocs (inNamedList : Bool) : (params : List Param) →
    List.Forall₂ (fun doc part => doc.signals = part.flatMap Piece.signals)
      (paramsDocs inNamedList params) (paramsPieces inNamedList params)
  | [] => .nil
  | ⟨some name, type⟩ :: params =>
    .cons (by simp [namePieces, type.signals_doc]) (signals_paramsDocs inNamedList params)
  | ⟨none, type⟩ :: params => by
    refine .cons ?_ (signals_paramsDocs inNamedList params)
    cases inNamedList <;> simp [namePieces, type.signals_doc]
end

theorem signals_fieldListDoc (params : List Param) :
    (fieldListDoc params).signals = (fieldListPieces params).flatMap Piece.signals :=
  Doc.signals_intersperse _ (signals_paramsDocs _ params)

theorem Import.signals_doc (spec : Import) :
    spec.doc.signals = spec.pieces.flatMap Piece.signals := by
  unfold Import.doc Import.pieces
  cases spec.name <;> simp

theorem MethodSpec.signals_doc (method : MethodSpec) :
    method.doc.signals = method.pieces.flatMap Piece.signals := by
  simp [MethodSpec.doc, MethodSpec.pieces, method.type.signals_doc]

theorem signals_importsDoc (style : LayoutStyle) (specs : List Import) :
    (importsDoc style specs).signals = (importsPieces style specs).flatMap Piece.signals := by
  match specs with
  | [] => simp [importsDoc, importsPieces]
  | [spec] => simp [importsDoc, importsPieces, spec.signals_doc]
  | first :: second :: specs =>
    simp [importsDoc, importsPieces, Import.signals_doc, List.flatMap_map, List.flatMap_assoc]

theorem InterfaceDecl.signals_doc (style : LayoutStyle) (decl : InterfaceDecl) :
    (decl.doc style).signals = (decl.pieces style).flatMap Piece.signals := by
  unfold InterfaceDecl.doc InterfaceDecl.pieces
  cases decl.typeParams.isEmpty <;> cases decl.methods.isEmpty <;>
    simp [signals_fieldListDoc, MethodSpec.signals_doc, List.flatMap_map, List.flatMap_assoc]

/-- The document of a file and its `pieces` come to the same signals. -/
theorem File.signals_doc (style : LayoutStyle) (file : File) :
    (file.doc style).signals = (file.pieces style).flatMap Piece.signals := by
  have hdecls := Doc.signals_foldl (fun decl : InterfaceDecl =>
    .write "\n" :: .write "\n" :: (decl.pieces style).flatMap Piece.signals)
    (fun doc decl => show (doc ++ hardline ++ hardline ++ decl.doc style).signals = _ by
      simp [InterfaceDecl.signals_doc])
  unfold File.doc File.pieces
  cases file.imports.isEmpty <;>
    simp [hdecls, signals_importsDoc, List.flatMap_assoc]

end IfaceGen
