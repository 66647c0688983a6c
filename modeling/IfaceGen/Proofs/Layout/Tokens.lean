import IfaceGen.Ident
import IfaceGen.Layout.Expr
import Mathlib.Data.List.Basic

/-!
# The tokens of a type expression

A reader of Go source sees tokens: identifiers, keywords, integer literals and symbols. `scan`
takes the longest token at each place and skips blanks. The text of a well-formed expression never
runs two tokens together, so that scanning it gives the tokens of the expression one after the
other (`Expr.tokens`).

## Key results

- `scan_word`: a word ends before the first character that does not belong to it
- `Expr.scan_pieces` / `FuncType.scan_pieces`: the text in front of any other text that ends words
- `Expr.scan_text` / `FuncType.scan_text`: scanning the text of an expression gives its tokens
-/

namespace IfaceGen

/-! ## Scanning -/

/-- The symbols that type expressions are written with. -/
inductive Symbol where
  | dot
  | star
  | ellipsis
  | bar
  | tilde
  | arrow
  | openBracket
  | closeBracket
  | openParen
  | closeParen
  | comma
deriving DecidableEq, Repr

/-- A token of Go source. -/
inductive Token where
  | ident (name : String)
  | keyword (name : String)
  | int (digits : String)
  | symbol (symbol : Symbol)
  /-- A character that belongs to none of the tokens above. -/
  | stray (char : Char)
deriving DecidableEq, Repr

/-- A word is one of the `keywords` or an identifier. -/
def Token.ofWord (word : String) : Token :=
  if keywords.contains word then .keyword word else .ident word

/-- The symbols of one character. -/
def Symbol.ofChar? : Char → Option Symbol
  | '.' => some .dot
  | '*' => some .star
  | '|' => some .bar
  | '~' => some .tilde
  | '[' => some .openBracket
  | ']' => some .closeBracket
  | '(' => some .openParen
  | ')' => some .closeParen
  | ',' => some .comma
  | _ => none

/-- The characters that separate tokens and have no other meaning. -/
def isSpace (c : Char) : Bool :=
  c = ' ' || c = '\t' || c = '\r' || c = '\n'

/-- Whether a word can start with the character. -/
def startsWord (c : Char) : Bool :=
  isLetter c || c = '_'

/-- The tokens of a text, the longest one at each place. It is what a tokenizer for Go finds in type
    expressions, and knows nothing of how they are laid out. -/
def scan : List Char → List Token
  | [] => []
  | '.' :: '.' :: '.' :: rest => .symbol .ellipsis :: scan rest
  | '<' :: '-' :: rest => .symbol .arrow :: scan rest
  | c :: rest =>
    if isSpace c then scan rest
    else if startsWord c then
      .ofWord (String.ofList (c :: rest.takeWhile isIdentChar)) :: scan (rest.dropWhile isIdentChar)
    else if isDigit c then
      .int (String.ofList (c :: rest.takeWhile isDigit)) :: scan (rest.dropWhile isDigit)
    else ((Symbol.ofChar? c).elim (.stray c) .symbol) :: scan rest
termination_by text => text.length
decreasing_by
  · simp only [List.length_cons]; omega
  · simp only [List.length_cons]; omega
  · simp only [List.length_cons]; omega
  · have := (List.dropWhile_sublist isIdentChar (l := rest)).length_le
    simp only [List.length_cons]; omega
  · have := (List.dropWhile_sublist isDigit (l := rest)).length_le
    simp only [List.length_cons]; omega
  · simp only [List.length_cons]; omega

@[simp] theorem scan_nil : scan [] = [] := by
  rw [scan]

@[simp] theorem scan_space (rest : List Char) : scan (' ' :: rest) = scan rest := by
  rw [scan]
  · rfl
  · exact fun _ h => nomatch h
  · exact fun _ h => nomatch h

/-- Blanks, and the characters that symbols start with, are not letters in the sense of
    `isLetter`. -/
theorem isLetter_delimiter {c : Char}
    (h : c ∈ [' ', '\t', '\r', '\n', '.', ',', '*', '|', '~', '<', '[', ']', '(', ')']) :
    isLetter c = false := by
  have hletters : [' ', '\t', '\r', '\n', '.', ',', '*', '|', '~', '<', '[', ']', '(', ')'].all
      (!isLetter ·) = true := by
    decide +kernel
  simpa using List.all_eq_true.1 hletters c h

/-- A symbol of one character (`Symbol.ofChar?`) is scanned as itself; a dot could also be the start
    of an ellipsis. -/
theorem scan_symbol {c : Char} {symbol : Symbol} (hsymbol : Symbol.ofChar? c = some symbol)
    {rest : List Char} (hdot : c = '.' → rest.head? ≠ some '.') :
    scan (c :: rest) = .symbol symbol :: scan rest := by
  have hclasses : isSpace c = false ∧ startsWord c = false ∧ isDigit c = false ∧ c ≠ '<' := by
    unfold Symbol.ofChar? at hsymbol
    split at hsymbol <;> cases hsymbol <;>
      simp [isSpace, startsWord, isDigit, isLetter_delimiter]
  obtain ⟨hspace, hword, hdigit, harrow⟩ := hclasses
  rw [scan, hspace, hword, hdigit, hsymbol]
  · rfl
  · rintro more rfl rfl
    exact hdot rfl rfl
  · rintro more rfl
    exact absurd rfl harrow

section Symbols

variable (rest : List Char)

@[simp] theorem scan_star : scan ('*' :: rest) = .symbol .star :: scan rest :=
  scan_symbol rfl nofun

@[simp] theorem scan_bar : scan ('|' :: rest) = .symbol .bar :: scan rest :=
  scan_symbol rfl nofun

@[simp] theorem scan_tilde : scan ('~' :: rest) = .symbol .tilde :: scan rest :=
  scan_symbol rfl nofun

@[simp] theorem scan_openBracket : scan ('[' :: rest) = .symbol .openBracket :: scan rest :=
  scan_symbol rfl nofun

@[simp] theorem scan_closeBracket : scan (']' :: rest) = .symbol .closeBracket :: scan rest :=
  scan_symbol rfl nofun

@[simp] theorem scan_openParen : scan ('(' :: rest) = .symbol .openParen :: scan rest :=
  scan_symbol rfl nofun

@[simp] theorem scan_closeParen : scan (')' :: rest) = .symbol .closeParen :: scan rest :=
  scan_symbol rfl nofun

@[simp] theorem scan_comma : scan (',' :: rest) = .symbol .comma :: scan rest :=
  scan_symbol rfl nofun

@[simp] theorem scan_ellipsis :
    scan ('.' :: '.' :: '.' :: rest) = .symbol .ellipsis :: scan rest := by
  rw [scan]

@[simp] theorem scan_arrow : scan ('<' :: '-' :: rest) = .symbol .arrow :: scan rest := by
  rw [scan]

end Symbols

/-- The text ends the word or number that stands before it. -/
def Breaks (rest : List Char) : Prop :=
  ∀ c ∈ rest.head?, isIdentChar c = false

@[simp] theorem breaks_nil : Breaks [] :=
  nofun

theorem breaks_cons {c : Char} {rest : List Char} :
    Breaks (c :: rest) ↔ isIdentChar c = false := by
  simp [Breaks]

/-- The characters by which the parts of an expression are set apart end a word (`Breaks`). -/
@[simp] theorem breaks_delimiter {c : Char} (h : c ∈ [' ', '.', ',', '<', '[', ']', '(', ')'])
    (rest : List Char) : Breaks (c :: rest) := by
  have hletter : isLetter c = false := isLetter_delimiter (by simp at h ⊢; tauto)
  simp only [List.mem_cons, List.not_mem_nil, or_false] at h
  refine breaks_cons.2 ?_
  rcases h with rfl | rfl | rfl | rfl | rfl | rfl | rfl | rfl <;>
    simp [isIdentChar, isDigit, hletter]

/-- A run of characters ends where the text `Breaks`. -/
theorem takeWhile_of_breaks {p : Char → Bool} {rest : List Char} (hrest : Breaks rest)
    (hp : ∀ c, p c = true → isIdentChar c = true) :
    rest.takeWhile p = [] ∧ rest.dropWhile p = rest := by
  cases rest with
  | nil => exact ⟨rfl, rfl⟩
  | cons c rest =>
    have hstop : p c = false := by
      have hbreak : isIdentChar c = false := breaks_cons.1 hrest
      exact Bool.eq_false_iff.2 fun h => by simp [hp c h] at hbreak
    simp [hstop]

/-- A word ends where the text `Breaks`, and is scanned as one token. -/
theorem scan_word {first : Char} {more rest : List Char} (hfirst : startsWord first = true)
    (hmore : ∀ c ∈ more, isIdentChar c = true) (hrest : Breaks rest) :
    scan (first :: (more ++ rest)) = .ofWord (String.ofList (first :: more)) :: scan rest := by
  -- A character that starts a word is no blank.
  have hspace : isSpace first = false := by
    refine Bool.eq_false_iff.2 fun h => ?_
    simp only [isSpace, Bool.or_eq_true, decide_eq_true_eq] at h
    rcases h with ((rfl | rfl) | rfl) | rfl <;>
      exact absurd hfirst (by simp [startsWord, isLetter_delimiter])
  obtain ⟨htake, hdrop⟩ := takeWhile_of_breaks hrest fun _ h => h
  rw [scan]
  · simp only [hspace, hfirst, Bool.false_eq_true, if_true, if_false,
      List.takeWhile_append_of_pos hmore, List.dropWhile_append_of_pos hmore, htake, hdrop,
      List.append_nil]
  · -- Neither is it the dot of an ellipsis or the start of an arrow.
    rintro more' rfl
    exact absurd hfirst (by simp [startsWord, isLetter_delimiter])
  · rintro more' rfl
    exact absurd hfirst (by simp [startsWord, isLetter_delimiter])

theorem scan_identifier {name : String} {rest : List Char} (hname : isIdentifier name = true)
    (hrest : Breaks rest) : scan (name.toList ++ rest) = .ident name :: scan rest := by
  unfold isIdentifier at hname
  split at hname
  · cases hname
  · next first more hchars =>
    simp only [Bool.and_eq_true, List.all_eq_true, Bool.not_eq_true'] at hname
    obtain ⟨⟨hfirst, hmore⟩, hkeyword⟩ := hname
    rw [hchars, List.cons_append, scan_word hfirst hmore hrest, ← hchars, String.ofList_toList,
      Token.ofWord, hkeyword]
    rfl

/-- What holds of all characters of a range is checked one by one. -/
theorem char_of_range (P : Char → Prop) {first last : Nat} {c : Char}
    (h : ∀ n < last + 1, first ≤ n → P (Char.ofNat n)) (hc : first ≤ c.toNat ∧ c.toNat ≤ last) :
    P c := by
  rw [← Char.ofNat_toNat c]
  exact h c.toNat (by omega) hc.1

/-- The small Latin letters are letters in the sense of `isLetter`. -/
theorem isLetter_of_isLower {c : Char} (h : c.isLower = true) : isLetter c = true := by
  have hrange : 97 ≤ c.toNat ∧ c.toNat ≤ 122 := by
    have hbounds : (decide ('a'.val ≤ c.val) && decide (c.val ≤ 'z'.val)) = true := h
    simpa [UInt32.le_iff_toNat_le] using hbounds
  exact char_of_range (isLetter · = true) (by decide +kernel) hrange

/-- The `keywords` are words of small letters. -/
theorem keywords_lower : ∀ word ∈ keywords, word.toList ≠ [] ∧
    word.toList.all Char.isLower = true := by
  decide +kernel

theorem scan_keyword {word : String} {rest : List Char} (hword : word ∈ keywords)
    (hrest : Breaks rest) : scan (word.toList ++ rest) = .keyword word :: scan rest := by
  obtain ⟨hne, hlower⟩ := keywords_lower word hword
  cases hchars : word.toList with
  | nil => exact absurd hchars hne
  | cons first more =>
    rw [hchars, List.all_eq_true] at hlower
    obtain ⟨hfirst, hmore⟩ := List.forall_mem_cons.1 hlower
    have hstarts : startsWord first = true := by simp [startsWord, isLetter_of_isLower hfirst]
    have hinside : ∀ c ∈ more, isIdentChar c = true := fun c hc => by
      simp [isIdentChar, isLetter_of_isLower (hmore c hc)]
    rw [List.cons_append, scan_word hstarts hinside hrest, ← hchars, String.ofList_toList,
      Token.ofWord, List.contains_iff_mem.2 hword]
    rfl

/-- A digit (`isDigit`) is no blank, and starts neither a word nor a symbol. -/
theorem classes_of_isDigit {c : Char} (h : isDigit c = true) :
    isSpace c = false ∧ startsWord c = false ∧ c ≠ '.' ∧ c ≠ '<' := by
  have hrange : 48 ≤ c.toNat ∧ c.toNat ≤ 57 := Char.isDigit_iff_toNat.1 h
  exact char_of_range (fun c => isSpace c = false ∧ startsWord c = false ∧ c ≠ '.' ∧ c ≠ '<')
    (by decide +kernel) hrange

theorem scan_number (n : Nat) {rest : List Char} (hrest : Breaks rest) :
    scan (Nat.toDigits 10 n ++ rest) = .int (Nat.repr n) :: scan rest := by
  have hdigits : ∀ c ∈ Nat.toDigits 10 n, isDigit c = true :=
    fun c h => Nat.isDigit_of_mem_toDigits (by decide) (by decide) h
  obtain ⟨htake, hdrop⟩ := takeWhile_of_breaks (p := isDigit) hrest fun c h => by
    simp [isIdentChar, h]
  -- A numeral has at least one digit, and its first one starts no word and no symbol.
  cases hchars : Nat.toDigits 10 n with
  | nil => exact absurd hchars Nat.toDigits_ne_nil
  | cons first more =>
    rw [hchars] at hdigits
    obtain ⟨hfirst, hmore⟩ := List.forall_mem_cons.1 hdigits
    obtain ⟨hspace, hword, hdot, harrow⟩ := classes_of_isDigit hfirst
    rw [List.cons_append, scan]
    · simp only [hspace, hword, hfirst, Bool.false_eq_true, if_true, if_false,
        List.takeWhile_append_of_pos hmore, List.dropWhile_append_of_pos hmore, htake, hdrop,
        List.append_nil, ← hchars, ← Nat.toList_repr, String.ofList_toList]
    · exact fun _ h => absurd h hdot
    · exact fun _ h => absurd h harrow

/-! ## Well-formed expressions -/

/-- Whether an expression is the name of a type, which type arguments may follow. -/
def Expr.isName : Expr → Bool
  | .ident _ | .selector _ _ => true
  | _ => false

/-- Either all fields of a list have names or none has. -/
def UniformlyNamed (params : List Param) : Prop :=
  (∀ param ∈ params, param.name.isSome) ∨ ∀ param ∈ params, param.name.isNone

mutual
/-- A type as it stands inside other types. `last` says that it is the type of the last parameter of
    a function, the only place for an ellipsis. -/
def Expr.WellFormed : Expr → (last : Bool) → Prop
  | .ident name, _ => isIdentifier name
  | .selector package name, _ => isIdentifier package ∧ isIdentifier name
  | .array _ elem, _ | .chan _ elem, _ | .star elem, _ => elem.WellFormed false
  | .map key value, _ => key.WellFormed false ∧ value.WellFormed false
  | .func type, _ => type.WellFormed
  | .ellipsis elem, last => last ∧ elem.WellFormed false
  | .index base arg, _ => base.isName ∧ base.WellFormed false ∧ arg.WellFormed false
  | .indexList base args, _ =>
    base.isName ∧ base.WellFormed false ∧ 2 ≤ args.length ∧ exprsWellFormed args
  | .or _ _, _ | .tilde _, _ => False

/-- Parameters and results that are `UniformlyNamed`, of which only the last parameter may stand for
    further ones. -/
def FuncType.WellFormed : FuncType → Prop
  | ⟨params, results⟩ =>
    UniformlyNamed params ∧ UniformlyNamed results ∧
      paramsWellFormed true params ∧ paramsWellFormed false results

/-- The arguments of a generic type. -/
def exprsWellFormed : List Expr → Prop
  | [] => True
  | expr :: exprs => expr.WellFormed false ∧ exprsWellFormed exprs

/-- The fields of a list, of which the last may be variadic if `variadic` is true. -/
def paramsWellFormed (variadic : Bool) : List Param → Prop
  | [] => True
  | ⟨name, type⟩ :: params =>
    (∀ n ∈ name, isIdentifier n) ∧ type.WellFormed (variadic && params.isEmpty) ∧
      paramsWellFormed variadic params
end

/-- A term of a union: a type that is `WellFormed`, with or without a tilde. -/
def Expr.WellFormedTerm : Expr → Prop
  | .tilde elem => elem.WellFormed false
  | expr => expr.WellFormed false

/-- An expression as it stands by itself: a chain of terms, nested to the left. -/
def Expr.WellFormedUnion : Expr → Prop
  | .or left right => left.WellFormedUnion ∧ right.WellFormedTerm
  | expr => expr.WellFormedTerm

/-! ## The tokens of an expression -/

/-- The keyword of a channel type with its arrow. -/
def ChanDir.tokens : ChanDir → List Token
  | .both => [.keyword "chan"]
  | .send => [.keyword "chan", .symbol .arrow]
  | .recv => [.symbol .arrow, .keyword "chan"]

mutual
/-- The tokens of an expression, which do not say how it is laid out. -/
def Expr.tokens : Expr → List Token
  | .ident name => [.ident name]
  | .selector package name => [.ident package, .symbol .dot, .ident name]
  | .array none elem => .symbol .openBracket :: .symbol .closeBracket :: elem.tokens
  | .array (some n) elem =>
    .symbol .openBracket :: .int (Nat.repr n.toNat) :: .symbol .closeBracket :: elem.tokens
  | .map key value =>
    .keyword "map" :: .symbol .openBracket :: (key.tokens ++ .symbol .closeBracket :: value.tokens)
  | .chan dir value =>
    dir.tokens ++
      if dir = .both && value.isRecvChan then
        .symbol .openParen :: (value.tokens ++ [.symbol .closeParen])
      else value.tokens
  | .star elem => .symbol .star :: elem.tokens
  | .func type => .keyword "func" :: type.tokens
  | .ellipsis elem => .symbol .ellipsis :: elem.tokens
  | .index base arg =>
    base.tokens ++ .symbol .openBracket :: (arg.tokens ++ [.symbol .closeBracket])
  | .indexList base args =>
    base.tokens ++ .symbol .openBracket :: (exprsTokens args ++ [.symbol .closeBracket])
  | .or left right => left.tokens ++ .symbol .bar :: right.tokens
  | .tilde elem => .symbol .tilde :: elem.tokens

/-- The tokens of parameters and results. -/
def FuncType.tokens : FuncType → List Token
  | ⟨params, results⟩ =>
    let head := .symbol .openParen :: (paramsTokens params ++ [.symbol .closeParen])
    let tail := paramsTokens results
    match results with
    | [] => head
    | [⟨none, _⟩] => head ++ tail
    | _ => head ++ .symbol .openParen :: (tail ++ [.symbol .closeParen])

/-- The tokens of the arguments of a generic type. -/
def exprsTokens : List Expr → List Token
  | [] => []
  | [expr] => expr.tokens
  | expr :: exprs => expr.tokens ++ .symbol .comma :: exprsTokens exprs

/-- The tokens of a list of fields. -/
def paramsTokens : List Param → List Token
  | [] => []
  | [⟨name, type⟩] => (name.map Token.ident).toList ++ type.tokens
  | ⟨name, type⟩ :: params =>
    (name.map Token.ident).toList ++ type.tokens ++ .symbol .comma :: paramsTokens params
end

/-! ## Scanning the text of an expression -/

section Texts

variable (text : String)

@[simp] theorem Piece.text_plain : (plain text).text = text := rfl
@[simp] theorem Piece.text_keyword : (keyword text).text = text := rfl
@[simp] theorem Piece.text_type : (type text).text = text := rfl
@[simp] theorem Piece.text_qualifier : (qualifier text).text = text := rfl
@[simp] theorem Piece.text_literal : (literal text).text = text := rfl

end Texts

/-- The characters of a text in pieces. -/
def chars (pieces : List Piece) : List Char :=
  (plainText pieces).toList

@[simp] theorem chars_nil : chars [] = [] :=
  rfl

@[simp] theorem chars_cons (piece : Piece) (pieces : List Piece) :
    chars (piece :: pieces) = piece.text.toList ++ chars pieces := by
  simp [chars, plainText, String.toList_join]

@[simp] theorem chars_append (front back : List Piece) :
    chars (front ++ back) = chars front ++ chars back := by
  simp [chars, plainText, String.toList_join]

theorem UniformlyNamed.isSome_eq {params : List Param} (h : UniformlyNamed params) :
    ∀ param ∈ params, param.name.isSome = anyNamed params := by
  intro param hmem
  rcases h with h | h
  · have hany : anyNamed params = true := List.any_eq_true.2 ⟨param, hmem, h param hmem⟩
    rw [hany, h param hmem]
  · have hany : anyNamed params = false := by simpa [anyNamed] using h
    simpa [hany] using h param hmem

/-- Where all or none of the fields have names, `namePieces` makes up none. -/
theorem scan_namePieces {named : Bool} {name : Option String} (hnamed : name.isSome = named)
    (hname : ∀ n ∈ name, isIdentifier n = true) (rest : List Char) :
    scan (chars (namePieces named name) ++ rest) = (name.map Token.ident).toList ++ scan rest := by
  subst hnamed
  cases name with
  | none => simp [namePieces]
  | some n => simp [namePieces, scan_identifier (hname n rfl)]

/-- A name behind a dot is scanned as one identifier. -/
theorem scan_dot_identifier {name : String} {rest : List Char} (hname : isIdentifier name = true)
    (hrest : Breaks rest) :
    scan ('.' :: (name.toList ++ rest)) = .symbol .dot :: .ident name :: scan rest := by
  have hhead : (name.toList ++ rest).head? ≠ some '.' := by
    unfold isIdentifier at hname
    split at hname
    · cases hname
    · next first more hchars =>
      rw [hchars]
      rintro ⟨⟩
      revert hname
      simp [isLetter_delimiter]
  rw [scan_symbol rfl fun _ => hhead, scan_identifier hname hrest]

theorem scan_chan {rest : List Char} (hrest : Breaks rest) :
    scan ('c' :: 'h' :: 'a' :: 'n' :: rest) = .keyword "chan" :: scan rest := by
  simpa using scan_keyword (by simp [keywords] : "chan" ∈ keywords) hrest

theorem scan_func {rest : List Char} (hrest : Breaks rest) :
    scan ('f' :: 'u' :: 'n' :: 'c' :: rest) = .keyword "func" :: scan rest := by
  simpa using scan_keyword (by simp [keywords] : "func" ∈ keywords) hrest

theorem scan_map {rest : List Char} (hrest : Breaks rest) :
    scan ('m' :: 'a' :: 'p' :: rest) = .keyword "map" :: scan rest := by
  simpa using scan_keyword (by simp [keywords] : "map" ∈ keywords) hrest

/-- The parameters of a function stand in parentheses, so that the text `Breaks` in front of
    them. -/
theorem FuncType.breaks_pieces (func : FuncType) (rest : List Char) :
    Breaks (chars func.pieces ++ rest) := by
  obtain ⟨params, results⟩ := func
  simp only [FuncType.pieces]
  split <;> simp

mutual
/-- Scanning the text of an expression gives its `tokens`. -/
theorem Expr.scan_pieces {last : Bool} : ∀ (expr : Expr), expr.WellFormed last →
    ∀ rest : List Char, Breaks rest →
      scan (chars expr.pieces ++ rest) = expr.tokens ++ scan rest
  | .ident name, h, rest, hrest => by
    simp [Expr.pieces, Expr.tokens, scan_identifier h hrest]
  | .selector package name, h, rest, hrest => by
    simp only [Expr.WellFormed] at h
    -- The dot ends the first identifier.
    simp [Expr.pieces, Expr.tokens, scan_identifier h.1, scan_dot_identifier h.2 hrest]
  | .array len elem, h, rest, hrest => by
    have helem := Expr.scan_pieces elem h rest hrest
    cases len with
    | none => simp [Expr.pieces, Expr.tokens, helem]
    | some n => simp [Expr.pieces, Expr.tokens, helem, scan_number]
  | .map key value, h, rest, hrest => by
    simp only [Expr.WellFormed] at h
    simp [Expr.pieces, Expr.tokens, scan_map, Expr.scan_pieces key h.1,
      Expr.scan_pieces value h.2 rest hrest]
  | .chan dir value, h, rest, hrest => by
    have hvalue := Expr.scan_pieces value h rest hrest
    have hguarded := Expr.scan_pieces value h (')' :: rest)
    -- the parentheses stand in both texts or in neither
    cases dir <;> by_cases hrecv : value.isRecvChan <;>
      simp [Expr.pieces, Expr.tokens, ChanDir.pieces, ChanDir.tokens, scan_chan, hrecv, hvalue,
        hguarded]
  | .star elem, h, rest, hrest => by
    simp [Expr.pieces, Expr.tokens, Expr.scan_pieces elem h rest hrest]
  | .func type, h, rest, hrest => by
    simp [Expr.pieces, Expr.tokens, scan_func (FuncType.breaks_pieces type rest),
      FuncType.scan_pieces type h rest hrest]
  | .ellipsis elem, h, rest, hrest => by
    simp [Expr.pieces, Expr.tokens, Expr.scan_pieces elem h.2 rest hrest]
  | .index base arg, h, rest, hrest => by
    simp only [Expr.WellFormed] at h
    obtain ⟨-, hbase, harg⟩ := h
    simp [Expr.pieces, Expr.tokens, Expr.scan_pieces base hbase, Expr.scan_pieces arg harg]
  | .indexList base args, h, rest, hrest => by
    simp only [Expr.WellFormed] at h
    obtain ⟨-, hbase, -, hargs⟩ := h
    simp [Expr.pieces, Expr.tokens, Expr.scan_pieces base hbase, scan_exprsPieces args hargs]

theorem FuncType.scan_pieces : ∀ (func : FuncType), func.WellFormed →
    ∀ rest : List Char, Breaks rest →
      scan (chars func.pieces ++ rest) = func.tokens ++ scan rest
  | ⟨params, results⟩, h, rest, hrest => by
    simp only [FuncType.WellFormed] at h
    obtain ⟨hnamed, hnamedResults, hparams, hresults⟩ := h
    have hhead := scan_paramsPieces params hnamed.isSome_eq hparams
    have htail := scan_paramsPieces results hnamedResults.isSome_eq hresults
    simp only [FuncType.pieces, FuncType.tokens]
    -- no results, a single one without parentheses, or a list in parentheses
    split
    · simp [hhead]
    · simp [hhead, htail rest hrest]
    · simp [hhead, htail]

theorem scan_exprsPieces : ∀ (exprs : List Expr), exprsWellFormed exprs →
    ∀ rest : List Char, Breaks rest →
      scan (chars (separated (Piece.plain ", ") (exprsPieces exprs)) ++ rest) =
        exprsTokens exprs ++ scan rest
  | [], h, rest, hrest => by
    simp [exprsPieces, separated, exprsTokens]
  | [expr], h, rest, hrest => by
    simp [exprsPieces, separated, exprsTokens, Expr.scan_pieces expr h.1 rest hrest]
  | expr :: next :: exprs, h, rest, hrest => by
    have hnext := scan_exprsPieces (next :: exprs) h.2 rest hrest
    simp only [exprsPieces] at hnext
    simp [exprsPieces, separated, exprsTokens, Expr.scan_pieces expr h.1, hnext]

theorem scan_paramsPieces {named variadic : Bool} : ∀ (params : List Param),
    (∀ param ∈ params, param.name.isSome = named) → paramsWellFormed variadic params →
    ∀ rest : List Char, Breaks rest →
      scan (chars (separated (Piece.plain ", ") (paramsPieces named params)) ++ rest) =
        paramsTokens params ++ scan rest
  | [], hnamed, h, rest, hrest => by
    simp [paramsPieces, separated, paramsTokens]
  | [⟨name, type⟩], hnamed, h, rest, hrest => by
    obtain ⟨hname, htype, -⟩ := h
    simp [paramsPieces, separated, paramsTokens, Expr.scan_pieces type htype rest hrest,
      scan_namePieces (hnamed _ List.mem_cons_self) hname]
  -- A comma stands behind the first field, and ends what is scanned there.
  | ⟨name, type⟩ :: ⟨nextName, nextType⟩ :: params, hnamed, h, rest, hrest => by
    obtain ⟨hname, htype, hparams⟩ := h
    have hnext := scan_paramsPieces (⟨nextName, nextType⟩ :: params)
      (fun param hmem => hnamed param (List.mem_cons_of_mem _ hmem)) hparams rest hrest
    simp only [paramsPieces] at hnext
    simp [paramsPieces, separated, paramsTokens, Expr.scan_pieces type htype, hnext,
      scan_namePieces (hnamed _ List.mem_cons_self) hname]
end

/-- A term of a union (`Expr.WellFormedTerm`) is scanned like any other type. -/
theorem Expr.scan_pieces_term {expr : Expr} (h : expr.WellFormedTerm) {rest : List Char}
    (hrest : Breaks rest) : scan (chars expr.pieces ++ rest) = expr.tokens ++ scan rest := by
  unfold Expr.WellFormedTerm at h
  split at h
  · next elem => simp [Expr.pieces, Expr.tokens, Expr.scan_pieces elem h rest hrest]
  · exact Expr.scan_pieces _ h rest hrest

theorem Expr.scan_pieces_union : ∀ {expr : Expr}, expr.WellFormedUnion →
    ∀ {rest : List Char}, Breaks rest →
      scan (chars expr.pieces ++ rest) = expr.tokens ++ scan rest := by
  intro expr h
  fun_induction Expr.WellFormedUnion expr with
  | case1 left right ih =>
    intro rest hrest
    simp [Expr.pieces, Expr.tokens, ih h.1, Expr.scan_pieces_term h.2 hrest]
  | case2 expr hunion => exact Expr.scan_pieces_term h

/-- The text of an `Expr.WellFormedUnion` consists of its tokens. -/
theorem Expr.scan_text {expr : Expr} (h : expr.WellFormedUnion) :
    scan (plainText expr.pieces).toList = expr.tokens := by
  simpa [chars] using Expr.scan_pieces_union h breaks_nil

/-- The text of a well-formed function type (`FuncType.WellFormed`) consists of its tokens. -/
theorem FuncType.scan_text {func : FuncType} (h : func.WellFormed) :
    scan (plainText func.pieces).toList = func.tokens := by
  simpa [chars] using FuncType.scan_pieces func h [] breaks_nil

end IfaceGen
