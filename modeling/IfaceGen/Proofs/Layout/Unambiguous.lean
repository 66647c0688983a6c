import IfaceGen.Proofs.Layout.Tokens
import IfaceGen.Spelling.Basic

/-!
# Type expressions are read back from their tokens

The text of a well-formed expression is unambiguous: a reader who sees only its tokens finds the
expression again. The reader is a recursive descent. It looks ahead at three places: a bracket
behind a name opens an array type if a length or a closing bracket follows, and type arguments
otherwise; an identifier at the start of a field is its name if a type follows; a result without
parentheses is there if a type follows.

## Key results

- `Expr.reads_tokens` / `FuncType.reads_tokens`: the reader inverts `tokens`
- `Expr.reads_union`: so it does for a union of terms
- `scan_pieces_inj`: expressions with the same tokens are equal
-/

namespace IfaceGen

/-! ## The reader -/

/-- Whether a type starts here, as the type of a named field or as a result. -/
def startsType : List Token → Bool
  | .ident _ :: _ | .keyword _ :: _ => true
  | .symbol .star :: _ | .symbol .arrow :: _ | .symbol .ellipsis :: _ => true
  | .symbol .openBracket :: .symbol .closeBracket :: _ => true
  | .symbol .openBracket :: .int _ :: _ => true
  | _ => false

/-- The name of a field, if the field has one: an identifier behind which a type starts. -/
def readName : List Token → Option String × List Token
  | .ident name :: rest =>
    if startsType rest then (some name, rest) else (none, .ident name :: rest)
  | tokens => (none, tokens)

/-- What stands behind the expected symbol. -/
def expect (symbol : Symbol) : List Token → Option (List Token)
  | .symbol found :: rest => if found = symbol then some rest else none
  | _ => none

mutual
/-- Reads a type off its tokens, and returns the tokens behind it. -/
def readType : (fuel : Nat) → List Token → Option (Expr × List Token)
  | fuel + 1, .ident package :: .symbol .dot :: .ident name :: rest =>
    readArgs fuel (.selector package name) rest
  | fuel + 1, .ident name :: rest => readArgs fuel (.ident name) rest
  | fuel + 1, .symbol .openBracket :: .symbol .closeBracket :: rest => do
    let (elem, rest) ← readType fuel rest
    return (.array none elem, rest)
  | fuel + 1, .symbol .openBracket :: .int digits :: .symbol .closeBracket :: rest => do
    let (elem, rest) ← readType fuel rest
    return (.array (some (.ofNat (Nat.ofDigitChars 10 digits.toList 0))) elem, rest)
  | fuel + 1, .symbol .star :: rest => do
    let (elem, rest) ← readType fuel rest
    return (.star elem, rest)
  | fuel + 1, .symbol .ellipsis :: rest => do
    let (elem, rest) ← readType fuel rest
    return (.ellipsis elem, rest)
  | fuel + 1, .symbol .arrow :: .keyword "chan" :: rest => do
    let (value, rest) ← readType fuel rest
    return (.chan .recv value, rest)
  | fuel + 1, .keyword "chan" :: .symbol .arrow :: rest => do
    let (value, rest) ← readType fuel rest
    return (.chan .send value, rest)
  | fuel + 1, .keyword "chan" :: .symbol .openParen :: rest => do
    let (value, rest) ← readType fuel rest
    let rest ← expect .closeParen rest
    return (.chan .both value, rest)
  | fuel + 1, .keyword "chan" :: rest => do
    let (value, rest) ← readType fuel rest
    return (.chan .both value, rest)
  | fuel + 1, .keyword "map" :: .symbol .openBracket :: rest => do
    let (key, rest) ← readType fuel rest
    let rest ← expect .closeBracket rest
    let (value, rest) ← readType fuel rest
    return (.map key value, rest)
  | fuel + 1, .keyword "func" :: rest => do
    let (type, rest) ← readFunc fuel rest
    return (.func type, rest)
  | _, _ => none

/-- Reads the type arguments behind a name, if there are any, and applies the name to them. -/
def readArgs : (fuel : Nat) → Expr → List Token → Option (Expr × List Token)
  | fuel + 1, base, .symbol .openBracket :: rest => do
    let (args, rest) ← readTypes fuel rest
    return (base.applied args, rest)
  | _ + 1, base, rest => some (base, rest)
  | 0, _, _ => none

/-- Reads types up to a closing bracket. -/
def readTypes : (fuel : Nat) → List Token → Option (List Expr × List Token)
  | fuel + 1, tokens => do
    match ← readType fuel tokens with
    | (type, .symbol .closeBracket :: rest) => return ([type], rest)
    | (type, .symbol .comma :: rest) =>
      let (types, rest) ← readTypes fuel rest
      return (type :: types, rest)
    | _ => none
  | 0, _ => none

/-- Reads parameters and results. -/
def readFunc : (fuel : Nat) → List Token → Option (FuncType × List Token)
  | fuel + 1, .symbol .openParen :: rest => do
    match ← readParams fuel rest with
    | (params, .symbol .openParen :: rest) =>
      let (results, rest) ← readParams fuel rest
      return (⟨params, results⟩, rest)
    | (params, rest) =>
      if startsType rest then
        let (type, rest) ← readType fuel rest
        return (⟨params, [⟨none, type⟩]⟩, rest)
      else return (⟨params, []⟩, rest)
  | _, _ => none

/-- Reads fields up to a closing parenthesis. -/
def readParams : (fuel : Nat) → List Token → Option (List Param × List Token)
  | _ + 1, .symbol .closeParen :: rest => some ([], rest)
  | fuel + 1, tokens => do
    let (name, tokens) := readName tokens
    match ← readType fuel tokens with
    | (type, .symbol .closeParen :: rest) => return ([⟨name, type⟩], rest)
    | (type, .symbol .comma :: rest) =>
      let (params, rest) ← readParams fuel rest
      return (⟨name, type⟩ :: params, rest)
    | _ => none
  | 0, _ => none
end

/-- Reads a term of a union. -/
def readTerm (fuel : Nat) : List Token → Option (Expr × List Token)
  | .symbol .tilde :: rest => do
    let (elem, rest) ← readType fuel rest
    return (.tilde elem, rest)
  | tokens => readType fuel tokens

/-- Reads further terms behind the ones that were read. -/
def readTerms : (fuel : Nat) → Expr → List Token → Option (Expr × List Token)
  | fuel + 1, left, .symbol .bar :: rest => do
    let (right, rest) ← readTerm fuel rest
    readTerms fuel (.or left right) rest
  | _ + 1, left, rest => some (left, rest)
  | 0, _, _ => none

/-- Reads a union of terms. -/
def readUnion (fuel : Nat) (tokens : List Token) : Option (Expr × List Token) := do
  let (first, rest) ← readTerm fuel tokens
  readTerms fuel first rest

/-! ## What stands around a type -/

/-- The tokens that can follow a type. -/
inductive Closes : List Token → Prop
  | nil : Closes []
  | comma (rest : List Token) : Closes (.symbol .comma :: rest)
  | closeParen (rest : List Token) : Closes (.symbol .closeParen :: rest)
  | closeBracket (rest : List Token) : Closes (.symbol .closeBracket :: rest)
  | bar (rest : List Token) : Closes (.symbol .bar :: rest)

theorem Closes.startsType_eq {rest : List Token} (h : Closes rest) : startsType rest = false := by
  cases h <;> rfl

/-- The tokens of the name of a type (`Expr.isName`) start with an identifier. -/
theorem Expr.tokens_of_isName {base : Expr} (hbase : base.isName = true) :
    ∃ name more, base.tokens = .ident name :: more := by
  cases base with
  | ident name => exact ⟨name, [], rfl⟩
  | selector package name => exact ⟨package, _, rfl⟩
  | _ => exact nomatch hbase

/-- `startsType` holds where the tokens of a well-formed expression start. -/
theorem Expr.startsType_tokens {expr : Expr} {last : Bool} (h : expr.WellFormed last)
    (rest : List Token) : startsType (expr.tokens ++ rest) = true := by
  cases expr with
  | array len elem => cases len <;> rfl
  | chan dir value => cases dir <;> rfl
  | index base arg | indexList base args =>
    obtain ⟨name, more, hbase⟩ := Expr.tokens_of_isName h.1
    simp [Expr.tokens, hbase, startsType]
  | or | tilde => exact absurd h id
  | ident | selector | map | star | func | ellipsis => rfl

/-- Only a receive-only channel starts with an arrow, and nothing with a parenthesis, so that
    `Expr.isRecvChan` tells what can follow the keyword of a channel. -/
theorem Expr.head?_tokens_ne {expr : Expr} {last : Bool} (h : expr.WellFormed last)
    (hrecv : expr.isRecvChan = false) (rest : List Token) :
    (expr.tokens ++ rest).head? ≠ some (.symbol .arrow) ∧
      (expr.tokens ++ rest).head? ≠ some (.symbol .openParen) := by
  cases expr with
  | array len elem => cases len <;> simp [Expr.tokens]
  | chan dir value =>
    cases dir with
    | both | send => simp [Expr.tokens, ChanDir.tokens]
    | recv => exact nomatch hrecv
  | index base arg | indexList base args =>
    obtain ⟨name, more, hbase⟩ := Expr.tokens_of_isName h.1
    simp [Expr.tokens, hbase]
  -- Unions and terms are not well formed within an expression.
  | or | tilde => exact absurd h id
  | ident | selector | map | star | func | ellipsis => simp [Expr.tokens]

/-- A bracket in front of a type opens type arguments, not an array: `startsType` fails. -/
theorem startsType_openBracket {tokens : List Token} (h : startsType tokens = true) :
    startsType (.symbol .openBracket :: tokens) = false := by
  unfold startsType at h
  split at h <;> first | rfl | cases h

/-- The arguments of a generic type start with a type. -/
theorem startsType_exprsTokens {args : List Expr} (hne : args ≠ []) (h : exprsWellFormed args)
    (rest : List Token) : startsType (exprsTokens args ++ rest) = true := by
  match args, h with
  | [arg], h => exact Expr.startsType_tokens h.1 rest
  | arg :: next :: args, h =>
    simp only [exprsTokens, List.append_assoc]
    exact Expr.startsType_tokens h.1 _

/-- The name of a type is not taken by `readName` for that of a field unless a type follows. -/
theorem Expr.readName_of_isName {base : Expr} (hbase : base.isName = true) {rest : List Token}
    (hrest : startsType rest = false) :
    readName (base.tokens ++ rest) = (none, base.tokens ++ rest) := by
  cases base with
  | ident name => simp [Expr.tokens, readName, hrest]
  | selector package name => rfl
  | _ => exact nomatch hbase

/-- A field without a name is not taken by `readName` for one with a name. -/
theorem Expr.readName_tokens {expr : Expr} {last : Bool} (h : expr.WellFormed last)
    {rest : List Token} (hrest : Closes rest) :
    readName (expr.tokens ++ rest) = (none, expr.tokens ++ rest) := by
  -- Only a name could be taken for one, and what follows it is no type.
  cases expr with
  | ident | selector => exact Expr.readName_of_isName rfl hrest.startsType_eq
  | array len elem => cases len <;> rfl
  | chan dir value => cases dir <;> rfl
  | index base arg =>
    obtain ⟨hbase, -, harg⟩ := h
    have hbracket := startsType_openBracket (Expr.startsType_tokens harg
      ([.symbol .closeBracket] ++ rest))
    simpa [Expr.tokens] using Expr.readName_of_isName hbase hbracket
  | indexList base args =>
    obtain ⟨hbase, -, hlength, hargs⟩ := h
    have hne : args ≠ [] := by
      rintro rfl
      simp at hlength
    have hbracket := startsType_openBracket (startsType_exprsTokens hne hargs
      ([.symbol .closeBracket] ++ rest))
    simpa [Expr.tokens] using Expr.readName_of_isName hbase hbracket
  | or | tilde => exact absurd h id
  | map | star | func | ellipsis => rfl

/-- A name is read with the type arguments behind it. -/
theorem readType_of_isName {base : Expr} (hbase : base.isName = true) {rest : List Token}
    (hrest : rest.head? ≠ some (.symbol .dot)) (fuel : Nat) :
    readType (fuel + 1) (base.tokens ++ rest) = readArgs fuel base rest := by
  cases base with
  | ident name =>
    simp only [Expr.tokens, List.singleton_append]
    rw [readType]
    rintro name' rest' rfl
    exact hrest rfl
  | selector package name => simp only [Expr.tokens, List.cons_append, List.nil_append, readType]
  | _ => exact nomatch hbase

/-! ## Reading back -/

/-- With enough fuel, `read` takes `value` off the tokens and leaves `rest`. -/
def Reads {α : Type} (read : Nat → List Token → Option (α × List Token)) (tokens : List Token)
    (value : α) (rest : List Token) : Prop :=
  ∃ n, ∀ fuel, n ≤ fuel → read fuel tokens = some (value, rest)

/-- One unit of fuel pays for the step that is spelled out. -/
theorem Reads.of_succ {α : Type} {read : Nat → List Token → Option (α × List Token)}
    {tokens : List Token} {value : α} {rest : List Token} (n : Nat)
    (h : ∀ fuel, n ≤ fuel → read (fuel + 1) tokens = some (value, rest)) :
    Reads read tokens value rest := by
  refine ⟨n + 1, fun fuel hfuel => ?_⟩
  obtain ⟨k, rfl⟩ : ∃ k, fuel = k + 1 := ⟨fuel - 1, by omega⟩
  exact h k (by omega)

section Steps

variable {tokens more rest : List Token}

theorem Reads.name {base : Expr} (hbase : base.isName = true) (hrest : Closes rest) :
    Reads readType (base.tokens ++ rest) base rest := by
  refine .of_succ 1 fun fuel hfuel => ?_
  obtain ⟨k, rfl⟩ : ∃ k, fuel = k + 1 := ⟨fuel - 1, by omega⟩
  rw [readType_of_isName hbase (by cases hrest <;> simp)]
  cases hrest <;> rfl

theorem Reads.applied {base : Expr} {args : List Expr} (hbase : base.isName = true)
    (hargs : Reads readTypes tokens args rest) :
    Reads readType (base.tokens ++ .symbol .openBracket :: tokens) (base.applied args) rest := by
  obtain ⟨n, hargs⟩ := hargs
  refine .of_succ (n + 1) fun fuel hfuel => ?_
  obtain ⟨k, rfl⟩ : ∃ k, fuel = k + 1 := ⟨fuel - 1, by omega⟩
  rw [readType_of_isName hbase (by simp), readArgs, hargs k (by omega)]
  rfl

theorem Reads.lastType {type : Expr}
    (htype : Reads readType tokens type (.symbol .closeBracket :: rest)) :
    Reads readTypes tokens [type] rest := by
  obtain ⟨n, htype⟩ := htype
  exact .of_succ n fun fuel hfuel => by simp [readTypes, htype fuel hfuel]

theorem Reads.consType {type : Expr} {types : List Expr}
    (htype : Reads readType tokens type (.symbol .comma :: more))
    (htypes : Reads readTypes more types rest) : Reads readTypes tokens (type :: types) rest := by
  obtain ⟨n, htype⟩ := htype
  obtain ⟨m, htypes⟩ := htypes
  refine .of_succ (n + m) fun fuel hfuel => ?_
  simp [readTypes, htype fuel (by omega), htypes fuel (by omega)]

/-- The name of a field, or none, is read by `readName` in front of the type. -/
theorem Expr.readName_field {type : Expr} {last : Bool} (htype : type.WellFormed last)
    (name : Option String) (hrest : Closes rest) :
    readName ((name.map Token.ident).toList ++ type.tokens ++ rest) =
      (name, type.tokens ++ rest) := by
  cases name with
  | none => exact Expr.readName_tokens htype hrest
  | some name => simp [readName, Expr.startsType_tokens htype rest]

/-- A field does not start with a closing parenthesis, so that `readParams` reads its name and its
    type. -/
theorem readParams_field {type : Expr} {last : Bool} (htype : type.WellFormed last)
    (name : Option String) (hrest : Closes rest) (fuel : Nat) :
    readParams (fuel + 1) ((name.map Token.ident).toList ++ type.tokens ++ rest) = (do
      match ← readType fuel (type.tokens ++ rest) with
      | (type, .symbol .closeParen :: rest) => return ([⟨name, type⟩], rest)
      | (type, .symbol .comma :: rest) =>
        let (params, rest) ← readParams fuel rest
        return (⟨name, type⟩ :: params, rest)
      | _ => none) := by
  rw [readParams, Expr.readName_field htype name hrest]
  intro more hmore
  -- With or without a name, the first token is that of a field.
  cases name with
  | none =>
    have hstarts := Expr.startsType_tokens htype rest
    rw [show type.tokens ++ rest = .symbol .closeParen :: more from hmore] at hstarts
    exact nomatch hstarts
  | some name => exact nomatch hmore

theorem Reads.lastParam {type : Expr} {last : Bool} (h : type.WellFormed last)
    (name : Option String)
    (htype : Reads readType (type.tokens ++ .symbol .closeParen :: rest) type
      (.symbol .closeParen :: rest)) :
    Reads readParams ((name.map Token.ident).toList ++ type.tokens ++ .symbol .closeParen :: rest)
      [⟨name, type⟩] rest := by
  obtain ⟨n, htype⟩ := htype
  refine .of_succ n fun fuel hfuel => ?_
  rw [readParams_field h name (.closeParen rest), htype fuel hfuel]
  rfl

theorem Reads.consParam {type : Expr} {last : Bool} (h : type.WellFormed last)
    (name : Option String) {params : List Param}
    (htype : Reads readType (type.tokens ++ .symbol .comma :: more) type (.symbol .comma :: more))
    (hparams : Reads readParams more params rest) :
    Reads readParams ((name.map Token.ident).toList ++ type.tokens ++ .symbol .comma :: more)
      (⟨name, type⟩ :: params) rest := by
  obtain ⟨n, htype⟩ := htype
  obtain ⟨m, hparams⟩ := hparams
  refine .of_succ (n + m) fun fuel hfuel => ?_
  rw [readParams_field h name (.comma more), htype fuel (by omega)]
  simp [hparams fuel (by omega)]

theorem Reads.chan {value : Expr} (harrow : tokens.head? ≠ some (.symbol .arrow))
    (hparen : tokens.head? ≠ some (.symbol .openParen))
    (hvalue : Reads readType tokens value rest) :
    Reads readType (.keyword "chan" :: tokens) (.chan .both value) rest := by
  obtain ⟨n, hvalue⟩ := hvalue
  refine .of_succ n fun fuel hfuel => ?_
  rw [readType, hvalue fuel hfuel]
  · rfl
  · rintro more rfl
    exact harrow rfl
  · rintro more rfl
    exact hparen rfl

theorem Reads.noResult {params : List Param} (hparams : Reads readParams tokens params rest)
    (hrest : Closes rest) : Reads readFunc (.symbol .openParen :: tokens) ⟨params, []⟩ rest := by
  obtain ⟨n, hparams⟩ := hparams
  refine .of_succ n fun fuel hfuel => ?_
  rw [readFunc, hparams fuel hfuel]
  cases hrest <;> rfl

theorem Reads.oneResult {params : List Param} {type : Expr} {last : Bool}
    (hparams : Reads readParams tokens params (type.tokens ++ rest)) (h : type.WellFormed last)
    (htype : Reads readType (type.tokens ++ rest) type rest) :
    Reads readFunc (.symbol .openParen :: tokens) ⟨params, [⟨none, type⟩]⟩ rest := by
  obtain ⟨n, hparams⟩ := hparams
  obtain ⟨m, htype⟩ := htype
  refine .of_succ (n + m) fun fuel hfuel => ?_
  have hstarts := Expr.startsType_tokens h rest
  rw [readFunc, hparams fuel (by omega)]
  simp only [Option.bind_eq_bind, Option.bind_some]
  -- Behind the parameters starts a type, which is no list of results.
  split
  · next heq =>
    simp only [Prod.mk.injEq] at heq
    rw [heq.2] at hstarts
    exact nomatch hstarts
  · next heq =>
    simp only [Prod.mk.injEq] at heq
    obtain ⟨rfl, rfl⟩ := heq
    simp [hstarts, htype fuel (by omega)]

theorem Reads.results {params results : List Param}
    (hparams : Reads readParams tokens params (.symbol .openParen :: more))
    (hresults : Reads readParams more results rest) :
    Reads readFunc (.symbol .openParen :: tokens) ⟨params, results⟩ rest := by
  obtain ⟨n, hparams⟩ := hparams
  obtain ⟨m, hresults⟩ := hresults
  refine .of_succ (n + m) fun fuel hfuel => ?_
  rw [readFunc, hparams fuel (by omega)]
  simp [hresults fuel (by omega)]

end Steps

mutual
/-- The reader finds an expression again: `readType` reads it off its tokens. -/
theorem Expr.reads_tokens {last : Bool} : ∀ (expr : Expr), expr.WellFormed last →
    ∀ rest : List Token, Closes rest → Reads readType (expr.tokens ++ rest) expr rest
  | .ident name, h, rest, hrest => Reads.name rfl hrest
  | .selector package name, h, rest, hrest => Reads.name rfl hrest
  | .array len elem, h, rest, hrest => by
    obtain ⟨n, helem⟩ := Expr.reads_tokens elem h rest hrest
    cases len with
    | none => exact .of_succ n fun fuel hfuel => by simp [Expr.tokens, readType, helem fuel hfuel]
    | some len =>
      exact .of_succ n fun fuel hfuel => by simp [Expr.tokens, readType, helem fuel hfuel]
  | .map key value, h, rest, hrest => by
    obtain ⟨n, hkey⟩ := Expr.reads_tokens key h.1 _ (.closeBracket (value.tokens ++ rest))
    obtain ⟨m, hvalue⟩ := Expr.reads_tokens value h.2 rest hrest
    refine .of_succ (n + m) fun fuel hfuel => ?_
    simp [Expr.tokens, readType, hkey fuel (by omega), expect, hvalue fuel (by omega)]
  | .chan dir value, h, rest, hrest => by
    have hvalue := Expr.reads_tokens value h rest hrest
    cases dir with
    | send =>
      obtain ⟨n, hvalue⟩ := hvalue
      exact .of_succ n fun fuel hfuel => by
        simp [Expr.tokens, ChanDir.tokens, readType, hvalue fuel hfuel]
    | recv =>
      obtain ⟨n, hvalue⟩ := hvalue
      exact .of_succ n fun fuel hfuel => by
        simp [Expr.tokens, ChanDir.tokens, readType, hvalue fuel hfuel]
    | both =>
      by_cases hrecv : value.isRecvChan = true
      · -- the parentheses keep the arrow of the value away from the keyword
        obtain ⟨n, hguarded⟩ := Expr.reads_tokens value h _ (.closeParen rest)
        exact .of_succ n fun fuel hfuel => by
          simp [Expr.tokens, ChanDir.tokens, readType, hrecv, hguarded fuel hfuel, expect]
      · simp only [Bool.not_eq_true] at hrecv
        have hwf : value.WellFormed false := h
        -- Without parentheses the value starts with neither an arrow nor a parenthesis.
        obtain ⟨harrow, hparen⟩ := Expr.head?_tokens_ne hwf hrecv rest
        simpa [Expr.tokens, ChanDir.tokens, hrecv] using hvalue.chan harrow hparen
  | .star elem, h, rest, hrest => by
    obtain ⟨n, helem⟩ := Expr.reads_tokens elem h rest hrest
    exact .of_succ n fun fuel hfuel => by simp [Expr.tokens, readType, helem fuel hfuel]
  | .func type, h, rest, hrest => by
    obtain ⟨n, htype⟩ := FuncType.reads_tokens type h rest hrest
    exact .of_succ n fun fuel hfuel => by simp [Expr.tokens, readType, htype fuel hfuel]
  | .ellipsis elem, h, rest, hrest => by
    obtain ⟨n, helem⟩ := Expr.reads_tokens elem h.2 rest hrest
    exact .of_succ n fun fuel hfuel => by simp [Expr.tokens, readType, helem fuel hfuel]
  | .index base arg, h, rest, hrest => by
    have harg := Expr.reads_tokens arg h.2.2 _ (.closeBracket rest)
    simpa [Expr.tokens, Expr.applied] using Reads.applied h.1 harg.lastType
  | .indexList base args, h, rest, hrest => by
    obtain ⟨hbase, -, hlength, hargs⟩ := h
    -- Two arguments at least, so the reader takes them for a list as well.
    have happlied : base.applied args = .indexList base args := by
      match args, hlength with
      | _ :: _ :: _, _ => rfl
    have hread := Reads.applied hbase
      (reads_exprsTokens args (by rintro rfl; simp at hlength) hargs rest)
    rw [happlied] at hread
    simpa [Expr.tokens] using hread

/-- The reader finds parameters and results again: `readFunc` reads them off their tokens. -/
theorem FuncType.reads_tokens : ∀ (type : FuncType), type.WellFormed →
    ∀ rest : List Token, Closes rest → Reads readFunc (type.tokens ++ rest) type rest
  | ⟨params, results⟩, h, rest, hrest => by
    obtain ⟨-, -, hparams, hresults⟩ := h
    have hhead := reads_paramsTokens params hparams
    -- The form of the results is known from what stands behind the parameters.
    match results, hresults with
    | [], _ => simpa [FuncType.tokens] using (hhead rest).noResult hrest
    | [⟨none, type⟩], hresults =>
      have htype := Expr.reads_tokens type hresults.2.1 rest hrest
      simpa [FuncType.tokens, paramsTokens] using (hhead _).oneResult hresults.2.1 htype
    | [⟨some name, type⟩], hresults =>
      have htail := reads_paramsTokens [⟨some name, type⟩] hresults rest
      simpa [FuncType.tokens] using (hhead _).results htail
    | first :: second :: others, hresults =>
      have htail := reads_paramsTokens (first :: second :: others) hresults rest
      simpa [FuncType.tokens] using (hhead _).results htail

theorem reads_exprsTokens : ∀ (exprs : List Expr), exprs ≠ [] → exprsWellFormed exprs →
    ∀ rest : List Token,
      Reads readTypes (exprsTokens exprs ++ .symbol .closeBracket :: rest) exprs rest
  | [expr], hne, h, rest => (Expr.reads_tokens expr h.1 _ (.closeBracket rest)).lastType
  | expr :: next :: exprs, hne, h, rest => by
    have htypes := reads_exprsTokens (next :: exprs) (List.cons_ne_nil _ _) h.2 rest
    simpa [exprsTokens] using (Expr.reads_tokens expr h.1 _ (.comma _)).consType htypes

theorem reads_paramsTokens {variadic : Bool} : ∀ (params : List Param),
    paramsWellFormed variadic params → ∀ rest : List Token,
      Reads readParams (paramsTokens params ++ .symbol .closeParen :: rest) params rest
  | [], h, rest => .of_succ 0 fun fuel hfuel => by simp [paramsTokens, readParams]
  | [⟨name, type⟩], h, rest =>
    (Expr.reads_tokens type h.2.1 _ (.closeParen rest)).lastParam h.2.1 name
  | ⟨name, type⟩ :: next :: params, h, rest => by
    have hparams := reads_paramsTokens (next :: params) h.2.2 rest
    have htype := Expr.reads_tokens type h.2.1 _
      (.comma (paramsTokens (next :: params) ++ .symbol .closeParen :: rest))
    simpa [paramsTokens] using htype.consParam h.2.1 name hparams
end

/-- A term is read back by `readTerm`. -/
theorem Expr.reads_term {expr : Expr} (h : expr.WellFormedTerm) {rest : List Token}
    (hrest : Closes rest) : Reads readTerm (expr.tokens ++ rest) expr rest := by
  unfold Expr.WellFormedTerm at h
  split at h
  · next elem =>
    obtain ⟨n, helem⟩ := Expr.reads_tokens elem h rest hrest
    exact ⟨n, fun fuel hfuel => by simp [Expr.tokens, readTerm, helem fuel hfuel]⟩
  · obtain ⟨n, hexpr⟩ := Expr.reads_tokens expr h rest hrest
    refine ⟨n, fun fuel hfuel => ?_⟩
    rw [readTerm, hexpr fuel hfuel]
    intro more hmore
    have hstarts := Expr.startsType_tokens h rest
    rw [hmore] at hstarts
    exact nomatch hstarts

/-- `readUnion` goes through the terms from the left and pays one unit of fuel for each term behind
    the first. -/
theorem Expr.readUnion_tokens {expr : Expr} (h : expr.WellFormedUnion) :
    ∀ rest, Closes rest → ∃ n terms, ∀ fuel, n ≤ fuel →
      readUnion (fuel + terms) (expr.tokens ++ rest) = readTerms fuel expr rest := by
  fun_induction Expr.WellFormedUnion expr with
  | case1 left right ih =>
    intro rest hrest
    -- The terms on the left are read first, and a bar and one term are left.
    obtain ⟨n, terms, hleft⟩ := ih h.1 (.symbol .bar :: (right.tokens ++ rest)) (.bar _)
    obtain ⟨m, hright⟩ := Expr.reads_term h.2 hrest
    refine ⟨n + m, terms + 1, fun fuel hfuel => ?_⟩
    calc readUnion (fuel + (terms + 1)) ((Expr.or left right).tokens ++ rest)
      _ = readUnion (fuel + 1 + terms) (left.tokens ++ .symbol .bar :: (right.tokens ++ rest)) := by
        rw [show fuel + (terms + 1) = fuel + 1 + terms by omega]
        simp [Expr.tokens]
      _ = readTerms (fuel + 1) left (.symbol .bar :: (right.tokens ++ rest)) :=
        hleft (fuel + 1) (by omega)
      _ = readTerms fuel (.or left right) rest := by
        simp [readTerms, hright fuel (by omega)]
  | case2 expr hunion =>
    intro rest hrest
    obtain ⟨n, hexpr⟩ := Expr.reads_term h hrest
    exact ⟨n, 0, fun fuel hfuel => by simp [readUnion, hexpr fuel hfuel]⟩

/-- The reader finds a union again: `readUnion` reads it off its tokens. -/
theorem Expr.reads_union {expr : Expr} (h : expr.WellFormedUnion) :
    Reads readUnion expr.tokens expr [] := by
  obtain ⟨n, terms, hunion⟩ := Expr.readUnion_tokens h [] .nil
  refine ⟨n + terms + 1, fun fuel hfuel => ?_⟩
  obtain ⟨k, rfl⟩ : ∃ k, fuel = k + 1 + terms := ⟨fuel - 1 - terms, by omega⟩
  have hread := hunion (k + 1) (by omega)
  rw [List.append_nil] at hread
  rw [hread, readTerms]
  nofun

/-- Values that are read off the same tokens are equal, as a reader with enough fuel has one
    answer. -/
theorem Reads.unique {α : Type} {read : Nat → List Token → Option (α × List Token)}
    {tokens rest rest' : List Token} {value value' : α} (h : Reads read tokens value rest)
    (h' : Reads read tokens value' rest') : value = value' := by
  obtain ⟨n, h⟩ := h
  obtain ⟨m, h'⟩ := h'
  have heq := (h (n + m) (by omega)).symm.trans (h' (n + m) (by omega))
  simp only [Option.some.injEq, Prod.mk.injEq] at heq
  exact heq.1

/-! ## Unambiguity -/

/-- Two well-formed type expressions, or two well-formed function types, have texts of the same
    tokens (`scan`) only if they are equal. -/
theorem scan_pieces_inj :
    (∀ a b : Expr, a.WellFormedUnion → b.WellFormedUnion →
      (scan (plainText a.pieces).toList = scan (plainText b.pieces).toList ↔ a = b)) ∧
    (∀ a b : FuncType, a.WellFormed → b.WellFormed →
      (scan (plainText a.pieces).toList = scan (plainText b.pieces).toList ↔ a = b)) := by
  constructor
  · intro a b ha hb
    -- The tokens of the text are those of the expression, and it is read back from them.
    rw [Expr.scan_text ha, Expr.scan_text hb]
    refine ⟨fun htokens => ?_, congrArg _⟩
    exact (Expr.reads_union ha).unique (htokens ▸ Expr.reads_union hb)
  · intro a b ha hb
    have hread : ∀ {f : FuncType}, f.WellFormed → Reads readFunc f.tokens f [] := by
      intro f hf
      simpa using FuncType.reads_tokens f hf [] .nil
    rw [FuncType.scan_text ha, FuncType.scan_text hb]
    refine ⟨fun htokens => ?_, congrArg _⟩
    exact (hread ha).unique (htokens ▸ hread hb)

namespace Adjacent

/-- The union `chan (<-chan T) | ~[8]T`. -/
def guarded : Expr :=
  .or (.chan .both (.chan .recv (.ident "T"))) (.tilde (.array (some 8) (.ident "T")))

/-- The union `chan<- chan T | ~[8]T`. -/
def sending : Expr :=
  .or (.chan .send (.chan .both (.ident "T"))) (.tilde (.array (some 8) (.ident "T")))

/-- The function type `(a []T) func(...T)`. -/
def named : FuncType :=
  ⟨[⟨some "a", .array none (.ident "T")⟩],
    [⟨none, .func ⟨[⟨none, .ellipsis (.ident "T")⟩], []⟩⟩]⟩

/-- The function type `(a[T]) func(...T)`. -/
def unnamed : FuncType :=
  ⟨[⟨none, .index (.ident "a") (.ident "T")⟩],
    [⟨none, .func ⟨[⟨none, .ellipsis (.ident "T")⟩], []⟩⟩]⟩

/-- The arrow belongs to the inner or to the outer channel, and the bracket to an array or to type
    arguments. -/
theorem scan_pieces_ne :
    (guarded.WellFormedUnion ∧ sending.WellFormedUnion ∧
      scan (plainText guarded.pieces).toList ≠ scan (plainText sending.pieces).toList) ∧
    (named.WellFormed ∧ unnamed.WellFormed ∧
      scan (plainText named.pieces).toList ≠ scan (plainText unnamed.pieces).toList) := by
  have hT : isIdentifier "T" = true := by decide +kernel
  have ha : isIdentifier "a" = true := by decide +kernel
  have hguarded : guarded.WellFormedUnion := ⟨hT, hT⟩
  have hsending : sending.WellFormedUnion := ⟨hT, hT⟩
  have hnamed : named.WellFormed := by
    simp [named, FuncType.WellFormed, UniformlyNamed, paramsWellFormed, Expr.WellFormed, hT, ha]
  have hunnamed : unnamed.WellFormed := by
    simp [unnamed, FuncType.WellFormed, UniformlyNamed, paramsWellFormed, Expr.WellFormed,
      Expr.isName, hT, ha]
  -- Equal tokens would make the two expressions equal, and they differ.
  refine ⟨⟨hguarded, hsending, fun h => ?_⟩, ⟨hnamed, hunnamed, fun h => ?_⟩⟩
  · exact nomatch (scan_pieces_inj.1 guarded sending hguarded hsending).1 h
  · exact nomatch (scan_pieces_inj.2 named unnamed hnamed hunnamed).1 h

end Adjacent

end IfaceGen
