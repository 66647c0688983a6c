import IfaceGen.Layout.File
import IfaceGen.Proofs.Imports.Build
import IfaceGen.Proofs.Layout.Tokens

/-!
# Heads that Go reads as array types

A declaration with a single type parameter starts with `type N[P C`. Where `P C` could be an
expression, Go takes it for the length of an array: in `type N[P *C]` the star multiplies, and in
`type N[P *C | Q]` the bar is an operator too. This can only be avoided by writing the constraint
as an interface, which is not done for an interface that embeds one element only.

## Key results

- `Expr.isExpression_tokens`: behind a name, a plain constraint that opens with a pointer is read as
  part of an expression
- `GoType.shape_spell`: a type and its spelling have the same shape
- `FileBuilder.build_readsAsArray_iff`: the descriptors whose declarations are read as array types
-/

namespace IfaceGen

/-! ## Expressions -/

/-- The tokens that Go reads as an operand: a name, with type arguments or without, behind stars. -/
inductive IsOperand : List Token → Prop
  | name {base : Expr} (isName : base.isName = true) : IsOperand base.tokens
  | instantiated {base : Expr} {args : List Expr} (isName : base.isName = true)
      (nonempty : args ≠ []) :
      IsOperand (base.tokens ++ .symbol .openBracket :: (exprsTokens args ++
        [.symbol .closeBracket]))
  | indirection {operand : List Token} (behind : IsOperand operand) :
      IsOperand (.symbol .star :: operand)

/-- The tokens that Go reads as an expression with stars and bars as operators between operands
    (`IsOperand`). -/
inductive IsExpression : List Token → Prop
  | operand {operand : List Token} (isOperand : IsOperand operand) : IsExpression operand
  | product {left right : List Token} (isLeft : IsExpression left) (isRight : IsExpression right) :
      IsExpression (left ++ .symbol .star :: right)
  | bitwiseOr {left right : List Token} (isLeft : IsExpression left)
      (isRight : IsExpression right) : IsExpression (left ++ .symbol .bar :: right)

/-- Whether an expression is made of named types, pointers and unions: there are no tildes and,
    apart from type arguments, no type literals. -/
def Expr.isPlain : Expr → Bool
  | .ident _ | .selector _ _ => true
  | .index base _ => base.isName
  | .indexList base args => base.isName && !args.isEmpty
  | .star elem => elem.isPlain
  | .or left right => left.isPlain && right.isPlain
  | _ => false

/-- What the text of a type starts with, as far as it matters behind a name. -/
inductive Opening where
  | name
  /-- A star and a name. -/
  | pointer
  | other
deriving DecidableEq, Repr

/-- What a text starts with that has a star in front. -/
def Opening.behindStar : Opening → Opening
  | .name => .pointer
  | _ => .other

/-- What the text of an expression starts with. -/
def Expr.opening : Expr → Opening
  | .ident _ | .selector _ _ | .index _ _ | .indexList _ _ => .name
  | .star elem => elem.opening.behindStar
  | .or left _ => left.opening
  | _ => .other

namespace Expr

/-- A plain type (`Expr.isPlain`) is read as an expression, also behind stars. -/
theorem isExpression_append (stars : List Token)
    (hstars : ∀ operand, IsOperand operand → IsOperand (stars ++ operand)) :
    (expr : Expr) → expr.isPlain = true → IsExpression (stars ++ expr.tokens)
  | .ident _, _ | .selector _ _, _ => .operand (hstars _ (.name rfl))
  | .index base arg, h => .operand (hstars _ (.instantiated h (List.cons_ne_nil arg [])))
  | .indexList base args, h => by
    rw [isPlain, Bool.and_eq_true, Bool.not_eq_true', List.isEmpty_eq_false_iff] at h
    exact .operand (hstars _ (.instantiated h.1 h.2))
  -- One star more stands in front of the operand.
  | .star elem, h => by
    have hmore : ∀ operand, IsOperand operand → IsOperand (stars ++ [.symbol .star] ++ operand) :=
      fun operand hoperand => by
        rw [List.append_assoc]
        exact hstars _ (.indirection hoperand)
    have helem := isExpression_append (stars ++ [.symbol .star]) hmore elem h
    rwa [List.append_assoc] at helem
  -- The stars belong to the first operand only.
  | .or left right, h => by
    rw [isPlain, Bool.and_eq_true] at h
    rw [tokens, ← List.append_assoc]
    exact .bitwiseOr (isExpression_append stars hstars left h.1)
      (isExpression_append [] (fun _ hoperand => hoperand) right h.2)

theorem isExpression_of_isPlain {expr : Expr} (h : expr.isPlain = true) :
    IsExpression expr.tokens :=
  isExpression_append [] (fun _ hoperand => hoperand) expr h

/-- Behind a name, the star of the first pointer multiplies: the tokens are an `IsExpression`. -/
theorem isExpression_tokens (param : String) : (expr : Expr) → expr.isPlain = true →
    expr.opening = .pointer → IsExpression (.ident param :: expr.tokens)
  | .star elem, hplain, _ => by
    have hparam : IsOperand (Expr.ident param).tokens := .name rfl
    exact .product (.operand hparam) (isExpression_of_isPlain hplain)
  | .or left right, hplain, hopening => by
    rw [isPlain, Bool.and_eq_true] at hplain
    exact .bitwiseOr (isExpression_tokens param left hplain.1 hopening)
      (isExpression_of_isPlain hplain.2)

/-! ## Spelling -/

theorem isPlain_foldl_or (first : Expr) (rest : List Expr) :
    (rest.foldl .or first).isPlain = (first.isPlain && rest.all isPlain) := by
  induction rest generalizing first with
  | nil => exact (Bool.and_true _).symm
  | cons next rest ih => rw [List.foldl_cons, ih, isPlain, List.all_cons, Bool.and_assoc]

theorem opening_foldl_or (first : Expr) (rest : List Expr) :
    (rest.foldl .or first).opening = first.opening := by
  induction rest generalizing first with
  | nil => rfl
  | cons next rest ih => rw [List.foldl_cons, ih, opening]

/-- A generic type applied to its arguments (`Expr.applied`) is as plain as any name. -/
theorem isPlain_applied {base : Expr} (h : base.isName = true) (args : List Expr) :
    (base.applied args).isPlain = true ∧ (base.applied args).opening = .name := by
  cases args with
  | nil =>
    cases base with
    | ident _ | selector _ _ => exact ⟨rfl, rfl⟩
    | _ => cases h
  | cons first rest =>
    cases rest with
    | nil => exact ⟨h, rfl⟩
    | cons next rest => exact ⟨Bool.and_eq_true_iff.2 ⟨h, rfl⟩, rfl⟩

end Expr

theorem TypeName.isName_spell (qualify : Qualifier) (name : TypeName) :
    (name.spell qualify).isName = true := by
  unfold TypeName.spell
  split <;> rfl

mutual
/-- Whether a type is made of named types, pointers and unions without tildes; its spelling is
    `Expr.isPlain` then. -/
def GoType.isPlain : GoType → Bool
  | .basic _ | .typeParam _ | .named _ _ | .alias _ _ | .interface [] [] => true
  | .pointer elem => elem.isPlain
  | .union terms => termsPlain terms
  | _ => false

/-- Whether all terms are plain. -/
def termsPlain : List Term → Bool
  | [] => true
  | ⟨tilde, type⟩ :: terms => !tilde && type.isPlain && termsPlain terms
end

mutual
/-- What the spelling of a type starts with. -/
def GoType.opening : GoType → Opening
  | .basic _ | .typeParam _ | .named _ _ | .alias _ _ | .interface [] [] => .name
  | .pointer elem => elem.opening.behindStar
  | .union terms => termsOpening terms
  | _ => .other

/-- What the spelling of the first term starts with. -/
def termsOpening : List Term → Opening
  | ⟨false, type⟩ :: _ => type.opening
  | _ => .other
end

mutual
/-- The spelling of a type is plain if the type is, and has the same `Opening`. -/
theorem GoType.shape_spell {qualify : Qualifier} : (type : GoType) → {expr : Expr} →
    type.spell qualify = .ok expr → expr.isPlain = type.isPlain ∧ expr.opening = type.opening
  -- A name, of a type parameter or of a predeclared type.
  | .basic _, expr, h | .typeParam _, expr, h | .interface [] [], expr, h => by
    rw [GoType.spell] at h
    cases h
    exact ⟨rfl, rfl⟩
  -- Type literals are not plain, and start with a bracket or a keyword.
  | .array _ _, expr, h | .slice _, expr, h | .chan _ _, expr, h | .func _, expr, h => by
    simp only [GoType.spell, bind_eq_ok, pure_eq_ok] at h
    obtain ⟨_, -, rfl⟩ := h
    exact ⟨rfl, rfl⟩
  | .map _ _, expr, h => by
    simp only [GoType.spell, bind_eq_ok, pure_eq_ok] at h
    obtain ⟨_, -, _, -, rfl⟩ := h
    exact ⟨rfl, rfl⟩
  -- A star in front of what the element starts with.
  | .pointer elem, expr, h => by
    simp only [GoType.spell, bind_eq_ok, inside_eq_ok, pure_eq_ok] at h
    obtain ⟨spelled, helem, rfl⟩ := h
    obtain ⟨hplain, hopening⟩ := elem.shape_spell helem
    exact ⟨hplain, congrArg Opening.behindStar hopening⟩
  | .interface (_ :: _) _, expr, h | .interface [] (_ :: _), expr, h
  | .struct _, expr, h | .unknown, expr, h => by
    simp only [GoType.spell, reduceCtorEq] at h
  | .named name args, expr, h | .alias name args, expr, h => by
    simp only [GoType.spell, bind_eq_ok, pure_eq_ok] at h
    obtain ⟨spelled, -, rfl⟩ := h
    exact Expr.isPlain_applied (name.isName_spell qualify) spelled
  -- A union is plain if all terms are, and starts like the first one.
  | .union terms, expr, h => by
    simp only [GoType.spell, bind_eq_ok] at h
    obtain ⟨spelled, hterms, h⟩ := h
    obtain ⟨hplain, hopening⟩ := shape_spellTerms terms hterms
    cases spelled with
    | nil => exact nomatch h
    | cons first rest =>
      cases h
      exact ⟨(Expr.isPlain_foldl_or first rest).trans hplain,
        (Expr.opening_foldl_or first rest).trans (hopening first rfl)⟩

/-- All terms are spelled plain (`Expr.isPlain`) if they are, and the first starts with the same
    `Opening`. -/
theorem shape_spellTerms {qualify : Qualifier} {index : Nat} : (terms : List Term) →
    {exprs : List Expr} → spellTerms qualify index terms = .ok exprs →
    exprs.all Expr.isPlain = termsPlain terms ∧
      ∀ first ∈ exprs.head?, first.opening = termsOpening terms
  | [], exprs, h => by
    rw [spellTerms] at h
    cases h
    exact ⟨rfl, nofun⟩
  | ⟨tilde, type⟩ :: terms, exprs, h => by
    simp only [spellTerms, bind_eq_ok, inside_eq_ok, pure_eq_ok] at h
    obtain ⟨spelled, htype, others, hterms, rfl⟩ := h
    obtain ⟨hplain, hopening⟩ := type.shape_spell htype
    obtain ⟨hothers, -⟩ := shape_spellTerms terms hterms
    rw [List.all_cons, hothers, termsPlain]
    -- A tilde opens the term and is plain; otherwise its type opens it.
    cases tilde with
    | false => exact ⟨by simp [hplain], by simp [hopening, termsOpening]⟩
    | true => exact ⟨by simp [Expr.isPlain], by simp [Expr.opening, termsOpening]⟩
end

/-! ## Constraints -/

/-- The type that `GoType.spellConstraint` writes for a constraint. -/
def GoType.unwrapped : GoType → GoType
  | .interface [element] [] => element
  | constraint => constraint

theorem GoType.spellConstraint_eq (qualify : Qualifier) (constraint : GoType) :
    constraint.spellConstraint qualify = constraint.unwrapped.spell qualify := by
  unfold GoType.spellConstraint
  split
  · rfl
  · rename_i hmore
    rw [GoType.unwrapped]
    exact hmore

/-- A descriptor that has a single type parameter, with a name, and a plain constraint whose
    `opening` is a pointer. -/
def StructDescriptor.OpensWithPointer (descriptor : StructDescriptor) : Prop :=
  ∃ param, descriptor.typeParams = [param] ∧ param.name ≠ "" ∧
    param.constraint.unwrapped.isPlain = true ∧ param.constraint.unwrapped.opening = .pointer

/-- Whether the head of a declaration has the form `type N[P *C]` or `type N[P *C | Q]`. -/
def InterfaceDecl.ReadsAsArray (decl : InterfaceDecl) : Prop :=
  ∃ param constraint, decl.typeParams = [⟨some param, constraint⟩] ∧
    constraint.isPlain = true ∧ constraint.opening = .pointer

/-- The type parameters that `StructDescriptor.interface` declares are those of the descriptor, with
    their constraints. -/
theorem StructDescriptor.typeParams_interface {descriptor : StructDescriptor}
    {qualify : Qualifier} {name : String} {decl : InterfaceDecl}
    (h : descriptor.interface qualify name = .ok decl) :
    List.Forall₂ (fun (param : TypeParam) written => ∃ constraint,
        param.constraint.spellConstraint qualify = .ok constraint ∧
          written = Param.ofName param.name constraint)
      descriptor.typeParams decl.typeParams := by
  simp only [StructDescriptor.interface, bind_eq_ok, pure_eq_ok] at h
  obtain ⟨typeParams, hparams, _, -, rfl⟩ := h
  rw [mapM_eq_ok] at hparams
  -- The positions serve only to report failures.
  rw [← List.zipIdx_map_fst 0 descriptor.typeParams, List.forall₂_map_left_iff]
  refine hparams.imp fun indexed written hwritten => ?_
  simp only [bind_eq_ok, mapError_eq_ok, inside_eq_ok, pure_eq_ok] at hwritten
  obtain ⟨constraint, hconstraint, hname⟩ := hwritten
  exact ⟨constraint, hconstraint, hname.symm⟩

/-- `Param.ofName` leaves out only a name that is empty. -/
theorem Param.ofName_eq_iff {name param : String} {type constraint : Expr} :
    Param.ofName name type = ⟨some param, constraint⟩ ↔
      name ≠ "" ∧ name = param ∧ type = constraint := by
  rw [Param.ofName, Param.mk.injEq]
  by_cases hname : name = ""
  · subst hname
    simp
  · have hempty : ¬ name.isEmpty = true := fun h => hname (String.isEmpty_iff.1 h)
    rw [if_neg hempty, Option.some_inj]
    exact (and_iff_right hname).symm

/-- A declaration is read as an array type (`ReadsAsArray`) if and only if its descriptor opens with
    a pointer. -/
theorem StructDescriptor.readsAsArray_iff {descriptor : StructDescriptor} {qualify : Qualifier}
    {name : String} {decl : InterfaceDecl} (h : descriptor.interface qualify name = .ok decl) :
    decl.ReadsAsArray ↔ descriptor.OpensWithPointer := by
  have hparams := typeParams_interface h
  -- The single type parameter of the one side corresponds to that of the other, and the shapes of
  -- the constraints agree.
  constructor
  · rintro ⟨param, constraint, hdecl, hplain, hopening⟩
    rw [hdecl] at hparams
    obtain ⟨typeParam, rest, ⟨spelled, hspelled, hwritten⟩, hrest, htypeParams⟩ :=
      List.forall₂_cons_right_iff.1 hparams
    obtain ⟨hname, -, rfl⟩ := Param.ofName_eq_iff.1 hwritten.symm
    rw [GoType.spellConstraint_eq] at hspelled
    obtain ⟨hplainEq, hopeningEq⟩ := typeParam.constraint.unwrapped.shape_spell hspelled
    cases hrest
    exact ⟨typeParam, htypeParams, hname, hplainEq ▸ hplain, hopeningEq ▸ hopening⟩
  · rintro ⟨typeParam, htypeParams, hname, hplain, hopening⟩
    rw [htypeParams] at hparams
    obtain ⟨written, rest, ⟨spelled, hspelled, hwritten⟩, hrest, hdecl⟩ :=
      List.forall₂_cons_left_iff.1 hparams
    rw [GoType.spellConstraint_eq] at hspelled
    obtain ⟨hplainEq, hopeningEq⟩ := typeParam.constraint.unwrapped.shape_spell hspelled
    cases hrest
    rw [hwritten, Param.ofName_eq_iff.2 ⟨hname, rfl, rfl⟩] at hdecl
    exact ⟨typeParam.name, spelled, hdecl, hplainEq ▸ hplain, hopeningEq ▸ hopening⟩

/-! ## Declarations -/

theorem plainText_append (front back : List Piece) :
    plainText (front ++ back) = plainText front ++ plainText back := by
  refine String.toList_inj.1 ?_
  rw [String.toList_append]
  exact chars_append front back

/-- The text of a declaration with one type parameter starts with its name, the type parameter and
    the constraint, whatever the `LayoutStyle`. -/
theorem InterfaceDecl.text_of_singleParam {decl : InterfaceDecl} {param : String}
    {constraint : Expr} (h : decl.typeParams = [⟨some param, constraint⟩]) (style : LayoutStyle) :
    ∃ body, plainText (decl.pieces style) =
      "type " ++ decl.name ++ "[" ++ param ++ " " ++ plainText constraint.pieces ++
        "] interface" ++ body := by
  have hpieces : ∃ body, decl.pieces style =
      [.keyword "type", .plain " ", .type decl.name, .plain "[", .plain param, .plain " "] ++
        constraint.pieces ++ [.plain "]", .plain " ", .keyword "interface"] ++ body := by
    simp only [pieces, h]
    -- The body takes one line when there are no methods; the head is the same.
    split
    · exact ⟨_, by simp [fieldListPieces, paramsPieces, separated, namePieces]; rfl⟩
    · exact ⟨_, by simp [fieldListPieces, paramsPieces, separated, namePieces]; rfl⟩
  obtain ⟨body, hbody⟩ := hpieces
  refine ⟨plainText body, ?_⟩
  rw [hbody, plainText_append, plainText_append, plainText_append]
  simp [plainText, String.join, String.append_assoc]

/-- Which declarations of a file made by `FileBuilder.build` Go reads as array types. Between the
    brackets stands an expression then. -/
theorem FileBuilder.build_readsAsArray_iff {builder : FileBuilder} {qualify : Qualifier}
    {file : File} (h : builder.build qualify = .ok file) :
    List.Forall₂ (fun descriptor decl => decl.name = builder.interfaceName descriptor ∧
        (decl.ReadsAsArray ↔ descriptor.OpensWithPointer)) builder.structs file.decls ∧
      ∀ decl ∈ file.decls, decl.ReadsAsArray → ∃ (param : String) (constraint : Expr),
        IsExpression (.ident param :: constraint.tokens) ∧
        ∀ style, ∃ body, plainText (decl.pieces style) =
          "type " ++ decl.name ++ "[" ++ param ++ " " ++ plainText constraint.pieces ++
            "] interface" ++ body := by
  refine ⟨?_, ?_⟩
  · simp only [FileBuilder.build, bind_eq_ok, pure_eq_ok] at h
    obtain ⟨decls, hdecls, rfl⟩ := h
    rw [mapM_eq_ok] at hdecls
    refine hdecls.imp fun descriptor decl hdecl => ?_
    exact ⟨(StructDescriptor.interface_eq_ok hdecl).1, StructDescriptor.readsAsArray_iff hdecl⟩
  · -- A head that reads as an array length does so because its constraint is an expression.
    rintro decl - ⟨param, constraint, hparams, hplain, hopening⟩
    exact ⟨param, constraint, constraint.isExpression_tokens param hplain hopening,
      decl.text_of_singleParam hparams⟩

/-! ## A shop -/

namespace Shop

/-- The package of the shop. -/
def ref : PackageRef := ⟨"example.com/shop", "shop"⟩

/-- A struct whose type parameter is constrained by `interface{ *Counter }`. -/
def cart : StructDescriptor where
  pkg := ref
  name := "Cart"
  typeParams := [⟨"P", .interface [.pointer (.named ⟨some ref, "Counter"⟩ [])] []⟩]
  methods := [⟨"Add", ⟨[⟨"item", .typeParam "P"⟩], [], false⟩⟩]

/-- The builder of the file with the interface of the struct `cart`. -/
def builder : FileBuilder :=
  ⟨"mocks", "Iface", [cart], [⟨"example.com/shop", "shop", "shop"⟩]⟩

/-- The names by which the file knows packages. -/
def qualify : Qualifier := fun ref => some ref.name

/-- The declaration of the interface. -/
def cartIface : InterfaceDecl where
  name := "CartIface"
  typeParams := [⟨some "P", .star (.selector "shop" "Counter")⟩]
  methods := [⟨"Add", ⟨[⟨some "item", .ident "P"⟩], []⟩⟩]

/-- The file with the declaration `cartIface`. -/
def file : File := ⟨"mocks", [⟨none, "example.com/shop"⟩], [cartIface]⟩

theorem build_builder : builder.build qualify = .ok file := rfl

/-- The constraint of `cart` is written without the interface around it, so that the declaration is
    read as one of an array. -/
theorem readsAsArray_file : builder.build qualify = .ok file ∧ cart.OpensWithPointer ∧
    ∀ decl ∈ file.decls, decl.ReadsAsArray := by
  have hcart : cart.OpensWithPointer :=
    ⟨_, rfl, String.isEmpty_eq_false_iff.1 rfl, rfl, rfl⟩
  obtain ⟨hdecls, -⟩ := FileBuilder.build_readsAsArray_iff build_builder
  obtain ⟨-, hiff⟩ := (List.forall₂_cons.1 hdecls).1
  refine ⟨build_builder, hcart, fun decl hdecl => ?_⟩
  rw [List.mem_singleton.1 hdecl]
  exact hiff.2 hcart

/-- Not every declaration of a built file is read as that of an interface. -/
theorem exists_build_readsAsArray : ∃ builder qualify file,
    FileBuilder.build builder qualify = .ok file ∧ ∃ decl ∈ file.decls, decl.ReadsAsArray ∧
      plainText (decl.pieces ⟨"\t"⟩) =
        "type CartIface[P *shop.Counter] interface \x7b\n\tAdd(item P)\n\x7d" := by
  refine ⟨builder, qualify, file, build_builder, cartIface, List.mem_cons_self, ?_, ?_⟩
  · exact ⟨"P", .star (.selector "shop" "Counter"), rfl, rfl, rfl⟩
  · decide +kernel

end Shop

end IfaceGen
