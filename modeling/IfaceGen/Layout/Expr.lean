import IfaceGen.Layout.Piece
import IfaceGen.Syntax.Expr

/-!
# The text of type expressions

Each expression has one text. A channel of receive-only channels is written with parentheses,
because an arrow behind `chan` would otherwise belong to it. Go wants either all or none of the
fields of a list named, so an unnamed field beside named ones is called `_`.
-/

namespace IfaceGen

open Piece

/-- Whether an expression is a receive-only channel, whose arrow a preceding `chan` would take. -/
def Expr.isRecvChan : Expr → Bool
  | .chan .recv _ => true
  | _ => false

/-- The keyword of a channel type with its arrow. -/
def ChanDir.pieces : ChanDir → List Piece
  | .both => [keyword "chan"]
  | .send => [keyword "chan", plain "<-"]
  | .recv => [plain "<-", keyword "chan"]

/-- Whether some field of a list has a name (`Param.name`). -/
def anyNamed (params : List Param) : Bool :=
  params.any (·.name.isSome)

/-- The name that stands before the type of a field, with a blank; in a list with names an
    underscore stands for a missing one. -/
def namePieces (inNamedList : Bool) : Option String → List Piece
  | some name => [plain name, plain " "]
  | none => if inNamedList then [plain "_", plain " "] else []

mutual
/-- The text of an expression, as pieces that say what they are (`Piece.hue`). -/
def Expr.pieces : Expr → List Piece
  | .ident name => [type name]
  | .selector package name => [qualifier package, plain ".", type name]
  | .array len elem =>
    let size := len.elim [] fun n => [literal (Nat.repr n.toNat)]
    [plain "["] ++ size ++ [plain "]"] ++ elem.pieces
  | .map key value => [keyword "map", plain "["] ++ key.pieces ++ [plain "]"] ++ value.pieces
  | .chan dir value =>
    let inner := value.pieces
    -- Without parentheses the arrow would belong to the outer channel.
    let guarded :=
      if dir = .both && value.isRecvChan then [plain "("] ++ inner ++ [plain ")"] else inner
    dir.pieces ++ [plain " "] ++ guarded
  | .star elem => plain "*" :: elem.pieces
  | .func func => keyword "func" :: func.pieces
  | .ellipsis elem => plain "..." :: elem.pieces
  | .index base arg => base.pieces ++ [plain "["] ++ arg.pieces ++ [plain "]"]
  | .indexList base args =>
    base.pieces ++ [plain "["] ++ separated (plain ", ") (exprsPieces args) ++ [plain "]"]
  | .or left right => left.pieces ++ [plain " ", plain "|", plain " "] ++ right.pieces
  | .tilde elem => plain "~" :: elem.pieces

/-- The text of parameters and results, as it stands behind `func` or behind the name of a method. A
    single result without a name needs no parentheses. -/
def FuncType.pieces : FuncType → List Piece
  | ⟨params, results⟩ =>
    let head := [plain "("] ++ separated (plain ", ") (paramsPieces (anyNamed params) params)
      ++ [plain ")"]
    let tail := separated (plain ", ") (paramsPieces (anyNamed results) results)
    match results with
    | [] => head
    | [⟨none, _⟩] => head ++ [plain " "] ++ tail
    | _ => head ++ [plain " ", plain "("] ++ tail ++ [plain ")"]

/-- The text of each expression, by `Expr.pieces`. -/
def exprsPieces : List Expr → List (List Piece)
  | [] => []
  | expr :: exprs => expr.pieces :: exprsPieces exprs

/-- The text of each field of a list: its `namePieces` and its type. -/
def paramsPieces (inNamedList : Bool) : List Param → List (List Piece)
  | [] => []
  | ⟨name, type⟩ :: params =>
    (namePieces inNamedList name ++ type.pieces) :: paramsPieces inNamedList params
end

/-- The text of a list of fields, with names for all of them or for none (`anyNamed`). -/
def fieldListPieces (params : List Param) : List Piece :=
  separated (plain ", ") (paramsPieces (anyNamed params) params)

end IfaceGen
