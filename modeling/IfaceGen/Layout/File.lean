import IfaceGen.Layout.Expr
import IfaceGen.Layout.Signal
import IfaceGen.Syntax.File
import IfaceGen.Text.Quoted

/-!
# The text of source files

A package clause, a blank line, the imports, and a blank line before each declaration. Several
imports stand in parentheses, one on a line; each method stands on a line of its own.
-/

namespace IfaceGen

open Piece

/-- The text of an import without the keyword: its local name, if it is written, and its quoted
    path. -/
def Import.pieces (spec : Import) : List Piece :=
  let path := literal (Text.quote spec.path)
  match spec.name with
  | some name => [qualifier name, plain " ", path]
  | none => [path]

/-- The text of all imports: a single one on the line of the keyword, several in parentheses. -/
def importsPieces (style : LayoutStyle) : List Import → List Piece
  | [spec] => [keyword "import", plain " "] ++ spec.pieces
  | specs =>
    [keyword "import", plain " ", plain "("]
      ++ specs.flatMap (fun spec => [newline, plain style.indent] ++ spec.pieces)
      ++ [newline, plain ")"]

/-- The text of a method. -/
def MethodSpec.pieces (method : MethodSpec) : List Piece :=
  plain method.name :: method.type.pieces

/-- The text of a declaration, with one method to a line. -/
def InterfaceDecl.pieces (style : LayoutStyle) (decl : InterfaceDecl) : List Piece :=
  let typeParams :=
    if decl.typeParams.isEmpty then []
    else [plain "["] ++ fieldListPieces decl.typeParams ++ [plain "]"]
  let head := [keyword "type", plain " ", type decl.name] ++ typeParams
    ++ [plain " ", keyword "interface"]
  if decl.methods.isEmpty then head ++ [plain "\x7b\x7d"]
  else
    head ++ [plain " ", plain "\x7b"]
      ++ decl.methods.flatMap (fun method => [newline, plain style.indent] ++ method.pieces)
      ++ [newline, plain "\x7d"]

/-- The text of a file: the package clause, the imports and the declarations, with empty lines
    between them. -/
def File.pieces (style : LayoutStyle) (file : File) : List Piece :=
  let imports :=
    if file.imports.isEmpty then [] else [newline, newline] ++ importsPieces style file.imports
  [keyword "package", plain " ", plain file.package] ++ imports
    ++ file.decls.flatMap (fun decl => [newline, newline] ++ decl.pieces style)
    ++ [newline]

/-- The plain text of a file: its `File.pieces` without colours. -/
def File.text (style : LayoutStyle) (file : File) : String :=
  plainText (file.pieces style)

/-- What is printed of a file on a stream, which may show colours or not: its `File.pieces`, sent to
    `render` as signals. -/
def File.printed (style : LayoutStyle) (colored : Bool) (file : File) : String :=
  render colored [] ((file.pieces style).flatMap Piece.signals)

end IfaceGen
