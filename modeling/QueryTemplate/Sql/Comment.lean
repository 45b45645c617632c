/-
# Text without comments

`sanitize` writes a text again with every comment as one blank, without the semicolon
that ends it, and without blank ends.  All other text is copied as it stands: each
token's characters are those between its two places.
-/

import QueryTemplate.Sql.Token.Lexer

namespace QueryTemplate
namespace Sql

/-- The characters before `stop`, of those that start at `p`. -/
def charsBefore (stop : Text.Position) (p : Text.Position) : List Char → List Char
  | [] => []
  | c :: rest => if p.before stop then c :: charsBefore stop (p.advance c) rest else []

/-- A token and the text that stands for it. -/
structure Piece where
  token : Token
  text : List Char
deriving DecidableEq, Repr

/-- The pieces of a text that starts at `p`, for lexemes that follow one another.  A comment
becomes one blank. -/
def pieces (p : Text.Position) (cs : List Char) : List Lexeme → List Piece
  | [] => []
  | l :: rest =>
    let text := charsBefore l.stop p cs
    let piece : Piece := if l.token.isComment then ⟨.space, [' ']⟩ else ⟨l.token, text⟩
    piece :: pieces (p.after text) (cs.drop text.length) rest

/-- The pieces in reverse order, without the last one that is not blank if it is a
semicolon. -/
def dropSemicolon : List Piece → List Piece
  | [] => []
  | p :: rest =>
    if p.token.isBlank then p :: dropSemicolon rest
    else if p.token == .symbol ";" then rest
    else p :: rest

/-- The text of pieces. -/
def joinPieces (ps : List Piece) : List Char := ps.flatMap Piece.text

/-- A text without comments, without the semicolon at its end and without blank ends. -/
def sanitize (d : Dialect) (sql : String) : Except LexError String :=
  (lexemes d sql).map fun ls =>
    let ps := (dropSemicolon (pieces .start sql.toList ls).reverse).reverse
    String.ofList (Text.trimList (joinPieces ps))

end Sql
end QueryTemplate
