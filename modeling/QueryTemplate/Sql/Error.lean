/-
# Why a text is not SQL

A fault is noticed at a place, which its message names; at the end of the text there
is no place to name.
-/

import QueryTemplate.Sql.Token.Lexer

namespace QueryTemplate
namespace Sql

/-- Why a text was refused. -/
inductive SyntaxError where
  /-- The text has no tokens. -/
  | lex (error : LexError)
  /-- Something else was expected than the token that was found. -/
  | expected (what found : String) (place : Option Text.Position)
  /-- Another fault, with its wording. -/
  | fault (wording : String) (place : Option Text.Position)
  /-- The nesting is too deep. -/
  | tooDeep
deriving DecidableEq, Repr

namespace SyntaxError

/-- The wording of a place. -/
def placeText : Option Text.Position → String
  | none => ""
  | some p => " at Line: " ++ toString p.line ++ ", Column: " ++ toString p.column

/-- The wording of a fault. -/
def message (e : SyntaxError) : String :=
  "sql parser error: " ++
    match e with
    | .lex err => err.cause.message ++ placeText (some err.place)
    | .expected what found place => "Expected: " ++ what ++ ", found: " ++ found ++ placeText place
    | .fault wording place => wording ++ placeText place
    | .tooDeep => "recursion limit exceeded"

end SyntaxError
end Sql
end QueryTemplate
