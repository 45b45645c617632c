/-
# Reading SQL

A text is read as one plain `SELECT`, or as a condition.  A condition is put in
parentheses behind `SELECT * FROM T WHERE`, and what is read there is the answer; so
it is the expression in parentheses, unless the text closes them itself.

A failure carries the text that was being read, which for a condition is the whole
`SELECT` around it.
-/

import QueryTemplate.Sql.Grammar.Statement

namespace QueryTemplate
namespace Sql

/-- Why reading failed. -/
inductive ParseCause where
  | invalid (error : SyntaxError)
  /-- A condition turned into something other than one `SELECT`. -/
  | notSelect
  /-- A condition lost its `WHERE`. -/
  | noCondition
deriving DecidableEq, Repr

/-- A failure, and the text that was being read. -/
structure ParseError where
  cause : ParseCause
  sql : String
deriving DecidableEq, Repr

namespace ParseError

/-- The wording of a cause. -/
def causeMessage : ParseCause → String
  | .invalid e => e.message
  | .notSelect => "sql parser error: expected a single SELECT"
  | .noCondition => "sql parser error: expected a WHERE clause"

/-- The wording of a failure. -/
def message (e : ParseError) : String :=
  "SQL parse error: " ++ causeMessage e.cause ++ " <<" ++ e.sql ++ ">>"

end ParseError

/-- The statements of a text. -/
def parseStatements (d : Dialect) (sql : String) : Except SyntaxError (List Statement) :=
  match lexemes d sql with
  | .error e => .error (.lex e)
  | .ok ls => Grammar.statements d (Grammar.Item.ofLexemes none ls)

/-- The query that a text is, with its `SELECT`; `none` if the text is something else, such
as a set operation, another statement, or several statements. -/
def parseSelect (d : Dialect) (sql : String) : Except ParseError (Option (Query × Select)) :=
  match parseStatements d sql with
  | .error e => .error ⟨.invalid e, sql⟩
  | .ok [.query q] =>
    match q.body with
    | .select s => .ok (some (q, s))
    | .other _ => .ok none
  | .ok _ => .ok none

/-- The text that a condition is read in. -/
def conditionSql (text : String) : String :=
  "SELECT * FROM T WHERE (" ++ text ++ ")"

/-- The condition that a text is. -/
def parseCondition (d : Dialect) (text : String) : Except ParseError Expr :=
  match parseSelect d (conditionSql text) with
  | .error e => .error e
  | .ok none => .error ⟨.notSelect, conditionSql text⟩
  | .ok (some (_, s)) =>
    match s.selection with
    | some e => .ok e
    | none => .error ⟨.noCondition, conditionSql text⟩

end Sql
end QueryTemplate
