/-
# Sums and averages

Several columns become one expression: a sum in parentheses, or that sum divided by the
number of columns.

| columns | sum | average |
| --- | --- | --- |
| none | `0` | `0` |
| `a` | `a` | `(a / 1)` |
| `a`, `b`, `c` | `((a + b) + c)` | `(((a + b) + c) / 3)` |
-/

import QueryTemplate.Placeholder
import QueryTemplate.Sql.Expr

namespace QueryTemplate
namespace Aggregate

/-- Adds an expression; the new sum is in parentheses. -/
def add (total e : Sql.Expr) : Sql.Expr := .nested (.binary total .plus e)

/-- The sum of expressions, added up from the left. -/
def sum : List Sql.Expr → Sql.Expr
  | [] => .number "0"
  | e :: rest => rest.foldl add e

/-- The sum divided by the number of expressions. -/
def average (es : List Sql.Expr) : Sql.Expr :=
  if es.isEmpty then .number "0"
  else .nested (.binary (sum es) .divide (.number (toString es.length)))

/-- The expressions that a hint makes of the expressions of a placeholder. -/
def combine (hint : Option Hint) (es : List Sql.Expr) : List Sql.Expr :=
  match hint with
  | some .sum => [sum es]
  | some .avg => [average es]
  | some .all | none => es

end Aggregate
end QueryTemplate
