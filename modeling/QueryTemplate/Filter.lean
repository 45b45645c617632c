/-
# Further conditions

The rows that a query keeps are those that meet its own condition and one of the
further conditions.  A missing condition is `true` on either side.

| own | further | result |
| --- | --- | --- |
| `w` | | `(w) AND true` |
| `(w)` | `(p)` | `(w) AND (p)` |
| | `(p)`, `(q)` | `true AND ((p) OR (q))` |
-/

import QueryTemplate.Sql.Expr

namespace QueryTemplate
namespace Filter

open Sql (Expr)

/-- The own condition of a query, in one pair of parentheses. -/
def own : Option Expr → Expr
  | none => .boolean true
  | some (.nested e) => .nested e
  | some e => .nested e

/-- Any of the conditions, the first of which is given apart. -/
def anyOf (e : Expr) : List Expr → Expr
  | [] => e
  | next :: rest => .binary e .or (anyOf next rest)

/-- Further conditions as one. -/
def further : List Expr → Expr
  | [] => .boolean true
  | [e] => e
  | e :: rest => .nested (anyOf e rest)

/-- The own condition together with further ones. -/
def splice (selection : Option Expr) (conditions : List Expr) : Expr :=
  .binary (own selection) .and (further conditions)

end Filter
end QueryTemplate
