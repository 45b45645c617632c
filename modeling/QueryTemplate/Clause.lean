/-
# Clauses

What the columns of a template make of its clauses.

| clause | entry | becomes |
| --- | --- | --- |
| `SELECT` | wildcard | itself |
| `SELECT` | other | as many entries as expressions |
| `WHERE`, `HAVING` | condition | one condition |
| `GROUP BY` | expression | as many expressions |
| `ORDER BY` | term | as many terms, each with the direction of the term |

An entry of `SELECT` that is no column gets its own text as its alias if it has none;
when one entry with an alias becomes several, each column among them gets an alias that
joins both names.
-/

import QueryTemplate.Column
import QueryTemplate.Sql.Query

namespace QueryTemplate
namespace Clause

open Sql (Expr Ident SelectItem GroupBy OrderBy)

/-- The alias of one of the `count` expressions that an entry of `SELECT` becomes. -/
def aliasOf (count : Nat) (given : Option Ident) (e : Expr) : Option Ident :=
  match e.columnName?, given with
  | some name, some a =>
    if 1 < count then some (.quoted (a.text ++ ": " ++ name)) else some a
  | some _, none => none
  | none, some a => some a
  | none, none => some (.quoted e.sql)

/-- The entries that an entry of `SELECT` becomes. -/
def selectItem (sources : List String) : SelectItem → Plan Expr (List SelectItem)
  | .wildcard parts => .ofValue [.wildcard parts]
  | .column e given => (Column.expand sources e).map fun es =>
      es.map fun x => .column x (aliasOf es.length given x)

/-- The `SELECT` list. -/
def projection (sources : List String) (items : List SelectItem) : Plan Expr (List SelectItem) :=
  (Plan.all (items.map (selectItem sources))).map List.flatten

/-- A condition, if there is one. -/
def condition (sources : List String) : Option Expr → Plan Expr (Option Expr)
  | none => .ofValue none
  | some e => (Column.substitute sources e).map some

/-- The `GROUP BY` clause. -/
def groupBy (sources : List String) : GroupBy → Plan Expr GroupBy
  | .all modifiers => .ofValue (.all modifiers)
  | .terms es modifiers => (Plan.all (es.map (Column.expand sources))).map fun found =>
      .terms found.flatten modifiers

/-- The terms that a term of `ORDER BY` becomes. -/
def orderTerm (sources : List String) (t : Sql.OrderTerm) : Plan Expr (List Sql.OrderTerm) :=
  (Column.expand sources t.expr).map fun es => es.map fun e => { t with expr := e }

/-- The `ORDER BY` clause, if there is one. -/
def orderBy (sources : List String) : Option OrderBy → Plan Expr (Option OrderBy)
  | none => .ofValue none
  | some o => (Plan.all (o.terms.map (orderTerm sources))).map fun found =>
      some { o with terms := found.flatten }

end Clause

/-- The clauses of a query whose columns are looked up. -/
structure Clauses where
  projection : List Sql.SelectItem
  selection : Option Sql.Expr
  having : Option Sql.Expr
  groupBy : Sql.GroupBy
  orderBy : Option Sql.OrderBy
deriving Inhabited

namespace Clauses

/-- The clauses of a query. -/
def ofQuery (q : Sql.Query) (s : Sql.Select) : Clauses :=
  ⟨s.projection, s.selection, s.having, s.groupBy, q.orderBy⟩

/-- All clauses with their columns looked up, in the order of the fields. -/
def fill (sources : List String) (c : Clauses) : Plan Sql.Expr Clauses :=
  ((Clause.projection sources c.projection).both <|
    (Clause.condition sources c.selection).both <|
    (Clause.condition sources c.having).both <|
    (Clause.groupBy sources c.groupBy).both <|
    Clause.orderBy sources c.orderBy).map
  fun (p, w, h, g, o) => ⟨p, w, h, g, o⟩

end Clauses
end QueryTemplate
