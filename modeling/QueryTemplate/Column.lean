/-
# Columns

A column reference is a placeholder, by its last name.  As an entry of a clause it
becomes any number of expressions; inside an expression it becomes the first of them,
and stays as it is if there is none.

All requests of an expression follow from its text and from the tables of the query,
so they are a `Plan`.
-/

import QueryTemplate.Aggregate
import QueryTemplate.Error
import QueryTemplate.Lookup.Plan
import QueryTemplate.Sql.Reference
import QueryTemplate.Value

namespace QueryTemplate
namespace Column

/-- The expressions of a placeholder, for a query from the tables `sources`. -/
def lookup (sources : List String) (text : String) : Plan Sql.Expr (List Sql.Expr) :=
  let p := Placeholder.parse text
  (Plan.ask (.column p sources)).map (Aggregate.combine p.hint)

/-- The first of the expressions that belong to a name. -/
def firstOf (names : List String) (found : List (List Sql.Expr)) (name : String) :
    Option Sql.Expr :=
  ((names.zip found).lookup name).bind List.head?

/-- An expression with its column references replaced; each name is looked up once. -/
def substitute (sources : List String) (e : Sql.Expr) : Plan Sql.Expr Sql.Expr :=
  (Plan.all (e.placeholders.map (lookup sources))).map fun found =>
    e.substitute (firstOf e.placeholders found)

/-- The expressions that an entry of a clause becomes. -/
def expand (sources : List String) (e : Sql.Expr) : Plan Sql.Expr (List Sql.Expr) :=
  match e.columnName? with
  | some name => lookup sources name
  | none => (substitute sources e).map fun x => [x]

/-- The expressions that a resolver gives for a request. -/
def answer (rules : ValueRules) (r : Resolver) (earlier : List Request) (request : Request) :
    Except FillError (List Sql.Expr) :=
  match r.answer earlier request with
  | .error e => .error (.lookup e)
  | .ok values => (Value.exprs rules values).mapError .parse

/-- Makes the requests of a plan for columns. -/
def run {α : Type} (rules : ValueRules) (r : Resolver) (earlier : List Request)
    (plan : Plan Sql.Expr α) : Traced FillError α :=
  plan.run (answer rules r) r.delayed earlier

end Column
end QueryTemplate
