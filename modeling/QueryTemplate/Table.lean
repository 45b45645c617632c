/-
# Tables

Every table of `FROM`, joined ones included, is a placeholder by its dotted name.  The
values of all of them are sorted into tables and conditions: a value that is a name is a
table, and any other value is a condition on the rows.

| values | tables | conditions |
| --- | --- | --- |
| `users`, `age > 18`, `"users"`, `orders` | `users`, `orders` | `age > 18` |

A table is kept where it is first seen; conditions may repeat.
-/

import QueryTemplate.Error
import QueryTemplate.Lookup.Plan
import QueryTemplate.Sql.Query
import QueryTemplate.Value

namespace QueryTemplate
namespace Table

/-- The name that a relation is looked up by. -/
def placeholder : Sql.Relation → Except FillError String
  | .table name _ _ => .ok (String.intercalate "." (name.map Sql.Ident.text))
  | .other parts => .error (.notTable (Sql.Part.allSql parts))

/-- The names of relations, or the first that has none. -/
def relationPlaceholders : List Sql.Relation → Except FillError (List String)
  | [] => .ok []
  | r :: rest =>
    match placeholder r with
    | .error e => .error e
    | .ok name => (relationPlaceholders rest).map (name :: ·)

/-- The names of all tables of a `FROM` list. -/
def placeholders (sources : List Sql.Source) : Except FillError (List String) :=
  relationPlaceholders (sources.flatMap Sql.Source.relations)

/-- The values that a resolver gives for a request. -/
def answer (r : Resolver) (earlier : List Request) (request : Request) :
    Except FillError (List String) :=
  (r.answer earlier request).mapError .lookup

end Table

/-- The tables of a query, and conditions on its rows. -/
structure Tables where
  names : List Sql.Ident
  conditions : List String
deriving DecidableEq, Repr, Inhabited

namespace Tables

/-- Neither tables nor conditions. -/
def empty : Tables := ⟨[], []⟩

/-- Sorts in one value. -/
def push (t : Tables) (raw : String) : Tables :=
  let text := Text.trim raw
  match Value.ident? text with
  | some name =>
    if t.names.any (·.text == name.text) then t else { t with names := t.names ++ [name] }
  | none => { t with conditions := t.conditions ++ [text] }

/-- Sorts values. -/
def ofValues (values : List String) : Tables := values.foldl push empty

/-- Looks up tables by their names. -/
def plan (names : List String) : Plan String Tables :=
  (Plan.all (names.map fun n => Plan.ask (.table n))).map fun found => ofValues found.flatten

/-- Makes the requests for the tables of a `FROM` list. -/
def resolve (r : Resolver) (earlier : List Request) (sources : List Sql.Source) :
    Traced FillError Tables :=
  match Table.placeholders sources with
  | .error e => ⟨[], .error e⟩
  | .ok names => (plan names).run (Table.answer r) r.delayed earlier

/-- The text of each table. -/
def texts (t : Tables) : List String := t.names.map Sql.Ident.text

/-- The conditions, read as SQL. -/
def parseConditions (d : Sql.Dialect) (t : Tables) : Except Sql.ParseError (List Sql.Expr) :=
  t.conditions.mapM fun text => Sql.parseCondition d (escapeOperators text)

/-- A `FROM` list of tables alone. -/
def sources (names : List Sql.Ident) : List Sql.Source := names.map Sql.Source.ofTable

end Tables
end QueryTemplate
