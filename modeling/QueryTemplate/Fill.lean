/-
# Filling a template

A template is a `SELECT` whose tables and columns are placeholders.  It is filled in
these steps; the first failure ends it.

| step | requests |
| --- | --- |
| read the text without its comments | |
| look up the tables of `FROM` | one for each table |
| look up the columns of the clauses | those of `SELECT`, `WHERE`, `HAVING`, `GROUP BY`, `ORDER BY` |
| read the conditions that came with the tables | |
| write `FROM`, `WHERE` and `LIMIT` anew | |

A query that must not give more than so many rows gets a `LIMIT` of that many, or keeps
its own if that is a smaller number.  Other clauses that skip or fetch rows stay.
-/

import QueryTemplate.Clause
import QueryTemplate.Decimal.Unsigned
import QueryTemplate.Filter
import QueryTemplate.Options
import QueryTemplate.Sql.Comment
import QueryTemplate.Table

namespace QueryTemplate

/-! ## The limit on rows -/

namespace RowLimit

/-- The number in a `LIMIT` clause, if it is a number of at most 64 bits. -/
def current? : Option Sql.Expr → Option Nat
  | some (.literal (.number digits _)) => (Decimal.unsigned digits).toOption
  | _ => none

/-- The query with at most `most` rows. -/
def clamp (most : Nat) (q : Sql.Query) : Sql.Query :=
  let value := match current? q.limit with
    | some n => min n most
    | none => most
  { q with limit := some (.number (toString value)) }

end RowLimit

/-! ## The steps -/

/-- The text without its comments. -/
def cleanTemplate (d : Sql.Dialect) (text : String) : Except Sql.ParseError String :=
  (Sql.sanitize d text).mapError fun e => ⟨.invalid (.lex e), text⟩

/-- The query that a template is. -/
def readTemplate (d : Sql.Dialect) (text : String) : Except FillError (Sql.Query × Sql.Select) :=
  match cleanTemplate d text with
  | .error e => .error (.parse e)
  | .ok cleaned =>
    match Sql.parseSelect d cleaned with
    | .error e => .error (.parse e)
    | .ok none => .error (.notSelect text)
    | .ok (some r) => .ok r

/-- The tables of a query: those that were found, else the default table. -/
def Options.tablesOr (o : Options) (found : List Sql.Ident) : List Sql.Ident :=
  if found.isEmpty then o.source.toList.map Value.nameIdent else found

/-- The table of a query that has neither tables nor a default table. -/
def nullTable : Sql.Ident := .plain "null"

/-- The query with new clauses and tables, and with conditions that came with the tables. -/
def assemble (o : Options) (q : Sql.Query) (s : Sql.Select) (first : Sql.Ident)
    (rest : List Sql.Ident) (c : Clauses) (conditions : List Sql.Expr) : Sql.Query :=
  let select : Sql.Select :=
    { s with
      projection := c.projection
      sources := Tables.sources (first :: rest)
      selection := some (Filter.splice c.selection conditions)
      groupBy := c.groupBy
      having := c.having }
  let query : Sql.Query := { q with body := .select select, orderBy := c.orderBy }
  match o.maxRows first.text with
  | some most => RowLimit.clamp most query
  | none => query

/-- The query that the tables and the clauses make. -/
def finish (o : Options) (q : Sql.Query) (s : Sql.Select) (tables : Tables) (c : Clauses) :
    Except FillError Sql.Query :=
  match tables.parseConditions o.dialect with
  | .error e => .error (.parse e)
  | .ok conditions =>
    match o.tablesOr tables.names with
    | [] => .ok (assemble o q s nullTable [] c conditions)
    | first :: rest => .ok (assemble o q s first rest c conditions)

/-- Fills a query: first its tables, then its clauses. -/
def fillQuery (o : Options) (r : Resolver) (earlier : List Request) (q : Sql.Query)
    (s : Sql.Select) : Traced FillError Sql.Query :=
  let found := Tables.resolve r earlier s.sources
  found.andThen fun tables =>
    let sources := (o.tablesOr tables.names).map Sql.Ident.text
    let filled := Column.run o.valueRules r (earlier ++ found.requests)
      ((Clauses.ofQuery q s).fill sources)
    filled.andThen fun c => ⟨[], finish o q s tables c⟩

/-- Fills a template after `earlier` requests, and gives the text of the query. -/
def fill (o : Options) (r : Resolver) (earlier : List Request) (template : String) :
    Traced FillError String :=
  match readTemplate o.dialect template with
  | .error e => ⟨[], .error e⟩
  | .ok (q, s) => (fillQuery o r earlier q s).map Sql.Query.sql

end QueryTemplate
