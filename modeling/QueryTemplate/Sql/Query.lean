/-
# Queries

A query is a body, mostly a `SELECT`, with an order, a limit and further clauses.
The clauses that templates change are fields of their own; what stands between
them is kept as phrases and written as it was read.

| part | clause |
| --- | --- |
| `Select.modifiers` | `DISTINCT`, `TOP`, `AS STRUCT` |
| `Select.beforeWhere` | `LATERAL VIEW`, `PREWHERE` |
| `Select.beforeHaving` | `CLUSTER BY`, `DISTRIBUTE BY`, `SORT BY` |
| `Select.tail` | `WINDOW`, `QUALIFY`, `START WITH`, `CONNECT BY` |
| `Query.tail` | `OFFSET`, `BY`, `SETTINGS`, `FETCH`, `FOR`, `FORMAT` |
-/

import QueryTemplate.Sql.Expr

namespace QueryTemplate
namespace Sql

/-- An entry of a `SELECT` list. -/
inductive SelectItem where
  /-- `*` or `t.*` with its options. -/
  | wildcard (parts : List Part)
  | column (expr : Expr) (name : Option Ident)
deriving Inhabited

/-- The pieces of an entry. -/
def SelectItem.parts : SelectItem → List Part
  | .wildcard ps => ps
  | .column e none => [.operand e]
  | .column e (some a) => [.operand e, .words (" AS " ++ a.sql)]

/-- Something rows come from. -/
inductive Relation where
  /-- A table by its dotted name, possibly called with arguments; `tail` holds its alias,
  hints and version. -/
  | table (name : List Ident) (arguments : Option (List Part)) (tail : List Part)
  /-- A sub-query, a table function, a join in parentheses. -/
  | other (parts : List Part)
deriving Inhabited

/-- The pieces of a relation. -/
def Relation.parts : Relation → List Part
  | .table name arguments tail => .words (dotted name) :: arguments.getD [] ++ tail
  | .other ps => ps

/-- A further relation: the words that join it, and its condition. -/
structure Join where
  operator : String
  relation : Relation
  condition : List Part
deriving Inhabited

/-- The pieces of a join. -/
def Join.parts (j : Join) : List Part :=
  .words (" " ++ j.operator ++ " ") :: j.relation.parts ++ j.condition

/-- An entry of a `FROM` list. -/
structure Source where
  relation : Relation
  joins : List Join
deriving Inhabited

namespace Source

/-- The pieces of an entry. -/
def parts (s : Source) : List Part :=
  s.relation.parts ++ s.joins.flatMap Join.parts

/-- The first relation, then the joined ones. -/
def relations (s : Source) : List Relation :=
  s.relation :: s.joins.map Join.relation

/-- A table without alias, arguments or joins. -/
def ofTable (name : Ident) : Source := ⟨.table [name] none [], []⟩

end Source

/-- The `GROUP BY` clause; an empty list of terms stands for a missing clause. -/
inductive GroupBy where
  | all (modifiers : List String)
  | terms (exprs : List Expr) (modifiers : List String)
deriving Inhabited

namespace GroupBy

/-- The pieces of the clause. -/
def parts : GroupBy → List Part
  | .all modifiers => [.words (String.intercalate " " ("GROUP BY ALL" :: modifiers))]
  | .terms es modifiers =>
    .words "GROUP BY " :: Part.commaList es ++ modifiers.map fun m => .words (" " ++ m)

/-- Whether the clause is written in a query. -/
def isWritten : GroupBy → Bool
  | .all _ => true
  | .terms es _ => !es.isEmpty

end GroupBy

/-- An `ORDER BY` term; `tail` holds direction, placement of nulls and fill. -/
structure OrderTerm where
  expr : Expr
  tail : List Part
deriving Inhabited

/-- The pieces of a term. -/
def OrderTerm.parts (t : OrderTerm) : List Part := .operand t.expr :: t.tail

/-- The `ORDER BY` clause. -/
structure OrderBy where
  terms : List OrderTerm
  interpolation : List Part
deriving Inhabited

/-- The pieces of the clause; without terms only its words are written. -/
def OrderBy.parts (o : OrderBy) : List Part :=
  .words (if o.terms.isEmpty then "ORDER BY" else "ORDER BY ") ::
    Part.separated ", " (o.terms.map OrderTerm.parts) ++ o.interpolation

/-- A `SELECT`. -/
structure Select where
  modifiers : List Part
  projection : List SelectItem
  into : Option String
  sources : List Source
  beforeWhere : List Part
  selection : Option Expr
  groupBy : GroupBy
  beforeHaving : List Part
  having : Option Expr
  tail : List Part
deriving Inhabited

/-- Words before an optional operand. -/
def Part.clause (words : String) (e : Option Expr) : List Part :=
  match e with
  | some e => [.words words, .operand e]
  | none => []

/-- The pieces of a `SELECT`. -/
def Select.parts (s : Select) : List Part :=
  .words "SELECT" :: s.modifiers ++
    .words " " :: Part.separated ", " (s.projection.map SelectItem.parts) ++
    (match s.into with
      | some target => [.words (" INTO" ++ target)]
      | none => []) ++
    (if s.sources.isEmpty then []
      else .words " FROM " :: Part.separated ", " (s.sources.map Source.parts)) ++
    s.beforeWhere ++
    Part.clause " WHERE " s.selection ++
    (if s.groupBy.isWritten then .words " " :: s.groupBy.parts else []) ++
    s.beforeHaving ++
    Part.clause " HAVING " s.having ++
    s.tail

/-- What a query takes its rows from. -/
inductive Body where
  | select (s : Select)
  /-- A set operation, `VALUES`, a query in parentheses, a statement that changes data. -/
  | other (parts : List Part)
deriving Inhabited

/-- The pieces of a body. -/
def Body.parts : Body → List Part
  | .select s => s.parts
  | .other ps => ps

/-- A query. -/
structure Query where
  /-- The `WITH` clause. -/
  commonTables : List Part
  body : Body
  orderBy : Option OrderBy
  limit : Option Expr
  tail : List Part
deriving Inhabited

namespace Query

/-- A query that is only a body. -/
def ofBody (b : Body) : Query := ⟨[], b, none, none, []⟩

/-- The pieces of a query. -/
def parts (q : Query) : List Part :=
  q.commonTables ++ .operand (.phrase q.body.parts) ::
    (match q.orderBy with
      | some o => .words " " :: o.parts
      | none => []) ++
    Part.clause " LIMIT " q.limit ++
    q.tail

/-- The written query. -/
def sql (q : Query) : String := Part.allSql q.parts

/-- A query inside a phrase; it is visited as a whole where it stands. -/
def part (q : Query) : Part := .operand (.phrase q.parts)

/-- A query in parentheses, as an operand. -/
def inParentheses (q : Query) : Expr := .phrase [.words "(", q.part, .words ")"]

end Query

/-- A statement.  Only queries are looked into; of any other statement the tokens are kept. -/
inductive Statement where
  | query (q : Query)
  | other (tokens : List Token)
deriving Inhabited

end Sql
end QueryTemplate
