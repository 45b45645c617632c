/-
# Statements that change data

`INSERT` and `UPDATE` may stand in place of the body of a query; so they are kept in
pieces, as they are written.  What an insertion takes its rows from is visited before the
expressions around it.

| dialect | rule |
| --- | --- |
| `ansi` | `LOW_PRIORITY` and its kin, `IGNORE`, and an alias for the new row |
| `postgres` | an alias for the table |
| `ansi`, `bigquery` | `DELETE` needs no `FROM`; `MERGE` may insert a `ROW` |
-/

import QueryTemplate.Sql.Grammar.Query

namespace QueryTemplate
namespace Sql
namespace Grammar

/-! ## Clauses -/

/-- What is done about a conflict, if it is said before the table, in its written form. -/
def conflictSql? : Rule (Option String) := do
  let found ← firstOf [["OR", "REPLACE"], ["OR", "ROLLBACK"], ["OR", "ABORT"], ["OR", "FAIL"],
    ["OR", "IGNORE"], ["REPLACE"]]
  return found.map fun ks => "OR " ++ ks.getLastD ""

/-- One column or several, and the value they take. -/
def assignment : Rule (List Part) := do
  let target ← do
    if ← symbol "(" then
      let names ← commaSeparated objectName
      expectSymbol ")"
      pure ("(" ++ String.intercalate ", " (names.map dotted) ++ ")")
    else pure (dotted (← objectName))
  expectSymbol "="
  return [.words (target ++ " = "), .operand (← expr)]

/-- Assignments with commas in between. -/
def assignments : Rule (List Part) := do return Part.separated ", " (← commaSeparated assignment)

/-- `RETURNING` with its list, if it is next. -/
def returning : Rule (List Part) := do
  if ← keyword "RETURNING" then
    let items ← commaSeparated selectItem
    return .words " RETURNING " :: Part.separated ", " (items.map SelectItem.parts)
  else return []

/-! ## Insertions -/

/-- What is done about a row that is there already, after `ON`. -/
def onConflict : Rule (List Part) := do
  if ← keyword "CONFLICT" then
    let target ← do
      if ← keywords ["ON", "CONSTRAINT"] then pure (" ON CONSTRAINT " ++ dotted (← objectName))
      else if ← peekSymbol "(" then pure (nameListSql (← nameList))
      else pure ""
    expectKeyword "DO"
    if ← keyword "NOTHING" then return [.words (" ON CONFLICT" ++ target ++ " DO NOTHING")]
    else
      expectKeywords ["UPDATE", "SET"]
      let changes ← assignments
      let condition ← optionalClause "WHERE"
      return .words (" ON CONFLICT" ++ target ++ " DO UPDATE SET ") :: changes ++
        Part.clause " WHERE " condition
  else
    expectKeywords ["DUPLICATE", "KEY", "UPDATE"]
    return .words " ON DUPLICATE KEY UPDATE " :: (← assignments)

/-- The partitions that rows go to, if they are said next. -/
def partition : Rule (List Part) := do
  if ← keyword "PARTITION" then
    let es ← inParentheses (commaSeparated expr)
    return .words "PARTITION (" :: Part.commaList es ++ [.words ") "]
  else return []

/-- The columns, the partitions and the rows that are inserted. -/
def insertedRows : Rule (List Part) := do
  if ← keywords ["DEFAULT", "VALUES"] then return [.words "DEFAULT VALUES"]
  else if (← peekAt 0).isSymbol "(" && (← peekAt 1).keyword == "SELECT" then
    return [(← query).part]
  else
    let columns ← do
      if ← peekSymbol "(" then pure (nameListSql (← nameList) ++ " ") else pure ""
    let partitions ← partition
    return .words columns :: Part.defer partitions ++ [(← query).part]

/-- The names of the new row and of its columns, in their written form. -/
def rowAliasSql : Rule String := do
  if ← keyword "AS" then
    let row ← objectName
    let columns ← do
      if ← peekSymbol "(" then pure (" " ++ nameListSql (← nameList)) else pure ""
    return " AS " ++ dotted row ++ columns
  else return ""

/-- The formats of files. -/
def fileFormats : List String := [
  "TEXTFILE", "SEQUENCEFILE", "ORC", "PARQUET", "AVRO", "RCFILE", "JSONFILE"]

/-- An insertion into files, after `DIRECTORY`; `words` stand before it. -/
def insertFiles (words : String) : Rule (List Part) := do
  let path ← literalString
  let format ← do
    if ← keywords ["STORED", "AS"] then
      match ← oneOf fileFormats with
      | some k => pure (" STORED AS " ++ k)
      | none => expected "fileformat"
    else pure ""
  return [.words (words ++ " DIRECTORY '" ++ path ++ "'" ++ format ++ " "), (← query).part]

/-- An insertion into a table, which is next.  The words between `INSERT` and the table are
`words`, or the `conflict` clause and `INTO`. -/
def insertRows (words : String) (conflict : Option String) : Rule (List Part) := do
  let d ← dialect
  let table := if ← keyword "TABLE" then " TABLE" else ""
  let target := dotted (← objectName)
  let label ← do
    if ← onlyIf (d == .postgres) (keyword "AS") then pure (" AS " ++ (← name).sql) else pure ""
  let inserted ← insertedRows
  let row ← if d == .ansi then rowAliasSql else pure ""
  let conflicts ← if ← keyword "ON" then onConflict else pure []
  let returned ← returning
  let start := match conflict with
    | some c => "INSERT " ++ c ++ " INTO "
    | none => "INSERT" ++ words ++ table ++ " "
  return .words (start ++ target ++ label ++ " ") :: inserted ++ .words row ::
    Part.defer (conflicts ++ returned)

/-- `INSERT`, after its keyword. -/
def insert : Rule (List Part) := do
  let conflict ← conflictSql?
  let priority ← do
    if (← dialect) == .ansi then
      let k ← oneOf ["LOW_PRIORITY", "DELAYED", "HIGH_PRIORITY"]
      let ignore := if ← keyword "IGNORE" then " IGNORE" else ""
      pure (((k.map (" " ++ ·)).getD "") ++ ignore)
    else pure ""
  let overwrite := if ← keyword "OVERWRITE" then " OVERWRITE" else ""
  let into := if ← keyword "INTO" then " INTO" else ""
  let nearby := if ← keyword "LOCAL" then " LOCAL" else ""
  if ← keyword "DIRECTORY" then insertFiles ("INSERT" ++ overwrite ++ nearby)
  else insertRows (priority ++ overwrite ++ into) conflict

/-! ## Updates, deletions and merges -/

/-- `UPDATE`, after its keyword. -/
def update : Rule (List Part) := do
  let conflict ← conflictSql?
  let table ← source
  expectKeyword "SET"
  let changes ← assignments
  let origin : List Part ← do
    if ← keyword "FROM" then pure (.words " FROM " :: (← source).parts) else pure []
  let condition ← optionalClause "WHERE"
  let returned ← returning
  return .words ("UPDATE " ++ ((conflict.map (· ++ " ")).getD "")) :: table.parts ++
    .words " SET " :: changes ++ origin ++ Part.clause " WHERE " condition ++ returned

/-- `DELETE`, after its keyword. -/
def delete : Rule Unit := do
  let d ← dialect
  if !(← keyword "FROM") && !(d == .bigquery || d == .ansi) then
    let _ ← commaSeparated objectName
    expectKeyword "FROM"
  let _ ← commaSeparated source
  if ← keyword "USING" then
    let _ ← commaSeparated source
  let _ ← optionalClause "WHERE"
  let _ ← returning
  if ← keywords ["ORDER", "BY"] then
    let _ ← orderTerms
  if ← keyword "LIMIT" then
    unless ← keyword "ALL" do
      let _ ← expr

/-- A table without joins. -/
def singleTable : Rule Relation := do
  return (← relationUpTo ((← get).length + 1)).relation

/-- Which rows a clause of `MERGE` is about, in its written form. -/
def mergeKindSql : Rule String := do
  if ← keyword "NOT" then
    expectKeyword "MATCHED"
    if ← keywords ["BY", "SOURCE"] then return "NOT MATCHED BY SOURCE"
    else if ← keywords ["BY", "TARGET"] then return "NOT MATCHED BY TARGET"
    else return "NOT MATCHED"
  else
    expectKeyword "MATCHED"
    return "MATCHED"

/-- What a clause of `MERGE` does.  Rows are inserted only where there are none, and changed or
deleted only where there are some. -/
def mergeAction (kind : String) : Rule Unit := do
  let absent := kind == "NOT MATCHED" || kind == "NOT MATCHED BY TARGET"
  match ← oneOf ["UPDATE", "INSERT", "DELETE"] with
  | none => fail (.fault "expected UPDATE, DELETE or INSERT in merge clause" none)
  | some k =>
    if absent != (k == "INSERT") then
      fail (.fault (k ++ " is not allowed in a " ++ kind ++ " merge clause") none)
    else match k with
    | "UPDATE" =>
      expectKeyword "SET"
      let _ ← assignments
    | "INSERT" =>
      if ← peekSymbol "(" then
        let _ ← nameList
      let d ← dialect
      unless ← onlyIf (d == .bigquery || d == .ansi) (keyword "ROW") do
        expectKeyword "VALUES"
        let _ ← rows
    | _ => return

/-- `MERGE`, after its keyword. -/
def merge : Rule Unit := do
  let _ ← keyword "INTO"
  let _ ← singleTable
  expectKeyword "USING"
  let _ ← singleTable
  expectKeyword "ON"
  let _ ← expr
  let _ ← repeated do
    let i ← peek
    if i.place.isNone || i.isSymbol ";" then return none
    else
      expectKeyword "WHEN"
      let kind ← mergeKindSql
      let _ ← optionalClause "AND"
      expectKeyword "THEN"
      return some (← mergeAction kind)

end Grammar
end Sql
end QueryTemplate
