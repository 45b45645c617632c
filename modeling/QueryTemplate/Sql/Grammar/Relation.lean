/-
# What rows come from

Relations of a `FROM` list: tables, sub-queries, table functions, and joins of these.
An opening parenthesis may start a sub-query or a join; the sub-query is attempted
first.

| dialect | rule |
| --- | --- |
| `ansi`, `snowflake` | parentheses may stand around a single relation and are dropped |
| `ansi`, `snowflake` | `VALUES` needs no parentheses |
| all but `snowflake` | `UNNEST` takes arrays |
| `bigquery` | a table may be read as of a time |
| `ansi`, `snowflake` | rows of a table may be matched against a pattern |
-/

import QueryTemplate.Sql.Grammar.Operator
import QueryTemplate.Sql.Grammar.Reshaping

namespace QueryTemplate
namespace Sql
namespace Grammar

/-! ## Aliases -/

/-- The columns after a table alias, in their written form. -/
def aliasColumnsSql : Rule String := do
  if ← symbol "(" then
    let columns ← commaSeparated do
      let n ← name
      match ← attempt typeSql with
      | some t => return n.sql ++ " " ++ t
      | none => return n.sql
    expectSymbol ")"
    return " (" ++ String.intercalate ", " columns ++ ")"
  else return ""

/-- A table alias with its columns, in its written form. -/
def tableAlias? : Rule (Option String) := do
  match ← alias? Keyword.notTableAlias with
  | some a => return some (a.sql ++ (← aliasColumnsSql))
  | none => return none

/-- The pieces of an optional table alias. -/
def aliasParts (a : Option String) : List Part :=
  match a with
  | some a => [.words (" AS " ++ a)]
  | none => []

/-! ## Relations -/

/-- A relation that is being read: all but its alias, the alias, and what stands after
it. -/
structure Unaliased where
  /-- The relation, given what follows its core. -/
  build : List Part → Relation
  name : Option String
  tail : List Part
  /-- Whether it is a join in parentheses. -/
  isJoin : Bool

/-- The relation. -/
def Unaliased.relation (u : Unaliased) : Relation := u.build (aliasParts u.name ++ u.tail)

/-- A relation of pieces, with the alias that comes next. -/
def aliased (core : List Part) (isJoin : Bool := false) : Rule Unaliased := do
  return ⟨fun tail => .other (core ++ tail), ← tableAlias?, [], isJoin⟩

/-- The rows after `VALUES`. -/
def rows : Rule (List Part) := do
  -- once one row is marked, all are written with the mark
  let rows ← commaSeparated do
    let marked ← keyword "ROW"
    let es ← inParentheses (commaSeparated expr)
    return (marked, es)
  let mark := if rows.any Prod.fst then "ROW(" else "("
  return .words "VALUES " ::
    Part.separated ", " (rows.map fun r => .words mark :: Part.commaList r.2 ++ [.words ")"])

/-- A sub-query after its opening parenthesis. -/
def derived (words : String) : Rule Unaliased := do
  let q ← query
  expectSymbol ")"
  aliased [.words (words ++ "("), q.part, .words ")"]

/-- Settings, as keys and constants, in their written form. -/
def settingsSql? : Rule (Option String) := do
  if ← onlyIf ((← dialect) == .ansi) (keyword "SETTINGS") then
    let settings ← commaSeparated do
      let key ← name
      expectSymbol "="
      return key.sql ++ " = " ++ (← literal).sql
    return some ("SETTINGS " ++ String.intercalate ", " settings)
  else return none

/-- The arguments of a table function, after the opening parenthesis. -/
def tableArguments : Rule (List Part) := do
  if ← symbol ")" then return [.words "()"]
  else
    let (arguments, _) ← iterated (fun ((arguments, open_) : List (List Part) × Bool) => do
      if !open_ then return none
      else
        match ← settingsSql? with
        | some s => return some (arguments ++ [[.words s]], false)
        | none =>
          let a ← argument
          return some (arguments ++ [a], ← symbol ",")) ([], true)
    expectSymbol ")"
    return .words "(" :: Part.separated ", " arguments ++ [.words ")"]

/-- The arguments of a function, after the opening parenthesis. -/
def callArguments : Rule (List Part) := do
  let arguments ← commaSeparatedBefore ")" argument
  expectSymbol ")"
  return Part.separated ", " arguments

/-- `UNNEST` of arrays, after its keyword. -/
def unnest : Rule Unaliased := do
  let arrays ← inParentheses (commaSeparated expr)
  let ordinality := if ← keywords ["WITH", "ORDINALITY"] then " WITH ORDINALITY" else ""
  let a ← tableAlias?
  let offset ← do
    if ← keyword "WITH" then
      if ← keyword "OFFSET" then
        match ← alias? Keyword.notColumnAlias with
        | some o => pure (" WITH OFFSET AS " ++ o.sql)
        | none => pure " WITH OFFSET"
      else pure ""
    else pure ""
  let core := .words "UNNEST(" :: Part.commaList arrays ++ [.words (")" ++ ordinality)]
  return ⟨fun tail => .other (core ++ tail), a, [.words offset], false⟩

/-- A table or the call of a table function, by its name. -/
def table : Rule Unaliased := do
  let d ← dialect
  let n ← tableName
  let partitions ← do
    if ← onlyIf (d == .ansi) (keyword "PARTITION") then
      pure (" PARTITION " ++ nameListSql (← nameList))
    else pure ""
  let version : List Part ← do
    if ← onlyIf (d == .bigquery) (keywords ["FOR", "SYSTEM_TIME", "AS", "OF"]) then
      pure [.words " FOR SYSTEM_TIME AS OF ", .operand (← expr)]
    else pure []
  let arguments ← do
    if ← symbol "(" then pure (some (← tableArguments)) else pure none
  let ordinality := if ← keywords ["WITH", "ORDINALITY"] then " WITH ORDINALITY" else ""
  let a ← tableAlias?
  let hints : List Part ← do
    if ← keywordOpening "WITH" then
      let es ← commaSeparated expr
      expectSymbol ")"
      pure (.words " WITH (" :: Part.commaList es ++ [.words ")"])
    else pure []
  return ⟨fun tail => .table n arguments (.words (partitions ++ ordinality) :: tail), a,
    hints ++ version, false⟩

/-- A relation with the `PIVOT` and `UNPIVOT` clauses that follow it. -/
def pivoted (u : Unaliased) : Rule Unaliased :=
  iterated (fun u => do
    if ← keyword "PIVOT" then return some (← aliased (u.relation.parts ++ (← pivot)))
    else if ← keyword "UNPIVOT" then return some (← aliased (u.relation.parts ++ (← unpivot)))
    else return none) u

/-- A table with the clauses that turn and match its rows. -/
def reshapedTable : Rule Unaliased := do
  let d ← dialect
  let u ← pivoted (← table)
  if ← onlyIf (d == .snowflake || d == .ansi) (keyword "MATCH_RECOGNIZE") then
    aliased (u.relation.parts ++ (← matchRows))
  else return u

/-- What joins a further relation: the words, and whether a condition may follow. -/
structure JoinOperator where
  sql : String
  natural : Bool
  /-- `ASOF JOIN` needs a match condition. -/
  matched : Bool
  conditional : Bool

/-- The operator of a join, if one is next. -/
def joinOperator? : Rule (Option JoinOperator) := do
  let scope := if ← keyword "GLOBAL" then "GLOBAL " else ""
  let plain (sql : String) : Rule (Option JoinOperator) :=
    return some ⟨scope ++ sql, false, false, false⟩
  if ← keyword "CROSS" then
    match ← oneOf ["JOIN", "APPLY"] with
    | some k => plain ("CROSS " ++ k)
    | none => expected "JOIN or APPLY after CROSS"
  else if ← keyword "OUTER" then
    expectKeyword "APPLY"
    plain "OUTER APPLY"
  else if ← keyword "ASOF" then
    expectKeyword "JOIN"
    return some ⟨scope ++ "ASOF JOIN", false, true, true⟩
  else
    let natural ← keyword "NATURAL"
    let before := scope ++ if natural then "NATURAL " else ""
    let done (sql : String) : Rule (Option JoinOperator) :=
      return some ⟨before ++ sql, natural, false, true⟩
    let i ← peek
    match i.keyword with
    | "INNER" | "JOIN" =>
      let _ ← keyword "INNER"
      expectKeyword "JOIN"
      done "JOIN"
    | "LEFT" | "RIGHT" =>
      modify List.tail
      match ← oneOf ["OUTER", "SEMI", "ANTI", "JOIN"] with
      | some "JOIN" => done (i.keyword ++ " JOIN")
      | some "OUTER" =>
        expectKeyword "JOIN"
        done (i.keyword ++ " JOIN")
      | some k =>
        expectKeyword "JOIN"
        done (i.keyword ++ " " ++ k ++ " JOIN")
      | none => fail (.fault ("expected OUTER, SEMI, ANTI or JOIN after " ++ i.keyword) none)
    | "ANTI" | "SEMI" =>
      modify List.tail
      expectKeyword "JOIN"
      done (i.keyword ++ " JOIN")
    | "FULL" =>
      modify List.tail
      let _ ← keyword "OUTER"
      expectKeyword "JOIN"
      done "FULL JOIN"
    | "OUTER" => expected "LEFT, RIGHT, or FULL"
    | _ => if natural then expected "a join type after NATURAL" else return none

/-- The condition of a join, if one is next. -/
def joinCondition : Rule (List Part) := do
  if ← keyword "ON" then return [.words " ON ", .operand (← expr)]
  else if ← keyword "USING" then return [.words (" USING" ++ nameListSql (← columnList))]
  else return []

/-- A further relation and how it is joined, if one is next. -/
def join? (relation : Rule Unaliased) : Rule (Option Join) := do
  match ← joinOperator? with
  | none => return none
  | some op =>
    let r ← relation
    let matching : List Part ← do
      if op.matched then
        expectKeyword "MATCH_CONDITION"
        let e ← inParentheses expr
        pure [.words " MATCH_CONDITION (", .operand e, .words ")"]
      else pure []
    let condition ← if op.conditional && !op.natural then joinCondition else pure []
    return some ⟨op.sql, r.relation, matching ++ condition⟩

/-- A relation in parentheses, or joins of relations, after the opening parenthesis. -/
def enclosed (relation : Rule Unaliased) : Rule Unaliased := do
  match ← attempt (derived "") with
  | some r => pivoted r
  | none =>
    let first ← relation
    let joins ← repeated (join? relation)
    if !joins.isEmpty || first.isJoin then
      expectSymbol ")"
      let s : Source := ⟨first.relation, joins⟩
      aliased (.words "(" :: s.parts ++ [.words ")"]) true
    else
      let d ← dialect
      if d == .snowflake || d == .ansi then
        expectSymbol ")"
        match ← tableAlias?, first.name with
        | some _, some a => fail (.fault ("duplicate alias " ++ a) none)
        | some a, none => return { first with name := some a }
        | none, _ => return first
      else expected "joined table"

/-- A relation.  The fuel bounds how deep parentheses are nested. -/
def relationUpTo : Nat → Rule Unaliased
  | 0 => fail .tooDeep
  | fuel + 1 => do
    let d ← dialect
    if ← keyword "LATERAL" then
      if ← symbol "(" then derived "LATERAL "
      else
        let n ← objectName
        expectSymbol "("
        let arguments ← callArguments
        aliased (.words ("LATERAL " ++ dotted n ++ "(") :: arguments ++ [.words ")"])
    else if ← keyword "TABLE" then
      let e ← inParentheses expr
      aliased [.words "TABLE(", .operand e, .words ")"]
    else if ← symbol "(" then enclosed (relationUpTo fuel)
    else if (d == .snowflake || d == .ansi) && (← peekAt 0).keyword == "VALUES" &&
        (← peekAt 1).isSymbol "(" then
      modify List.tail
      let rs ← rows
      aliased (.words "(" :: rs ++ [.words ")"])
    else if ← onlyIf (d != .snowflake) (keyword "UNNEST") then unnest
    else if ← keywordOpening "JSON_TABLE" then aliased (← jsonTable)
    else if ← keywordOpening "OPENJSON" then aliased (← openJson)
    else reshapedTable

/-- An entry of a `FROM` list. -/
def source : Rule Source := do
  let relation := relationUpTo ((← get).length + 1)
  let first ← relation
  let joins ← repeated (join? relation)
  return ⟨first.relation, joins⟩

end Grammar
end Sql
end QueryTemplate
