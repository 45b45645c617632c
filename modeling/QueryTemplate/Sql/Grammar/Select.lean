/-
# The `SELECT` statement

Clauses in the order in which they are read, which is also the order in which they are
written.  `QUALIFY` may stand before or after `WINDOW`; it is visited after it.

| dialect | rule |
| --- | --- |
| `ansi`, `postgres` | `GROUPING SETS`, `CUBE`, `ROLLUP` and `()` are terms of `GROUP BY` |
| `ansi` | `WITH ROLLUP` and its kin follow `GROUP BY`; `PREWHERE` |
| `ansi`, `snowflake` | `START WITH` and `CONNECT BY` end the statement |
| `bigquery`, `snowflake` | a comma may end the `SELECT` list |
| `bigquery` | `SELECT AS STRUCT` and `AS VALUE` |
-/

import QueryTemplate.Sql.Grammar.Relation

namespace QueryTemplate
namespace Sql
namespace Grammar

/-! ## The `SELECT` list -/

/-- Names in parentheses or a single one, in their written form. -/
def oneOrMoreNamesSql : Rule String := do
  if ← peekSymbol "(" then return nameListSql (← nameList) else return (← name).sql

/-- An element of `REPLACE`. -/
def replacement : Rule (List Part) := do
  let e ← expr
  let link := if ← keyword "AS" then " AS " else " "
  return [.operand e, .words (link ++ (← name).sql)]

/-- A new name, in its written form. -/
def renamingSql : Rule String := do
  let a ← name
  expectKeyword "AS"
  return a.sql ++ " AS " ++ (← name).sql

/-- The options after a star. -/
def starOptions : Rule (List Part) := do
  let d ← dialect
  let ansiOrSnowflake := d == .ansi || d == .snowflake
  let ilike ← do
    if ← onlyIf ansiOrSnowflake (keyword "ILIKE") then
      let i ← next
      match i.string? with
      | some s => pure (" ILIKE " ++ Quoting.inQuotes '\'' s)
      | none => expectedAt "ilike pattern" i
    else pure ""
  let exclude ← do
    if ← onlyIf (ansiOrSnowflake && ilike == "") (keyword "EXCLUDE") then
      pure (" EXCLUDE " ++ (← oneOrMoreNamesSql))
    else pure ""
  let except ← do
    if ← onlyIf (d == .ansi || d == .bigquery) (keyword "EXCEPT") then
      if ← peekSymbol "(" then pure (" EXCEPT " ++ nameListSql (← nameList))
      else pure (" EXCEPT (" ++ (← name).sql ++ ")")
    else pure ""
  let replace : List Part ← do
    if ← onlyIf (d != .postgres) (keyword "REPLACE") then
      if ← symbol "(" then
        let items ← commaSeparated replacement
        expectSymbol ")"
        pure (.words " REPLACE (" :: Part.separated ", " items ++ [.words ")"])
      else
        let i ← next
        expectedAt "( after REPLACE but" i
    else pure []
  let rename ← do
    if ← onlyIf ansiOrSnowflake (keyword "RENAME") then
      if ← symbol "(" then
        let items ← commaSeparated renamingSql
        expectSymbol ")"
        pure (" RENAME (" ++ String.intercalate ", " items ++ ")")
      else pure (" RENAME " ++ (← renamingSql))
    else pure ""
  return .words (ilike ++ exclude ++ except) :: replace ++ [.words rename]

/-- An entry of the `SELECT` list. -/
def selectItem : Rule SelectItem := do
  match ← starOrExpr with
  | [.operand e] =>
    let isFrom := match e with
      | .column [] ⟨s, none⟩ => s.toLower == "from"
      | _ => false
    if isFrom then fault ("Expected an expression, found: " ++ e.sql)
    else return .column e (← alias? Keyword.notColumnAlias)
  | star => return .wildcard (star ++ (← starOptions))

/-- Whether a comma may end the list here. -/
def endsList : Rule Bool := do
  let i ← peek
  return Keyword.notColumnAlias.contains i.keyword || i.place.isNone ||
    [")", ";", "]", "\x7d"].any i.isSymbol

/-- The `SELECT` list. -/
def selectList : Rule (List SelectItem) := do
  let d ← dialect
  let first ← selectItem
  let rest ← repeated do
    if ← symbol "," then
      if ← onlyIf (d == .bigquery || d == .snowflake) endsList then return none
      else return some (← selectItem)
    else return none
  return first :: rest

/-! ## Before the list -/

/-- `ALL`, `DISTINCT` or `DISTINCT ON`. -/
def distinct : Rule (List Part) := do
  let place := (← peek).place
  let all ← keyword "ALL"
  if !(← keyword "DISTINCT") then return []
  else if all then fail (.fault "Cannot specify both ALL and DISTINCT" place)
  else if ← keyword "ON" then
    let es ← inParentheses (commaSeparatedBefore ")" expr)
    return .words " DISTINCT ON (" :: Part.commaList es ++ [.words ")"]
  else return [.words " DISTINCT"]

/-- `TOP` rows, after its keyword. -/
def top : Rule (List Part) := do
  let quantity : List Part ← do
    if ← symbol "(" then
      let e ← expr
      expectSymbol ")"
      pure [.words " TOP (", .operand e, .words ")"]
    else pure [.words (" TOP " ++ toString (← integer))]
  let percent := if ← keyword "PERCENT" then " PERCENT" else ""
  let ties := if ← keywords ["WITH", "TIES"] then " WITH TIES" else ""
  return quantity ++ [.words (percent ++ ties)]

/-- What stands between `SELECT` and the list. -/
def selectModifiers : Rule (List Part) := do
  let mode ← do
    if ← onlyIf ((← dialect) == .bigquery) (keyword "AS") then
      match ← oneOf ["VALUE", "STRUCT"] with
      | some k => pure (" AS " ++ k)
      | none => expected "VALUE or STRUCT"
    else pure ""
  let distinct ← distinct
  let top ← if ← keyword "TOP" then top else pure []
  return .words mode :: distinct ++ top

/-! ## Clauses -/

/-- The target of `INTO`, in its written form. -/
def intoSql : Rule String := do
  let temporary := if (← oneOf ["TEMP", "TEMPORARY"]).isSome then " TEMPORARY" else ""
  let unlogged := if ← keyword "UNLOGGED" then " UNLOGGED" else ""
  let table := if ← keyword "TABLE" then " TABLE" else ""
  return temporary ++ unlogged ++ table ++ " " ++ dotted (← objectName)

/-- `LATERAL VIEW`, if it is next. -/
def lateralView? : Rule (Option (List Part)) := do
  if ← keywords ["LATERAL", "VIEW"] then
    let outer := if ← keyword "OUTER" then " OUTER" else ""
    let e ← expr
    let n ← objectName
    let aliases ← commaSeparated (alias? ["WHERE", "GROUP", "CLUSTER", "HAVING", "LATERAL"])
    let names := (aliases.filterMap id).map Ident.sql
    let written := if names.isEmpty then "" else " AS " ++ String.intercalate ", " names
    return some [.words (" LATERAL VIEW" ++ outer ++ " "), .operand e,
      .words (" " ++ dotted n ++ written)]
  else return none

/-- Expressions in parentheses, possibly none; `single` allows one without them. -/
def groupingSet (single : Bool) : Rule (List Expr) := do
  if ← onlyIf single (do return !(← peekSymbol "(")) then return [← expr]
  else inParentheses (commaSeparatedBefore ")" expr)

/-- Grouping sets, written with parentheses unless they may be `single`. -/
def groupingSets (words : String) (single : Bool) : Rule Expr := do
  let sets ← inParentheses (commaSeparated (groupingSet single))
  let written := sets.map fun es =>
    if single && es.length == 1 then Part.commaList es
    else .words "(" :: Part.commaList es ++ [.words ")"]
  return .phrase (.words (words ++ " (") :: Part.separated ", " written ++ [.words ")"])

/-- A term of `GROUP BY`. -/
def groupTerm : Rule Expr := do
  let d ← dialect
  if d == .ansi || d == .postgres then
    if ← keywords ["GROUPING", "SETS"] then groupingSets "GROUPING SETS" false
    else if ← keyword "CUBE" then groupingSets "CUBE" true
    else if ← keyword "ROLLUP" then groupingSets "ROLLUP" true
    else if ← symbols ["(", ")"] then return .phrase [.words "()"]
    else expr
  else expr

/-- The modifiers of `GROUP BY`, in their written form. -/
def groupModifiers : Rule (List String) := do
  if (← dialect) == .ansi then
    repeated do
      if ← keyword "WITH" then
        return some ("WITH " ++ (← expectOneOf ["ROLLUP", "CUBE", "TOTALS"]))
      else return none
  else return []

/-- The `GROUP BY` clause; without one, no terms. -/
def groupBy : Rule GroupBy := do
  if ← keywords ["GROUP", "BY"] then
    if ← keyword "ALL" then return .all (← groupModifiers)
    else
      let terms ← commaSeparated groupTerm
      return .terms terms (← groupModifiers)
  else return .terms [] []

/-- A clause of expressions that keywords introduce, if it is next. -/
def listClause (ks : List String) : Rule (List Part) := do
  if ← keywords ks then
    return .words (" " ++ String.intercalate " " ks ++ " ") :: Part.commaList (← commaSeparated expr)
  else return []

/-- The expression of a clause that a keyword introduces, if it is next. -/
def optionalClause (k : String) : Rule (Option Expr) := do
  if ← keyword k then return some (← expr) else return none

/-- A named window. -/
def namedWindow : Rule (List Part) := do
  let n ← name
  expectKeyword "AS"
  let d ← dialect
  if ← symbol "(" then return .words (n.sql ++ " AS ") :: (← windowSpec interval)
  else if d == .ansi || d == .bigquery then return [.words (n.sql ++ " AS " ++ (← name).sql)]
  else expected "("

/-- `WINDOW` and `QUALIFY` in either order. -/
def windows : Rule (List Part) := do
  let named : Rule (List Part) := do
    return .words " WINDOW " :: Part.separated ", " (← commaSeparated namedWindow)
  if ← keyword "WINDOW" then
    let ws ← named
    return ws ++ Part.clause " QUALIFY " (← optionalClause "QUALIFY")
  else
    match ← optionalClause "QUALIFY" with
    | some e =>
      if ← keyword "WINDOW" then return [.words " QUALIFY ", .deferred e] ++ (← named)
      else return [.words " QUALIFY ", .operand e]
    | none => return []

/-- How rows follow one another, if it is said next: where to start, which is written first,
and what relates a row to the one before it. -/
def connectBy : Rule (List Part) := do
  let d ← dialect
  let k := (← peek).keyword
  if (d == .ansi || d == .snowflake) && (k == "START" || k == "CONNECT") then
    let (start, relationships) ← do
      if ← keywords ["CONNECT", "BY"] then
        let es ← commaSeparated relationship
        expectKeywords ["START", "WITH"]
        pure (← expr, es)
      else
        expectKeywords ["START", "WITH"]
        let e ← expr
        expectKeywords ["CONNECT", "BY"]
        pure (e, ← commaSeparated relationship)
    return .words " START WITH " :: .operand start :: .words " CONNECT BY " ::
      Part.commaList relationships
  else return []

/-- A `SELECT`. -/
def select : Rule Select := do
  expectKeyword "SELECT"
  let modifiers ← selectModifiers
  let projection ← selectList
  let into ← do
    if ← keyword "INTO" then pure (some (← intoSql)) else pure none
  let sources ← do
    if ← keyword "FROM" then commaSeparated source else pure []
  let views ← repeated lateralView?
  let prewhere ← if (← dialect) == .ansi then optionalClause "PREWHERE" else pure none
  let selection ← optionalClause "WHERE"
  let grouping ← groupBy
  let cluster ← listClause ["CLUSTER", "BY"]
  let distribute ← listClause ["DISTRIBUTE", "BY"]
  let sort ← listClause ["SORT", "BY"]
  let having ← optionalClause "HAVING"
  let tail ← windows
  -- what relates rows is visited last, also behind a deferred `QUALIFY`
  let connection ← connectBy
  return {
    modifiers, projection, into, sources
    beforeWhere := views.flatten ++ Part.clause " PREWHERE " prewhere
    selection
    groupBy := grouping
    beforeHaving := cluster ++ distribute ++ sort
    having
    tail := tail ++ Part.defer connection }

end Grammar
end Sql
end QueryTemplate
