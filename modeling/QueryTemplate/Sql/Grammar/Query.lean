/-
# Queries

A body with a `WITH` clause before it and an order, a limit and more after it.  Set
operators group to the left; `INTERSECT` binds tighter than `UNION` and `EXCEPT`.

`LIMIT` and `OFFSET` come in either order.  In `ansi`, `LIMIT a, b` means `LIMIT b
OFFSET a`.  `OFFSET` and `FETCH` are visited after `LIMIT … BY`, which is written
after them.
-/

import QueryTemplate.Sql.Grammar.Select

namespace QueryTemplate
namespace Sql
namespace Grammar

/-! ## Common tables -/

/-- A table of the `WITH` clause. -/
def commonTable : Rule (List Part) := do
  let n ← name
  let columns ← do
    if ← keyword "AS" then pure ""
    else
      let columns ← aliasColumnsSql
      expectKeyword "AS"
      pure columns
  let materialized ← do
    if (← dialect) == .postgres then
      if ← keyword "MATERIALIZED" then pure "MATERIALIZED "
      else if ← keywords ["NOT", "MATERIALIZED"] then pure "NOT MATERIALIZED "
      else pure ""
    else pure ""
  let q ← inParentheses query
  let origin ← do
    if ← keyword "FROM" then pure (" FROM " ++ (← name).sql) else pure ""
  return [.words (n.sql ++ columns ++ " AS " ++ materialized ++ "("), q.part,
    .words (")" ++ origin)]

/-- The `WITH` clause, if it is next. -/
def commonTables : Rule (List Part) := do
  if ← keyword "WITH" then
    let recursive := if ← keyword "RECURSIVE" then "RECURSIVE " else ""
    let tables ← commaSeparated commonTable
    return .words ("WITH " ++ recursive) :: Part.separated ", " tables ++ [.words " "]
  else return []

/-! ## Bodies -/

/-- The written quantifier of a set operator. -/
def quantifierSql : Rule String := do
  if ← keywords ["DISTINCT", "BY", "NAME"] then return " DISTINCT BY NAME"
  else if ← keywords ["BY", "NAME"] then return " BY NAME"
  else if ← keyword "ALL" then
    if ← keywords ["BY", "NAME"] then return " ALL BY NAME" else return " ALL"
  else if ← keyword "DISTINCT" then return " DISTINCT"
  else return ""

/-- How tight a set operator binds. -/
def setPrecedence (k : String) : Nat :=
  match k with
  | "UNION" | "EXCEPT" => 10
  | "INTERSECT" => 20
  | _ => 0

/-- A table by its name, after `TABLE`.  Three tokens are read, whether or not the name
has a schema. -/
def tableBody : Rule Body := do
  let a ← next
  let point ← next
  let b ← next
  let words (found : Item) (what : String) : Rule String :=
    match found.token with
    | .word s _ => return s
    | _ => expectedAt what found
  if point.isSymbol "." then
    let schema ← words a "Schema name"
    let t ← words b "Table name"
    return .other [.words ("TABLE " ++ schema ++ "." ++ t)]
  else return .other [.words ("TABLE " ++ (← words a "Table name"))]

/-- A body without set operators. -/
def simpleBody : Rule Body := do
  if ← peekKeyword "SELECT" then return .select (← select)
  else if ← symbol "(" then
    let q ← query
    expectSymbol ")"
    return .other [.words "(", q.part, .words ")"]
  else if ← keyword "VALUES" then return .other (← rows)
  else if ← keyword "TABLE" then tableBody
  else expected "SELECT, VALUES, or a subquery in the query body"

/-- A body whose set operators bind tighter than `precedence`.  The fuel bounds the number
of operators. -/
def bodyUpTo : Nat → Nat → Rule Body
  | 0, _ => fail .tooDeep
  | fuel + 1, precedence => do
    let first ← simpleBody
    iterated (fun left => do
      let k := (← peek).keyword
      let p := setPrecedence k
      if p ≤ precedence then return none
      else
        modify List.tail
        let quantifier ← quantifierSql
        let right ← bodyUpTo fuel p
        return some (.other [.operand (.phrase left.parts), .words (" " ++ k ++ quantifier ++ " "),
          .operand (.phrase right.parts)])) first

/-- A body. -/
def body : Rule Body := do bodyUpTo ((← get).length + 1) 0

/-! ## After the body -/

/-- The elements of `INTERPOLATE`, if it is next. -/
def interpolation : Rule (List Part) := do
  if ← onlyIf ((← dialect) == .ansi) (keyword "INTERPOLATE") then
    if ← symbol "(" then
      let items ← commaSeparatedBefore ")" do
        let n ← name
        if ← keyword "AS" then return [Part.words (n.sql ++ " AS "), .operand (← expr)]
        else return [.words n.sql]
      expectSymbol ")"
      return .words " INTERPOLATE (" :: Part.separated ", " items ++ [.words ")"]
    else return [.words " INTERPOLATE"]
  else return []

/-- The `ORDER BY` clause, if it is next. -/
def orderBy : Rule (Option OrderBy) := do
  if ← keywords ["ORDER", "BY"] then
    let terms ← commaSeparated orderTerm
    return some ⟨terms, ← interpolation⟩
  else return none

/-- A limit and an offset, each of which may be missing. -/
structure Slice where
  limit : Option Expr
  /-- The offset, and the written word after it. -/
  offset : Option (Expr × String)

/-- One round of reading `LIMIT` and `OFFSET`. -/
def slice (s : Slice) : Rule Slice := do
  let s ← do
    if ← onlyIf s.limit.isNone (keyword "LIMIT") then
      if ← keyword "ALL" then pure s else pure { s with limit := some (← expr) }
    else pure s
  let s ← do
    if ← onlyIf s.offset.isNone (keyword "OFFSET") then
      let e ← expr
      let unit := match ← oneOf ["ROW", "ROWS"] with
        | some k => " " ++ k
        | none => ""
      pure { s with offset := some (e, unit) }
    else pure s
  match s.limit, s.offset with
  | some first, none =>
    if ← onlyIf ((← dialect) == .ansi) (symbol ",") then
      return ⟨some (← expr), some (first, "")⟩
    else return s
  | _, _ => return s

/-- `FETCH`, after its keyword. -/
def fetch : Rule (List Part) := do
  let _ ← expectOneOf ["FIRST", "NEXT"]
  let quantity : List Part ← do
    match ← oneOf ["ROW", "ROWS"] with
    | some _ => pure []
    | none =>
      let l ← literal
      let percent := if ← keyword "PERCENT" then " PERCENT" else ""
      let _ ← expectOneOf ["ROW", "ROWS"]
      pure [.deferred (.literal l), .words (percent ++ " ")]
  let extent ← do
    if ← keyword "ONLY" then pure "ROWS ONLY"
    else if ← keywords ["WITH", "TIES"] then pure "ROWS WITH TIES"
    else expected "one of ONLY or WITH TIES"
  return .words " FETCH FIRST " :: quantity ++ [.words extent]

/-- A name in parentheses, if there is one, in its written form. -/
def elementSql : Rule String := do
  if ← symbol "(" then
    let s ← literalString
    expectSymbol ")"
    return "('" ++ s ++ "')"
  else return ""

/-- An option of a form of output, after its comma: its word, and what is written of it.  A word
that is no option reads nothing. -/
def outputOption (plain : List String) : Rule (String × String) := do
  if ← keyword "ROOT" then
    expectSymbol "("
    let s ← literalString
    expectSymbol ")"
    return ("ROOT", ", ROOT('" ++ s ++ "')")
  else
    match ← oneOf plain with
    | some "BINARY" =>
      expectKeyword "BASE64"
      return ("BINARY", ", BINARY BASE64")
    | some k => return (k, ", " ++ k)
    | none => return ("", "")

/-- The options of a form of output, in their written form: in a fixed order, and each as it is
said last. -/
def outputOptionsSql (plain order : List String) : Rule String := do
  let found ← repeated do
    if ← symbol "," then return some (← outputOption plain) else return none
  return String.join (order.map fun k => (found.reverse.lookup k).getD "")

/-- A form of output, after its keyword `k`, in its written form. -/
def outputSql (k : String) : Rule String := do
  if k == "XML" then
    match ← oneOf ["RAW", "AUTO", "EXPLICIT", "PATH"] with
    | some form =>
      let element ← if form == "RAW" || form == "PATH" then elementSql else pure ""
      let options ← outputOptionsSql ["ELEMENTS", "BINARY", "TYPE"]
        ["BINARY", "TYPE", "ROOT", "ELEMENTS"]
      return "FOR XML " ++ form ++ element ++ options
    | none => fail (.fault "Expected FOR XML [RAW | AUTO | EXPLICIT | PATH ]" none)
  else
    match ← oneOf ["AUTO", "PATH"] with
    | some form =>
      let plain := ["INCLUDE_NULL_VALUES", "WITHOUT_ARRAY_WRAPPER"]
      return "FOR JSON " ++ form ++ (← outputOptionsSql plain ("ROOT" :: plain))
    | none => fail (.fault "Expected FOR JSON [AUTO | PATH ]" none)

/-- A clause after `FOR`, in its written form: a lock, or a form of output, which is the last
such clause. -/
def forSql : Rule (String × Bool) := do
  if ← keyword "BROWSE" then return ("FOR BROWSE", true)
  else if ← keyword "XML" then return (← outputSql "XML", true)
  else if ← keyword "JSON" then return (← outputSql "JSON", true)
  else
    let k ← expectOneOf ["UPDATE", "SHARE"]
    let target ← do
      if ← keyword "OF" then pure (" OF " ++ dotted (← objectName)) else pure ""
    let wait ← do
      if ← keyword "NOWAIT" then pure " NOWAIT"
      else if ← keywords ["SKIP", "LOCKED"] then pure " SKIP LOCKED"
      else pure ""
    return ("FOR " ++ k ++ target ++ wait, false)

/-- The clauses after `FOR`, each after a blank. -/
def forClauses : Rule (List Part) := do
  let (clauses, _) ← iterated (fun ((clauses, last) : List Part × Bool) => do
    if ← onlyIf (!last) (keyword "FOR") then
      let (sql, last) ← forSql
      return some (clauses ++ [.words (" " ++ sql)], last)
    else return none) ([], false)
  return clauses

/-- What follows `ORDER BY`: the limit, and the pieces of all other clauses. -/
def queryTail : Rule (Option Expr × List Part) := do
  let d ← dialect
  let s ← slice (← slice ⟨none, none⟩)
  let offset : List Part := match s.offset with
    | some (e, unit) => [.words " OFFSET ", .deferred e, .words unit]
    | none => []
  let groups : List Part ← do
    if ← onlyIf (d == .ansi) (keyword "BY") then
      pure (.words " BY " :: Part.commaList (← commaSeparated expr))
    else pure []
  let settings : List Part := match ← settingsSql? with
    | some s => [.words (" " ++ s)]
    | none => []
  let fetched ← if ← keyword "FETCH" then fetch else pure []
  let locks ← forClauses
  let format : List Part ← do
    if ← onlyIf (d == .ansi) (keyword "FORMAT") then
      if ← keyword "NULL" then pure [.words " FORMAT NULL"]
      else pure [.words (" FORMAT " ++ (← name).sql)]
    else pure []
  return (s.limit, offset ++ groups ++ settings ++ fetched ++ locks ++ format)

end Grammar
end Sql
end QueryTemplate
