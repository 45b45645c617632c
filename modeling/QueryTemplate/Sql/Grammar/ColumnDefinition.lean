/-
# Definitions of columns

Columns and their options, and the constraints that stand among them.

| dialect | rule |
| --- | --- |
| `ansi` | keys and indexes among the columns; computed values |
| `ansi`, `bigquery` | lists of options |
| `postgres` | a computed value needs `STORED` |
| `snowflake` | identities, policies and tags |

A few words are options in `ansi` alone, but all dialects read them.
-/

import QueryTemplate.Sql.Grammar.Command

namespace QueryTemplate
namespace Sql
namespace Grammar

/-! ## Sequences -/

/-- The options of a sequence, in their order. -/
def sequenceOptions : Rule Unit := do
  if ← keyword "INCREMENT" then
    let _ ← keyword "BY"
    let _ ← signedNumberSql
  bound "MINVALUE"
  bound "MAXVALUE"
  if ← keyword "START" then
    let _ ← keyword "WITH"
    let _ ← signedNumberSql
  if ← keyword "CACHE" then
    let _ ← signedNumberSql
  let _ ← firstOf [["NO", "CYCLE"], ["CYCLE"]]
where
  /-- A bound of the numbers, or that there is none. -/
  bound (k : String) : Rule Unit := do
    if ← keyword k then
      let _ ← signedNumberSql
    else
      let _ ← keywords ["NO", k]

/-! ## Constraints -/

/-- When a constraint is checked, and whether it is; each is said at most once. -/
def characteristics : Rule Unit := do
  let _ ← iterated (fun (said : List String) => do
    let fresh (what : String) (ways : List (List String)) : Rule Bool :=
      onlyIf (!said.contains what) (do return (← firstOf ways).isSome)
    if ← fresh "DEFERRABLE" [["NOT", "DEFERRABLE"], ["DEFERRABLE"]] then
      return some ("DEFERRABLE" :: said)
    else if ← fresh "INITIALLY" [["INITIALLY"]] then
      match ← oneOf ["DEFERRED", "IMMEDIATE"] with
      | some _ => return some ("INITIALLY" :: said)
      | none => expected "one of DEFERRED or IMMEDIATE"
    else if ← fresh "ENFORCED" [["ENFORCED"], ["NOT", "ENFORCED"]] then
      return some ("ENFORCED" :: said)
    else return none) []

/-- What becomes of the rows that refer to a row. -/
def referentialAction : Rule Unit := do
  match ← firstOf [["RESTRICT"], ["CASCADE"], ["SET", "NULL"], ["NO", "ACTION"],
    ["SET", "DEFAULT"]] with
  | some _ => return
  | none => expected "one of RESTRICT, CASCADE, SET NULL, NO ACTION or SET DEFAULT"

/-- What becomes of rows when the row that they refer to is deleted or changed. -/
def referentialActions : Rule Unit := do
  let _ ← iterated (fun (said : List String) => do
    let k := (← peekAt 1).keyword
    if (← peekKeyword "ON") && ["DELETE", "UPDATE"].contains k && !said.contains k then
      modify (List.drop 2)
      referentialAction
      return some (k :: said)
    else return none) []

/-- The kind of an index after `USING`, if it is next. -/
def indexKind : Rule Bool := do
  if ← keyword "USING" then
    match ← oneOf ["BTREE", "HASH"] with
    | some _ => return true
    | none => expected "index type \x7bBTREE | HASH\x7d"
  else return false

/-- The options of an index. -/
def indexOptions : Rule Unit := do
  let _ ← repeated do
    if ← indexKind then return some ()
    else if ← keyword "COMMENT" then
      let _ ← literalString
      return some ()
    else return none

/-- Whether nulls differ from one another, if it is said next. -/
def nullsDistinct : Rule Unit := do
  if ← keyword "NULLS" then
    let _ ← keyword "NOT"
    expectKeyword "DISTINCT"

/-- The columns of an index, after its name and its kind. -/
def indexColumns : Rule Unit := do
  let _ ← attempt name
  let _ ← indexKind
  let _ ← columnList

/-- The columns of a key, and what else is said of it. -/
def key : Rule Unit := do
  indexColumns
  indexOptions
  characteristics

/-- A constraint that starts with the keyword `k`, which has been read. -/
def constraintOf (k : String) : Rule Unit := do
  match k with
  | "UNIQUE" =>
    if (← oneOf ["KEY", "INDEX"]).isSome && (← dialect) != .ansi then
      expected "\u0060index_name\u0060 or \u0060(column_name [, ...])\u0060"
    nullsDistinct
    key
  | "PRIMARY" =>
    expectKeyword "KEY"
    key
  | "FOREIGN" =>
    expectKeyword "KEY"
    let _ ← columnList
    expectKeyword "REFERENCES"
    let _ ← objectName
    let _ ← columnList
    referentialActions
    characteristics
  | "CHECK" =>
    let _ ← inParentheses expr
  | "FULLTEXT" | "SPATIAL" =>
    let _ ← oneOf ["KEY", "INDEX"]
    let _ ← attempt name
    let _ ← columnList
  | _ =>
    if ← peekKeyword "USING" then
      let _ ← indexKind
      let _ ← columnList
    else indexColumns

/-- A constraint of a table, with its name if it has one; whether one is next. -/
def tableConstraint : Rule Bool := do
  let label ← do
    if ← keyword "CONSTRAINT" then pure (some (← name)) else pure none
  let i ← peek
  let ansiOnly := ["INDEX", "KEY", "FULLTEXT", "SPATIAL"]
  if ["UNIQUE", "PRIMARY", "FOREIGN", "CHECK"].contains i.keyword then
    modify List.tail
    constraintOf i.keyword
    return true
  else if ansiOnly.contains i.keyword && (← dialect) == .ansi then
    match label with
    | none =>
      modify List.tail
      constraintOf i.keyword
      return true
    | some n =>
      if ["INDEX", "KEY"].contains i.keyword then expectedAt "PRIMARY, UNIQUE, FOREIGN, or CHECK" i
      else
        fail (.expected "FULLTEXT or SPATIAL option without constraint name" n.sql i.place)
  else if label.isSome then expectedAt "PRIMARY, UNIQUE, FOREIGN, or CHECK" i
  else return false

/-! ## Options of columns -/

/-- A string in single quotes, which is called `what`. -/
def quotedText (what : String) : Rule Unit := do
  let i ← next
  if i.string?.isNone then expectedAt what i

/-- Tags and their values in parentheses. -/
def tags : Rule Unit := do
  let _ ← inParentheses (commaSeparated do
    let _ ← name
    expectSymbol "="
    literalString)

/-- Where an identity starts and how it goes on, in parentheses; whether it is said next. -/
def identityBounds : Rule Bool := do
  if ← symbol "(" then
    let _ ← signedNumberSql
    expectSymbol ","
    let _ ← signedNumberSql
    expectSymbol ")"
    return true
  else return false

/-- An option of a column that `snowflake` has before all others; whether one is next. -/
def ruledOption : Rule Bool := do
  let start ← get
  let _ ← keyword "WITH"
  match ← firstOf [["IDENTITY"], ["AUTOINCREMENT"], ["MASKING", "POLICY"],
    ["PROJECTION", "POLICY"], ["TAG"]] with
  | some ["TAG"] =>
    tags
    return true
  | some [_, "POLICY"] =>
    let _ ← name
    if ← keyword "USING" then
      let _ ← nameList
    return true
  | some _ =>
    unless ← identityBounds do
      if ← keyword "START" then
        let _ ← signedNumberSql
        expectKeyword "INCREMENT"
        let _ ← signedNumberSql
    let _ ← oneOf ["ORDER", "NOORDER"]
    return true
  | none =>
    set start
    return false

/-- An option of a column that all dialects have; whether one is next. -/
def plainOption : Rule Bool := do
  match ← firstOf [["CHARACTER", "SET"], ["NOT", "NULL"], ["COMMENT"], ["NULL"], ["DEFAULT"],
    ["PRIMARY", "KEY"], ["UNIQUE"], ["REFERENCES"], ["CHECK"]] with
  | some ["CHARACTER", "SET"] =>
    let _ ← objectName
  | some ["COMMENT"] => quotedText "string"
  | some ["DEFAULT"] =>
    let _ ← expr
  | some ["PRIMARY", "KEY"] | some ["UNIQUE"] => characteristics
  | some ["REFERENCES"] =>
    let _ ← objectName
    if ← peekSymbol "(" then
      let _ ← nameList
    referentialActions
    characteristics
  | some ["CHECK"] =>
    let _ ← inParentheses expr
  | some _ => pure ()
  | none => return false
  return true

/-- A value that a column has without being given one, as `ansi` says it; whether one is next. -/
def valueOption : Rule Bool := do
  match ← oneOf ["MATERIALIZED", "ALIAS", "EPHEMERAL"] with
  | some k =>
    let ended := (← peekSymbol ",") || (← peekSymbol ")")
    unless k == "EPHEMERAL" && ended do
      let _ ← expr
    return true
  | none => return false

/-- What makes the values of a column, after `GENERATED`; whether it is said. -/
def generated : Rule Bool := do
  match ← firstOf [["ALWAYS", "AS", "IDENTITY"], ["BY", "DEFAULT", "AS", "IDENTITY"],
    ["ALWAYS", "AS"]] with
  | some ["ALWAYS", "AS"] =>
    if ← symbol "(" then
      let _ ← expr
      expectSymbol ")"
      unless ← keyword "STORED" do
        if (← dialect) == .postgres then expected "STORED"
        let _ ← keyword "VIRTUAL"
      return true
    else return false
  | some _ =>
    if ← symbol "(" then
      sequenceOptions
      expectSymbol ")"
    return true
  | none => return false

/-- The first option of `ansi` whose words are next; the words of a later one may follow words
that another dialect passes over. -/
def ansiOption : List (List String × Rule Unit) → Rule Bool
  | [] => return false
  | (words, rest) :: others => do
    if (← keywords words) && (← dialect) == .ansi then
      rest
      return true
    else ansiOption others

/-- An option of a column; whether one is next. -/
def columnOption : Rule Bool := do
  let d ← dialect
  let counters : List (List String × Rule Unit) := [
    (["AUTO_INCREMENT"], pure ()), (["AUTOINCREMENT"], pure ()), (["ASC"], pure ()),
    (["DESC"], pure ()), (["ON", "UPDATE"], do let _ ← expr)]
  let computed : Rule Unit := do
    let _ ← inParentheses expr
    let _ ← oneOf ["STORED", "VIRTUAL"]
  let identity : Rule Unit := do
    let _ ← identityBounds
  if ← onlyIf (d == .snowflake) ruledOption then return true
  else if ← plainOption then return true
  else if ← onlyIf (d == .ansi) valueOption then return true
  else if ← ansiOption counters then return true
  else if ← keyword "GENERATED" then generated
  else if ← onlyIf (d == .bigquery || d == .ansi) (peekKeyword "OPTIONS") then
    options "OPTIONS"
    return true
  else if ← ansiOption [(["AS"], computed), (["IDENTITY"], identity)] then return true
  else if ← onlyIf (d == .ansi) (keywords ["ON", "CONFLICT"]) then
    let _ ← expectOneOf ["ROLLBACK", "ABORT", "FAIL", "IGNORE", "REPLACE"]
    return true
  else return false

/-! ## Columns -/

/-- The collation of what stands before it, if it is said next; whether it is. -/
def collation : Rule Bool := do
  if ← keyword "COLLATE" then
    let _ ← objectName
    return true
  else return false

/-- The definition of a column. -/
def column : Rule Unit := do
  let d ← dialect
  let _ ← name
  let _ ← typeSql
  let _ ← collation
  let _ ← repeated do
    if ← keyword "CONSTRAINT" then
      let _ ← name
      unless ← columnOption do expected "constraint details after CONSTRAINT <name>"
      return some ()
    else if ← columnOption then return some ()
    else if ← onlyIf (d == .snowflake || d == .ansi) collation then return some ()
    else return none

/-- Columns and constraints in parentheses, if they are next; whether there is a column. -/
def columns : Rule Bool := do
  if !(← symbol "(") then return false
  else if ← symbol ")" then return false
  else
    let (defined, _) ← iterated (fun ((defined, more) : Bool × Bool) => do
      if !more then return none
      else
        let isConstraint ← tableConstraint
        unless isConstraint do
          if (← peek).ident?.isNone then expected "column name or constraint definition"
          column
        if ← symbol "," then return some (defined || !isConstraint, true)
        else if ← symbol ")" then return some (defined || !isConstraint, false)
        else expected "',' or ')' after column definition") (false, true)
    return defined

end Grammar
end Sql
end QueryTemplate
