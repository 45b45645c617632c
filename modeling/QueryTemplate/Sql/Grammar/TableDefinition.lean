/-
# Definitions of tables

What is said of a table besides its columns, and the changes that are made to one.

| dialect | rule |
| --- | --- |
| `ansi` | engines, buckets, projections and the place of a column |
| `ansi`, `bigquery` | lists of options |
| `postgres` | constraints can be renamed; a new type says how the old values become new ones |
| `snowflake` | what is said of a table has no order |
-/

import QueryTemplate.Sql.Grammar.ColumnDefinition

namespace QueryTemplate
namespace Sql
namespace Grammar

/-! ## What else is said of a table -/

/-- The columns by which a table is divided, if they are next. -/
def partitionColumns : Rule Unit := do
  if ← keywords ["PARTITIONED", "BY"] then
    let _ ← inParentheses (commaSeparated column)

/-- The buckets of a table, if they are next. -/
def buckets : Rule Unit := do
  if ← keywords ["CLUSTERED", "BY"] then
    let _ ← columnList
    if ← keywords ["SORTED", "BY"] then
      let _ ← inParentheses (commaSeparated orderTerm)
    expectKeyword "INTO"
    let _ ← numberOrParameter
    expectKeyword "BUCKETS"

/-- The words that start a delimiter of rows, and those that stand before it. -/
def delimiters : List (String × List String) := [
  ("FIELDS", ["TERMINATED", "BY"]), ("COLLECTION", ["ITEMS", "TERMINATED", "BY"]),
  ("MAP", ["KEYS", "TERMINATED", "BY"]), ("LINES", ["TERMINATED", "BY"]),
  ("NULL", ["DEFINED", "AS"])]

/-- How rows are written, after `ROW`. -/
def rowFormat : Rule Unit := do
  expectKeyword "FORMAT"
  if (← oneOf ["SERDE", "DELIMITED"]) == some "SERDE" then
    let _ ← literalString
  else
    let _ ← repeated do
      match ← oneOf (delimiters.map Prod.fst) with
      | none => return none
      | some k =>
        -- a word without the words that belong to it is passed over
        if ← keywords ((delimiters.lookup k).getD []) then
          let _ ← name
          if ← onlyIf (k == "FIELDS") (keywords ["ESCAPED", "BY"]) then
            let _ ← name
          return some ()
        else return none

/-- How and where a table is stored, if it is said next. -/
def storage : Rule Unit := do
  let _ ← repeated do
    match ← oneOf ["ROW", "STORED", "LOCATION"] with
    | some "ROW" => return some (← rowFormat)
    | some "STORED" =>
      expectKeyword "AS"
      if ← keyword "INPUTFORMAT" then
        let _ ← expr
        expectKeyword "OUTPUTFORMAT"
        let _ ← expr
      else if (← oneOf fileFormats).isNone then
        let i ← next
        expectedAt "fileformat" i
      return some ()
    | some _ =>
      let _ ← literalString
      return some ()
    | none =>
      if ← keywords ["WITH", "SERDEPROPERTIES"] then
        let _ ← inParentheses (commaSeparated assignedOption)
        return some ()
      else return none

/-- A word that is set. -/
def setWord : Rule Unit := do
  let i ← next
  if i.ident?.isNone then expectedAt "identifier" i

/-- The engine of a table and the first number that it counts, if they are said next. -/
def engine : Rule Unit := do
  if ← keyword "ENGINE" then
    expectSymbol "="
    setWord
    if ← peekSymbol "(" then
      let _ ← inParentheses (commaSeparatedBefore ")" name)
  if ← keyword "AUTO_INCREMENT" then
    let _ ← symbol "="
    let i ← next
    match i.token with
    | .number .. =>
      let _ ← repetitions i.place i
    | _ => expectedAt "literal int" i

/-- The order of the rows of a table, if it is said next. -/
def storedOrder : Rule Unit := do
  if ← onlyIf ((← dialect) == .ansi) (keywords ["PRIMARY", "KEY"]) then
    let _ ← expr
  if ← keywords ["ORDER", "BY"] then
    if ← peekSymbol "(" then
      let _ ← inParentheses (commaSeparatedBefore ")" expr)
    else
      let _ ← expr

/-- How the rows of a table are divided, and its options, if they are said next. -/
def division : Rule Unit := do
  let d ← dialect
  if ← onlyIf (d != .snowflake) (keywords ["PARTITION", "BY"]) then
    let _ ← expr
  if d == .bigquery || d == .ansi then
    if ← keywords ["CLUSTER", "BY"] then
      let _ ← commaSeparated name
    options "OPTIONS"

/-- What becomes of the rows at the end of a transaction, after `ON COMMIT`. -/
def onCommit : Rule Unit := do
  match ← firstOf [["DELETE", "ROWS"], ["PRESERVE", "ROWS"], ["DROP"]] with
  | some _ => return
  | none =>
    -- the message goes straight on with the next token and names no place
    fail (.fault ("Expecting DELETE ROWS, PRESERVE ROWS or DROP" ++ (← peek).token.text) none)

/-- The comment of a table, after its keyword. -/
def tableComment : Rule Unit := do
  let _ ← symbol "="
  quotedText "comment"

/-- `CREATE TABLE`, after its keywords. -/
def createTable : Rule Unit := do
  let d ← dialect
  ifNotExists
  let _ ← tableName
  onCluster
  if (← oneOf ["LIKE", "ILIKE"]).isSome then
    let _ ← tableName
  if ← keyword "CLONE" then
    let _ ← tableName
  let _ ← columns
  let _ ← keywords ["WITHOUT", "ROWID"]
  partitionColumns
  if d == .ansi then buckets
  storage
  options "WITH"
  options "TBLPROPERTIES"
  engine
  storedOrder
  division
  if ← keywords ["DEFAULT", "CHARSET"] then
    expectSymbol "="
    setWord
  if ← keyword "COLLATE" then
    expectSymbol "="
    setWord
  if ← keywords ["ON", "COMMIT"] then onCommit
  let _ ← keyword "STRICT"
  if ← keyword "COMMENT" then tableComment
  let filled ← keyword "AS"
  if filled || (d == .ansi && (← peekKeyword "SELECT")) then
    let _ ← query

/-- What `snowflake` says of a table: the keyword `i`, which has been read, and what belongs
to it. -/
def tableProperty (i : Item) : Rule Unit := do
  match i.keyword with
  | "COPY" => expectKeyword "GRANTS"
  | "COMMENT" => tableComment
  | "CLUSTER" =>
    expectKeyword "BY"
    let _ ← nameList
  | "ENABLE_SCHEMA_EVOLUTION" | "CHANGE_TRACKING" =>
    expectSymbol "="
    if (← oneOf ["TRUE", "FALSE"]).isNone then expectedAt "TRUE or FALSE" i
  | "DATA_RETENTION_TIME_IN_DAYS" | "MAX_DATA_EXTENSION_TIME_IN_DAYS" =>
    expectSymbol "="
    let _ ← integer
  | "DEFAULT_DDL_COLLATION" =>
    expectSymbol "="
    let _ ← literalString
  | "WITH" =>
    -- the word after it starts the next property
    let start ← get
    let _ ← expectOneOf ["AGGREGATION", "TAG", "ROW"]
    set start
  | "AGGREGATION" =>
    expectKeyword "POLICY"
    let _ ← objectName
  | "ROW" =>
    expectKeywords ["ACCESS", "POLICY"]
    let _ ← objectName
    expectKeyword "ON"
    let _ ← nameList
  | "TAG" => tags
  | "ON" =>
    expectKeyword "COMMIT"
    onCommit
  | _ => expectedAt "end of statement" i

/-- `CREATE TABLE` of `snowflake`, after its keywords: columns and properties in any order, up to
a query or another table.  Without those there has to be a column. -/
def createTableInAnyOrder : Rule Unit := do
  ifNotExists
  let _ ← objectName
  let _ ← iterated (fun ((defined, more) : Bool × Bool) => do
    let i ← peek
    if !more then return none
    else if i.place.isNone || i.isSymbol ";" then
      if defined then return none else fail (.fault "unexpected end of input" none)
    else if i.isSymbol "(" then return some (← columns, true)
    else
      modify List.tail
      match i.keyword with
      | "AS" =>
        let _ ← query
        return some (defined, false)
      | "CLONE" | "LIKE" =>
        nameOrToken
        return some (defined, false)
      | _ =>
        tableProperty i
        return some (defined, true)) (false, true)

/-- `CREATE EXTERNAL TABLE`, after its first two keywords. -/
def createExternalTable : Rule Unit := do
  expectKeyword "TABLE"
  ifNotExists
  let _ ← objectName
  let _ ← columns
  partitionColumns
  storage
  options "TBLPROPERTIES"

/-- `CREATE VIRTUAL TABLE`, after its first two keywords. -/
def createVirtualTable : Rule Unit := do
  expectKeyword "TABLE"
  ifNotExists
  let _ ← objectName
  expectKeyword "USING"
  let _ ← name
  if ← peekSymbol "(" then
    let _ ← nameList

/-! ## Changes of tables -/

/-- Who owns a thing. -/
def owner : Rule Unit := do
  if (← oneOf ["CURRENT_USER", "CURRENT_ROLE", "SESSION_USER"]).isNone then
    match ← outcome name with
    | .ok _ => return
    | .error e =>
      fail (.fault ("Expected: CURRENT_USER, CURRENT_ROLE, SESSION_USER or identifier after " ++
        "OWNER TO. " ++ e.message) none)

/-- A name and the new name of the same thing. -/
def newName : Rule Unit := do
  let _ ← name
  expectKeyword "TO"
  let _ ← name

/-- The place of a column among the others, if it is said next. -/
def columnPosition : Rule Unit := do
  if (← dialect) == .ansi then
    if (← oneOf ["FIRST", "AFTER"]) == some "AFTER" then
      let _ ← name

/-- What is added to a table, after `ADD`. -/
def addition : Rule Unit := do
  let d ← dialect
  unless ← tableConstraint do
    let projects ← onlyIf (d == .ansi) (keyword "PROJECTION")
    ifNotExists
    if projects then
      let _ ← name
      expectSymbol "("
      expectKeyword "SELECT"
      let _ ← selectList
      let _ ← groupBy
      let _ ← orderBy
      expectSymbol ")"
    else
      let partitions ← repeated do
        let p ← partition
        return if p.isEmpty then none else some p
      if partitions.isEmpty then
        let _ ← keyword "COLUMN"
        if d != .snowflake then ifNotExists
        column
        columnPosition

/-- What is dropped from a table, after `DROP`. -/
def removal : Rule Unit := do
  let d ← dialect
  if (← firstOf [["IF", "EXISTS", "PARTITION"], ["PARTITION"]]).isSome then
    let _ ← inParentheses (commaSeparated expr)
  else if ← keyword "CONSTRAINT" then
    ifExists
    let _ ← name
    let _ ← oneOf ["CASCADE", "RESTRICT"]
  -- the words are read in every dialect, and mean a key or a projection in one
  else if (← keywords ["PRIMARY", "KEY"]) && d == .ansi then return
  else if (← keyword "PROJECTION") && d == .ansi then
    ifExists
    let _ ← name
  else unless ← keywords ["CLUSTERING", "KEY"] do
    let _ ← keyword "COLUMN"
    ifExists
    let _ ← name
    let _ ← oneOf ["CASCADE", "RESTRICT"]

/-- A column as it is after the change, with its type and its options. -/
def changedColumn : Rule Unit := do
  let _ ← name
  let _ ← typeSql
  let _ ← repeated do
    if ← columnOption then return some () else return none
  columnPosition

/-- The change of a column, after its name. -/
def columnChange : Rule Unit := do
  let isPostgres := (← dialect) == .postgres
  match ← firstOf [["SET", "NOT", "NULL"], ["DROP", "NOT", "NULL"], ["SET", "DEFAULT"],
    ["DROP", "DEFAULT"], ["SET", "DATA", "TYPE"], ["ADD", "GENERATED"]] with
  | some ["SET", "DEFAULT"] =>
    let _ ← expr
  | some ["SET", "DATA", "TYPE"] => newType isPostgres
  | some ["ADD", "GENERATED"] =>
    let _ ← firstOf [["ALWAYS"], ["BY", "DEFAULT"]]
    expectKeywords ["AS", "IDENTITY"]
    if ← peekSymbol "(" then inParentheses sequenceOptions
  | some _ => return
  | none =>
    if ← onlyIf isPostgres (keyword "TYPE") then newType isPostgres
    else if isPostgres then
      expected ("SET/DROP NOT NULL, SET DEFAULT, SET DATA TYPE, or ADD GENERATED after " ++
        "ALTER COLUMN")
    else expected "SET/DROP NOT NULL, SET DEFAULT, or SET DATA TYPE after ALTER COLUMN"
where
  /-- The new type, and the expression that makes the new values. -/
  newType (isPostgres : Bool) : Rule Unit := do
    let _ ← typeSql
    if isPostgres then
      let _ ← optionalClause "USING"

/-- A rule, a trigger or the security of rows that is turned on or off. -/
def turned (ways : List (List String)) (what : String) : Rule Unit := do
  match ← firstOf (["ROW", "LEVEL", "SECURITY"] :: ways) with
  | some ["ROW", "LEVEL", "SECURITY"] => return
  | some _ =>
    let _ ← name
  | none => expected what

/-- The projection that is cleared or made, with its partition. -/
def projection : Rule Unit := do
  ifExists
  let _ ← name
  if ← keywords ["IN", "PARTITION"] then
    let _ ← name

/-- A part of a table that is attached, detached, frozen or unfrozen, after the keyword `k`. -/
def partChange (k : String) : Rule Unit := do
  let _ ← expectOneOf ["PART", "PARTITION"]
  let _ ← expr
  if k == "FREEZE" || k == "UNFREEZE" then
    if ← keyword "WITH" then
      expectKeyword "NAME"
      let _ ← name

/-- A change of a table that `ADD`, `RENAME`, `DISABLE` and `ENABLE` do not start. -/
def laterAlteration : Rule Unit := do
  let d ← dialect
  if ← keyword "DROP" then removal
  else if ← keyword "PARTITION" then
    let _ ← inParentheses (commaSeparated expr)
    expectKeywords ["RENAME", "TO", "PARTITION"]
    let _ ← inParentheses (commaSeparated expr)
  else if ← keyword "CHANGE" then
    let _ ← keyword "COLUMN"
    let _ ← name
    changedColumn
  else if ← keyword "MODIFY" then
    let _ ← keyword "COLUMN"
    changedColumn
  else if ← keyword "ALTER" then
    let _ ← keyword "COLUMN"
    let _ ← name
    columnChange
  else if ← keyword "SWAP" then
    expectKeyword "WITH"
    let _ ← objectName
  else if ← onlyIf (d == .postgres || d == .ansi) (keywords ["OWNER", "TO"]) then owner
  else
    let parts := if d == .ansi then ["ATTACH", "DETACH", "FREEZE", "UNFREEZE"] else []
    match ← oneOf parts with
    | some k => partChange k
    | none =>
      match ← firstOf [["CLUSTER", "BY"], ["SUSPEND", "RECLUSTER"], ["RESUME", "RECLUSTER"],
        ["SET", "TBLPROPERTIES"]] with
      | some ["CLUSTER", "BY"] =>
        let _ ← inParentheses (commaSeparated expr)
      | some ["SET", "TBLPROPERTIES"] =>
        let _ ← inParentheses (commaSeparated assignedOption)
      | some _ => return
      | none =>
        expected "ADD, RENAME, PARTITION, SWAP, DROP, or SET TBLPROPERTIES after ALTER TABLE"

/-- A change of a table. -/
def alteration : Rule Unit := do
  let d ← dialect
  match ← oneOf ["ADD", "RENAME", "DISABLE", "ENABLE"] with
  | some "ADD" => addition
  | some "RENAME" =>
    if ← onlyIf (d == .postgres) (keyword "CONSTRAINT") then newName
    else if ← keyword "TO" then
      let _ ← objectName
    else
      let _ ← keyword "COLUMN"
      newName
  | some "DISABLE" =>
    turned [["RULE"], ["TRIGGER"]] "ROW LEVEL SECURITY, RULE, or TRIGGER after DISABLE"
  | some _ =>
    turned [["ALWAYS", "RULE"], ["ALWAYS", "TRIGGER"], ["REPLICA", "RULE"], ["REPLICA", "TRIGGER"],
      ["RULE"], ["TRIGGER"]] "ALWAYS, REPLICA, ROW LEVEL SECURITY, RULE, or TRIGGER after ENABLE"
  | none =>
    -- the words are read in every dialect, and are a change of their own in one
    if (← keywords ["CLEAR", "PROJECTION"]) && d == .ansi then projection
    else if (← keywords ["MATERIALIZE", "PROJECTION"]) && d == .ansi then projection
    else laterAlteration

/-- `ALTER TABLE`, after its keywords. -/
def alterTable : Rule Unit := do
  ifExists
  let _ ← keyword "ONLY"
  let _ ← objectName
  onCluster
  let _ ← commaSeparated alteration
  if (← firstOf [["LOCATION"], ["SET", "LOCATION"]]).isSome then
    let _ ← name

end Grammar
end Sql
end QueryTemplate
