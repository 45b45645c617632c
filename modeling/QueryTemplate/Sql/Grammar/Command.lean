/-
# Other statements

Statements about sessions, transactions, cursors, rights and the upkeep of tables.  They are
read so that faults in them are found where templates meet them.

| dialect | rule |
| --- | --- |
| `ansi` | `FLUSH`; variables and the status may be shown; a transaction may be deferred |
| `bigquery`, `snowflake` | `DECLARE` is for variables, elsewhere for a cursor |
| `snowflake` | `USE` and `SHOW` name the kind of what follows |
| all but `postgres` | several variables may be set at once |
-/

import QueryTemplate.Sql.Grammar.Change

namespace QueryTemplate
namespace Sql
namespace Grammar

/-! ## What several statements share -/

/-- `IF EXISTS`, if it is next. -/
def ifExists : Rule Unit := do
  let _ ← keywords ["IF", "EXISTS"]

/-- `IF NOT EXISTS`, if it is next. -/
def ifNotExists : Rule Unit := do
  let _ ← keywords ["IF", "NOT", "EXISTS"]

/-- `ON CLUSTER` with its name, if it is next. -/
def onCluster : Rule Unit := do
  if ← keywords ["ON", "CLUSTER"] then
    let _ ← name

/-- A dotted name, or the one token that stands in its place. -/
def nameOrToken : Rule Unit := do
  if (← attempt objectName).isNone then
    let _ ← next

/-- How the partitions of a table are divided, after `PARTITION`. -/
def partitionRange : Rule Unit := inParentheses do
  let _ ← name
  expectKeyword "RANGE"
  let _ ← oneOf ["LEFT", "RIGHT"]
  expectKeywords ["FOR", "VALUES"]
  let _ ← inParentheses (commaSeparated expr)

/-- How the rows of a table are clustered. -/
def clustering : Rule Unit := do
  match ← firstOf [["CLUSTERED", "COLUMNSTORE", "INDEX", "ORDER"],
    ["CLUSTERED", "COLUMNSTORE", "INDEX"], ["CLUSTERED", "INDEX"]] with
  | some ["CLUSTERED", "COLUMNSTORE", "INDEX", "ORDER"] =>
    let _ ← columnList
  | some ["CLUSTERED", "INDEX"] =>
    let _ ← inParentheses (commaSeparated do
      let _ ← name
      let _ ← directionSql)
  | some _ => return
  | none => fail (.fault "invalid CLUSTERED sequence" none)

/-- An option: a name and its value, or in `ansi` a way to store a table. -/
def assignedOption : Rule Unit := do
  let i ← peek
  match if (← dialect) == .ansi then i.keyword else "" with
  | "HEAP" => modify List.tail
  | "PARTITION" =>
    modify List.tail
    partitionRange
  | "CLUSTERED" => clustering
  | _ =>
    let _ ← name
    expectSymbol "="
    let _ ← expr

/-- Options in parentheses after their keyword, if it is next. -/
def options (k : String) : Rule Unit := do
  if ← keyword k then
    let _ ← inParentheses (commaSeparatedBefore ")" assignedOption)

/-! ## Sessions -/

/-- `KILL`, after its keyword. -/
def kill : Rule Unit := do
  let kind ← oneOf ["CONNECTION", "QUERY", "MUTATION"]
  let _ ← integer
  if kind == some "MUTATION" && (← dialect) != .ansi then
    expected "Unsupported type for KILL, allowed: CONNECTION | QUERY"

/-- The tables that are flushed: lists of them among keywords, up to a token that is no word. -/
def flushedTables : Rule Unit := do
  let _ ← repeated do
    let i ← next
    if i.ident?.isNone then return none
    else
      if i.keyword == "WITH" then
        let _ ← keywords ["READ", "LOCK"]
      else if i.keyword == "FOR" then
        let _ ← keyword "EXPORT"
      else if i.isFreeWord then
        modify (i :: ·)
        let _ ← commaSeparated objectName
      return some ()

/-- `FLUSH`, after its keyword. -/
def flush : Rule Unit := do
  if (← dialect) != .ansi then fault "Unsupported statement FLUSH"
  let _ ← oneOf ["NO_WRITE_TO_BINLOG", "LOCAL"]
  match ← firstOf [["BINARY", "LOGS"], ["ENGINE", "LOGS"], ["ERROR", "LOGS"], ["GENERAL", "LOGS"],
    ["HOSTS"], ["PRIVILEGES"], ["OPTIMIZER_COSTS"], ["RELAY", "LOGS"], ["SLOW", "LOGS"], ["STATUS"],
    ["USER_RESOURCES"], ["LOGS"], ["TABLES"]] with
  | some ["RELAY", "LOGS"] =>
    if ← keywords ["FOR", "CHANNEL"] then
      let _ ← objectName
  | some ["TABLES"] => flushedTables
  | some _ => return
  | none =>
    expected ("BINARY LOGS, ENGINE LOGS, ERROR LOGS, GENERAL LOGS, HOSTS, LOGS, PRIVILEGES, " ++
      "OPTIMIZER_COSTS,RELAY LOGS [FOR CHANNEL channel], SLOW LOGS, STATUS, USER_RESOURCES")

/-- `DISCARD`, after its keyword. -/
def discard : Rule Unit := do
  match ← oneOf ["ALL", "PLANS", "SEQUENCES", "TEMP", "TEMPORARY"] with
  | some _ => return
  | none => expected "ALL, PLANS, SEQUENCES, TEMP or TEMPORARY after DISCARD"

/-- `USE`, after its keyword. -/
def use : Rule Unit := do
  let kinds := if (← dialect) == .snowflake then
    ["DATABASE", "SCHEMA", "WAREHOUSE", "ROLE", "SECONDARY"] else []
  if (← oneOf kinds) == some "SECONDARY" then
    let _ ← expectOneOf ["ROLES", "ROLE"]
    match ← oneOf ["NONE", "ALL"] with
    | some _ => return
    | none =>
      let _ ← commaSeparated name
  else
    let _ ← objectName

/-- What lists of names are filtered by, if it is said next. -/
def listFilter : Rule Unit := do
  match ← oneOf ["LIKE", "ILIKE", "WHERE"] with
  | some "WHERE" =>
    let _ ← expr
  | some _ =>
    let _ ← literalString
  | none =>
    let _ ← attempt literalString

/-- What the things that are listed belong to, if it is said next. -/
def listParent : Rule Unit := do
  if (← oneOf ["FROM", "IN"]).isSome then
    match ← oneOf ["ACCOUNT", "DATABASE", "SCHEMA", "TABLE", "VIEW"] with
    | some k =>
      let bounded := ((← peekAt 0).keyword == "STARTS" && (← peekAt 1).keyword == "WITH") ||
        (← peekAt 0).keyword == "LIMIT"
      unless (k == "DATABASE" || k == "SCHEMA") && bounded do
        let _ ← attempt objectName
    | none =>
      let _ ← objectName
      if (← oneOf ["FROM", "IN"]).isSome then
        let _ ← name

/-- Which of the things are listed. -/
def listOptions : Rule Unit := do
  if (← dialect) == .snowflake then
    listFilter
    listParent
  else
    listParent
    listFilter
  if ← keywords ["STARTS", "WITH"] then
    let _ ← literal
  if ← keyword "LIMIT" then
    unless ← keyword "ALL" do
      let _ ← expr
  if ← keyword "FROM" then
    let _ ← literal

/-- The name of a variable: all tokens up to an equals sign or to the end of the text. -/
def variableName : Rule Unit := do
  modify fun s => s.dropWhile fun i => !i.isSymbol "="

/-- `SHOW`, after its keyword. -/
def showing : Rule Unit := do
  let mysql := (← dialect) == .ansi
  let _ ← keyword "TERSE"
  let extended ← keyword "EXTENDED"
  let full ← keyword "FULL"
  let _ ← keyword "SESSION"
  let _ ← keyword "GLOBAL"
  let _ ← keyword "EXTERNAL"
  match ← firstOf [["COLUMNS"], ["FIELDS"], ["TABLES"], ["MATERIALIZED", "VIEWS"], ["VIEWS"]] with
  | some _ => listOptions
  | none =>
    if ← keyword "FUNCTIONS" then listFilter
    else if extended || full then
      fail (.fault "EXTENDED/FULL are not supported with this type of SHOW query" none)
    else if ← keyword "CREATE" then
      let _ ← expectOneOf ["TABLE", "TRIGGER", "FUNCTION", "PROCEDURE", "EVENT", "VIEW"]
      let _ ← objectName
    else if ← keyword "COLLATION" then listFilter
    else if (← keyword "VARIABLES") && mysql then listFilter
    else if (← keyword "STATUS") && mysql then listFilter
    else if (← oneOf ["DATABASES", "SCHEMAS"]).isSome then listOptions
    else variableName

/-! ## Transactions -/

/-- The modes of a transaction, with or without commas in between. -/
def transactionModes : Rule Unit := do
  let _ ← iterated (fun required => do
    if ← keywords ["ISOLATION", "LEVEL"] then
      match ← firstOf [["READ", "UNCOMMITTED"], ["READ", "COMMITTED"], ["REPEATABLE", "READ"],
        ["SERIALIZABLE"]] with
      | some _ => return some (← symbol ",")
      | none => expected "isolation level"
    else match ← firstOf [["READ", "ONLY"], ["READ", "WRITE"]] with
      | some _ => return some (← symbol ",")
      | none => if required then expected "transaction mode" else return none) false

/-- What follows the end of a transaction. -/
def chain : Rule Unit := do
  let _ ← oneOf ["TRANSACTION", "WORK"]
  if ← keyword "AND" then
    let _ ← keyword "NO"
    expectKeyword "CHAIN"

/-- The start of a transaction, after its keyword `k`. -/
def startTransaction (k : String) : Rule Unit := do
  if k == "START" then expectKeyword "TRANSACTION"
  else
    if (← dialect) == .ansi then
      let _ ← oneOf ["DEFERRED", "IMMEDIATE", "EXCLUSIVE"]
    let _ ← oneOf ["TRANSACTION", "WORK"]
  transactionModes

/-- `ROLLBACK`, after its keyword. -/
def rollback : Rule Unit := do
  chain
  if ← keyword "TO" then
    let _ ← keyword "SAVEPOINT"
    let _ ← name

/-- The values of a variable. -/
def variableValues : Rule Unit := do
  let _ ← commaSeparated do
    if ← peekQuery then
      let _ ← query
    else match ← outcome expr with
      | .ok _ => return
      | .error _ => expected "variable value"

/-- `=` or `TO`, if it is next. -/
def equalsOrTo : Rule Bool := do
  if ← symbol "=" then return true else keyword "TO"

/-- What a variable is set to, after its name; `modified` says that a word such as `LOCAL` stands
before it. -/
def setTo (target : List Ident) (modified : Bool) : Rule Unit := do
  let text := dotted target
  if (← dialect) == .ansi && text.toLower == "names" then
    unless ← keyword "DEFAULT" do
      let _ ← literalString
      if ← keyword "COLLATE" then
        let _ ← literalString
  else if ← equalsOrTo then variableValues
  else if text.toLower == "timezone" then
    match ← outcome expr with
    | .ok _ => return
    | .error _ => expected "timezone value"
  else if text == "CHARACTERISTICS" then
    expectKeywords ["AS", "TRANSACTION"]
    transactionModes
  else if text == "TRANSACTION" && !modified then
    if ← keyword "SNAPSHOT" then
      let _ ← literal
    else transactionModes
  else expected "equals sign or TO"

/-- Several variables and their values in parentheses, or one variable. -/
def setVariables (modified : Bool) : Rule Unit := do
  if ← keywords ["TIME", "ZONE"] then setTo [.plain "TIMEZONE"] modified
  else if ← onlyIf ((← dialect) != .postgres) (symbol "(") then
    let _ ← commaSeparated name
    expectSymbol ")"
    if ← equalsOrTo then inParentheses variableValues else expected "set variable"
  else setTo (← objectName) modified

/-- A role, or none. -/
def setRole : Rule Unit := do
  expectKeyword "ROLE"
  unless ← keyword "NONE" do
    let _ ← name

/-- `SET`, after its keyword. -/
def setting : Rule Unit := do
  let modifier ← oneOf ["SESSION", "LOCAL", "HIVEVAR"]
  if modifier == some "HIVEVAR" then
    expectSymbol ":"
    setVariables true
  else match ← attempt setRole with
    | some _ => return
    | none => setVariables modifier.isSome

/-! ## Cursors and prepared statements -/

/-- `FETCH` from a cursor, after its keyword. -/
def fetchRows : Rule Unit := do
  match ← oneOf ["NEXT", "PRIOR", "FIRST", "LAST", "ABSOLUTE", "RELATIVE", "FORWARD", "BACKWARD",
    "ALL"] with
  | some "ABSOLUTE" | some "RELATIVE" | none =>
    let _ ← numberOrParameter
  | some "FORWARD" | some "BACKWARD" =>
    unless ← keyword "ALL" do
      let _ ← numberOrParameter
  | some _ => pure ()
  let _ ← expectOneOf ["FROM", "IN"]
  let _ ← name
  if ← keyword "INTO" then
    let _ ← objectName

/-- The declaration of a cursor, after its name. -/
def declareCursor : Rule Unit := do
  let _ ← keyword "BINARY"
  let _ ← oneOf ["INSENSITIVE", "ASENSITIVE"]
  unless ← keyword "SCROLL" do
    let _ ← keywords ["NO", "SCROLL"]
  expectKeyword "CURSOR"
  if (← oneOf ["WITH", "WITHOUT"]).isSome then expectKeyword "HOLD"
  expectKeyword "FOR"
  let _ ← query

/-- The value of a variable, if one is given; whether it is. -/
def declaredValue : Rule Bool := do
  let given ← keyword "DEFAULT"
  let given ← if given then pure true else symbol ":="
  if given then
    let _ ← expr
  return given

/-- A declaration of `snowflake`, after its name. -/
def declareSnowflake : Rule Unit := do
  if ← keyword "CURSOR" then
    expectKeyword "FOR"
    if ← peekKeyword "SELECT" then
      let _ ← query
    else
      let _ ← expr
  else if ← keyword "RESULTSET" then
    let _ ← declaredValue
  else if ← keyword "EXCEPTION" then
    if ← peekSymbol "(" then
      let _ ← expr
  else
    unless ← declaredValue do
      if (← peek).ident?.isSome then
        let _ ← typeSql
        let _ ← declaredValue

/-- `DECLARE`, after its keyword. -/
def declare : Rule Unit := do
  match ← dialect with
  | .bigquery =>
    let _ ← commaSeparated name
    if ← peekKeyword "DEFAULT" then
      let _ ← optionalClause "DEFAULT"
    else
      let _ ← typeSql
      let _ ← optionalClause "DEFAULT"
  | .snowflake =>
    let _ ← name
    declareSnowflake
    -- a semicolon ends a declaration, and a name behind it starts the next one
    let _ ← repeated do
      if (← peekAt 0).isSymbol ";" && (← peekAt 1).ident?.isSome &&
          !Keyword.keywords.contains (Text.upper (← peekAt 1).token.text) then
        modify List.tail
        let _ ← name
        return some (← declareSnowflake)
      else return none
  | _ =>
    let _ ← name
    declareCursor

/-- `EXECUTE`, after its keyword. -/
def execute : Rule Unit := do
  let _ ← objectName
  if ← symbol "(" then
    let _ ← commaSeparatedBefore ")" expr
    expectSymbol ")"
  else
    let i ← peek
    unless i.place.isNone || i.isSymbol ";" || i.keyword == "USING" do
      let _ ← commaSeparated expr
  if ← keyword "USING" then
    let _ ← commaSeparated expr

/-- `PREPARE`, after its keyword; `inner` reads what is prepared. -/
def prepare {α : Type} (inner : Rule α) : Rule Unit := do
  let _ ← name
  if ← symbol "(" then
    let _ ← commaSeparated typeSql
    expectSymbol ")"
  expectKeyword "AS"
  let _ ← inner

/-! ## Rights -/

/-- What may be done, and with what. -/
def rights : Rule Unit := do
  if ← keyword "ALL" then
    let _ ← keyword "PRIVILEGES"
  else
    let _ ← commaSeparated do
      match ← oneOf ["CONNECT", "CREATE", "DELETE", "EXECUTE", "INSERT", "REFERENCES", "SELECT",
        "TEMPORARY", "TRIGGER", "TRUNCATE", "UPDATE", "USAGE"] with
      | some k =>
        if ["INSERT", "REFERENCES", "SELECT", "UPDATE"].contains k && (← peekSymbol "(") then
          let _ ← nameList
      | none => expected "a privilege keyword"
  expectKeyword "ON"
  match ← firstOf [["ALL", "TABLES", "IN", "SCHEMA"], ["ALL", "SEQUENCES", "IN", "SCHEMA"]] with
  | some _ => pure ()
  | none =>
    let _ ← oneOf ["SEQUENCE", "SCHEMA", "TABLE"]
  let _ ← commaSeparated objectName

/-- `GRANTED BY` with its name, if it is next. -/
def grantedBy : Rule Unit := do
  if ← keywords ["GRANTED", "BY"] then
    let _ ← name

/-- `CASCADE` or `RESTRICT`, but not both, in a statement of kind `what`. -/
def cascade (what : String) : Rule Bool := do
  let place := (← peek).place
  let cascades ← keyword "CASCADE"
  let restricts ← keyword "RESTRICT"
  if cascades && restricts then
    fail (.fault ("Cannot specify both CASCADE and RESTRICT in " ++ what) place)
  else return cascades || restricts

/-- `GRANT`, after its keyword. -/
def grant : Rule Unit := do
  rights
  expectKeyword "TO"
  let _ ← commaSeparated name
  let _ ← keywords ["WITH", "GRANT", "OPTION"]
  grantedBy

/-- `REVOKE`, after its keyword. -/
def revoke : Rule Unit := do
  rights
  expectKeyword "FROM"
  let _ ← commaSeparated name
  grantedBy
  let _ ← cascade "REVOKE"

/-! ## Upkeep -/

/-- `ANALYZE`, after its keyword. -/
def analyze : Rule Unit := do
  expectKeyword "TABLE"
  let _ ← objectName
  let _ ← repeated do
    match ← oneOf ["PARTITION", "FOR", "CACHE", "NOSCAN", "COMPUTE"] with
    | some "PARTITION" =>
      let _ ← inParentheses (commaSeparated expr)
      return some ()
    | some "FOR" =>
      expectKeyword "COLUMNS"
      let _ ← attempt (commaSeparated name)
      return some ()
    | some "CACHE" => return some (← expectKeyword "METADATA")
    | some "COMPUTE" => return some (← expectKeyword "STATISTICS")
    | some _ => return some ()
    | none => return none

/-- `TRUNCATE`, after its keyword. -/
def truncate : Rule Unit := do
  let d ← dialect
  let _ ← keyword "TABLE"
  let _ ← keyword "ONLY"
  let _ ← commaSeparated objectName
  let _ ← partition
  if d == .postgres || d == .ansi then
    let _ ← firstOf [["RESTART", "IDENTITY"], ["CONTINUE", "IDENTITY"]]
    let _ ← oneOf ["CASCADE", "RESTRICT"]
  onCluster

/-- `MSCK`, after its keyword. -/
def msck : Rule Unit := do
  let _ ← keyword "REPAIR"
  expectKeyword "TABLE"
  let _ ← objectName
  let _ ← attempt do
    let _ ← oneOf ["ADD", "DROP", "SYNC"]
    expectKeyword "PARTITIONS"

/-- What is cached, after the name of the table. -/
def cachedQuery : Rule Unit := do
  options "OPTIONS"
  let i ← peek
  if i.place.isSome then
    if i.ident?.isNone then expected "a QUERY statement"
    else
      let _ ← keyword "AS"
      let _ ← query

/-- `CACHE`, after its keyword. -/
def cache : Rule Unit := do
  unless ← keyword "TABLE" do
    let _ ← objectName
    unless ← keyword "TABLE" do expected "a TABLE keyword"
  let _ ← objectName
  cachedQuery

/-- `UNCACHE`, after its keyword. -/
def uncache : Rule Unit := do
  expectKeyword "TABLE"
  ifExists
  let _ ← objectName

/-- `OPTIMIZE`, after its keyword. -/
def optimize : Rule Unit := do
  expectKeyword "TABLE"
  let _ ← objectName
  onCluster
  if ← keyword "PARTITION" then
    if ← keyword "ID" then
      let _ ← name
    else
      let _ ← expr
  let _ ← keyword "FINAL"
  if ← keyword "DEDUPLICATE" then
    let _ ← optionalClause "BY"

/-- The value of a `PRAGMA`. -/
def pragmaValue : Rule Unit := do
  let start ← get
  match ← literal with
  | .string .single _ | .string .double _ | .number .. | .parameter _ => return
  | _ =>
    set start
    expected "number or string or ? placeholder"

/-- `PRAGMA`, after its keyword. -/
def pragma : Rule Unit := do
  let _ ← objectName
  if ← symbol "(" then
    pragmaValue
    expectSymbol ")"
  else if ← symbol "=" then pragmaValue

/-- `COMMENT`, after its keyword. -/
def comment : Rule Unit := do
  ifExists
  expectKeyword "ON"
  let i ← next
  let kinds := ["COLUMN", "TABLE", "EXTENSION", "SCHEMA", "DATABASE", "USER", "ROLE"]
  unless kinds.contains i.keyword do
    expectedAt "comment object_type" i
  let _ ← objectName
  expectKeyword "IS"
  unless ← keyword "NULL" do
    let _ ← literalString

/-- `UNLOAD`, after its keyword. -/
def unload : Rule Unit := do
  let _ ← inParentheses query
  expectKeyword "TO"
  let _ ← name
  options "WITH"

end Grammar
end Sql
end QueryTemplate
