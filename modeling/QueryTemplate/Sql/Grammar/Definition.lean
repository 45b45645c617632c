/-
# Definitions, and the statements by their keywords

What is created, dropped or altered, by its kind.  A definition of `snowflake` that is neither
a table nor a stage is read again from a word of its own, and the words before its kind do not
all come back.

| dialect | statements |
| --- | --- |
| `ansi` | `FLUSH`, `REPLACE`, `DETACH`, `INSTALL`, `LOAD`, `OPTIMIZE`, macros |
| `ansi`, `postgres` | `LISTEN`, `UNLISTEN`, `NOTIFY`, triggers |
| all but `bigquery` | `COMMENT` |
| all but `snowflake` | functions |
| `snowflake` | stages |
| `postgres` | options of roles |
-/

import QueryTemplate.Sql.Grammar.Copy
import QueryTemplate.Sql.Grammar.Routine

namespace QueryTemplate
namespace Sql
namespace Grammar

/-! ## Views, schemas and indexes -/

/-- A column of a view. -/
def viewColumn : Rule Unit := do
  let d ← dialect
  let _ ← name
  if ← onlyIf (d == .bigquery || d == .ansi) (peekKeyword "OPTIONS") then options "OPTIONS"
  else if ← onlyIf (d == .snowflake || d == .ansi) (keyword "COMMENT") then
    quotedText "string literal"

/-- `CREATE VIEW`, after its keywords. -/
def createView : Rule Unit := do
  let d ← dialect
  if d == .bigquery || d == .ansi then ifNotExists
  let _ ← tableName
  if ← symbol "(" then
    let _ ← commaSeparatedBefore ")" viewColumn
    expectSymbol ")"
  options "WITH"
  if ← keyword "CLUSTER" then
    expectKeyword "BY"
    if ← peekSymbol "(" then
      let _ ← nameList
  if d == .bigquery || d == .ansi then options "OPTIONS"
  if ← onlyIf (d == .ansi) (keyword "TO") then
    let _ ← objectName
  if ← onlyIf (d == .snowflake || d == .ansi) (keyword "COMMENT") then
    expectSymbol "="
    quotedText "string literal"
  expectKeyword "AS"
  let _ ← query
  if d == .ansi then
    let _ ← keywords ["WITH", "NO", "SCHEMA", "BINDING"]

/-- `CREATE SCHEMA`, after its keywords. -/
def createSchema : Rule Unit := do
  ifNotExists
  if ← keyword "AUTHORIZATION" then
    let _ ← name
  else
    let _ ← objectName
    if ← keyword "AUTHORIZATION" then
      let _ ← name

/-- `CREATE DATABASE`, after its keywords. -/
def createDatabase : Rule Unit := do
  ifNotExists
  let _ ← objectName
  let _ ← repeated do
    if (← oneOf ["LOCATION", "MANAGEDLOCATION"]).isSome then return some (← literalString)
    else return none

/-- `CREATE INDEX`, after its keywords. -/
def createIndex : Rule Unit := do
  let d ← dialect
  let _ ← keyword "CONCURRENTLY"
  let isNamed ← keywords ["IF", "NOT", "EXISTS"]
  unless ← onlyIf (!isNamed) (keyword "ON") do
    let _ ← objectName
    expectKeyword "ON"
  let _ ← objectName
  if ← keyword "USING" then
    let _ ← name
  let _ ← inParentheses (commaSeparated orderTerm)
  if ← keyword "INCLUDE" then
    let _ ← nameList
  nullsDistinct
  if ← onlyIf (d == .postgres || d == .ansi) (keyword "WITH") then
    let _ ← inParentheses (commaSeparated expr)
  let _ ← optionalClause "WHERE"

/-- `CREATE EXTENSION`, after its keywords. -/
def createExtension : Rule Unit := do
  ifNotExists
  let _ ← name
  if ← keyword "WITH" then
    if ← keyword "SCHEMA" then
      let _ ← name
    if ← keyword "VERSION" then
      let _ ← name
    let _ ← keyword "CASCADE"

/-! ## Sequences and types -/

/-- `CREATE SEQUENCE`, after its keywords. -/
def createSequence : Rule Unit := do
  ifNotExists
  let _ ← objectName
  if ← keyword "AS" then
    let _ ← typeSql
  sequenceOptions
  if ← keywords ["OWNED", "BY"] then
    unless ← keyword "NONE" do
      let _ ← objectName

/-- `CREATE TYPE`, after its keywords. -/
def createType : Rule Unit := do
  let _ ← objectName
  expectKeyword "AS"
  if ← keyword "ENUM" then
    let _ ← inParentheses (commaSeparatedBefore ")" name)
  else
    let field : Rule Unit := do
      let _ ← name
      let _ ← typeSql
      let _ ← collation
    composite field "attribute"

/-! ## Roles, policies and secrets -/

/-- What a role may be granted, or denied with `NO` in front. -/
def roleRights : List String := [
  "LOGIN", "INHERIT", "BYPASSRLS", "CREATEDB", "CREATEROLE", "SUPERUSER", "REPLICATION"]

/-- The words that start an option of a role which may also be altered. -/
def roleWords : List String :=
  roleRights ++ roleRights.map ("NO" ++ ·) ++ ["PASSWORD", "CONNECTION", "VALID"]

/-- What an option of a role is about, after its keyword `k`. -/
def roleSubject (k : String) : Rule String := do
  match k with
  | "CONNECTION" =>
    expectKeyword "LIMIT"
    return "CONNECTION LIMIT"
  | "VALID" =>
    expectKeyword "UNTIL"
    return "VALID UNTIL"
  | "IN" =>
    match ← oneOf ["ROLE", "GROUP"] with
    | some kind => return "IN " ++ kind
    | none => expected "ROLE or GROUP after IN"
  | _ =>
    match roleRights.find? fun r => k == r || k == "NO" ++ r with
    | some r => return r ++ " or NO" ++ r
    | none => return k

/-- The value of an option of a role, by what it is about. -/
def roleValue (subject : String) : Rule Unit := do
  match subject with
  | "PASSWORD" =>
    unless ← keyword "NULL" do
      let _ ← literal
  | "VALID UNTIL" =>
    let _ ← literal
  | "CONNECTION LIMIT" =>
    let _ ← numberOrParameter
  | "IN ROLE" | "IN GROUP" | "ROLE" | "USER" | "ADMIN" =>
    let _ ← commaSeparated name
  | _ => return

/-- `CREATE ROLE`, after its keywords: no two options are about the same. -/
def createRole : Rule Unit := do
  ifNotExists
  let _ ← commaSeparated objectName
  let _ ← keyword "WITH"
  if (← dialect) == .postgres then
    let _ ← iterated (fun (said : List String) => do
      let place := (← peek).place
      match ← oneOf (roleWords ++ ["IN", "ROLE", "ADMIN", "USER"]) with
      | none => return none
      | some k =>
        let subject ← roleSubject k
        if said.contains subject then fail (.fault ("Found multiple " ++ subject) place)
        else
          roleValue subject
          return some (subject :: said)) []

/-- An option that a role gets. -/
def roleOption : Rule Unit := do
  match ← oneOf roleWords with
  | some k => roleValue (← roleSubject k)
  | none => expected "option"

/-- `ALTER ROLE`, after its keywords. -/
def alterRole : Rule Unit := do
  if (← dialect) != .postgres then
    fail (.fault "ALTER ROLE is only support for PostgreSqlDialect, MsSqlDialect" none)
  let _ ← name
  if ← keywords ["IN", "DATABASE"] then nameOrToken
  match ← oneOf ["RENAME", "SET", "RESET"] with
  | some "RENAME" =>
    unless ← keyword "TO" do expected "TO after RENAME"
    let _ ← name
  | some "SET" =>
    let _ ← objectName
    unless ← keywords ["FROM", "CURRENT"] do
      unless ← equalsOrTo do expected "'TO' or '=' or 'FROM CURRENT'"
      unless ← keyword "DEFAULT" do
        match ← outcome expr with
        | .ok _ => return
        | .error _ => expected "config value"
  | some _ =>
    unless ← keyword "ALL" do
      let _ ← objectName
  | none =>
    let _ ← keyword "WITH"
    let found ← repeated (attempt roleOption)
    if found.isEmpty then expected "option"

/-- Whom a policy is about and the rows that it lets through. -/
def policyTerms : Rule Unit := do
  if ← keyword "TO" then
    let _ ← commaSeparated owner
  if ← keyword "USING" then
    let _ ← inParentheses expr
  if ← keywords ["WITH", "CHECK"] then
    let _ ← inParentheses expr

/-- The name of a policy and its table. -/
def policyName : Rule Unit := do
  let _ ← name
  expectKeyword "ON"
  let _ ← objectName

/-- `CREATE POLICY`, after its keywords. -/
def createPolicy : Rule Unit := do
  policyName
  if ← keyword "AS" then
    let _ ← expectOneOf ["PERMISSIVE", "RESTRICTIVE"]
  if ← keyword "FOR" then
    let _ ← expectOneOf ["ALL", "SELECT", "INSERT", "UPDATE", "DELETE"]
  policyTerms

/-- `ALTER POLICY`, after its keywords. -/
def alterPolicy : Rule Unit := do
  policyName
  if ← keyword "RENAME" then
    expectKeyword "TO"
    let _ ← name
  else policyTerms

/-- `CREATE SECRET`, after its keywords.  Any token may stand for its name and for where it is
kept. -/
def createSecret : Rule Unit := do
  ifNotExists
  unless ← peekSymbol "(" do
    let kept ← keyword "IN"
    let _ ← next
    if ← onlyIf (!kept) (keyword "IN") then
      let _ ← next
  expectSymbol "("
  expectKeyword "TYPE"
  let _ ← name
  if ← symbol "," then
    let _ ← commaSeparated do
      let _ ← name
      name
  expectSymbol ")"

/-! ## What is created, dropped and altered -/

/-- A definition of `snowflake` after `CREATE`; whether it was one of a table or a stage.  Else
the tokens are put back, but one too few for each word about the scope and the life of the
thing that is no `TEMPORARY`. -/
def createStored : Rule Bool := do
  let start ← get
  let _ ← keywords ["OR", "REPLACE"]
  let scope ← oneOf ["LOCAL", "GLOBAL"]
  let life ← oneOf ["TEMP", "TEMPORARY", "VOLATILE", "TRANSIENT"]
  if ← keyword "STAGE" then
    createStage
    return true
  else if ← keyword "TABLE" then
    createTableInAnyOrder
    return true
  else
    let lost := scope.toList.length +
      (life.toList.filter ["VOLATILE", "TRANSIENT"].contains).length
    if lost == 0 then
      set start
      return false
    else
      set (start.drop (lost - 1))
      if ← keyword "REPLACE" then fault "Unsupported statement REPLACE"
      else expected "an SQL statement"

/-- A definition after `CREATE` and the words about it.  After `OR REPLACE` it is one of the
kinds that can be replaced; `inner` reads a statement. -/
def createAny {α : Type} (inner : Rule α) (replaces : Bool) : Rule Unit := do
  let d ← dialect
  let i ← peekAt 0
  let j ← peekAt 1
  let triggers := d == .postgres || d == .ansi
  match ← firstOf [["TABLE"], ["VIEW"], ["MATERIALIZED"], ["POLICY"], ["EXTERNAL"], ["FUNCTION"],
    ["TRIGGER"], ["CONSTRAINT", "TRIGGER"], ["MACRO"], ["SECRET"]] with
  | some ["TABLE"] => createTable
  | some ["VIEW"] => createView
  | some ["MATERIALIZED"] =>
    expectKeyword "VIEW"
    createView
  | some ["POLICY"] => createPolicy
  | some ["EXTERNAL"] => createExternalTable
  | some ["FUNCTION"] =>
    match d with
    | .bigquery => createFunctionInOrder
    | .snowflake => expectedAt "an object type after CREATE" i
    | _ => createFunctionByProperties
  | some ["TRIGGER"] =>
    if triggers then createTrigger else expectedAt "an object type after CREATE" i
  | some ["CONSTRAINT", "TRIGGER"] =>
    if triggers then createTrigger else expectedAt "an object type after CREATE" j
  | some ["MACRO"] =>
    if d == .ansi then createMacro else expectedAt "an object type after CREATE" i
  | some _ => createSecret
  | none =>
    if replaces then
      expected "[EXTERNAL] TABLE or [MATERIALIZED] VIEW or FUNCTION after CREATE OR REPLACE"
    else match ← firstOf [["EXTENSION"], ["INDEX"], ["UNIQUE", "INDEX"], ["VIRTUAL"], ["SCHEMA"],
        ["DATABASE"], ["ROLE"], ["SEQUENCE"], ["TYPE"], ["PROCEDURE"]] with
      | some ["EXTENSION"] => createExtension
      | some ["VIRTUAL"] => createVirtualTable
      | some ["SCHEMA"] => createSchema
      | some ["DATABASE"] => createDatabase
      | some ["ROLE"] => createRole
      | some ["SEQUENCE"] => createSequence
      | some ["TYPE"] => createType
      | some ["PROCEDURE"] => createProcedure inner
      | some _ => createIndex
      | none => expected "an object type after CREATE"

/-- `CREATE`, after its keyword; `inner` reads a statement. -/
def create {α : Type} (inner : Rule α) : Rule Unit := do
  unless ← onlyIf ((← dialect) == .snowflake) createStored do
    let replaces ← keywords ["OR", "REPLACE"]
    let _ ← keywords ["OR", "ALTER"]
    let _ ← keyword "LOCAL"
    let _ ← keyword "GLOBAL"
    let _ ← keyword "TRANSIENT"
    let _ ← oneOf ["TEMP", "TEMPORARY"]
    createAny inner replaces

/-- What is dropped from a table, by a name that `r` reads. -/
def droppedFrom {α : Type} (r : Rule α) : Rule Unit := do
  ifExists
  let _ ← r
  expectKeyword "ON"
  let _ ← objectName
  let _ ← oneOf ["CASCADE", "RESTRICT"]

/-- `DROP`, after its keyword. -/
def drop : Rule Unit := do
  let d ← dialect
  if d == .ansi then
    let _ ← keyword "TEMPORARY"
  let i ← peek
  match ← oneOf ["TABLE", "VIEW", "INDEX", "ROLE", "SCHEMA", "DATABASE", "SEQUENCE", "STAGE",
    "TYPE", "FUNCTION", "POLICY", "PROCEDURE", "SECRET", "TRIGGER"] with
  | some "FUNCTION" | some "PROCEDURE" =>
    ifExists
    let _ ← commaSeparated functionReference
    let _ ← oneOf ["CASCADE", "RESTRICT"]
  | some "POLICY" => droppedFrom name
  | some "SECRET" =>
    ifExists
    let _ ← name
    if ← keyword "FROM" then
      let _ ← name
  | some "TRIGGER" =>
    if d == .postgres || d == .ansi then droppedFrom objectName
    else expectedAt "an object type after DROP" i
  | some k =>
    ifExists
    let _ ← commaSeparated objectName
    let place := (← peek).place
    let cascades ← cascade "DROP"
    let purges ← keyword "PURGE"
    if k == "ROLE" && (cascades || purges) then
      fail (.fault "Cannot specify CASCADE, RESTRICT, or PURGE in DROP ROLE" place)
  | none =>
    expected ("TABLE, VIEW, INDEX, ROLE, SCHEMA, DATABASE, FUNCTION, PROCEDURE, STAGE, TRIGGER, " ++
      "SECRET, SEQUENCE, or TYPE after DROP")

/-- `ALTER`, after its keyword. -/
def alter : Rule Unit := do
  match ← expectOneOf ["VIEW", "TABLE", "INDEX", "ROLE", "POLICY"] with
  | "VIEW" =>
    let _ ← objectName
    if ← peekSymbol "(" then
      let _ ← nameList
    options "WITH"
    expectKeyword "AS"
    let _ ← query
  | "TABLE" => alterTable
  | "INDEX" =>
    let _ ← objectName
    unless ← keyword "RENAME" do expected "RENAME after ALTER INDEX"
    unless ← keyword "TO" do expected "TO after RENAME"
    let _ ← objectName
  | "ROLE" => alterRole
  | _ => alterPolicy

/-! ## The statements by their keywords -/

/-- `LOAD`, after its keyword. -/
def load : Rule Unit := do
  if (← dialect) == .ansi then
    let _ ← name
  else
    let _ ← keyword "DATA"
    expected "\u0060DATA\u0060 or an extension name after \u0060LOAD\u0060"

/-- `UNLISTEN`, after its keyword. -/
def unlisten : Rule Unit := do
  unless ← symbol "*" do
    if (← attempt name).isNone then expected "wildcard or identifier"

/-- A rule whose value does not matter. -/
def void {α : Type} (r : Rule α) : Rule Unit := do
  let _ ← r

/-- A statement of a dialect, after its keyword `k`; `none` if no statement but a query or an
explanation starts with `k`.  A statement that another one contains is read by `inner`. -/
def command? {α : Type} (inner : Rule α) (d : Dialect) (k : String) : Option (Rule Unit) :=
  let listens := d == .postgres || d == .ansi
  match k with
  | "INSERT" => void insert
  | "REPLACE" => if d == .ansi then void insert else some (fault "Unsupported statement REPLACE")
  | "UPDATE" => void update
  | "DELETE" => delete
  | "MERGE" => merge
  | "KILL" => kill
  | "FLUSH" => flush
  | "DISCARD" => discard
  | "USE" => use
  | "SHOW" => showing
  | "SET" => setting
  | "BEGIN" | "START" => startTransaction k
  | "COMMIT" | "END" => chain
  | "ROLLBACK" => rollback
  | "SAVEPOINT" => void name
  | "RELEASE" => some do
    let _ ← keyword "SAVEPOINT"
    void name
  | "FETCH" => fetchRows
  | "CLOSE" => some do unless ← keyword "ALL" do void name
  | "DECLARE" => declare
  | "PREPARE" => prepare inner
  | "EXECUTE" | "EXEC" => execute
  | "DEALLOCATE" => some do
    let _ ← keyword "PREPARE"
    void name
  | "CALL" => some do
    let f ← objectName
    if ← peekSymbol "(" then void (call interval (dotted f))
  | "ASSERT" => some do
    let _ ← expr
    void (optionalClause "AS")
  | "GRANT" => grant
  | "REVOKE" => revoke
  | "ANALYZE" => analyze
  | "TRUNCATE" => truncate
  | "MSCK" => msck
  | "CACHE" => cache
  | "UNCACHE" => uncache
  | "OPTIMIZE" => if d == .ansi then some optimize else none
  | "PRAGMA" => pragma
  | "COMMENT" => if d == .bigquery then none else some comment
  | "COPY" => copy
  | "UNLOAD" => unload
  | "ATTACH" => some do
    let _ ← keyword "DATABASE"
    let _ ← expr
    expectKeyword "AS"
    void name
  | "DETACH" =>
    if d == .ansi then some do
      let _ ← keyword "DATABASE"
      ifExists
      void name
    else none
  | "INSTALL" => if d == .ansi then void name else none
  | "LOAD" => load
  | "LISTEN" => if listens then void name else none
  | "UNLISTEN" => if listens then some unlisten else none
  | "NOTIFY" =>
    if listens then some do
      let _ ← name
      if ← symbol "," then void literalString
    else none
  | "CREATE" => create inner
  | "DROP" => drop
  | "ALTER" => alter
  | _ => none

end Grammar
end Sql
end QueryTemplate
