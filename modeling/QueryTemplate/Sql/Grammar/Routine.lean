/-
# Definitions of functions, triggers, macros and procedures

| dialect | rule |
| --- | --- |
| `ansi`, `postgres` | the properties of a function come in any order, each once; triggers |
| `bigquery` | a function is an expression, or is called elsewhere |
| `ansi` | macros |
-/

import QueryTemplate.Sql.Grammar.TableDefinition

namespace QueryTemplate
namespace Sql
namespace Grammar

/-! ## Functions -/

/-- An argument of a function: its mode, its name if it has one, its type and its default. -/
def functionArgument : Rule Unit := do
  let _ ← oneOf ["IN", "OUT", "INOUT"]
  let t ← dataType
  -- a name that is no built-in type is the name of the argument
  if t.sort == .named then
    let _ ← typeSql
  let given ← keyword "DEFAULT"
  let given ← if given then pure true else symbol "="
  if given then
    let _ ← expr

/-- The arguments of a function in parentheses. -/
def functionArguments : Rule Unit := do
  let _ ← inParentheses (commaSeparatedBefore ")" functionArgument)

/-- A function by its name, and its arguments if they are said. -/
def functionReference : Rule Unit := do
  let _ ← objectName
  if ← peekSymbol "(" then functionArguments

/-- The text of a function. -/
def functionText : Rule Unit := do
  match (← peek).token with
  | .dollarString .. => modify List.tail
  | _ =>
    let _ ← literalString

/-- The words that start a property of a function. -/
def functionProperties : List (List String) := [
  ["AS"], ["LANGUAGE"], ["IMMUTABLE"], ["STABLE"], ["VOLATILE"], ["CALLED", "ON", "NULL", "INPUT"],
  ["RETURNS", "NULL", "ON", "NULL", "INPUT"], ["STRICT"], ["PARALLEL"], ["RETURN"]]

/-- What a property of a function is about, and how messages call that. -/
def propertySubject (words : List String) : String × String :=
  let itself (s : String) : String × String := (s, s)
  match words with
  | ["AS"] => ("BODY", "AS")
  | ["RETURN"] => ("BODY", "RETURN")
  | ["LANGUAGE"] => itself "LANGUAGE"
  | ["IMMUTABLE"] | ["STABLE"] | ["VOLATILE"] => itself "IMMUTABLE | STABLE | VOLATILE"
  | ["PARALLEL"] => itself "PARALLEL \x7b UNSAFE | RESTRICTED | SAFE \x7d"
  | _ => itself "CALLED ON NULL INPUT | RETURNS NULL ON NULL INPUT | STRICT"

/-- What belongs to a property of a function, after its words. -/
def propertyValue (words : List String) : Rule Unit := do
  match words with
  | ["AS"] => functionText
  | ["RETURN"] =>
    let _ ← expr
  | ["LANGUAGE"] =>
    let _ ← name
  | ["PARALLEL"] =>
    if (← oneOf ["UNSAFE", "RESTRICTED", "SAFE"]).isNone then
      expected "one of UNSAFE | RESTRICTED | SAFE"
  | _ => return

/-- `CREATE FUNCTION`, after its keywords: a signature and properties. -/
def createFunctionByProperties : Rule Unit := do
  let _ ← objectName
  functionArguments
  if ← keyword "RETURNS" then
    let _ ← typeSql
  let _ ← iterated (fun (said : List String) => do
    match ← firstOf functionProperties with
    | none => return none
    | some words =>
      let (subject, shown) := propertySubject words
      if said.contains subject then fail (.fault (shown ++ " specified more than once") none)
      else
        propertyValue words
        return some (subject :: said)) []

/-- `CREATE FUNCTION` of `bigquery`, after its keywords. -/
def createFunctionInOrder : Rule Unit := do
  ifNotExists
  let _ ← objectName
  let _ ← inParentheses (commaSeparatedBefore ")" do
    let _ ← name
    typeSql)
  if ← keyword "RETURNS" then
    let _ ← typeSql
  let _ ← firstOf [["DETERMINISTIC"], ["NOT", "DETERMINISTIC"]]
  if ← keyword "LANGUAGE" then
    let _ ← name
  let remote ← keywords ["REMOTE", "WITH", "CONNECTION"]
  if remote then
    let _ ← objectName
  -- the options stand before the body or after it
  let early ← peekKeyword "OPTIONS"
  options "OPTIONS"
  unless remote do
    expectKeyword "AS"
    let _ ← expr
    unless early do options "OPTIONS"

/-! ## Triggers -/

/-- What calls a trigger. -/
def triggerEvent : Rule Unit := do
  if (← expectOneOf ["INSERT", "UPDATE", "DELETE", "TRUNCATE"]) == "UPDATE" then
    if ← keyword "OF" then
      let _ ← commaSeparated name

/-- Names for the rows before and after the event. -/
def triggerTables : Rule Unit := do
  let _ ← repeated do
    match ← oneOf ["OLD", "NEW"] with
    | none => return none
    | some _ =>
      if ← keyword "TABLE" then
        let _ ← keyword "AS"
        let _ ← objectName
        return some ()
      else return none

/-- `CREATE TRIGGER`, after its keywords. -/
def createTrigger : Rule Unit := do
  let _ ← objectName
  if (← expectOneOf ["BEFORE", "AFTER", "INSTEAD"]) == "INSTEAD" then expectKeyword "OF"
  triggerEvent
  let _ ← repeated do
    if ← keyword "OR" then return some (← triggerEvent) else return none
  expectKeyword "ON"
  let _ ← objectName
  if ← keyword "FROM" then nameOrToken
  characteristics
  if ← keyword "REFERENCING" then triggerTables
  expectKeyword "FOR"
  let _ ← keyword "EACH"
  let _ ← expectOneOf ["ROW", "STATEMENT"]
  let _ ← optionalClause "WHEN"
  expectKeyword "EXECUTE"
  let _ ← expectOneOf ["FUNCTION", "PROCEDURE"]
  functionReference

/-! ## Macros and procedures -/

/-- `CREATE MACRO`, after its keywords. -/
def createMacro : Rule Unit := do
  let _ ← objectName
  let _ ← inParentheses (commaSeparatedBefore ")" do
    let _ ← name
    let given ← symbol ":="
    let given ← if given then pure true else symbol "=>"
    if given then
      let _ ← expr)
  expectKeyword "AS"
  if ← keyword "TABLE" then
    let _ ← query
  else
    let _ ← expr

/-- A part of a composite thing in parentheses, again and again; a comma may end the parts, which
messages call `what`. -/
def composite (part : Rule Unit) (what : String) : Rule Unit := do
  if ← symbol "(" then
    unless ← symbol ")" do
      let _ ← iterated (fun (more : Bool) => do
        if !more then return none
        else
          part
          let comma ← symbol ","
          if ← symbol ")" then return some false
          else if comma then return some true
          else expected ("',' or ')' after " ++ what ++ " definition")) true

/-- A parameter of a procedure, if a word is next. -/
def procedureParameter : Rule Unit := do
  if (← peek).ident?.isSome then
    let _ ← name
    let _ ← typeSql

/-- The statements of a procedure, up to the word `END` behind one of them; `inner` reads a
statement. -/
def block {α : Type} (inner : Rule α) : Rule Unit := do
  let _ ← iterated (fun (delimited : Bool) => do
    if ← symbol ";" then return some true
    else
      let i ← peek
      if i.place.isNone || (!delimited && i.keyword == "END") then return none
      else if !delimited then expected "end of statement"
      else
        let _ ← inner
        return some false) true

/-- `CREATE PROCEDURE`, after its keywords; `inner` reads a statement. -/
def createProcedure {α : Type} (inner : Rule α) : Rule Unit := do
  let _ ← objectName
  composite procedureParameter "parameter"
  expectKeywords ["AS", "BEGIN"]
  block inner
  expectKeyword "END"

end Grammar
end Sql
end QueryTemplate
