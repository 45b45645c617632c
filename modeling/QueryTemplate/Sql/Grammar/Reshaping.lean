/-
# Rows that are turned, matched or taken from documents

Clauses that stand behind a table and make another one of it, and tables that are made of
a document.

| clause | what it makes |
| --- | --- |
| `PIVOT` | columns of the values of a column |
| `UNPIVOT` | rows of columns |
| `MATCH_RECOGNIZE` | one row or several of the rows that match a pattern |
| `JSON_TABLE`, `OPENJSON` | rows of the values in a document |
-/

import QueryTemplate.Sql.Grammar.Operand

namespace QueryTemplate
namespace Sql
namespace Grammar

/-- The name that `AS` gives, in its written form. -/
def givenNameSql : Rule String := do
  if ← keyword "AS" then return " AS " ++ (← name).sql else return ""

/-! ## Turned rows -/

/-- A call with the name that it is given; its function is written without quotes. -/
def aliasedCall : Rule (List Part) := do
  let i ← next
  match i.ident? with
  | some function =>
    let e ← call interval function.text
    return [.operand (.phrase e), .words (← givenNameSql)]
  | none => expected "a function identifier"

/-- The values that become columns. -/
def pivotValues : Rule (List Part) := do
  if ← keyword "ANY" then
    if ← keywords ["ORDER", "BY"] then return .words "ANY ORDER BY " :: (← orderTerms)
    else return [.words "ANY"]
  else if ← peekQuery then return [(← query).part]
  else
    let values ← commaSeparated do
      let e ← expr
      return [Part.operand e, .words (← givenNameSql)]
    return Part.separated ", " values

/-- `PIVOT`, after its keyword. -/
def pivot : Rule (List Part) := inParentheses do
  let aggregates ← commaSeparated aliasedCall
  expectKeyword "FOR"
  let column ← objectName
  expectKeyword "IN"
  let values ← inParentheses pivotValues
  let otherwise : List Part ← do
    if ← keywords ["DEFAULT", "ON", "NULL"] then
      let e ← inParentheses expr
      pure [.words " DEFAULT ON NULL (", .operand e, .words ")"]
    else pure []
  return .words " PIVOT(" :: Part.separated ", " aggregates ++
    .words (" FOR " ++ dotted column ++ " IN (") :: values ++ .words ")" :: otherwise ++
    [.words ")"]

/-- `UNPIVOT`, after its keyword. -/
def unpivot : Rule (List Part) := inParentheses do
  let value ← name
  expectKeyword "FOR"
  let column ← name
  expectKeyword "IN"
  let columns ← columnList
  return [.words (" UNPIVOT(" ++ value.sql ++ " FOR " ++ column.sql ++ " IN " ++
    nameListSql columns ++ ")")]

/-! ## Matched rows -/

/-- The number of repetitions that the token `i` is, in a bound that starts at `place`. -/
def repetitions (place : Option Text.Position) (i : Item) : Rule Nat :=
  match i.token with
  | .number ds _ =>
    let refuse (why : Decimal.UnsignedFault) : Rule Nat :=
      fail (.fault ("Could not parse '" ++ ds ++ "' as u32: " ++ why.message) place)
    match Decimal.unsigned ds with
    | .ok n => if n < UInt32.size then return n else refuse .tooLarge
    | .error why => refuse why
  | _ => expectedAt "literal number" i

/-- How often a part of a pattern is repeated, behind the opening brace. -/
def repetitionSql : Rule String := do
  let i ← next
  match i.token with
  | .number .. =>
    if ← symbol "," then
      let j ← next
      match j.token with
      | .number .. =>
        expectSymbol "\x7d"
        let low ← repetitions i.place i
        return "\x7b" ++ toString low ++ "," ++ toString (← repetitions i.place j) ++ "\x7d"
      | _ =>
        if j.isSymbol "\x7d" then
          return "\x7b" ++ toString (← repetitions i.place i) ++ ",\x7d"
        else expectedAt "\x7d or upper bound" j
    else
      expectSymbol "\x7d"
      return "\x7b" ++ toString (← repetitions i.place i) ++ "\x7d"
  | _ =>
    if i.isSymbol "," then
      let j ← next
      match j.token with
      | .number .. =>
        expectSymbol "\x7d"
        return "\x7b," ++ toString (← repetitions i.place j) ++ "\x7d"
      | _ => expectedAt "literal number" j
    else expectedAt "quantifier range" i

/-- A sign that says how often a part of a pattern is repeated, if one is next. -/
def quantifierSign? : Rule (Option String) := do
  if ← symbol "*" then return some "*"
  else if ← symbol "+" then return some "+"
  else if ← exactly (.parameter "?") then return some "?"
  else if ← symbol "\x7b" then return some (← repetitionSql)
  else return none

/-- A part of a pattern; `pattern` reads what stands in parentheses. -/
def basePattern (pattern : Rule String) : Rule String := do
  if ← symbol "^" then return "^"
  else if ← exactly (.parameter "$") then return "$"
  else if ← symbol "\x7b" then
    expectSymbol "-"
    let n ← name
    expectSymbol "-"
    expectSymbol "\x7d"
    return "\x7b- " ++ n.sql ++ " -\x7d"
  else if ← exactly (.word "PERMUTE" none) then
    return "PERMUTE" ++ nameListSql (← nameList)
  else if ← symbol "(" then
    let inner ← pattern
    expectSymbol ")"
    return "( " ++ inner ++ " )"
  else return (← name).sql

/-- A part of a pattern and how often it is repeated. -/
def repeatedPattern (pattern : Rule String) : Rule String := do
  let base ← basePattern pattern
  let signs ← repeated quantifierSign?
  return base ++ String.join signs

/-- A pattern of rows.  The fuel bounds how deep patterns contain one another and how many
alternatives there are. -/
def patternUpTo : Nat → Rule String
  | 0 => fail .tooDeep
  | fuel + 1 => do
    let first ← repeatedPattern (patternUpTo fuel)
    let rest ← repeated do
      let i ← peek
      if i.isSymbol ")" || i.isSymbol "|" then return none
      else return some (← repeatedPattern (patternUpTo fuel))
    let parts := String.intercalate " " (first :: rest)
    if ← symbol "|" then return parts ++ " | " ++ (← patternUpTo fuel) else return parts

/-- How many rows a match gives, in its written form. -/
def rowsPerMatchSql : Rule String := do
  if ← keywords ["ONE", "ROW", "PER", "MATCH"] then return "ONE ROW PER MATCH "
  else if ← keywords ["ALL", "ROWS", "PER", "MATCH"] then
    if ← keywords ["SHOW", "EMPTY", "MATCHES"] then
      return "ALL ROWS PER MATCH SHOW EMPTY MATCHES "
    else if ← keywords ["OMIT", "EMPTY", "MATCHES"] then
      return "ALL ROWS PER MATCH OMIT EMPTY MATCHES "
    else if ← keywords ["WITH", "UNMATCHED", "ROWS"] then
      return "ALL ROWS PER MATCH WITH UNMATCHED ROWS "
    else return "ALL ROWS PER MATCH "
  else return ""

/-- Where the search goes on after a match, in its written form.  Before `TO NEXT ROW` stand
two blanks. -/
def afterMatchSql : Rule String := do
  if ← keywords ["AFTER", "MATCH", "SKIP"] then
    if ← keywords ["PAST", "LAST", "ROW"] then return "AFTER MATCH SKIP PAST LAST ROW "
    else if ← keywords ["TO", "NEXT", "ROW"] then return "AFTER MATCH SKIP  TO NEXT ROW "
    else if ← keywords ["TO", "FIRST"] then
      return "AFTER MATCH SKIP TO FIRST " ++ (← name).sql ++ " "
    else if ← keywords ["TO", "LAST"] then
      return "AFTER MATCH SKIP TO LAST " ++ (← name).sql ++ " "
    else expected "after match skip option"
  else return ""

/-- A measure: an expression and its name, with or without `AS`. -/
def measure : Rule (List Part) := do
  let e ← expr
  let _ ← keyword "AS"
  return [.operand e, .words (" AS " ++ (← name).sql)]

/-- What a symbol of a pattern stands for. -/
def definition : Rule (List Part) := do
  let n ← name
  expectKeyword "AS"
  return [.words (n.sql ++ " AS "), .operand (← expr)]

/-- A clause inside `MATCH_RECOGNIZE` that keywords introduce, if it is next. -/
def matchClause (ks : List String) (r : Rule (List Part)) : Rule (List Part) := do
  if ← keywords ks then
    return .words (String.intercalate " " ks ++ " ") :: (← r) ++ [.words " "]
  else return []

/-- `MATCH_RECOGNIZE`, after its keyword. -/
def matchRows : Rule (List Part) := inParentheses do
  let partition ← matchClause ["PARTITION", "BY"] do
    return Part.commaList (← commaSeparated expr)
  let order ← matchClause ["ORDER", "BY"] orderTerms
  let measures ← matchClause ["MEASURES"] do
    return Part.separated ", " (← commaSeparated measure)
  let extent ← rowsPerMatchSql
  let onward ← afterMatchSql
  expectKeyword "PATTERN"
  let pattern ← inParentheses (patternUpTo ((← get).length + 1))
  expectKeyword "DEFINE"
  let definitions ← commaSeparated definition
  return .words " MATCH_RECOGNIZE(" :: partition ++ order ++ measures ++
    .words (extent ++ onward ++ "PATTERN (" ++ pattern ++ ") DEFINE ") ::
    Part.separated ", " definitions ++ [.words ")"]

/-! ## Documents -/

/-- What stands in place of a missing or faulty value, if it is said next, in its written
form. -/
def documentFault? : Rule (Option String) := do
  let choice ← do
    if ← keyword "NULL" then pure (some "NULL")
    else if ← keyword "ERROR" then pure (some "ERROR")
    else if ← keyword "DEFAULT" then pure (some ("DEFAULT " ++ (← literal).sql))
    else pure none
  match choice with
  | some s =>
    expectKeyword "ON"
    return some s
  | none => return none

/-- What stands in place of a missing value and of a faulty one, in its written form; what is
said last counts. -/
def documentFaultsSql : Rule String := do
  let faults ← repeated do
    match ← documentFault? with
    | none => return none
    | some s =>
      if ← keyword "EMPTY" then return some (true, s)
      else
        expectKeyword "ERROR"
        return some (false, s)
  let last (empty : Bool) (words : String) : String :=
    match (faults.filter fun f => f.1 == empty).getLast? with
    | some f => " " ++ f.2 ++ words
    | none => ""
  return last true " ON EMPTY" ++ last false " ON ERROR"

/-- A column that is read from a document, in its written form.  The fuel bounds how deep
columns contain one another. -/
def documentColumnSql : Nat → Rule String
  | 0 => fail .tooDeep
  | fuel + 1 => do
    if ← keyword "NESTED" then
      let _ ← keyword "PATH"
      let path ← literal
      expectKeyword "COLUMNS"
      let columns ← inParentheses (commaSeparated (documentColumnSql fuel))
      return "NESTED PATH " ++ path.sql ++ " COLUMNS (" ++ String.intercalate ", " columns ++ ")"
    else
      let n ← name
      if ← keyword "FOR" then
        expectKeyword "ORDINALITY"
        return n.sql ++ " FOR ORDINALITY"
      else
        let t ← typeSql
        let tested := if ← keyword "EXISTS" then " EXISTS" else ""
        expectKeyword "PATH"
        let path ← literal
        return n.sql ++ " " ++ t ++ tested ++ " PATH " ++ path.sql ++ (← documentFaultsSql)

/-- `JSON_TABLE`, after its opening parenthesis. -/
def jsonTable : Rule (List Part) := do
  let e ← expr
  expectSymbol ","
  let path ← literal
  expectKeyword "COLUMNS"
  let columns ← inParentheses (commaSeparated (documentColumnSql ((← get).length + 1)))
  expectSymbol ")"
  return [.words "JSON_TABLE(", .operand e,
    .words (", " ++ path.sql ++ " COLUMNS(" ++ String.intercalate ", " columns ++ "))")]

/-- The path of a column, if it is next, in its written form. -/
def pathSql : Rule String := do
  match (← peek).string? with
  | some s =>
    modify List.tail
    return " " ++ Quoting.inQuotes '\'' s
  | none => return ""

/-- A column of `OPENJSON`, in its written form. -/
def openedColumnSql : Rule String := do
  let n ← name
  let t ← typeSql
  let path ← pathSql
  let nested ← do
    if ← keyword "AS" then
      expectKeyword "JSON"
      pure " AS JSON"
    else pure ""
  return n.sql ++ " " ++ t ++ path ++ nested

/-- `OPENJSON`, after its opening parenthesis. -/
def openJson : Rule (List Part) := do
  let e ← expr
  let path ← do
    if ← symbol "," then pure (", " ++ (← literal).sql) else pure ""
  expectSymbol ")"
  let columns ← do
    if ← keyword "WITH" then
      let columns ← inParentheses (commaSeparated openedColumnSql)
      pure (" WITH (" ++ String.intercalate ", " columns ++ ")")
    else pure ""
  return [.words "OPENJSON(", .operand e, .words (path ++ ")" ++ columns)]

end Grammar
end Sql
end QueryTemplate
