/-
# Operands

What an expression starts with, before any operator between operands: literals,
names, calls, parentheses, prefix operators and the constructs that a keyword
introduces.

A keyword that introduces a construct is first read as such.  If that fails, the word
is read as a name or the call of a function; if that fails too, the failure of the
construct is the one that counts.  So `case` and `position` can be column names.
-/

import QueryTemplate.Sql.Grammar.DataType
import QueryTemplate.Sql.Grammar.Function
import QueryTemplate.Sql.Grammar.Precedence

namespace QueryTemplate
namespace Sql
namespace Grammar

/-! ## Intervals -/

/-- The units of an interval, in their written form. -/
def unitsSql : Rule String := do
  if !Keyword.timeUnits.contains (← peek).keyword then
    if (← dialect) == .bigquery then fault "INTERVAL requires a unit after the literal value"
    else
      let size := precisionOf (← precision?)
      return size ++ (← lastUnit)
  else
    let unit ← timeField
    if unit == "SECOND" then
      match ← precisionScale? with
      | (some n, some m) => return " SECOND (" ++ toString n ++ ", " ++ toString m ++ ")"
      | (n, _) => return " SECOND" ++ precisionOf n
    else
      let size := precisionOf (← precision?)
      return " " ++ unit ++ size ++ (← lastUnit)
where
  /-- A size after a unit. -/
  precisionOf (n : Option Nat) : String :=
    match n with
    | some n => " (" ++ toString n ++ ")"
    | none => ""
  /-- The unit after `TO`. -/
  lastUnit : Rule String := do
    if ← keyword "TO" then
      let unit ← timeField
      let size ← if unit == "SECOND" then precision? else pure none
      return " TO " ++ unit ++ precisionOf size
    else return ""

/-- An interval after its keyword; `value` reads what is measured in the units. -/
def intervalOf (value : Rule Expr) : Rule Expr := do
  let e ← if (← dialect) == .bigquery then expr else value
  return .phrase [.words "INTERVAL ", .operand e, .words (← unitsSql)]

/-! ## Constructs that a keyword introduces -/

/-- A sub-query in parentheses after some words. -/
def subquery (words : String) : Rule Expr := do
  let q ← inParentheses query
  return .phrase [.words (words ++ "("), q.part, .words ")"]

/-- `CASE`; the results are visited after the conditions. -/
def caseOf : Rule Expr := do
  let operand : List Part ← do
    if ← keyword "WHEN" then pure []
    else
      let e ← expr
      expectKeyword "WHEN"
      pure [.words " ", .operand e]
  let arm : Rule (List Part) := do
    let condition ← expr
    expectKeyword "THEN"
    let result ← expr
    return [.words " WHEN ", .operand condition, .words " THEN ", .deferred result]
  let first ← arm
  let rest ← repeated do
    if ← keyword "WHEN" then return some (← arm) else return none
  let otherwise : List Part ← do
    if ← keyword "ELSE" then pure [.words " ELSE ", .deferred (← expr)] else pure []
  expectKeyword "END"
  return .phrase (.words "CASE" :: operand ++ first ++ rest.flatten ++ otherwise ++
    [.words " END"])

/-- The format of a cast, in its written form. -/
def castFormatSql : Rule String := do
  if ← keyword "FORMAT" then
    let v ← literal
    if ← keywords ["AT", "TIME", "ZONE"] then
      return " FORMAT " ++ v.sql ++ " AT TIME ZONE " ++ (← literal).sql
    else return " FORMAT " ++ v.sql
  else return ""

/-- `CAST` and its kin. -/
def cast (words : String) : Rule Expr := inParentheses do
  let e ← expr
  expectKeyword "AS"
  let t ← typeSql
  let format ← castFormatSql
  return .phrase [.words (words ++ "("), .operand e, .words (" AS " ++ t ++ format ++ ")")]

/-- `CONVERT` to a type or a character set. -/
def convert (words : String) : Rule Expr := inParentheses do
  let e ← expr
  if ← keyword "USING" then
    let charset ← objectName
    return .phrase [.words (words ++ "("), .operand e, .words (" USING " ++ dotted charset ++ ")")]
  else
    expectSymbol ","
    let t ← typeSql
    let charset ← do
      if ← keywords ["CHARACTER", "SET"] then
        pure (" CHARACTER SET " ++ dotted (← objectName))
      else pure ""
    return .phrase [.words (words ++ "("), .operand e, .words (", " ++ t ++ charset ++ ")")]

/-- `EXTRACT` of a field of a time. -/
def extract : Rule Expr := inParentheses do
  let field ← timeField
  let d ← dialect
  let link ← do
    if ← keyword "FROM" then pure " FROM "
    else
      let comma ← symbol ","
      if comma && (d == .snowflake || d == .ansi) then pure ", "
      else fail (.fault "Expected 'FROM' or ','" none)
  let e ← expr
  return .phrase [.words ("EXTRACT(" ++ field ++ link), .operand e, .words ")"]

/-- `CEIL` or `FLOOR`, to a unit of time or to a scale. -/
def rounding (words : String) : Rule Expr := inParentheses do
  let e ← expr
  let target ← do
    if ← keyword "TO" then pure (" TO " ++ (← timeField))
    else if ← symbol "," then
      match ← literal with
      | .number ds long => pure (", " ++ (Literal.number ds long).sql)
      | _ => fail (.fault "Scale field can only be of number type" none)
    else pure ""
  return .phrase [.words (words ++ "("), .operand e, .words (target ++ ")")]

/-- `POSITION` of one text in another. -/
def position : Rule Expr := inParentheses do
  let e ← exprAboveTier .between
  expectKeyword "IN"
  let text ← expr
  return .phrase [.words "POSITION(", .operand e, .words " IN ", .operand text, .words ")"]

/-- `SUBSTRING`, with keywords or with commas. -/
def substring : Rule Expr := inParentheses do
  let e ← expr
  let commas ← symbol ","
  let start : List Part ← do
    if commas then pure [.words ", ", .operand (← expr)]
    else if ← keyword "FROM" then pure [.words " FROM ", .operand (← expr)]
    else pure []
  let length : List Part ← do
    let given ← keyword "FOR"
    let given ← if given then pure true else symbol ","
    if given then pure [.words (if commas then ", " else " FOR "), .operand (← expr)]
    else pure []
  return .phrase (.words "SUBSTRING(" :: .operand e :: start ++ length ++ [.words ")"])

/-- `OVERLAY` of one text by another. -/
def overlay : Rule Expr := inParentheses do
  let e ← expr
  expectKeyword "PLACING"
  let what ← expr
  expectKeyword "FROM"
  let start ← expr
  let length : List Part ← do
    if ← keyword "FOR" then pure [.words " FOR ", .operand (← expr)] else pure []
  return .phrase (.words "OVERLAY(" :: .operand e :: .words " PLACING " :: .operand what ::
    .words " FROM " :: .operand start :: length ++ [.words ")"])

/-- `TRIM`; what is trimmed off is visited after what it is trimmed off from. -/
def trim : Rule Expr := inParentheses do
  let d ← dialect
  -- where a list of characters follows, the side has no meaning and is dropped
  let side := match ← oneOf ["BOTH", "LEADING", "TRAILING"] with
    | some k => k ++ " "
    | none => ""
  let e ← expr
  if ← keyword "FROM" then
    let text ← expr
    return .phrase [.words ("TRIM(" ++ side), .deferred e, .words " FROM ", .operand text,
      .words ")"]
  else
    let comma ← symbol ","
    if comma && d != .postgres then
      let characters ← commaSeparated expr
      return .phrase (.words "TRIM(" :: .operand e :: .words ", " ::
        Part.commaList characters ++ [.words ")"])
    else return .phrase [.words ("TRIM(" ++ side), .operand e, .words ")"]

/-- The elements of an array, after the opening bracket. -/
def array (words : String) : Rule Expr := do
  let es ← commaSeparatedBefore "]" expr
  expectSymbol "]"
  return .phrase (.words (words ++ "[") :: Part.commaList es ++ [.words "]"])

/-- `NOT` of a sub-query or of a condition. -/
def negation : Rule Expr := do
  if ← keyword "EXISTS" then subquery "NOT EXISTS "
  else return .unary .not (← exprAboveTier .not)

/-- `MATCH` of columns against a text, after its keyword. -/
def matchAgainst : Rule Expr := do
  let columns ← columnList
  expectKeyword "AGAINST"
  let pattern ← inParentheses do
    let text ← literal
    let expansion := ["WITH", "QUERY", "EXPANSION"]
    let mode ← do
      if ← keywords ["IN", "NATURAL", "LANGUAGE", "MODE"] then
        if ← keywords expansion then pure " IN NATURAL LANGUAGE MODE WITH QUERY EXPANSION"
        else pure " IN NATURAL LANGUAGE MODE"
      else if ← keywords ["IN", "BOOLEAN", "MODE"] then pure " IN BOOLEAN MODE"
      else if ← keywords expansion then pure " WITH QUERY EXPANSION"
      else pure ""
    return text.sql ++ mode
  return .phrase [.words ("MATCH " ++ nameListSql columns ++ " AGAINST (" ++ pattern ++ ")")]

/-- A `STRUCT` of values, whose keyword stands at `place`; without types the values may be
named. -/
def struct (place : Option Text.Position) : Rule Expr := do
  let (fields, closed) ← structFieldsSql (bracketedType ((← get).length + 1)) place
  if closed then fault "unmatched > in STRUCT literal"
  else
    let values ← inParentheses (commaSeparated do
      let e ← expr
      let place := (← peek).place
      if ← keyword "AS" then
        if fields != "" then fail (.fault "Typed syntax does not allow AS" place)
        else return [Part.operand e, .words (" AS " ++ (← name).sql)]
      else return [.operand e])
    return .phrase (.words ("STRUCT" ++ fields ++ "(") :: Part.separated ", " values ++
      [.words ")"])

/-- A key and its value. -/
def entry (key : Rule (List Part)) : Rule (List Part) := do
  let k ← key
  expectSymbol ":"
  return k ++ [.words ": ", .operand (← expr)]

/-- Keys and values in braces, after the opening one. -/
def entries (words : String) (fields : Rule (List (List Part))) : Rule Expr := do
  let fields ← fields
  expectSymbol "\x7d"
  return .phrase (.words (words ++ "\x7b") :: Part.separated ", " fields ++ [.words "\x7d"])

/-- A map, which may be empty, after its opening brace. -/
def map : Rule Expr :=
  entries "MAP " (commaSeparatedBefore "\x7d" (entry do return [.operand (← expr)]))

/-- A dictionary with one field or more, after its opening brace. -/
def dictionary : Rule Expr :=
  entries "" (commaSeparated (entry do return [.words (← name).sql]))

/-- The call of a function that needs no parentheses. -/
def timeFunction (function : String) : Rule Expr := do
  if ← symbol "(" then
    let (arguments, _) ← argumentList
    return .phrase (.words (function ++ "(") :: arguments ++ [.words ")"])
  else return .phrase [.words function]

/-- The construct that the word `w` at `place` introduces, which has been read; `none` if it
introduces none. -/
def construct? (interval : Rule Expr) (k : String) (w : Ident) (place : Option Text.Position) :
    Rule (Option Expr) := do
  let d ← dialect
  match k with
  | "TRUE" => return some (.boolean true)
  | "FALSE" => return some (.boolean false)
  | "NULL" => return some (.literal .null)
  | "CURRENT_CATALOG" | "CURRENT_USER" | "SESSION_USER" | "USER" =>
    if d == .postgres || d == .ansi then return some (.phrase [.words w.sql]) else return none
  | "CURRENT_TIMESTAMP" | "CURRENT_TIME" | "CURRENT_DATE" | "LOCALTIME" | "LOCALTIMESTAMP" =>
    return some (← timeFunction w.sql)
  | "CASE" => return some (← caseOf)
  | "CONVERT" => return some (← convert "CONVERT")
  | "TRY_CONVERT" => if d == .ansi then return some (← convert "TRY_CONVERT") else return none
  | "CAST" | "TRY_CAST" | "SAFE_CAST" => return some (← cast k)
  | "EXISTS" => return some (← subquery "EXISTS ")
  | "EXTRACT" => return some (← extract)
  | "CEIL" | "FLOOR" => return some (← rounding k)
  | "POSITION" =>
    if ← peekSymbol "(" then
      match ← attempt position with
      | some e => return some e
      | none => return some (.phrase (← call interval w.sql))
    else return none
  | "SUBSTRING" => return some (← substring)
  | "OVERLAY" => return some (← overlay)
  | "TRIM" => return some (← trim)
  | "INTERVAL" => return some (← interval)
  | "ARRAY" =>
    if ← symbol "[" then return some (← array "ARRAY")
    else if ← peekSymbol "(" then return some (← subquery w.sql)
    else return none
  | "NOT" => return some (← negation)
  | "MATCH" => if d == .ansi then return some (← matchAgainst) else return none
  | "STRUCT" => if d == .ansi || d == .bigquery then return some (← struct place) else return none
  | "MAP" =>
    if ← onlyIf (d == .ansi) (symbol "\x7b") then
      return some (← map)
    else return none
  | "PRIOR" =>
    if ← relating then
      return some (.phrase [.words "PRIOR ", .operand (← exprAboveTier .plus)])
    else return none
  | _ => return none

/-! ## Names and calls -/

/-- What the word `w` is, which has been read: a column, a call, a marked string. -/
def nameOrCall (interval : Rule Expr) (w : Ident) : Rule Expr := do
  let d ← dialect
  let i ← peek
  if i.isSymbol "(" || i.isSymbol "." then
    let (names, star) ← iterated (fun (names, star) => do
      if ← onlyIf (!star) (symbol ".") then
        let i ← next
        match i.token with
        | .word s q => return some (names ++ [⟨s, q⟩], false)
        | .string .single s => return some (names ++ [⟨s, some '\''⟩], false)
        | _ =>
          if i.isSymbol "*" then
            if d == .postgres then return some (names, true)
            else expectedAt "an identifier after '.'" i
          else expectedAt "an identifier or a '*' after '.'" i
      else return none) ([w], false)
    if star then return .phrase [.words (dotted names ++ ".*")]
    else if ← peekSymbol "(" then
      if ← onlyIf (d == .snowflake) (symbols ["(", "+", ")"]) then
        return .phrase [.operand (.ofNames names), .words " (+)"]
      else return .phrase (← call interval (dotted names))
    else return .ofNames names
  else
    match i.token with
    | .string kind s =>
      if w.text.toList.head? == some '_' && [.single, .double, .hex].contains kind then
        modify List.tail
        return .phrase [.words (w.text ++ " " ++ (Literal.string kind s).sql)]
      else return .identifier w
    | _ => return .identifier w

/-- An expression with the collation that may follow it. -/
def collated (e : Expr) : Rule Expr := do
  if ← keyword "COLLATE" then
    return .phrase [.operand e, .words (" COLLATE " ++ dotted (← objectName))]
  else return e

/-- What the word `w` at `place` starts, which has been read.  No collation follows a word that
is a name only because the construct failed. -/
def wordOperand (interval : Rule Expr) (k : String) (w : Ident) (place : Option Text.Position) :
    Rule Expr := do
  match ← outcome (construct? interval k w place) with
  | .ok (some e) => collated e
  | .ok none => collated (← nameOrCall interval w)
  | .error e =>
    let reserved := Keyword.notName.contains k && !((← dialect) == .snowflake && k == "INTERVAL")
    if reserved then fail e
    else match ← outcome (nameOrCall interval w) with
    | .ok e' => return e'
    | .error _ => fail e

/-! ## Operands -/

/-- A type before a string. -/
def typedString (interval : Rule Expr) : Rule Expr := do
  let t ← dataType
  match t.sort with
  | .interval => interval
  | .named => fault "a name is no type of a literal"
  | .builtIn =>
    let s ← literalString
    return .phrase [.words (t.sql ++ " " ++ Quoting.inQuotes '\'' s)]

/-- What an opening parenthesis starts, which has been read: a sub-query, an expression or
several, and then the name of a field. -/
def parenthesized : Rule Expr := do
  let e ← do
    if ← peekQuery then
      pure (← query).inParentheses
    else
      match ← commaSeparated expr with
      | [e] => pure (.nested e)
      | es => pure (.phrase (.words "(" :: Part.commaList es ++ [.words ")"]))
  expectSymbol ")"
  if ← symbol "." then
    let i ← next
    match i.ident? with
    | some field => return .phrase [.operand e, .words ("." ++ field.sql)]
    | none => fail (.fault ("Expected identifier, found: " ++ i.token.text) i.place)
  else return e

/-- What a symbol starts, which has been read. -/
def symbolOperand (interval : Rule Expr) (i : Item) (s : String) : Rule Expr := do
  let d ← dialect
  if i.place.isNone then expectedAt "an expression" i
  else match s with
  | "[" => array ""
  | "-" => return .unary .minus (← exprAboveTier .times)
  | "+" => return .unary .plus (← exprAboveTier .times)
  | "(" => parenthesized
  | "\x7b" =>
    let called ← attempt do
      expectKeyword "FN"
      let f ← objectName
      call interval (dotted f)
    match called with
    | some ps =>
      expectSymbol "\x7d"
      return .phrase (.words "\x7bfn " :: ps ++ [.words "\x7d"])
    | none =>
      if d == .ansi || d == .snowflake then dictionary else expectedAt "an expression" i
  | _ =>
    if d == .postgres && ["!!", "|/", "||/", "@", "~"].contains s then
      return .unary (.other s) (← exprAboveTier .plus)
    else if s == ":" || s == "@" then
      modify (i :: ·)
      return .literal (← literal)
    else expectedAt "an expression" i

/-- The constant that a token is as an operand. -/
def constantOperand? (d : Dialect) (t : Token) : Option Literal :=
  match t with
  | .string .escaped _ => if d == .postgres || d == .ansi then constant? t else none
  | t => constant? t

/-- An operand.  The fuel bounds how many `INTERVAL` keywords stand in a row. -/
def operandUpTo : Nat → Rule Expr
  | 0 => fail .tooDeep
  | fuel + 1 => do
    let interval := intervalOf (operandUpTo fuel)
    match ← attempt (typedString interval) with
    | some e => return e
    | none =>
      let i ← next
      match i.token with
      | .word s q => wordOperand interval i.keyword ⟨s, q⟩ i.place
      | .symbol s => collated (← symbolOperand interval i s)
      | t =>
        match constantOperand? (← dialect) t with
        | some l => collated (.literal l)
        | none => expectedAt "an expression" i

/-- An operand. -/
def operand : Rule Expr := do operandUpTo ((← get).length + 1)

/-- An interval after its keyword. -/
def interval : Rule Expr := intervalOf operand

end Grammar
end Sql
end QueryTemplate
