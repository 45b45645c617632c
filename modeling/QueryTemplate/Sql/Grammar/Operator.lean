/-
# Operators between operands

An expression is an operand and then operators, each with what belongs to it, as long
as they bind tighter than the precedence that is asked for.  Operators of two operands
are `binary`; tests (`IS NULL`, `IN`, `BETWEEN`, `LIKE`), casts, subscripts and paths are
phrases around their operands.
-/

import QueryTemplate.Sql.Grammar.Operand

namespace QueryTemplate
namespace Sql
namespace Grammar

/-! ## Subscripts and paths -/

/-- What follows `[`: an index, or a slice with up to three bounds. -/
def subscript (e : Expr) : Rule Expr := do
  let done (inside : List Part) : Rule Expr :=
    return .phrase (.operand e :: .words "[" :: inside ++ [.words "]"])
  let lower : Option Expr ← do
    if ← symbol ":" then pure none else pure (some (← expr))
  let low := (lower.map Part.operand).toList
  if ← symbol "]" then
    match lower with
    | some _ => done low
    | none => done [.words ":"]
  else
    if lower.isSome then expectSymbol ":"
    if ← symbol "]" then done (low ++ [.words ":"])
    else
      let high := [Part.operand (← expr)]
      if ← symbol "]" then done (low ++ .words ":" :: high)
      else
        expectSymbol ":"
        if ← symbol "]" then done (low ++ .words ":" :: high)
        else
          let stride ← expr
          expectSymbol "]"
          done (low ++ .words ":" :: high ++ [.words ":", .operand stride])

/-- A key of a path, in its written form. -/
def pathKey : Rule String := do
  let i ← next
  match i.token with
  | .word s none => return s
  | .word s (some '"') | .string .double s => return Quoting.inQuotes '"' s
  | _ => expectedAt "variant object key name" i

/-- A path into a value: a key after a colon, then keys and indexes. -/
def path (e : Expr) : Rule Expr := do
  let steps ← iterated (fun (steps : List Part) => do
    if ← onlyIf steps.isEmpty (symbol ":") then return some [.words (":" ++ (← pathKey))]
    else if ← onlyIf (!steps.isEmpty) (symbol ".") then
      return some (steps ++ [.words ("." ++ (← pathKey))])
    else if ← symbol "[" then
      let key ← expr
      expectSymbol "]"
      return some (steps ++ [.words "[", .operand key, .words "]"])
    else return none) []
  return .phrase (.operand e :: steps)

/-- What follows `[` where brackets and points may alternate. -/
def mapAccess (e : Expr) : Rule Expr := do
  let bracketed : Rule (List Part) := do
    let key ← expr
    expectSymbol "]"
    return [.words "[", .operand key, .words "]"]
  let first ← bracketed
  let d ← dialect
  let rest ← repeated do
    if ← symbol "[" then return some (← bracketed)
    else if ← onlyIf (d == .bigquery) (symbol ".") then
      return some [.words ".", .operand (← expr)]
    else return none
  return .phrase (.operand e :: first ++ rest.flatten)

/-! ## Tests -/

/-- What may follow `IS`, longer tests before shorter ones. -/
def isTests : List (List String) := [
  ["NULL"], ["NOT", "NULL"], ["TRUE"], ["NOT", "TRUE"], ["FALSE"], ["NOT", "FALSE"],
  ["UNKNOWN"], ["NOT", "UNKNOWN"]]

/-- The first of several keyword sequences that is next. -/
def firstOf : List (List String) → Rule (Option (List String))
  | [] => return none
  | ks :: rest => do
    if ← keywords ks then return some ks else firstOf rest

/-- What follows `IS`. -/
def isTest (e : Expr) : Rule Expr := do
  match ← firstOf isTests with
  | some ks => return .phrase [.operand e, .words (" IS " ++ String.intercalate " " ks)]
  | none =>
    match ← firstOf [["DISTINCT", "FROM"], ["NOT", "DISTINCT", "FROM"]] with
    | some ks =>
      let e' ← expr
      return .phrase [.operand e, .words (" IS " ++ String.intercalate " " ks ++ " "), .operand e']
    | none => expected "[NOT] NULL or TRUE|FALSE or [NOT] DISTINCT FROM after IS"

/-- What follows `IN`; `not` is the written negation. -/
def membership (e : Expr) (not : String) : Rule Expr := do
  if ← keyword "UNNEST" then
    let elements ← inParentheses expr
    return .phrase [.operand e, .words (" " ++ not ++ "IN UNNEST("), .operand elements, .words ")"]
  else
    let inside : List Part ← inParentheses do
      if ← peekQuery then return [(← query).part]
      else return Part.commaList (← commaSeparated expr)
    return .phrase (.operand e :: .words (" " ++ not ++ "IN (") :: inside ++ [.words ")"])

/-- What follows `BETWEEN`. -/
def range (e : Expr) (not : String) : Rule Expr := do
  let low ← exprAboveTier .between
  expectKeyword "AND"
  let high ← exprAboveTier .between
  return .phrase [.operand e, .words (" " ++ not ++ "BETWEEN "), .operand low, .words " AND ",
    .operand high]

/-- The pattern of a match after its keywords, and the escape character. -/
def pattern (e : Expr) (words : String) : Rule Expr := do
  let p ← exprAboveTier .like
  let escape ← do
    if ← keyword "ESCAPE" then pure (" ESCAPE '" ++ (← literalString) ++ "'") else pure ""
  return .phrase [.operand e, .words (" " ++ words ++ " "), .operand p, .words escape]

/-- A test that may be negated. -/
def negatableTest (e : Expr) : Rule Expr := do
  let not := if ← keyword "NOT" then "NOT " else ""
  -- both words may stand there; the first one is the one that counts
  let regexp ← keyword "REGEXP"
  let rlike ← keyword "RLIKE"
  if regexp || rlike then
    let p ← exprAboveTier .like
    return .phrase [.operand e, .words (" " ++ not ++ (if regexp then "REGEXP " else "RLIKE ")),
      .operand p]
  else if ← keyword "IN" then membership e not
  else if ← keyword "BETWEEN" then range e not
  else
    match ← oneOf ["LIKE", "ILIKE"] with
    | some k => pattern e (not ++ k ++ if ← keyword "ANY" then " ANY" else "")
    | none =>
      if ← keywords ["SIMILAR", "TO"] then pattern e (not ++ "SIMILAR TO")
      else expected "IN or BETWEEN after NOT"

/-! ## Binary operators -/

/-- An operator of two operands that a symbol is in a dialect. -/
def symbolOperator? (d : Dialect) (s : String) : Option BinaryOp :=
  let postgresOrAnsi := d == .postgres || d == .ansi
  if (s == "<<" || s == ">>" || s == "&&" || s == "^@") && !postgresOrAnsi then none
  else if s == "#" && d != .postgres then none
  else if ["::", "!", "["].contains s || punctuation.contains s then none
  else some (.ofSymbol s)

/-- An operator of two operands that a keyword is; the keyword has been read. -/
def keywordOperator? (k : String) : Rule (Option BinaryOp) := do
  let d ← dialect
  match k with
  | "AND" => return some .and
  | "OR" => return some .or
  | "XOR" => return some (.other k)
  | "OPERATOR" =>
    if d == .postgres || d == .ansi then
      let names ← inParentheses do
        let first ← next
        let rest ← repeated do
          if ← symbol "." then return some (← next) else return none
        return (first :: rest).map fun i => i.token.text
      return some (.other ("OPERATOR(" ++ String.intercalate "." names ++ ")"))
    else return none
  | _ => return none

/-- A comparison with every or with some value of a list. -/
def quantified (e : Expr) (op : BinaryOp) (place : Option Text.Position) (k : String)
    (precedence : Nat) : Rule Expr := do
  let opening ← peek
  expectSymbol "("
  let subqueryNext ← peekQuery
  if subqueryNext then modify (opening :: ·)
  let r ← exprAbove precedence
  unless subqueryNext do expectSymbol ")"
  if !op.isComparison then
    fail (.fault ("Expected one of [=, >, <, =>, =<, !=] as comparison operator, found: " ++ op.sql)
      place)
  else return .phrase [.operand e, .words (" " ++ op.sql ++ " " ++ k), .enclosed r]

/-- The right operand of a binary operator. -/
def rightOperand (e : Expr) (op : BinaryOp) (place : Option Text.Position) (precedence : Nat) :
    Rule Expr := do
  match ← oneOf ["ANY", "ALL", "SOME"] with
  | some k => quantified e op place k precedence
  | none => return .binary e op (← exprAbove precedence)

/-- The name of a symbol that a dialect has but does not read between operands. -/
def symbolName (s : String) : String :=
  match s with
  | "<<" => "ShiftLeft"
  | ">>" => "ShiftRight"
  | "&&" => "Overlap"
  | "^@" => "CaretAt"
  | "#" => "Sharp"
  | "!" => "ExclamationMark"
  | "//" => "DuckIntDiv"
  | s => s

/-- The failure for a token that is an operator, but not between operands. -/
def noOperator (i : Item) (shown : String) : Rule Expr :=
  fail (.fault ("No infix parser for token " ++ shown) i.place)

/-- The next operator, applied to the expression before it. -/
def applyOperator (e : Expr) (precedence : Nat) : Rule Expr := do
  let d ← dialect
  let i ← next
  match i.token with
  | .symbol s =>
    match symbolOperator? d s with
    | some op => rightOperand e op i.place precedence
    | none =>
      match s with
      | "::" => return .phrase [.operand e, .words ("::" ++ (← typeSql))]
      | "!" =>
        if d == .postgres then return .phrase [.operand e, .words "!"]
        else noOperator i (symbolName s)
      | "[" =>
        match d with
        | .postgres | .ansi => subscript e
        | .snowflake =>
          modify (i :: ·)
          path e
        | .bigquery => mapAccess e
      | ":" =>
        modify (i :: ·)
        path e
      | s => noOperator i (symbolName s)
  | .word text _ =>
    match ← keywordOperator? i.keyword with
    | some op => rightOperand e op i.place precedence
    | none =>
      match i.keyword with
      | "IS" => isTest e
      | "AT" =>
        expectKeywords ["TIME", "ZONE"]
        let zone ← exprAbove precedence
        return .phrase [.operand e, .words " AT TIME ZONE ", .operand zone]
      | "NOT" | "IN" | "BETWEEN" | "LIKE" | "ILIKE" | "SIMILAR" | "REGEXP" | "RLIKE" =>
        modify (i :: ·)
        negatableTest e
      | k =>
        noOperator i ("Word(Word \x7b value: \"" ++ text ++ "\", quote_style: None, keyword: " ++
          k ++ " \x7d)")
  | _ => noOperator i i.token.text

/-- An expression whose operators bind tighter than `precedence`. -/
def expression (precedence : Nat) : Rule Expr := do
  let first ← operand
  iterated (fun e => do
    let p ← nextPrecedence
    if p ≤ precedence then return none else return some (← applyOperator e p)) first

end Grammar
end Sql
end QueryTemplate
