/-
# Function calls

A call is a phrase: the dotted name, arguments in parentheses, and clauses.

| where | clauses, in written order |
| --- | --- |
| before `)` | treatment of nulls, `ORDER BY`, `LIMIT`, `HAVING MIN`, `SEPARATOR`, `ON OVERFLOW`, `NULL ON NULL` |
| after `)` | `WITHIN GROUP`, `FILTER`, treatment of nulls, `OVER` |

`WITHIN GROUP` is visited last.  The name of a named argument is no expression, except
in the dialect where it may be any expression.
-/

import QueryTemplate.Sql.Grammar.Literal

namespace QueryTemplate
namespace Sql
namespace Grammar

/-! ## Order -/

/-- The fill of an `ORDER BY` term. -/
def fill : Rule (List Part) := do
  let clause (k : String) : Rule (List Part) := do
    if ← keyword k then return [.words (" " ++ k ++ " "), .operand (← expr)] else return []
  let start ← clause "FROM"
  let stop ← clause "TO"
  let step ← clause "STEP"
  return .words " WITH FILL" :: start ++ stop ++ step

/-- An `ORDER BY` term. -/
def orderTerm : Rule OrderTerm := do
  let e ← expr
  let direction ← directionSql
  let nulls ← nullsSql
  let filled ← do
    if ← onlyIf ((← dialect) == .ansi) (keywords ["WITH", "FILL"]) then fill else pure []
  return ⟨e, .words (direction ++ nulls) :: filled⟩

/-- The pieces of `ORDER BY` terms. -/
def orderTerms : Rule (List Part) := do
  let terms ← commaSeparated orderTerm
  return Part.separated ", " (terms.map OrderTerm.parts)

/-! ## Arguments -/

/-- `*`, `t.*` or an expression; the pieces of it. -/
def starOrExpr : Rule (List Part) := do
  let start ← get
  let i ← next
  if i.isSymbol "*" then return [.words "*"]
  let first? : Option Ident := match i.token with
    | .word s q => some ⟨s, q⟩
    | .string .single s => some ⟨s, some '\''⟩
    | _ => none
  match first? with
  | some first =>
    if ← peekSymbol "." then
      -- names up to the first star
      let (names, star) ← iterated (fun (names, star) => do
        if ← onlyIf (!star) (symbol ".") then
          let i ← next
          match i.token with
          | .word s q => return some (names ++ [⟨s, q⟩], false)
          | .string .single s => return some (names ++ [⟨s, some '\''⟩], false)
          | _ =>
            if i.isSymbol "*" then return some (names, true)
            else expectedAt "an identifier or a '*' after '.'" i
        else return none) ([first], false)
      if star then return [.words (dotted names ++ ".*")]
  | none => pure ()
  set start
  return [.operand (← expr)]

/-- The operator between the name of an argument and its value, with its blanks. -/
def namedArgumentOperator : Rule String := do
  let d ← dialect
  let i ← peek
  if i.keyword == "VALUE" then
    modify List.tail
    return " VALUE "
  else if i.isSymbol "=>" then
    modify List.tail
    return " => "
  else if i.isSymbol ":=" && d == .ansi then
    modify List.tail
    return " := "
  else if i.isSymbol ":" && d == .postgres then
    modify List.tail
    return " : "
  else expectedAt "argument operator" i

/-- A function argument. -/
def argument : Rule (List Part) := do
  let anyName := (← dialect) == .postgres
  let named ← attempt do
    let label : List Part ← if anyName then do pure [.operand (← expr)]
      else do pure [.words (← name).sql]
    let operator ← namedArgumentOperator
    return label ++ .words operator :: (← starOrExpr)
  match named with
  | some ps => return ps
  | none => starOrExpr

/-- `ALL` or `DISTINCT` before arguments, in its written form. -/
def duplicatesSql : Rule String := do
  let place := (← peek).place
  let all ← keyword "ALL"
  let distinct ← keyword "DISTINCT"
  match all, distinct with
  | true, true => fail (.fault "Cannot specify both ALL and DISTINCT" place)
  | true, false => return "ALL "
  | false, true => return "DISTINCT "
  | false, false => return ""

/-- `IGNORE NULLS` or `RESPECT NULLS`, in its written form. -/
def nullTreatment? : Rule (Option String) := do
  match ← oneOf ["RESPECT", "IGNORE"] with
  | some k =>
    expectKeyword "NULLS"
    return some (k ++ " NULLS")
  | none => return none

/-- What happens on overflow. -/
def overflow? : Rule (Option (List Part)) := do
  if ← keywords ["ON", "OVERFLOW"] then
    if ← keyword "ERROR" then return some [.words "ON OVERFLOW ERROR"]
    else
      expectKeyword "TRUNCATE"
      let i ← peek
      let filler : List Part ←
        if i.keyword == "WITH" || i.keyword == "WITHOUT" then pure []
        else match i.token with
        | .string .single _ | .string .escaped _ | .string .codePoints _ | .string .national _
        | .string .hex _ => do pure [.words " ", .operand (← expr)]
        | _ => expected "either filler, WITH, or WITHOUT in LISTAGG"
      let count ← match ← oneOf ["WITH", "WITHOUT"] with
        | some k => pure k
        | none => expected "either WITH or WITHOUT in LISTAGG"
      expectKeyword "COUNT"
      return some (.words "ON OVERFLOW TRUNCATE" :: filler ++ [.words (" " ++ count ++ " COUNT")])
  else return none

/-- What becomes of nulls in a document, in its written form. -/
def nullsInDocument? : Rule (Option String) := do
  if ← keywords ["ABSENT", "ON", "NULL"] then return some "ABSENT ON NULL"
  else if ← keywords ["NULL", "ON", "NULL"] then return some "NULL ON NULL"
  else return none

/-- A clause of the argument list that starts with keyword `k` in some dialects. -/
def argumentClause (allowed : Bool) (k : String) (r : Rule (List Part)) : Rule (List (List Part)) := do
  if ← onlyIf allowed (keyword k) then return [.words (k ++ " ") :: (← r)] else return []

/-- What stands between the parentheses of a call, after the opening one, and whether it
treats nulls. -/
def argumentList : Rule (List Part × Bool) := do
  let words (s : Option String) : List (List Part) := (s.map fun s => [Part.words s]).toList
  let first ← nullsInDocument?
  if ← symbol ")" then return ([.words (first.getD "")], false)
  else
    let d ← dialect
    let duplicates ← duplicatesSql
    let arguments ← commaSeparated argument
    let nulls ← if d != .postgres then nullTreatment? else pure none
    let order ← do
      if ← keywords ["ORDER", "BY"] then pure [.words "ORDER BY " :: (← orderTerms)] else pure []
    let limit ← argumentClause true "LIMIT" do return [.operand (← expr)]
    let bound ← argumentClause (d == .ansi || d == .bigquery) "HAVING" do
      let k ← expectOneOf ["MIN", "MAX"]
      return [.words (k ++ " "), .operand (← expr)]
    let separator ← argumentClause (d == .ansi) "SEPARATOR" do return [.words (← literal).sql]
    let overflow ← overflow?
    let last ← nullsInDocument?
    expectSymbol ")"
    let clauses := words first ++ words nulls ++ order ++ limit ++ bound ++ separator ++
      overflow.toList ++ words last
    return (.words duplicates :: Part.separated ", " arguments ++
      clauses.flatMap fun c => .words " " :: c, nulls.isSome)

/-! ## Windows -/

/-- The bound of a frame. -/
def frameBound (interval : Rule Expr) : Rule (List Part) := do
  if ← keywords ["CURRENT", "ROW"] then return [.words "CURRENT ROW"]
  else
    let distance : List Part ← do
      if ← keyword "UNBOUNDED" then pure [.words "UNBOUNDED"]
      else if (← peek).string?.isSome then pure [.operand (← interval)]
      else pure [.operand (← expr)]
    match ← oneOf ["PRECEDING", "FOLLOWING"] with
    | some k => return distance ++ [.words (" " ++ k)]
    | none => expected "PRECEDING or FOLLOWING"

/-- A frame. -/
def frame (interval : Rule Expr) : Rule (List Part) := do
  let i ← next
  unless ["ROWS", "RANGE", "GROUPS"].contains i.keyword do expectedAt "ROWS, RANGE, GROUPS" i
  if ← keyword "BETWEEN" then
    let start ← frameBound interval
    expectKeyword "AND"
    let stop ← frameBound interval
    return .words (i.keyword ++ " BETWEEN ") :: start ++ .words " AND " :: stop
  else return .words (i.keyword ++ " ") :: (← frameBound interval)

/-- A window between parentheses, after the opening one. -/
def windowSpec (interval : Rule Expr) : Rule (List Part) := do
  let base : List (List Part) ← do
    if (← peek).isFreeWord then pure [[.words (← name).sql]] else pure []
  let partition : List (List Part) ← do
    if ← keywords ["PARTITION", "BY"] then
      pure [.words "PARTITION BY " :: Part.commaList (← commaSeparated expr)]
    else pure []
  let order : List (List Part) ← do
    if ← keywords ["ORDER", "BY"] then pure [.words "ORDER BY " :: (← orderTerms)] else pure []
  let framed : List (List Part) ← do
    if ← symbol ")" then pure []
    else
      let f ← frame interval
      expectSymbol ")"
      pure [f]
  return .words "(" :: Part.separated " " (base ++ partition ++ order ++ framed) ++ [.words ")"]

/-- `OVER` a window. -/
def windowOver (interval : Rule Expr) : Rule (List Part) := do
  if ← keyword "OVER" then
    if ← symbol "(" then return .words " OVER " :: (← windowSpec interval)
    else return [.words (" OVER " ++ (← name).sql)]
  else return []

/-! ## Calls -/

/-- `FILTER` with its condition.  A start of it without the rest is read over. -/
def filter : Rule (List Part) := do
  unless ← keyword "FILTER" do return []
  unless ← symbol "(" do return []
  unless ← keyword "WHERE" do return []
  let e ← expr
  expectSymbol ")"
  return [.words " FILTER (WHERE ", .operand e, .words ")"]

/-- The rest of a call whose name is given. -/
def call (interval : Rule Expr) (function : String) : Rule (List Part) := do
  let d ← dialect
  expectSymbol "("
  if ← onlyIf (d == .snowflake) peekQuery then
    let q ← query
    expectSymbol ")"
    return [.words (function ++ "("), q.part, .words ")"]
  else
    let (arguments, treatsNulls) ← argumentList
    let (parameters, arguments, treatsNulls) ← do
      if ← onlyIf (d == .ansi) (symbol "(") then
        let (further, treatsNulls) ← argumentList
        pure (.words "(" :: arguments ++ [.words ")"], further, treatsNulls)
      else pure ([], arguments, treatsNulls)
    let within ← do
      if ← keywords ["WITHIN", "GROUP"] then
        let terms ← inParentheses do
          expectKeywords ["ORDER", "BY"]
          orderTerms
        pure (.words " WITHIN GROUP (ORDER BY " :: terms ++ [.words ")"])
      else pure []
    let filtered ← if d == .postgres then filter else pure []
    let nulls ← if treatsNulls then pure none else nullTreatment?
    let window ← windowOver interval
    return .words function :: parameters ++ .words "(" :: arguments ++ .words ")" ::
      Part.defer within ++ filtered ++
      (match nulls with
        | some s => [.words (" " ++ s)]
        | none => []) ++ window

end Grammar
end Sql
end QueryTemplate
