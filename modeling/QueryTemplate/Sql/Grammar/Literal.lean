/-
# Literals

Constants of one token, parameters of two (`:x`, `@1`), the strings that follow a
type or `ESCAPE`, and the fields of dates and times.
-/

import QueryTemplate.Sql.Grammar.Name

namespace QueryTemplate
namespace Sql
namespace Grammar

/-- The constant that a token is by itself. -/
def constant? : Token → Option Literal
  | .number ds long => some (.number ds long)
  | .string kind s => some (.string kind s)
  | .dollarString tag s => some (.dollarString tag s)
  | .parameter s => some (.parameter s)
  | _ => none

/-- A constant. -/
def literal : Rule Literal := do
  let i ← next
  if let some l := constant? i.token then return l
  match i.keyword with
  | "TRUE" => return .boolean true
  | "FALSE" => return .boolean false
  | "NULL" => return .null
  | _ =>
    match i.token with
    | .word s (some '"') => return .string .double s
    | .word _ (some _) => expectedAt "A value?" i
    | .word _ none => expectedAt "a concrete value" i
    | .symbol mark =>
      if i.isSymbol ":" || i.isSymbol "@" then
        let j ← next
        match j.token with
        | .word s _ => return .parameter (mark ++ s)
        | .number ds false => return .parameter (mark ++ ds)
        | _ => expectedAt "placeholder" j
      else expectedAt "a value" i
    | _ => expectedAt "a value" i

/-- The string after a type or after `ESCAPE`; a word that is no keyword is one too. -/
def literalString : Rule String := do
  let i ← next
  let d ← dialect
  match i.token with
  | .string .single s | .string .double s | .string .codePoints s => return s
  | .string .escaped s =>
    if d == .postgres || d == .ansi then return s else expectedAt "literal string" i
  | .word s _ => if i.isFreeWord then return s else expectedAt "literal string" i
  | _ => expectedAt "literal string" i

/-- A field of a date or a time, in its written form. -/
def timeField : Rule String := do
  let i ← peek
  let d ← dialect
  let custom := d != .bigquery
  match i.token with
  | .word .. =>
    if i.keyword == "WEEK" then
      modify List.tail
      if ← onlyIf (d == .bigquery || d == .ansi) (symbol "(") then
        let day ← name
        expectSymbol ")"
        return "WEEK(" ++ day.sql ++ ")"
      else return "WEEK"
    else if Keyword.timeFields.contains i.keyword then
      modify List.tail
      return i.keyword
    else if custom then return (← name).sql
    else
      modify List.tail
      expectedAt "date/time field" i
  | .string .single _ =>
    if custom then return (← name).sql
    else
      modify List.tail
      expectedAt "date/time field" i
  | _ =>
    modify List.tail
    expectedAt "date/time field" i

/-- The direction of an order, in its written form. -/
def directionSql : Rule String := do
  match ← oneOf ["ASC", "DESC"] with
  | some k => return " " ++ k
  | none => return ""

/-- The placement of nulls in an order, in its written form. -/
def nullsSql : Rule String := do
  if ← keywords ["NULLS", "FIRST"] then return " NULLS FIRST"
  else if ← keywords ["NULLS", "LAST"] then return " NULLS LAST"
  else return ""

end Grammar
end Sql
end QueryTemplate
