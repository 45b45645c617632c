/-
# Values as expressions

What a resolver answers is text.  The first rule that fits decides what a text stands
for, after its blank ends are taken off.

| text | expression |
| --- | --- |
| `null`, in any letter case | `NULL` |
| `true` or `false`, in any letter case | a truth value |
| one digit; any finite numeral if numerals are read in full | a number |
| one character in single quotes | a string |
| a name | a column reference |
| anything else | the text, read as a condition |

In text that is read as SQL `@@` stands for the operator `<>`.
-/

import QueryTemplate.Decimal.Numeral
import QueryTemplate.Sql.Parse
import QueryTemplate.Text.Basic
import QueryTemplate.Value.Name

namespace QueryTemplate

/-- Writes `!=` for `<>`, and after that `<>` for `@@`. -/
def escapeOperators (text : String) : String :=
  let escaped := Text.replacePair '<' '>' ['!', '='] text.toList
  String.ofList (Text.replacePair '@' '@' ['<', '>'] escaped)

/-- How values are read. -/
structure ValueRules where
  dialect : Sql.Dialect
  /-- Whether numerals of more than one character are numbers. -/
  fullNumerals : Bool
deriving DecidableEq, Repr, Inhabited

namespace Value

/-- The truth value that a text is.  A long s folds to `s` but leaves the text false. -/
def boolean? (cs : List Char) : Option Bool :=
  if Text.foldsTo cs "true" || Text.foldsTo cs "false" then
    some (cs.map Char.toLower == "true".toList)
  else none

/-- The digits of the number that a text is. -/
def number? (fullNumerals : Bool) (cs : List Char) : Option String :=
  if fullNumerals then (Decimal.Numeral.ofChars? cs).bind Decimal.Numeral.text?
  else match cs with
    | [c] => if c.isDigit then some c.toString else none
    | _ => none

/-- The character that stands in single quotes. -/
def quotedChar? : List Char → Option Char
  | ['\'', c, '\''] => if c == '\'' then none else some c
  | _ => none

/-- The literal or column reference that a text is without being read as SQL. -/
def simple? (fullNumerals : Bool) (text : String) : Option Sql.Expr :=
  let cs := text.toList
  if Text.foldsTo cs "null" then some (.literal .null)
  else
    ((boolean? cs).map Sql.Expr.boolean) <|>
    ((number? fullNumerals cs).map Sql.Expr.number) <|>
    ((quotedChar? cs).map fun c => .string c.toString) <|>
    ((ident? text).map Sql.Expr.identifier)

/-- The expression that a value stands for. -/
def expr (rules : ValueRules) (raw : String) : Except Sql.ParseError Sql.Expr :=
  let text := Text.trim raw
  match simple? rules.fullNumerals text with
  | some e => .ok e
  | none => Sql.parseCondition rules.dialect (escapeOperators text)

/-- The expressions of several values, or the first failure. -/
def exprs (rules : ValueRules) : List String → Except Sql.ParseError (List Sql.Expr)
  | [] => .ok []
  | raw :: rest =>
    match expr rules raw with
    | .error e => .error e
    | .ok x => (exprs rules rest).map (x :: ·)

end Value
end QueryTemplate
