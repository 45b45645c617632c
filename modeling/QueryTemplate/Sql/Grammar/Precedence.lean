/-
# Precedence of operators

An operator takes its right operand with the operators that bind tighter than it, so
equal precedence groups to the left.  Precedence zero means: not an operator.

| | most dialects | `postgres` |
| --- | --- | --- |
| `OR`, `AND`, `NOT` | 5, 10, 15 | 10, 20, 30 |
| `IS` | 17 | 40 |
| `=`, `<`, … | 20 | 50 |
| `LIKE`; `BETWEEN`, `IN` | 19; 20 | 60 |
| bars, carets, ampersands | 21, 22, 23 | 70, 100, 70 |
| arrows and the user's own | 16 | 70 |
| `+`; `*`, `/`, `%` | 30; 40 | 80; 90 |
| `AT TIME ZONE`, `::` | 41, 50 | 110, 140 |
-/

import QueryTemplate.Sql.Grammar.Basic

namespace QueryTemplate
namespace Sql
namespace Grammar

/-- The classes of operators that bind alike. -/
inductive Tier where
  | or
  | and
  | not
  | arrow
  | is
  | like
  | between
  | equal
  | bar
  | caret
  | ampersand
  | xor
  | plus
  | times
  | timeZone
  | cast
deriving DecidableEq, Repr

/-- How tight a class binds. -/
def Tier.precedence (d : Dialect) (t : Tier) : Nat :=
  if d == .postgres then
    match t with
    | .or => 10
    | .and => 20
    | .not => 30
    | .is => 40
    | .equal => 50
    | .like | .between => 60
    | .arrow | .bar | .ampersand => 70
    | .xor => 75
    | .plus => 80
    | .times => 90
    | .caret => 100
    | .timeZone => 110
    | .cast => 140
  else
    match t with
    | .or => 5
    | .and => 10
    | .not => 15
    | .arrow => 16
    | .is => 17
    | .like => 19
    | .between | .equal => 20
    | .bar => 21
    | .caret => 22
    | .ampersand => 23
    | .xor => 24
    | .plus => 30
    | .times => 40
    | .timeZone => 41
    | .cast => 50

/-- An expression whose operators bind tighter than a class. -/
def exprAboveTier (t : Tier) : Rule Expr := do exprAbove (t.precedence (← dialect))

/-- Symbols between operands that are spelled alike in all dialects. -/
def symbolTier? (s : String) : Option Tier :=
  if ["=", "<", "<=", "<>", ">", ">=", "==", "~", "~*", "!~", "!~*", "~~", "~~*", "!~~", "!~~*",
      "<=>"].contains s then some .equal
  else if s == "|" then some .bar
  else if ["^", "#", ">>", "<<"].contains s then some .caret
  else if s == "&" then some .ampersand
  else if s == "+" || s == "-" then some .plus
  else if ["*", "/", "//", "%", "||"].contains s then some .times
  else if ["::", "!", "[", "&&", "^@"].contains s then some .cast
  else if ["->", "->>", "#>", "#>>", "@>", "<@", "#-", "@?", "@@", "?", "?&", "?|"].contains s then
    some .arrow
  else none

/-- Symbols that are no operators between operands in any dialect. -/
def punctuation : List String := [
  "(", ")", ",", ".", ";", ":", ":=", "=>", "\\", "]", "\x7b", "\x7d", "!!", "|/", "||/", "@"]

/-- How tight a symbol binds; a symbol of no other kind is an operator of the user's own. -/
def symbolPrecedence (d : Dialect) (s : String) : Nat :=
  match d with
  | .postgres =>
    if s == "[" then 130
    else if ["!", "&&", "^@", "||", "#", ">>", "<<"].contains s then Tier.arrow.precedence d
    else match symbolTier? s with
    | some t => t.precedence d
    | none => if punctuation.contains s then 0 else Tier.arrow.precedence d
  | _ =>
    if s == ":" && d == .snowflake then Tier.cast.precedence d
    else match symbolTier? s with
    | some t => t.precedence d
    | none => 0

/-- The class of a keyword between operands. -/
def keywordTier? (k : String) : Option Tier :=
  match k with
  | "OR" => some .or
  | "AND" => some .and
  | "XOR" => some .xor
  | "IS" => some .is
  | "IN" | "BETWEEN" | "OPERATOR" => some .between
  | "LIKE" | "ILIKE" | "RLIKE" | "REGEXP" | "SIMILAR" => some .like
  | "DIV" => some .times
  | _ => none

/-- How tight the operator binds that the next tokens are. -/
def nextPrecedence : Rule Nat := do
  let d ← dialect
  let i ← peek
  match i.token with
  | .symbol s => return if i.place.isSome then symbolPrecedence d s else 0
  | .word .. =>
    match i.keyword with
    | "AT" =>
      let zone := (← peekAt 1).keyword == "TIME" && (← peekAt 2).keyword == "ZONE"
      return if zone then Tier.timeZone.precedence d else 0
    | "NOT" =>
      match (← peekAt 1).keyword with
      | "IN" | "BETWEEN" => return Tier.between.precedence d
      | "LIKE" | "ILIKE" | "RLIKE" | "REGEXP" | "SIMILAR" => return Tier.like.precedence d
      | _ => return 0
    | "COLLATE" => return if d == .postgres then 120 else 0
    | k => return ((keywordTier? k).map (Tier.precedence d)).getD 0
  | _ => return 0

end Grammar
end Sql
end QueryTemplate
