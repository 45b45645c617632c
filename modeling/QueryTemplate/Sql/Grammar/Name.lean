/-
# Names

A name is a word or a string; a dotted name is a list of them.  Three dialects add a
rule to dotted names of tables.

| dialect | rule |
| --- | --- |
| `bigquery` | `my-project.t` is two names; points inside quotes separate names too |
| `snowflake` | in `a..b` the middle name is empty |

An alias may follow a column or a table, with or without `AS`.
-/

import QueryTemplate.Decimal.Unsigned
import QueryTemplate.Sql.Grammar.Basic

namespace QueryTemplate
namespace Sql
namespace Grammar

/-- A name. -/
def name : Rule Ident := do
  let i ← next
  match i.token with
  | .word s q => return ⟨s, q⟩
  | .string .single s => return ⟨s, some '\''⟩
  | .string .double s => return ⟨s, some '"'⟩
  | _ => expectedAt "identifier" i

/-- The digits before the point of a number such as `12.`, if it ends in one. -/
def digitsBeforePoint? (digits : String) : Option String :=
  match digits.toList.reverse with
  | '.' :: ds => if !ds.isEmpty && ds.all Char.isDigit then some (String.ofList ds.reverse) else none
  | _ => none

/-- A part of a hyphenated name, or several. -/
structure HyphenPart where
  text : String
  /-- Whether the end of the text has to come next. -/
  last : Bool
  /-- Whether the part ends with a point that separates names. -/
  endsWithPoint : Bool

/-- What follows a hyphen. -/
def hyphenPart : Rule HyphenPart := do
  let i ← peek
  match i.blank with
  | some b => expectedAt "continuation of hyphenated identifier" (.ofLexeme none b)
  | none =>
    modify List.tail
    match i.token with
    | .word s none => return ⟨s, false, false⟩
    | .number ds false =>
      if ds.toList.getLast? == some '.' then
        match digitsBeforePoint? ds with
        | some s => return ⟨s, false, true⟩
        | none => expectedAt "continuation of hyphenated identifier" i
      else return ⟨ds, !(← peekSymbol "."), false⟩
    | _ => expectedAt "continuation of hyphenated identifier" i

/-- A name that may have hyphens, and whether a point that belongs to it follows. -/
def hyphenatedName : Rule (Ident × Bool) := do
  match (← peek).token with
  | .word s none =>
    modify List.tail
    let whole ← iterated (fun (whole : HyphenPart) => do
      let i ← peek
      if i.isSymbol "-" && i.blank.isNone && !whole.endsWithPoint then
        modify List.tail
        let part ← hyphenPart
        return some { part with text := whole.text ++ "-" ++ part.text }
      else return none) ⟨s, false, false⟩
    if whole.last && (← peek).place.isSome then expected "whitespace following hyphenated identifier"
    else return (.plain whole.text, whole.endsWithPoint)
  | _ => return (← name, false)

/-- In a dialect where points inside quotes separate names too, the names that they
separate. -/
def separateNames (d : Dialect) (names : List Ident) : List Ident :=
  if d == .bigquery then
    names.flatMap fun i => (i.text.splitOn ".").map fun s => ⟨s, i.quote⟩
  else names

/-- Further names, each after a point. -/
def furtherNames : Rule (List Ident) :=
  repeated do
    if ← symbol "." then return some (← name) else return none

/-- The dotted name of a function, a type, a collation, or of a table where hyphens have
no special meaning. -/
def objectName : Rule (List Ident) := do
  let d ← dialect
  let first ← name
  if ← onlyIf (d == .snowflake) (symbols [".", "."]) then
    let second ← name
    return first :: .plain "" :: second :: (← furtherNames)
  else return separateNames d (first :: (← furtherNames))

/-- Dotted names that may have hyphens, at most `fuel` of them. -/
def hyphenatedNames : Nat → Rule (List Ident)
  | 0 => return []
  | fuel + 1 => do
    let (i, more) ← hyphenatedName
    let point ← symbol "."
    if point || more then return i :: (← hyphenatedNames fuel) else return [i]

/-- The dotted name of a table. -/
def tableName : Rule (List Ident) := do
  let d ← dialect
  if d == .bigquery then return separateNames d (← hyphenatedNames ((← get).length + 1))
  else objectName

/-- Names in parentheses. -/
def nameList : Rule (List Ident) := inParentheses (commaSeparated name)

/-- Names in parentheses, which a clause needs. -/
def columnList : Rule (List Ident) := do
  if ← peekSymbol "(" then nameList else expected "a list of columns in parentheses"

/-- The written names in parentheses. -/
def nameListSql (names : List Ident) : String :=
  "(" ++ String.intercalate ", " (names.map Ident.sql) ++ ")"

/-- An alias.  Without `AS`, none of the `reserved` words is one. -/
def alias? (reserved : List String) : Rule (Option Ident) := do
  let afterAs ← keyword "AS"
  let i ← peek
  let found := match i.token with
    | .word s q => if afterAs || !reserved.contains i.keyword then some ⟨s, q⟩ else none
    | .string .single s => some ⟨s, some '\''⟩
    | .string .double s => some ⟨s, some '"'⟩
    | _ => none
  match found with
  | some a =>
    modify List.tail
    return some a
  | none => if afterAs then expected "an identifier after AS" else return none

/-! ## Integers -/

/-- An integer literal. -/
def integer : Rule Nat := do
  let i ← next
  match i.token with
  | .number ds _ =>
    match Decimal.unsigned ds with
    | .ok n => return n
    | .error why => fail (.fault ("Could not parse '" ++ ds ++ "' as u64: " ++ why.message) i.place)
  | _ => expectedAt "literal int" i

end Grammar
end Sql
end QueryTemplate
