/-
# Values

The first character decides what a value is.  Arrays and tables in braces hold further
values, at most 79 levels deep.  Dotted keys in braces make tables on the way, which
later keys in the same braces may extend.
-/

import QueryTemplate.Toml.Moment

namespace QueryTemplate
namespace Toml

/-! ## Keys -/

namespace Key

open Reader

/-- A character of a key without quotes. -/
def isBareChar (x : Char) : Bool := x.isAlphanum || x == '-' || x == '_'

/-- A key without quotes. -/
def bare : Reader String := do
  let x ← one isBareChar
  let xs ← takeWhile isBareChar
  return String.ofList (x :: xs)

/-- One part of a key. -/
def part : Reader String := do
  match ← ahead any with
  | '"' => Text.basic
  | '\'' => Text.literalString
  | _ => bare

/-- The greatest number of levels. -/
def maxDepth : Nat := 79

/-- A key, as the parts between its points. -/
def path : Reader (List Key) :=
  checked
    (labelled "key" <| separatedOne
      (do
        blanks
        let (text, span) ← spanned part
        blanks
        return ⟨text, span⟩)
      (char '.'))
    fun keys =>
      if maxDepth < keys.length then .error .tooDeep else .ok keys

/-- A key and the sign behind it. -/
def assigned : Reader (List Key) := do
  let keys ← path
  expecting "`=`" (expecting "`.`" (commit (char '=')))
  return keys

end Key

/-! ## Tables on the way -/

/-- What is done to the table at the end of a path. -/
abbrev Change (α : Type) := Table Item → Except Cause (Table Item × α)

/-- Changes the table at the end of a path.  Tables on the way that are missing are made;
of several tables by one name the last one is meant.  A dotted key does not lead through
a table that has a header or braces of its own. -/
def Table.change {α : Type} (inline dotted : Bool) (f : Change α) (done : List String) :
    List Key → Change α
  | [], t => f t
  | key :: rest, t =>
    let here := done ++ [key.text]
    match t.find? key.text with
    | none =>
      let made : Table Item := { Table.empty with form := ⟨inline, true, dotted⟩ }
      (Table.change inline dotted f here rest made).map fun r => (t.put key (.table r.1), r.2)
    | some (.table inner) =>
      if inner.form.inline && !inline then .error (.notTable here "inline table")
      else if dotted && !inner.form.implicit then .error (.duplicateKey key.text none)
      else (Table.change inline dotted f here rest inner).map fun r =>
        (t.put key (.table r.1), r.2)
    | some (.tables elements span) =>
      match elements.reverse with
      | [] => .error (.notTable here "array of tables")
      | last :: before => (Table.change inline dotted f here rest last).map fun r =>
          (t.put key (.tables (before.reverse ++ [r.1]) span), r.2)
    | some item => .error (.notTable here item.typeName)

/-- Enters an item under the last key of a path; `path` names the table in a message. -/
def Table.enter (key : Key) (item : Item) (isDotted : Bool) (path : Option (List String)) :
    Change Unit := fun t =>
  if t.form.dotted != isDotted then .error (.duplicateKey key.text none)
  else if (t.find? key.text).isSome then .error (.duplicateKey key.text path)
  else .ok (t.put key item, ())

/-- Enters an item under a key in a table. -/
def Table.assign (inline : Bool) (path : Option (List String)) (t : Table Item)
    (keys : List Key) (item : Item) : Except Cause (Table Item) :=
  match keys.reverse with
  | [] => .ok t
  | key :: before =>
    (Table.change inline true (Table.enter key item (!before.isEmpty) path) [] before.reverse
      t).map Prod.fst

namespace Value

open Reader

/-! ## Scalars -/

/-- What is expected where no value starts. -/
def orString {α : Type} (r : Reader α) : Reader α :=
  expecting "`'`" (expecting "`\"`" (labelled "string" r))

/-- A word that is a value. -/
def word (text : String) (value : Scalar) : Reader Scalar :=
  orString do
    commit (literal text.toList)
    return value

/-- A moment or a number. -/
def momentOrNumber : Reader Scalar :=
  either (do return .moment (← Moment.moment)) <|
    either (do return .float (← Number.float)) (do return .integer (← Number.integer))

/-- A scalar that starts with a certain character. -/
def scalarFrom (x : Char) : Reader Scalar :=
  if x == '"' || x == '\'' then do return .string (← Text.string)
  else if x == '+' || x == '-' || x.isDigit then momentOrNumber
  else match x with
    | '_' => expecting "leading digit" do return .integer (← Number.integer)
    | '.' => expecting "leading digit" do return .float (← Number.float)
    | 't' => word "true" (.boolean true)
    | 'f' => word "false" (.boolean false)
    | 'i' => orString do return .float (← Number.infinity)
    | 'n' => orString do return .float (← Number.notNumber)
    | _ => orString fail

/-! ## Arrays and tables in braces -/

/-- An array of values. -/
def array (value : Reader Item) : Reader (List Item) := do
  let element : Reader Item := do
    filler
    let item ← value
    filler
    return item
  char '['
  let items ← commit do
    if (← (ahead (char ']')).option).isSome then return []
    else
      let items ← separated element (char ',')
      if !items.isEmpty then
        let _ ← (char ',').option
      filler
      return items
  expecting "`]`" (labelled "array" (commit (char ']')))
  return items

/-- A table in braces. -/
def inlineTable (value : Reader Item) : Reader (Table Item) := do
  let entry : Reader (List Key × Item) := do
    let keys ← Key.assigned
    commit do
      blanks
      let item ← value
      blanks
      return (keys, item)
  let entries : Reader (List (List Key × Item)) := do
    let es ← separated entry (char ',')
    blanks
    return es
  char '{'
  let table ← commit <| checked entries <| List.foldlM
    (fun t e => Table.assign true none t e.1 e.2)
    { Table.empty with form := ⟨true, false, false⟩ }
  expecting "`\x7d`" (labelled "inline table" (commit (char '}')))
  return table

/-- A scalar and its place. -/
def scalarItem (x : Char) : Reader Item := do
  let (s, span) ← spanned (scalarFrom x)
  return .scalar s span

/-- A value of at most so many levels. -/
def item : Nat → Reader Item
  | 0 => do
    let x ← ahead any
    if x == '[' || x == '{' then commit (failFor .tooDeep) else scalarItem x
  | depth + 1 => do
    let x ← ahead any
    if x == '[' then
      let (items, span) ← spanned (array (item depth))
      return .array items span
    else if x == '{' then
      let (t, span) ← spanned (inlineTable (item depth))
      return .table { t with span := some span }
    else scalarItem x

end Value
end Toml
end QueryTemplate
