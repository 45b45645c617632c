/-
# Types

A type is kept as its written form: keywords in upper case, the sizes that were
given, names as they were.  Two sorts matter to the rules for literals: an interval
type starts an interval, and a name that is no built-in type types no literal.

| size | types | written |
| --- | --- | --- |
| one number | `FLOAT`, `INT`, `BLOB`, `TIME`, … | `INT(10)` |
| number and scale | `DECIMAL`, `NUMERIC`, … | `DECIMAL(10,2)` |
| length | `CHAR`, `VARCHAR`, … | `CHAR(3 OCTETS)`, `VARCHAR(MAX)` |

Some types that only `ansi` has, and a few widths of numbers, are written in mixed case:
`Nullable(INT)`, `Float32`.
-/

import QueryTemplate.Sql.Grammar.Literal

namespace QueryTemplate
namespace Sql
namespace Grammar

/-- What a type is to a literal. -/
inductive TypeSort where
  | builtIn
  | interval
  | named
deriving DecidableEq, Repr, Inhabited

/-- A type. -/
structure DataType where
  sql : String
  sort : TypeSort
deriving DecidableEq, Repr, Inhabited

namespace DataType

/-- A built-in type. -/
def builtIn (sql : String) : DataType := ⟨sql, .builtIn⟩

/-- Types that are one keyword. -/
def plainNames : List String := [
  "BOOLEAN", "BOOL", "REAL", "FLOAT4", "FLOAT64", "FLOAT8", "INT64", "TINYBLOB", "MEDIUMBLOB",
  "LONGBLOB", "UUID", "DATE", "JSON", "JSONB", "REGCLASS", "TEXT", "TINYTEXT", "MEDIUMTEXT",
  "LONGTEXT", "BYTEA", "TRIGGER"]

/-- Types that are one keyword, and how each is written. -/
def mixedCaseNames : List (String × String) := [
  ("INT16", "Int16"), ("INT32", "Int32"), ("INT128", "Int128"), ("INT256", "Int256"),
  ("UINT8", "UInt8"), ("UINT16", "UInt16"), ("UINT32", "UInt32"), ("UINT64", "UInt64"),
  ("UINT128", "UInt128"), ("UINT256", "UInt256"), ("FLOAT32", "Float32"), ("DATE32", "Date32")]

/-- Types with a size, which may be `UNSIGNED`. -/
def integerNames : List String := [
  "TINYINT", "INT2", "SMALLINT", "MEDIUMINT", "INT", "INT4", "INT8", "INTEGER", "BIGINT"]

/-- Types with a size. -/
def sizedNames : List String := [
  "FLOAT", "CLOB", "BINARY", "VARBINARY", "BLOB", "BYTES", "DATETIME", "STRING"]

/-- Types with a length. -/
def lengthNames : List String := ["VARCHAR", "NVARCHAR"]

/-- Types with a number and a scale. -/
def exactNames : List String := ["NUMERIC", "DECIMAL", "DEC", "BIGNUMERIC", "BIGDECIMAL"]

end DataType

/-! ## Sizes -/

/-- A number in parentheses, if there is one. -/
def precision? : Rule (Option Nat) := do
  if ← symbol "(" then
    let n ← integer
    expectSymbol ")"
    return some n
  else return none

/-- The written number in parentheses. -/
def precisionSql (n : Option Nat) : String :=
  match n with
  | some n => "(" ++ toString n ++ ")"
  | none => ""

/-- A number and an optional scale in parentheses, if there are any. -/
def precisionScale? : Rule (Option Nat × Option Nat) := do
  if ← symbol "(" then
    let n ← integer
    let scale ← do
      if ← symbol "," then pure (some (← integer)) else pure none
    expectSymbol ")"
    return (some n, scale)
  else return (none, none)

/-- The written number and scale of an exact number. -/
def exactSql : Option Nat × Option Nat → String
  | (some n, some m) => "(" ++ toString n ++ "," ++ toString m ++ ")"
  | (n, _) => precisionSql n

/-- A length in parentheses, if there is one, in its written form. -/
def lengthSql : Rule String := do
  if ← symbol "(" then
    if ← keyword "MAX" then
      expectSymbol ")"
      return "(MAX)"
    else
      let n ← integer
      let unit ← oneOf ["CHARACTERS", "OCTETS"]
      expectSymbol ")"
      return "(" ++ toString n ++ (match unit with
        | some u => " " ++ u
        | none => "") ++ ")"
  else return ""

/-- The time zone of a time type, in its written form. -/
def timeZoneSql : Rule String := do
  match ← oneOf ["WITH", "WITHOUT"] with
  | some k =>
    expectKeywords ["TIME", "ZONE"]
    return " " ++ k ++ " TIME ZONE"
  | none => return ""

/-- Words, numbers and strings in parentheses, if there are any. -/
def modifiers? : Rule (Option (List String)) := do
  if ← symbol "(" then
    let items ← repeated do
      let i ← next
      match i.token with
      | .word .. | .number .. => return some [match i.token with
        | .number ds _ => ds
        | t => t.text]
      | .string .single s => return some [s]
      | .symbol "," => return some []
      | .symbol ")" => return none
      | _ => expectedAt "type modifiers" i
    return some items.flatten
  else return none

/-- Strings in parentheses, in their written form. -/
def stringListSql : Rule String := do
  expectSymbol "("
  let (ss, _) ← iterated (fun ((ss, more) : List String × Bool) => do
    if !more then return none
    else
      let i ← next
      match i.string? with
      | some s =>
        let j ← next
        if j.isSymbol "," || j.isSymbol ")" then
          return some (ss ++ [Quoting.inQuotes '\'' s], j.isSymbol ",")
        else expectedAt ", or \x7d" j
      | none => expectedAt "a string" i) ([], true)
  return "(" ++ String.intercalate ", " ss ++ ")"

/-- A number or a parameter. -/
def numberOrParameter : Rule Literal := do
  let s ← get
  let l ← literal
  match l with
  | .number .. | .parameter _ => return l
  | _ =>
    set s
    expected "literal number"

/-- A number with an optional sign, in its written form. -/
def signedNumberSql : Rule String := do
  let sign ← do
    if ← symbol "+" then pure "+"
    else if ← symbol "-" then pure "-"
    else pure ""
  return sign ++ (← numberOrParameter).sql

/-- The members of an enumeration in parentheses, each with an optional number, in their
written form. -/
def membersSql : Rule String := inParentheses do
  let members ← commaSeparated do
    let s ← literalString
    let number ← do
      if ← symbol "=" then pure (" = " ++ (← signedNumberSql)) else pure ""
    return Quoting.inQuotes '\'' s ++ number
  return "(" ++ String.intercalate ", " members ++ ")"

/-! ## Types -/

/-- A type inside angle brackets, and whether it took the closing bracket of the type
around it, as `>>` does. -/
abbrev Bracketed := DataType × Bool

/-- Closes an angle bracket unless the type inside did. -/
def closeAngle (closed : Bool) : Rule Bool := do
  if closed then return false
  else if ← symbol ">" then return false
  else if ← symbol ">>" then return true
  else expected ">"

/-- A type with an optional label, in its written form, and whether the type took a closing
bracket too many. -/
def fieldSql (inner : Rule Bracketed) : Rule (String × Bool) := do
  let named := ((← peekAt 0).ident?.isSome && (← peekAt 1).ident?.isSome)
  let label ← if named then do pure ((← name).sql ++ " ") else pure ""
  let (t, closed) ← inner
  return (label ++ t.sql, closed)

/-- The fields of a `STRUCT` type after its opening bracket; the keyword stands at `place`. -/
def structFields (inner : Rule Bracketed) (place : Option Text.Position) :
    Nat → Rule (List String × Bool)
  | 0 => return ([], false)
  | fuel + 1 => do
    let (field, closed) ← fieldSql inner
    if ← symbol "," then
      if closed then fail (.fault "unmatched > in STRUCT definition" place)
      else
        let (fields, closed) ← structFields inner place fuel
        return (field :: fields, closed)
    else return ([field], closed)

/-- The bracketed fields of a `STRUCT` type, if there are any, in their written form; the
keyword stands at `place`. -/
def structFieldsSql (inner : Rule Bracketed) (place : Option Text.Position) :
    Rule (String × Bool) := do
  if ← symbol "<" then
    let (fields, closed) ← structFields inner place ((← get).length + 1)
    return ("<" ++ String.intercalate ", " fields ++ ">", ← closeAngle closed)
  else return ("", false)

/-- A type inside parentheses or commas, where no bracket is left to close. -/
def unbracketed (inner : Rule Bracketed) : Rule DataType := do
  let (t, closed) ← inner
  if closed then
    -- the message goes straight on with the next token and names no place
    fail (.fault ("unmatched > after parsing data type " ++ t.sql ++ (← peek).token.text) none)
  else return t

/-- Labels and types with commas in between, in their written form. -/
def labelledTypesSql (inner : Rule Bracketed) : Rule String := do
  let fields ← commaSeparated do
    let label ← name
    return label.sql ++ " " ++ (← unbracketed inner).sql
  return String.intercalate ", " fields

/-- A type that starts with keyword `k` at `place`, which has been read; `inner` reads a type
inside brackets.  `none` means that the word is the name of a type. -/
def typeOfKeyword (inner : Rule Bracketed) (k : String) (place : Option Text.Position) :
    Rule (Option Bracketed) := do
  let d ← dialect
  let done (sql : String) : Rule (Option Bracketed) := return some (.builtIn sql, false)
  if DataType.plainNames.contains k then done k
  else if let some written := DataType.mixedCaseNames.lookup k then done written
  else if DataType.integerNames.contains k then
    let size := precisionSql (← precision?)
    done (k ++ size ++ if ← keyword "UNSIGNED" then " UNSIGNED" else "")
  else if DataType.sizedNames.contains k then done (k ++ precisionSql (← precision?))
  else if DataType.lengthNames.contains k then done (k ++ (← lengthSql))
  else if DataType.exactNames.contains k then done (k ++ exactSql (← precisionScale?))
  else match k with
  | "DOUBLE" => done (if ← keyword "PRECISION" then "DOUBLE PRECISION" else k)
  | "CHARACTER" | "CHAR" =>
    if ← keyword "VARYING" then done (k ++ " VARYING" ++ (← lengthSql))
    else if ← keywords ["LARGE", "OBJECT"] then
      done (k ++ " LARGE OBJECT" ++ precisionSql (← precision?))
    else done (k ++ (← lengthSql))
  | "BIT" =>
    let k := if ← keyword "VARYING" then "BIT VARYING" else k
    done (k ++ precisionSql (← precision?))
  | "TIMESTAMP" | "TIME" =>
    let size := precisionSql (← precision?)
    done (k ++ size ++ (← timeZoneSql))
  | "TIMESTAMPTZ" | "TIMETZ" => done (k ++ precisionSql (← precision?))
  | "DATETIME64" =>
    expectSymbol "("
    let n ← integer
    let zone ← do
      if ← symbol "," then pure (", '" ++ (← literalString) ++ "'") else pure ""
    expectSymbol ")"
    done ("DateTime64(" ++ toString n ++ zone ++ ")")
  | "FIXEDSTRING" =>
    let n ← inParentheses integer
    done ("FixedString(" ++ toString n ++ ")")
  | "INTERVAL" => return some (⟨k, .interval⟩, false)
  | "ENUM" | "ENUM8" | "ENUM16" => done (k ++ (← membersSql))
  | "SET" => done (k ++ (← stringListSql))
  | "ARRAY" =>
    if d == .snowflake then done k
    else
      expectSymbol "<"
      let (t, closed) ← inner
      return some (.builtIn ("ARRAY<" ++ t.sql ++ ">"), ← closeAngle closed)
  | "STRUCT" =>
    if d == .bigquery || d == .ansi then
      let (fields, closed) ← structFieldsSql inner place
      return some (.builtIn ("STRUCT" ++ fields), closed)
    else return none
  | _ =>
    if d != .ansi then return none
    else match k with
    | "NULLABLE" =>
      let t ← inParentheses (unbracketed inner)
      done ("Nullable(" ++ t.sql ++ ")")
    | "LOWCARDINALITY" =>
      let t ← inParentheses (unbracketed inner)
      done ("LowCardinality(" ++ t.sql ++ ")")
    | "MAP" =>
      expectSymbol "("
      let a ← unbracketed inner
      expectSymbol ","
      let b ← unbracketed inner
      expectSymbol ")"
      done ("Map(" ++ a.sql ++ ", " ++ b.sql ++ ")")
    | "TUPLE" =>
      let fields ← inParentheses (commaSeparated (fieldSql inner))
      done ("Tuple(" ++ String.intercalate ", " (fields.map Prod.fst) ++ ")")
    | "UNION" => done ("UNION(" ++ (← inParentheses (labelledTypesSql inner)) ++ ")")
    | "NESTED" => done ("Nested(" ++ (← inParentheses (labelledTypesSql inner)) ++ ")")
    | _ => return none

/-- A named type. -/
def namedType : Rule DataType := do
  let n ← objectName
  match ← modifiers? with
  | some (m :: ms) =>
    return ⟨dotted n ++ "(" ++ String.intercalate ", " (m :: ms) ++ ")", .named⟩
  | _ => return ⟨dotted n, .named⟩

/-- The square brackets of array types, each with an optional size. -/
def arraySuffix : Rule (List String) :=
  repeated do
    if ← symbol "[" then
      let sized := (← dialect) == .ansi || (← dialect) == .postgres
      let size ← if sized then attempt integer else pure none
      expectSymbol "]"
      return some (match size with
        | some n => "[" ++ toString n ++ "]"
        | none => "[]")
    else return none

/-- A type inside brackets.  The fuel bounds how deep types contain one another. -/
def bracketedType : Nat → Rule Bracketed
  | 0 => fail .tooDeep
  | fuel + 1 => do
    let i ← peek
    let (t, closed) ← do
      if i.ident?.isNone then
        modify List.tail
        expectedAt "a data type name" i
      else
        let s ← get
        modify List.tail
        let known ← if i.keyword == "" then pure none
          else typeOfKeyword (bracketedType fuel) i.keyword i.place
        match known with
        | some t => pure t
        | none =>
          set s
          pure (← namedType, false)
    let suffix ← arraySuffix
    if suffix.isEmpty then return (t, closed)
    else return (.builtIn (t.sql ++ String.join suffix), closed)

/-- A type. -/
def dataType : Rule DataType := do unbracketed (bracketedType ((← get).length + 1))

/-- A type as it is written. -/
def typeSql : Rule String := do return (← dataType).sql

end Grammar
end Sql
end QueryTemplate
