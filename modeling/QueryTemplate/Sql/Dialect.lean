/-
# The four dialects of SQL

| dialect | quoted names | `#` | backslash in strings | comments to the end of the line |
| --- | --- | --- | --- | --- |
| `ansi` | `"a"`, backticks | letter | kept | `--` |
| `postgres` | `"a"` | operator | kept | `--` |
| `bigquery` | backticks | comment | escape | `--`, `#` |
| `snowflake` | `"a"`, backticks | comment | escape | `--`, `#`, `//` |

`ansi` is permissive: where the others disagree it takes the union.
-/

import QueryTemplate.Text.Basic

namespace QueryTemplate
namespace Sql

/-- A dialect of SQL. -/
inductive Dialect where
  | ansi
  | postgres
  | bigquery
  | snowflake
deriving DecidableEq, Repr, Inhabited

namespace Dialect

/-! ## Characters -/

/-- Opens a quoted name; the same character closes it. -/
def opensName (d : Dialect) (c : Char) : Bool :=
  match d with
  | .ansi | .snowflake => c == '"' || c == '\u0060'
  | .postgres => c == '"'
  | .bigquery => c == '\u0060'

/-- First character of an unquoted word. -/
def startsWord (d : Dialect) (c : Char) : Bool :=
  match d with
  | .ansi => Text.isAlphabetic c || c == '_' || c == '#' || c == '@'
  | .postgres => Text.isAlphabetic c || c == '_'
  | .bigquery | .snowflake => c.isAlpha || c == '_'

/-- Further character of an unquoted word. -/
def continuesWord (d : Dialect) (c : Char) : Bool :=
  match d with
  | .ansi => Text.isAlphabetic c || c.isDigit || c == '@' || c == '$' || c == '#' || c == '_'
  | .postgres => Text.isAlphabetic c || c.isDigit || c == '$' || c == '_'
  | .bigquery => c.isAlpha || c.isDigit || c == '_'
  | .snowflake => c.isAlpha || c.isDigit || c == '$' || c == '_'

/-- Extends certain operators to one of the user's own. -/
def extendsOperator (d : Dialect) (c : Char) : Bool :=
  d == .postgres && "+-*/<>=~!@#%^&|\u0060?".toList.contains c

/-- Whether `#` starts a comment. -/
def hashComments (d : Dialect) : Bool := d == .bigquery || d == .snowflake

/-- Whether `//` starts a comment. -/
def slashComments (d : Dialect) : Bool := d == .snowflake

/-- Whether `//` is the operator of integer division. -/
def integerDivision (d : Dialect) : Bool := d == .ansi

/-- Whether `?` is an operator rather than a parameter. -/
def questionOperators (d : Dialect) : Bool := d == .postgres

/-! ## Strings -/

/-- Whether a backslash escapes the next character of a string. -/
def backslashEscapes (d : Dialect) : Bool := d == .bigquery || d == .snowflake

/-- Whether three quotes open a string. -/
def tripleQuotes (d : Dialect) : Bool := d == .bigquery

/-- Whether a double quote opens a string. -/
def doubleQuotedStrings (d : Dialect) : Bool := d == .bigquery

/-- Whether `b'…'` is a string of bytes. -/
def byteStrings (d : Dialect) : Bool := d != .snowflake

/-- Whether `r'…'` is a string without escapes. -/
def rawStrings (d : Dialect) : Bool := d == .bigquery || d == .ansi

/-- Whether `u&'…'` is a string with code points. -/
def unicodeStrings (d : Dialect) : Bool := d == .postgres || d == .ansi

end Dialect
end Sql
end QueryTemplate
