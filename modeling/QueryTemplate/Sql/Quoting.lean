/-
# Quotes around text

What is written between quotes for a given content.

| rule | a quote inside | other characters |
| --- | --- | --- |
| `doubled` | twice; once after a backslash; a pair stays a pair | as they are |
| `escaped` | after a backslash | backslash, line feed, tab, return after a backslash |
| `codePoints` | twice | backslash twice, non-ASCII as `\HHHH` or `\+HHHHHH` |

`doubled` is not injective: content that already holds a pair of quotes is written
like content that holds one.
-/

namespace QueryTemplate
namespace Sql
namespace Quoting

/-- Doubles each quote, except after a backslash and except in pairs; `last` is the
character before. -/
def doubledFrom (quote last : Char) : List Char → List Char
  | [] => []
  | [c] => if c = quote ∧ last ≠ '\\' then [c, c] else [c]
  | c :: d :: rest =>
    if c = quote then
      if last = '\\' then c :: doubledFrom quote last (d :: rest)
      else if d = quote then c :: c :: doubledFrom quote c rest
      else c :: c :: doubledFrom quote c (d :: rest)
    else c :: doubledFrom quote c (d :: rest)

/-- The content between quotes that are doubled inside. -/
def doubled (quote : Char) (s : String) : String :=
  String.ofList (doubledFrom quote '\x00' s.toList)

/-- A text in quotes that are doubled inside. -/
def inQuotes (quote : Char) (s : String) : String :=
  quote.toString ++ doubled quote s ++ quote.toString

/-- How an escaped string writes a character. -/
def escapedChar (c : Char) : List Char :=
  match c with
  | '\'' => ['\\', '\'']
  | '\\' => ['\\', '\\']
  | '\n' => ['\\', 'n']
  | '\t' => ['\\', 't']
  | '\r' => ['\\', 'r']
  | c => [c]

/-- The content of an escaped string. -/
def escaped (s : String) : String :=
  String.ofList (s.toList.flatMap escapedChar)

/-- At least `width` upper-case hexadecimal digits. -/
def hexDigits (width n : Nat) : List Char :=
  let ds := (Nat.toDigits 16 n).map Char.toUpper
  List.replicate (width - ds.length) '0' ++ ds

/-- How a string with code points writes a character. -/
def codePointChar (c : Char) : List Char :=
  match c with
  | '\'' => ['\'', '\'']
  | '\\' => ['\\', '\\']
  | c =>
    if c.toNat < 128 then [c]
    else if c.toNat ≤ 0xFFFF then '\\' :: hexDigits 4 c.toNat
    else '\\' :: '+' :: hexDigits 6 c.toNat

/-- The content of a string with code points. -/
def codePoints (s : String) : String :=
  String.ofList (s.toList.flatMap codePointChar)

end Quoting
end Sql
end QueryTemplate
