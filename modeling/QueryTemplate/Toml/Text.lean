/-
# Strings

| string | in | escapes | line ends |
| --- | --- | --- | --- |
| basic | `"` | yes | no |
| literal | `'` | no | no |
| multi-line basic | three `"` | yes | yes, and a backslash takes away those behind it |
| multi-line literal | three `'` | no | yes |

A line end right behind the opening of a multi-line string is not part of it.  One or
two quotes may stand inside, and right before the closing.  Every line end that is part
of a string is one line feed.
-/

import QueryTemplate.Toml.Reader

namespace QueryTemplate
namespace Toml
namespace Text

open Reader

/-- A character that stands for itself in a basic string. -/
def isBasicChar (x : Char) : Bool := isCommentChar x && x != '"' && x != '\\'

/-- A character of a literal string. -/
def isLiteralChar (x : Char) : Bool := isCommentChar x && x != '\''

/-! ## Escapes -/

/-- Whether a character is a hexadecimal digit. -/
def isHexDigit (x : Char) : Bool :=
  x.isDigit || ('a' ≤ x && x ≤ 'f') || ('A' ≤ x && x ≤ 'F')

/-- The value of a hexadecimal digit. -/
def hexValue (x : Char) : Nat :=
  if x.isDigit then x.toNat - 48
  else if x.isLower then x.toNat - 87
  else x.toNat - 55

/-- The number that hexadecimal digits denote. -/
def ofHexDigits (xs : List Char) : Nat := xs.foldl (fun n x => 16 * n + hexValue x) 0

/-- At most `n` hexadecimal digits. -/
def hexDigits : Nat → Reader (List Char)
  | 0 => pure []
  | n + 1 => do
    match ← (one isHexDigit).option with
    | none => return []
    | some x => return x :: (← hexDigits n)

/-- The character with a number of `n` hexadecimal digits. -/
def codePoint (n : Nat) : Reader Char := fun c =>
  match hexDigits n c with
  | .error e => .error e
  | .ok (xs, c') =>
    if xs.length < n then fail c
    else
      let value := ofHexDigits xs
      if h : value.isValidChar then .ok (Char.ofNatAux value h, c') else failFor .outOfRange c

/-- The characters that may follow a backslash, in the order in which they are named. -/
def escapeNames : List String :=
  ["`b`", "`f`", "`n`", "`r`", "`t`", "`u`", "`U`", "`\\`", "`\"`"]

/-- An unknown escape; a character of one byte is taken before the fault is noticed. -/
def unknownEscape (x : Char) (c : Cursor) : Reader Char := fun c' =>
  let place := if x.utf8Size = 1 then c' else c
  .error ⟨place.offset, some "escape sequence", escapeNames, none, true⟩

/-- What follows a backslash. -/
def escaped : Reader Char := fun c =>
  match any c with
  | .error e => .error e
  | .ok (x, c') =>
    match x with
    | 'b' => .ok ('\x08', c')
    | 'f' => .ok ('\x0c', c')
    | 'n' => .ok ('\n', c')
    | 'r' => .ok ('\r', c')
    | 't' => .ok ('\t', c')
    | '\\' => .ok ('\\', c')
    | '"' => .ok ('"', c')
    | 'u' => labelled "unicode 4-digit hex code" (commit (codePoint 4)) c'
    | 'U' => labelled "unicode 8-digit hex code" (commit (codePoint 8)) c'
    | x => unknownEscape x c c'

/-- An escaped character. -/
def escape : Reader (List Char) := do
  char '\\'
  return [← escaped]

/-! ## Strings on one line -/

/-- At least one character that stands for itself. -/
def plainChars : Reader (List Char) := do
  let x ← one isBasicChar
  return x :: (← takeWhile isBasicChar)

/-- A basic string. -/
def basic : Reader String := do
  char '"'
  let pieces ← many (either plainChars escape)
  labelled "basic string" (commit (char '"'))
  return String.ofList pieces.flatten

/-- A literal string. -/
def literalString : Reader String :=
  labelled "literal string" do
    char '\''
    let xs ← takeWhile isLiteralChar
    commit (char '\'')
    return String.ofList xs

/-! ## Strings on several lines -/

/-- A line end, as a line feed. -/
def lineFeed : Reader (List Char) := do
  newline
  return ['\n']

/-- A backslash that takes away the line ends and blanks behind it. -/
def joined : Reader (List Char) := do
  char '\\'
  blanks
  newline
  let _ ← many (either newline (do let _ ← one fun x => x == ' ' || x == '\t'))
  return []

/-- A piece of a multi-line basic string. -/
def basicPiece : Reader (List Char) :=
  either plainChars (either joined (either escape lineFeed))

/-- A piece of a multi-line literal string. -/
def literalPiece : Reader (List Char) :=
  either (do return [← one isLiteralChar]) lineFeed

/-- Two quotes or one, in front of something else. -/
def fewQuotes (quote : Char) (next : Reader Unit) : Reader (List Char) :=
  either
    (do
      literal [quote, quote]
      next.ahead
      return [quote, quote])
    (do
      literal [quote]
      next.ahead
      return [quote])

/-- What stands between three quotes and three quotes: pieces, and after one or two quotes
further pieces, which `more` takes together with the quotes. -/
def body (quote : Char) (piece more : Reader (List Char)) : Reader (List Char) := do
  let first ← many piece
  let others ← many more
  let last ← (fewQuotes quote (literal [quote, quote, quote])).option
  return first.flatten ++ others.flatten ++ last.getD []

/-- Quotes in front of another character, and the pieces behind them. -/
def basicMore : Reader (List Char) := do
  let other : Reader Unit := do
    let _ ← one (· != '"')
  let quotes ← fewQuotes '"' other
  return quotes ++ (← many basicPiece).flatten

/-- Quotes in front of a piece, and the pieces behind them. -/
def literalMore : Reader (List Char) := do
  let other : Reader Unit := do
    let _ ← literalPiece
  let quotes ← fewQuotes '\'' other
  return quotes ++ (← many literalPiece).flatten

/-- A string on several lines. -/
def multiline (label : String) (quote : Char) (piece more : Reader (List Char)) :
    Reader String :=
  labelled label do
    literal [quote, quote, quote]
    let _ ← newline.option
    let xs ← commit (body quote piece more)
    commit (literal [quote, quote, quote])
    return String.ofList xs

/-- A string of any form. -/
def string : Reader String :=
  either (multiline "multiline basic string" '"' basicPiece basicMore) <|
    either basic <|
      either (multiline "multiline literal string" '\'' literalPiece literalMore) literalString

end Text
end Toml
end QueryTemplate
