/-
# Tokens

The smallest pieces of SQL text: words, numbers, strings, symbols, blanks and
comments.  `Token.text` writes a token the way messages show it: strings with
their quotes and the decoded content, `!=` as `<>`.
-/

import QueryTemplate.Text.Basic

namespace QueryTemplate
namespace Sql

/-- How a string was marked and quoted. -/
inductive StringKind where
  | single
  | double
  | tripleSingle
  | tripleDouble
  | national
  | escaped
  | codePoints
  | hex
  | byteSingle
  | byteDouble
  | byteTripleSingle
  | byteTripleDouble
  | rawSingle
  | rawDouble
  | rawTripleSingle
  | rawTripleDouble
deriving DecidableEq, Repr

namespace StringKind

/-- The mark in front of the opening quote. -/
def mark : StringKind → String
  | .single | .double | .tripleSingle | .tripleDouble => ""
  | .national => "N"
  | .escaped => "E"
  | .codePoints => "U&"
  | .hex => "X"
  | .byteSingle | .byteDouble | .byteTripleSingle | .byteTripleDouble => "B"
  | .rawSingle | .rawDouble | .rawTripleSingle | .rawTripleDouble => "R"

/-- The quote on either side. -/
def quote : StringKind → String
  | .double | .byteDouble | .rawDouble => "\""
  | .tripleSingle | .byteTripleSingle | .rawTripleSingle => "'''"
  | .tripleDouble | .byteTripleDouble | .rawTripleDouble => "\"\"\""
  | _ => "'"

end StringKind

/-- A piece of SQL text. -/
inductive Token where
  /-- A word, with its quote if it has one. -/
  | word (text : String) (quote : Option Char)
  /-- Digits as written, and whether the letter `L` follows them. -/
  | number (digits : String) (long : Bool)
  | string (kind : StringKind) (text : String)
  /-- A string between `$tag$` marks. -/
  | dollarString (tag : Option String) (text : String)
  /-- A parameter such as `?` or `$1`. -/
  | parameter (text : String)
  | symbol (text : String)
  /-- A character that starts no other token. -/
  | stray (c : Char)
  | space
  | tab
  | newline
  | lineComment (mark text : String)
  | blockComment (text : String)
deriving DecidableEq, Repr, Inhabited

namespace Token

/-- A comment of either form. -/
def isComment : Token → Bool
  | .lineComment .. | .blockComment _ => true
  | _ => false

/-- A blank or a comment: it separates tokens and means nothing. -/
def isBlank : Token → Bool
  | .space | .tab | .newline => true
  | t => t.isComment

/-- The token as messages show it. -/
def text : Token → String
  | .word s none => s
  | .word s (some q) => q.toString ++ s ++ q.toString
  | .number ds long => if long then ds ++ "L" else ds
  | .string kind s => kind.mark ++ kind.quote ++ s ++ kind.quote
  | .dollarString none s => "$$" ++ s ++ "$$"
  | .dollarString (some tag) s => "$" ++ tag ++ "$" ++ s ++ "$" ++ tag ++ "$"
  | .parameter s => s
  | .symbol s => s
  | .stray c => c.toString
  | .space => " "
  | .tab => "\t"
  | .newline => "\n"
  | .lineComment mark s => mark ++ s
  | .blockComment s => "/*" ++ s ++ "*/"

end Token

/-- A token and the stretch of text that it covers. -/
structure Lexeme where
  token : Token
  start : Text.Position
  stop : Text.Position
deriving DecidableEq, Repr, Inhabited

end Sql
end QueryTemplate
