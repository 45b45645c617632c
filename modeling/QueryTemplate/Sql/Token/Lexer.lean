/-
# From text to tokens

A lexeme starts at the first character that is left, and `lexeme` says which token
it is and how many further characters belong to it.  So lexemes are never empty,
they follow one another without gaps, and `scan` ends after at most one step per
character.

Symbols are read greedily: the longest one that the text starts with.  In a dialect
with operators of the user's own, operator characters that follow one of the
`extensible` symbols make a new operator.
-/

import QueryTemplate.Sql.Dialect
import QueryTemplate.Sql.Token
import QueryTemplate.Sql.Token.Quoted
import QueryTemplate.Text.Basic

namespace QueryTemplate
namespace Sql

/-- Why a text has no tokens. -/
inductive LexCause where
  | unterminatedString
  | unterminatedEscaped
  | codePoint (fault : Quoted.CodePointFault)
  | unclosedName (close : Char)
  | unterminatedDollar
  | unterminatedTag
  | unclosedComment
deriving DecidableEq, Repr

namespace LexCause

/-- The wording of a cause. -/
def message : LexCause → String
  | .unterminatedString => "Unterminated string literal"
  | .unterminatedEscaped => "Unterminated encoded string literal"
  | .codePoint .unterminated => "Unterminated unicode encoded string literal"
  | .codePoint .endInDigits => "Unexpected EOF while parsing hex digit in escaped unicode string."
  | .codePoint (.notHex c) => "Invalid hex digit in escaped unicode string: " ++ c.toString
  | .codePoint (.noCharacter n) =>
    "Invalid unicode character: " ++ String.ofList (Nat.toDigits 16 n)
  | .unclosedName close => "Expected close delimiter '" ++ close.toString ++ "' before EOF."
  | .unterminatedDollar => "Unterminated dollar-quoted string"
  | .unterminatedTag => "Unterminated dollar-quoted, expected $"
  | .unclosedComment => "Unexpected EOF while in a multi-line comment"

end LexCause

/-- A cause and where it was noticed. -/
structure LexError where
  cause : LexCause
  place : Text.Position
deriving DecidableEq, Repr

namespace Lexer

/-- A token and how many characters it takes after its first one, or a cause and how
many characters were read when it was noticed. -/
abbrev Result := Except (LexCause × Nat) (Token × Nat)

/-! ## Strings -/

/-- The string of a kind whose content starts `skip` characters after the first one; a
missing quote is noticed `place` characters after the start of the lexeme. -/
def stringToken (kind : StringKind) (skip place : Nat) (content : Option Quoted.Content) : Result :=
  match content with
  | some (cs, n) => .ok (.string kind (String.ofList cs), skip + n)
  | none => .error (.unterminatedString, place)

/-- A string whose opening quote is `before` characters after the start of the lexeme;
`rest` is what follows the quote.  With `triples`, three quotes open a string that single
quotes do not close, and two quotes are an empty string. -/
def stringAt (quote : Char) (escapes triples : Bool) (one three : StringKind) (before : Nat)
    (rest : List Char) : Result :=
  if !triples then stringToken one before before (Quoted.quoted quote escapes rest)
  else
    match rest with
    | q :: q' :: rest' =>
      if q = quote then
        if q' = quote then
          stringToken three (before + 2) (before + 3) (Quoted.tripleQuoted quote escapes rest')
        else .ok (.string one "", before + 1)
      else stringToken one before (before + 1) (Quoted.quoted quote escapes rest)
    | [q] =>
      if q = quote then .ok (.string one "", before + 1)
      else stringToken one before (before + 1) (Quoted.quoted quote escapes rest)
    | [] => .error (.unterminatedString, before + 1)

/-- A string with a one-letter mark; `rest` is what follows the mark. -/
def markedString? (d : Dialect) (mark : Char) (rest : List Char) : Option Result :=
  match mark.toLower, rest with
  | 'b', '\'' :: rest =>
    if d.byteStrings then
      some (stringAt '\'' false d.tripleQuotes .byteSingle .byteTripleSingle 1 rest)
    else none
  | 'b', '"' :: rest =>
    if d.byteStrings then
      some (stringAt '"' false d.tripleQuotes .byteDouble .byteTripleDouble 1 rest)
    else none
  | 'r', '\'' :: rest =>
    if d.rawStrings then some (stringAt '\'' false true .rawSingle .rawTripleSingle 1 rest)
    else none
  | 'r', '"' :: rest =>
    if d.rawStrings then some (stringAt '"' false true .rawDouble .rawTripleDouble 1 rest)
    else none
  | 'n', '\'' :: rest =>
    some (stringAt '\'' true false .national .national 1 rest)
  | 'e', '\'' :: rest =>
    some (match Quoted.escaped rest with
      | some (cs, n) => .ok (.string .escaped (String.ofList cs), n + 1)
      | none => .error (.unterminatedEscaped, 0))
  | 'u', '&' :: '\'' :: rest =>
    if d.unicodeStrings then
      some (match Quoted.codePoints rest with
        | .ok (cs, n) => .ok (.string .codePoints (String.ofList cs), n + 2)
        | .error (e, n) => .error (.codePoint e, n + 3))
    else none
  | 'x', '\'' :: rest =>
    some (stringAt '\'' true false .hex .hex 1 rest)
  | _, _ => none

/-- A text after `$`: a string between marks, or a parameter. -/
def dollar (rest : List Char) : Result :=
  match rest with
  | '$' :: body =>
    match Quoted.dollarQuoted body with
    | some (cs, n) => .ok (.dollarString none (String.ofList cs), n + 1)
    | none => .error (.unterminatedDollar, rest.length + 1)
  | _ =>
    let tag := rest.takeWhile fun c => Text.isAlphabetic c || Text.isNumeric c || c == '_'
    match rest.drop tag.length with
    | '$' :: body =>
      match Quoted.tagQuoted tag body with
      | some (cs, n) =>
        .ok (.dollarString (some (String.ofList tag)) (String.ofList cs), tag.length + n + 1)
      | none => .error (.unterminatedTag, rest.length + 1)
    | _ => .ok (.parameter (String.ofList ('$' :: tag)), tag.length)

/-! ## Numbers -/

/-- The exponent that `cs` starts with: its letter, sign and digits. -/
def exponentOf (cs : List Char) : List Char :=
  match cs with
  | e :: rest =>
    if e == 'e' || e == 'E' then
      let (sign, ds) := match rest with
        | '+' :: ds => (['+'], ds)
        | '-' :: ds => (['-'], ds)
        | ds => ([], ds)
      let ds := ds.takeWhile Char.isDigit
      if ds.isEmpty then [] else e :: sign ++ ds
    else []
  | [] => []

/-- A number, a period, or hexadecimal digits after `0x`. -/
def number (cs : List Char) : Token × Nat :=
  let whole := cs.takeWhile Char.isDigit
  let tail := cs.drop whole.length
  match whole, tail with
  | ['0'], 'x' :: rest =>
    let ds := rest.takeWhile Quoted.isHexDigit
    (.string .hex (String.ofList ds), ds.length + 1)
  | _, _ =>
    let point := match tail with
      | '.' :: _ => ['.']
      | _ => []
    let fraction := (tail.drop point.length).takeWhile Char.isDigit
    let plain := whole ++ point ++ fraction
    if plain == ['.'] then (.symbol ".", 0)
    else
      let digits := plain ++ exponentOf (cs.drop plain.length)
      let long := (cs.drop digits.length).head? == some 'L'
      (.number (String.ofList digits) long, digits.length - 1 + if long then 1 else 0)

/-! ## Words and symbols -/

/-- A word that starts with `start`; its further characters come from `rest`. -/
def word (d : Dialect) (start rest : List Char) : Token × Nat :=
  let more := rest.takeWhile d.continuesWord
  (.word (String.ofList (start ++ more)) none, start.length - 1 + more.length)

/-- The symbols, longer ones before those that they start with. -/
def symbols : List String := [
  "!~~*", "!~~", "!~*", "!~", "!=", "!!", "!", "#>>", "#>", "#-", "#", "%", "&&", "&",
  "(", ")", "*", "+", ",", "->>", "->", "-", "//", "/", "::", ":=", ":", ";",
  "<=>", "<=", "<>", "<<", "<@", "<", "=>", "==", "=", ">=", ">>", ">", "?|", "?&",
  "@>", "@?", "@@", "@", "[", "\\", "]", "^@", "^", "\x7b", "||/", "||", "|/", "|", "\x7d",
  "~~*", "~~", "~*", "~"]

/-- The symbols that operator characters extend to an operator of the user's own. -/
def extensible : List String := [
  "#>>", "#>", "#-", "#", "%", "&&", "&", "->>", "->", "-", "<=>", "<=", "<>", "<<", "<@", "<",
  ">=", ">>", ">", "||/", "||", "|/", "|", "~~*", "~~", "~*", "~"]

/-- Whether a symbol belongs to the dialect. -/
def hasSymbol (d : Dialect) (s : String) : Bool :=
  if s == "//" then d.integerDivision
  else if s == "?|" || s == "?&" then d.questionOperators
  else true

/-- The longest symbol that a text starts with. -/
def longestSymbol? (d : Dialect) (cs : List Char) : Option String :=
  symbols.find? fun s => hasSymbol d s && s.toList.isPrefixOf cs

/-- The token of a symbol; the two spellings of "not equal" are one token. -/
def symbolToken (s : String) : Token := .symbol (if s == "!=" then "<>" else s)

/-- A symbol, extended by the operator characters that follow. -/
def symbol (d : Dialect) (s : String) (cs : List Char) : Token × Nat :=
  let n := s.toList.length
  let more := (cs.drop n).takeWhile d.extendsOperator
  if more.isEmpty || !extensible.contains s then (symbolToken s, n - 1)
  else (.symbol (s ++ String.ofList more), n - 1 + more.length)

/-- In a dialect where `#` and `@` are letters, a word that starts with one takes the next
character whatever it is, unless the two make another token. -/
def signWord? (d : Dialect) (cs : List Char) : Option (Token × Nat) :=
  match cs with
  | '#' :: c :: rest =>
    if d.startsWord '#' && !(['-', '>', ' '].contains c) then
      some (word d ['#', c] rest)
    else none
  | '@' :: '@' :: c :: rest =>
    if d.startsWord '@' && c != ' ' then some (word d ['@', '@', c] rest) else none
  | '@' :: c :: rest =>
    if d.startsWord '@' && !(['>', '?', '@', ' '].contains c) then
      some (word d ['@', c] rest)
    else none
  | _ => none

/-- A line comment after its mark, which has `skip` characters after the first one.  A
carriage return does not end it: only a newline does, and belongs to it. -/
def lineComment (mark : String) (skip : Nat) (rest : List Char) : Token × Nat :=
  let body := rest.takeWhile (· != '\n')
  let stop := (rest.drop body.length).take 1
  (.lineComment mark (String.ofList (body ++ stop)), skip + body.length + stop.length)

/-! ## Lexemes -/

/-- A comment, if the text starts with one. -/
def comment? (d : Dialect) (cs : List Char) : Option Result :=
  match cs with
  | '-' :: '-' :: rest => some (.ok (lineComment "--" 1 rest))
  | '/' :: '/' :: rest => if d.slashComments then some (.ok (lineComment "//" 1 rest)) else none
  | '#' :: rest => if d.hashComments then some (.ok (lineComment "#" 0 rest)) else none
  | '/' :: '*' :: rest =>
    some (match Quoted.blockComment rest with
      | some (text, n) => .ok (.blockComment (String.ofList text), n + 1)
      | none => .error (.unclosedComment, cs.length))
  | _ => none

/-- The lexeme that starts with `c`, before `rest`. -/
def lexeme (d : Dialect) (c : Char) (rest : List Char) : Result :=
  match c with
  | ' ' => .ok (.space, 0)
  | '\t' => .ok (.tab, 0)
  | '\n' => .ok (.newline, 0)
  | '\r' => .ok (.newline, if rest.head? == some '\n' then 1 else 0)
  | _ =>
    if let some r := markedString? d c rest then r
    else if c == '\'' then
      stringAt '\'' d.backslashEscapes d.tripleQuotes .single .tripleSingle 0 rest
    else if c == '"' && d.doubleQuotedStrings then
      stringAt '"' d.backslashEscapes d.tripleQuotes .double .tripleDouble 0 rest
    else if d.opensName c then
      match Quoted.quoted c false rest with
      | some (cs, n) => .ok (.word (String.ofList cs) (some c), n)
      | none => .error (.unclosedName c, 0)
    else if c.isDigit || c == '.' then .ok (number (c :: rest))
    else if let some r := comment? d (c :: rest) then r
    else if let some r := signWord? d (c :: rest) then .ok r
    else if let some s := longestSymbol? d (c :: rest) then .ok (symbol d s (c :: rest))
    else if c == '?' then
      if d.questionOperators then .ok (.symbol "?", min 1 rest.length)
      else
        let ds := rest.takeWhile Text.isNumeric
        .ok (.parameter (String.ofList ('?' :: ds)), ds.length)
    else if d.startsWord c then .ok (word d [c] rest)
    else if c == '$' then dollar rest
    else if Text.isBlank c then .ok (.space, 0)
    else .ok (.stray c, 0)

/-- The lexemes of a text that starts at `p`. -/
def scan (d : Dialect) (p : Text.Position) : List Char → Except LexError (List Lexeme)
  | [] => .ok []
  | c :: rest =>
    match lexeme d c rest with
    | .error (cause, n) => .error ⟨cause, p.after ((c :: rest).take n)⟩
    | .ok (token, n) =>
      let stop := p.after (c :: rest.take n)
      (scan d stop (rest.drop n)).map (⟨token, p, stop⟩ :: ·)
  termination_by cs => cs.length
  decreasing_by simp only [List.length_drop, List.length_cons]; omega

end Lexer

/-- The lexemes of a text, or the first fault. -/
def lexemes (d : Dialect) (sql : String) : Except LexError (List Lexeme) :=
  Lexer.scan d .start sql.toList

end Sql
end QueryTemplate
