/-
# Strings and quoted names

Readers for text between quotes.  Each is given the characters after the opening
quote and returns the decoded content with the number of characters read, closing
quote included; `none` means that the closing quote is missing.

| reader | a quote inside is written | escapes |
| --- | --- | --- |
| `quoted` | twice | backslash, where the dialect has it |
| `tripleQuoted` | as itself, up to two in a row | backslash, where the dialect has it |
| `escaped` | twice or after a backslash | C-like, bytes and code points |
| `codePoints` | twice | `\hhhh` and `\+hhhhhh` |
| `dollarQuoted` | as itself | none |
-/

import QueryTemplate.Text.Basic

namespace QueryTemplate
namespace Sql
namespace Quoted

/-- The decoded content of a string and the number of characters read. -/
abbrev Content := List Char × Nat

/-- One more decoded character, taken from `n` characters of the text. -/
def Content.cons (c : Char) (n : Nat) (r : Content) : Content :=
  (c :: r.1, r.2 + n)

/-- What a backslash and `c` stand for. -/
def unescape (c : Char) : Char :=
  match c with
  | '0' => '\x00'
  | 'a' => '\x07'
  | 'b' => '\x08'
  | 'f' => '\x0c'
  | 'n' => '\n'
  | 'r' => '\r'
  | 't' => '\t'
  | 'Z' => '\x1a'
  | c => c

/-- Reads up to a quote that stands alone. -/
def quoted (quote : Char) (escapes : Bool) : List Char → Option Content
  | [] => none
  | [c] => if c = quote then some ([], 1) else none
  | c :: d :: rest =>
    if c = quote then
      if d = quote then (quoted quote escapes rest).map (Content.cons quote 2)
      else some ([], 1)
    else if c = '\\' ∧ escapes then
      (quoted quote escapes rest).map (Content.cons (unescape d) 2)
    else (quoted quote escapes (d :: rest)).map (Content.cons c 1)

/-- Reads up to three quotes in a row; `run` of them end the content `read`, which is
kept backwards. -/
def tripleQuotedFrom (quote : Char) (escapes : Bool) (read : List Char) (run count : Nat) :
    List Char → Option Content
  | [] => none
  | [c] =>
    if c = quote ∧ run = 2 then some ((read.drop 2).reverse, count + 1) else none
  | c :: d :: rest =>
    if c = quote then
      if run = 2 then some ((read.drop 2).reverse, count + 1)
      else tripleQuotedFrom quote escapes (c :: read) (run + 1) (count + 1) (d :: rest)
    else if c = '\\' ∧ escapes then
      tripleQuotedFrom quote escapes (unescape d :: read) 0 (count + 2) rest
    else tripleQuotedFrom quote escapes (c :: read) 0 (count + 1) (d :: rest)

/-- Reads up to three quotes in a row. -/
def tripleQuoted (quote : Char) (escapes : Bool) : List Char → Option Content :=
  tripleQuotedFrom quote escapes [] 0 0

/-! ## Digits of other bases -/

/-- The value of a hexadecimal digit. -/
def hexDigit? (c : Char) : Option Nat :=
  if c.isDigit then some (c.toNat - 48)
  else if 'a' ≤ c ∧ c ≤ 'f' then some (c.toNat - 87)
  else if 'A' ≤ c ∧ c ≤ 'F' then some (c.toNat - 55)
  else none

/-- A hexadecimal digit. -/
def isHexDigit (c : Char) : Bool := (hexDigit? c).isSome

/-- An octal digit. -/
def isOctalDigit (c : Char) : Bool := '0' ≤ c && c ≤ '7'

/-- The number that digits of a base denote. -/
def ofDigits (base : Nat) (ds : List Char) : Nat :=
  ds.foldl (fun n c => base * n + (hexDigit? c).getD 0) 0

/-- The character with a code point that is a scalar value. -/
def charOf? (n : Nat) : Option Char :=
  if h : n.isValidChar then some (Char.ofNatAux n h) else none

/-- A byte written as digits is an ASCII character; higher bits are dropped. -/
def byteChar? (base : Nat) (ds : List Char) : Option Char :=
  let n := ofDigits base ds % 256
  if n ≤ 127 then charOf? n else none

/-! ## Escaped strings -/

/-- The character for exactly `n` hexadecimal digits, the first of which may be a plus. -/
def codePoint? (n : Nat) (cs : List Char) : Option Char :=
  let ds := cs.take n
  let body := match ds with
    | '+' :: r => r
    | ds => ds
  if ds.length < n || body.isEmpty || !body.all isHexDigit then none
  else charOf? (ofDigits 16 body)

/-- The character after a backslash, and how many characters it takes. -/
def escape? : List Char → Option (Char × Nat)
  | [] => none
  | c :: rest =>
    match c with
    | 'b' => some ('\x08', 1)
    | 'f' => some ('\x0c', 1)
    | 'n' => some ('\n', 1)
    | 'r' => some ('\r', 1)
    | 't' => some ('\t', 1)
    | 'u' => (codePoint? 4 rest).map (·, 5)
    | 'U' => (codePoint? 8 rest).map (·, 9)
    | 'x' =>
      let ds := (rest.take 2).takeWhile isHexDigit
      if ds.isEmpty then some ('x', 1) else (byteChar? 16 ds).map (·, ds.length + 1)
    | c =>
      if isOctalDigit c then
        let ds := c :: (rest.take 2).takeWhile isOctalDigit
        (byteChar? 8 ds).map (·, ds.length)
      else some (c, 1)

/-- Reads an escaped string; a NUL character is no content.  The fuel bounds the
number of characters. -/
def escapedFrom : Nat → List Char → Option Content
  | 0, _ => none
  | _, [] => none
  | fuel + 1, c :: rest =>
    if c = '\'' then
      match rest with
      | '\'' :: rest => (escapedFrom fuel rest).map (Content.cons '\'' 2)
      | _ => some ([], 1)
    else if c = '\\' then
      (escape? rest).bind fun (e, n) =>
        if e = '\x00' then none
        else (escapedFrom fuel (rest.drop n)).map (Content.cons e (n + 1))
    else (escapedFrom fuel rest).map (Content.cons c 1)

/-- Reads an escaped string. -/
def escaped (cs : List Char) : Option Content :=
  escapedFrom (cs.length + 1) cs

/-! ## Strings with code points -/

/-- Why a code point could not be read. -/
inductive CodePointFault where
  | unterminated
  | endInDigits
  | notHex (c : Char)
  | noCharacter (n : Nat)
deriving DecidableEq, Repr

/-- Exactly `n` hexadecimal digits; a fault comes with the number of characters read. -/
def hexDigits (count value : Nat) : Nat → List Char → Except (CodePointFault × Nat) Nat
  | 0, _ => .ok value
  | _ + 1, [] => .error (.endInDigits, count)
  | n + 1, c :: rest =>
    match hexDigit? c with
    | some v => hexDigits (count + 1) (16 * value + v) n rest
    | none => .error (.notHex c, count + 1)

/-- The character for exactly `n` hexadecimal digits. -/
def hexChar (n : Nat) (cs : List Char) : Except (CodePointFault × Nat) Char :=
  match hexDigits 0 0 n cs with
  | .error e => .error e
  | .ok v =>
    match charOf? v with
    | some c => .ok c
    | none => .error (.noCharacter v, n)

/-- A fault after `n` more characters. -/
def after (n : Nat) : Except (CodePointFault × Nat) Content → Except (CodePointFault × Nat) Content
  | .ok r => .ok r
  | .error (e, m) => .error (e, m + n)

/-- Reads a string with code points.  The fuel bounds the number of characters. -/
def codePointsFrom : Nat → List Char → Except (CodePointFault × Nat) Content
  | 0, _ => .error (.unterminated, 0)
  | _, [] => .error (.unterminated, 0)
  | fuel + 1, c :: rest =>
    let goOn (ch : Char) (n : Nat) :=
      after n ((codePointsFrom fuel (rest.drop (n - 1))).map (Content.cons ch n))
    if c = '\'' then
      match rest with
      | '\'' :: _ => goOn '\'' 2
      | _ => .ok ([], 1)
    else if c = '\\' then
      match rest with
      | '\\' :: _ => goOn '\\' 2
      | '+' :: digits =>
        match hexChar 6 digits with
        | .ok ch => goOn ch 8
        | .error (e, m) => .error (e, m + 2)
      | digits =>
        match hexChar 4 digits with
        | .ok ch => goOn ch 5
        | .error (e, m) => .error (e, m + 1)
    else goOn c 1

/-- Reads a string with code points. -/
def codePoints (cs : List Char) : Except (CodePointFault × Nat) Content :=
  codePointsFrom (cs.length + 1) cs

/-! ## Dollar-quoted strings -/

/-- Reads up to `$$`.  A dollar sign is content when the next character is another one;
one at the end of the text is not closed. -/
def dollarQuoted : List Char → Option Content
  | [] => none
  | [_] => none
  | c :: d :: rest =>
    if c = '$' then
      if d = '$' then some ([], 2)
      else (dollarQuoted rest).map fun r => ('$' :: d :: r.1, r.2 + 2)
    else (dollarQuoted (d :: rest)).map (Content.cons c 1)

/-- How far `cs` agrees with `tag`. -/
def agreement : List Char → List Char → Nat
  | t :: tag, c :: cs => if t = c then agreement tag cs + 1 else 0
  | _, _ => 0

/-- Reads up to `$tag$`.  After a dollar sign the tag is compared character by character;
on a difference the characters compared so far are content.  The fuel bounds the number
of characters. -/
def tagQuotedFrom (tag : List Char) : Nat → List Char → Option Content
  | 0, _ => none
  | _, [] => none
  | fuel + 1, c :: rest =>
    if c ≠ '$' then (tagQuotedFrom tag fuel rest).map (Content.cons c 1)
    else
      let n := agreement tag rest
      let keep (m : Nat) : Option Content :=
        (tagQuotedFrom tag fuel (rest.drop m)).map fun r =>
          (c :: rest.take m ++ r.1, r.2 + m + 1)
      if n < tag.length then
        if rest.length ≤ n then none else keep (n + 1)
      else if rest[n]? = some '$' then some ([], n + 2)
      else keep n

/-- Reads up to `$tag$`. -/
def tagQuoted (tag cs : List Char) : Option Content :=
  tagQuotedFrom tag (cs.length + 1) cs

/-! ## Comments -/

/-- Reads a block comment that is `depth` deep, up to the end of the outermost one.  Each
`/*` opens and each `*/` closes, also where the two overlap in one character; `last` is
the character before. -/
def commentFrom (depth : Nat) (last : Char) : List Char → Option Content
  | [] => none
  | c :: rest =>
    if last = '/' ∧ c = '*' then (commentFrom (depth + 1) c rest).map (Content.cons c 1)
    else if last = '*' ∧ c = '/' then
      if depth ≤ 1 then some ([], 1)
      else (commentFrom (depth - 1) c rest).map (Content.cons c 1)
    else (commentFrom depth c rest).map (Content.cons c 1)

/-- Reads a block comment; its content is what stands between the outermost marks. -/
def blockComment (cs : List Char) : Option Content :=
  (commentFrom 1 ' ' cs).map fun r => (r.1.dropLast, r.2)

end Quoted
end Sql
end QueryTemplate
