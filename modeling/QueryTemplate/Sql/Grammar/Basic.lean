/-
# Rules of the grammar

A rule reads some of the tokens that are left, blanks and comments put aside, and
gives a value, or it fails with a `SyntaxError`.  Rules look ahead freely and may be
attempted: an attempt that fails reads nothing.

Expressions and queries contain one another.  A rule reaches them through `Nested`,
which holds the two rules *one level further in*; so each rule is an ordinary
function of what lies inside it, and nesting is bounded by building finitely many
levels.  Being too deep is the one failure that an attempt passes on.
-/

import QueryTemplate.Sql.Error
import QueryTemplate.Sql.Keyword
import QueryTemplate.Sql.Query

namespace QueryTemplate
namespace Sql
namespace Grammar

/-! ## Tokens that are left -/

/-- A token as rules see it. -/
structure Item where
  token : Token
  /-- The upper case of a word without quotes, else empty. -/
  keyword : String
  place : Option Text.Position
  /-- The first of the blanks and comments between the token before and this one. -/
  blank : Option Lexeme
deriving Inhabited

namespace Item

/-- What is found at the end of the text. -/
def ending : Item := ⟨.symbol "EOF", "", none, none⟩

/-- A lexeme as rules see it. -/
def ofLexeme (blank : Option Lexeme) (l : Lexeme) : Item :=
  let keyword := match l.token with
    | .word s none => Text.upper s
    | _ => ""
  ⟨l.token, keyword, some l.start, blank⟩

/-- The lexemes that are neither blank nor comment; `blank` is the first of the blanks that
were skipped just before. -/
def ofLexemes (blank : Option Lexeme) : List Lexeme → List Item
  | [] => []
  | l :: rest =>
    if l.token.isBlank then ofLexemes (blank.or (some l)) rest
    else ofLexeme blank l :: ofLexemes none rest

/-- A symbol. -/
def isSymbol (i : Item) (s : String) : Bool := i.token == .symbol s && i.place.isSome

/-- The name that a word is. -/
def ident? (i : Item) : Option Ident :=
  match i.token with
  | .word s q => some ⟨s, q⟩
  | _ => none

/-- A word that is no keyword, or that is quoted. -/
def isFreeWord (i : Item) : Bool :=
  match i.token with
  | .word _ (some _) => true
  | .word _ none => !Keyword.keywords.contains i.keyword
  | _ => false

/-- A string in single quotes without a mark. -/
def string? (i : Item) : Option String :=
  match i.token with
  | .string .single s => some s
  | _ => none

end Item

/-! ## Rules -/

/-- What a rule gives: a value and the tokens it leaves, or a failure. -/
abbrev Outcome (α : Type) := Except SyntaxError (α × List Item)

/-- The dialect, and the rules one level further in. -/
structure Nested where
  dialect : Dialect
  /-- Whether `PRIOR` is an operator, as it is where rows are related to one another. -/
  relating : Bool
  /-- An expression whose operators bind tighter than a precedence. -/
  expr : Nat → List Item → Outcome Expr
  query : List Item → Outcome Query
  /-- An expression that relates rows to one another. -/
  relationship : List Item → Outcome Expr

/-- A rule of the grammar. -/
abbrev Rule := ReaderT Nested (StateT (List Item) (Except SyntaxError))

/-- The dialect of the text. -/
def dialect : Rule Dialect := do return (← read).dialect

/-- An expression whose operators bind tighter than `precedence`. -/
def exprAbove (precedence : Nat) : Rule Expr := fun env s => env.expr precedence s

/-- An expression. -/
def expr : Rule Expr := exprAbove 0

/-- A query. -/
def query : Rule Query := fun env s => env.query s

/-- An expression that relates rows to one another. -/
def relationship : Rule Expr := fun env s => env.relationship s

/-- Whether rows are being related to one another. -/
def relating : Rule Bool := do return (← read).relating

/-- Fails. -/
def fail {α : Type} (e : SyntaxError) : Rule α := fun _ _ => .error e

/-- A rule that reads nothing when it fails. -/
def attempt {α : Type} (r : Rule α) : Rule (Option α) := fun env s =>
  match r env s with
  | .ok (a, s') => .ok (some a, s')
  | .error .tooDeep => .error .tooDeep
  | .error _ => .ok (none, s)

/-- A rule whose failure, however deep, is a value; it then reads nothing. -/
def outcome {α : Type} (r : Rule α) : Rule (Except SyntaxError α) := fun env s =>
  match r env s with
  | .ok (a, s') => .ok (.ok a, s')
  | .error e => .ok (.error e, s)

/-! ## Looking ahead and reading on -/

/-- The token that is `n` tokens ahead. -/
def peekAt (n : Nat) : Rule Item := do return (← get).getD n .ending

/-- The next token. -/
def peek : Rule Item := peekAt 0

/-- Reads one token. -/
def next : Rule Item := do
  let i ← peek
  modify List.tail
  return i

/-- Fails because of the token that was found. -/
def expectedAt {α : Type} (what : String) (found : Item) : Rule α :=
  fail (.expected what found.token.text found.place)

/-- Fails because of the next token. -/
def expected {α : Type} (what : String) : Rule α := do expectedAt what (← peek)

/-- Fails at the next token. -/
def fault {α : Type} (wording : String) : Rule α := do fail (.fault wording (← peek).place)

/-- Whether the next token is a keyword. -/
def peekKeyword (k : String) : Rule Bool := do return (← peek).keyword == k

/-- Reads a keyword if it is next. -/
def keyword (k : String) : Rule Bool := do
  if ← peekKeyword k then
    modify List.tail
    return true
  else return false

/-- Reads keywords if all of them are next. -/
def keywords (ks : List String) : Rule Bool := do
  let s ← get
  if (s.take ks.length).map Item.keyword == ks then
    set (s.drop ks.length)
    return true
  else return false

/-- Reads one of the keywords if it is next. -/
def oneOf (ks : List String) : Rule (Option String) := do
  let i ← peek
  if i.keyword != "" && ks.contains i.keyword then
    modify List.tail
    return some i.keyword
  else return none

/-- Reads a keyword. -/
def expectKeyword (k : String) : Rule Unit := do
  unless ← keyword k do expected k

/-- Reads keywords one after the other. -/
def expectKeywords : List String → Rule Unit
  | [] => return
  | k :: ks => do
    expectKeyword k
    expectKeywords ks

/-- Reads one of the keywords. -/
def expectOneOf (ks : List String) : Rule String := do
  match ← oneOf ks with
  | some k => return k
  | none => expected ("one of " ++ String.intercalate " or " ks)

/-- Whether the next token is a symbol. -/
def peekSymbol (s : String) : Rule Bool := do return (← peek).isSymbol s

/-- Reads a symbol if it is next. -/
def symbol (s : String) : Rule Bool := do
  if ← peekSymbol s then
    modify List.tail
    return true
  else return false

/-- Reads symbols if all of them are next. -/
def symbols (ss : List String) : Rule Bool := do
  let s ← get
  if ss.length ≤ s.length && (ss.zip s).all fun p => p.2.isSymbol p.1 then
    set (s.drop ss.length)
    return true
  else return false

/-- Reads a symbol. -/
def expectSymbol (s : String) : Rule Unit := do
  unless ← symbol s do expected s

/-- Reads a token if it is next. -/
def exactly (t : Token) : Rule Bool := do
  if (← peek).token == t then
    modify List.tail
    return true
  else return false

/-- Reads a keyword and an opening parenthesis if both are next. -/
def keywordOpening (k : String) : Rule Bool := do
  if (← peekAt 0).keyword == k && (← peekAt 1).isSymbol "(" then
    modify (List.drop 2)
    return true
  else return false

/-- A test that is made only where it is `allowed`. -/
def onlyIf (allowed : Bool) (r : Rule Bool) : Rule Bool :=
  if allowed then r else return false

/-- Whether a sub-query is next. -/
def peekQuery : Rule Bool := do
  let k := (← peek).keyword
  return k == "SELECT" || k == "WITH"

/-! ## Repetition -/

/-- At most `fuel` values, one per successful round; a round gives `none` to end. -/
def repeatUpTo {α : Type} (round : Rule (Option α)) : Nat → Rule (List α)
  | 0 => return []
  | fuel + 1 => do
    match ← round with
    | none => return []
    | some a => return a :: (← repeatUpTo round fuel)

/-- Values until a round gives `none`.  Each round that gives one reads a token, so there
are no more of them than tokens. -/
def repeated {α : Type} (round : Rule (Option α)) : Rule (List α) := do
  repeatUpTo round ((← get).length + 1)

/-- The same value over and over until a round gives `none`. -/
def iterateUpTo {α : Type} (round : α → Rule (Option α)) : Nat → α → Rule α
  | 0, a => return a
  | fuel + 1, a => do
    match ← round a with
    | none => return a
    | some b => iterateUpTo round fuel b

/-- Applies rounds to a value until one gives `none`. -/
def iterated {α : Type} (round : α → Rule (Option α)) (a : α) : Rule α := do
  iterateUpTo round ((← get).length + 1) a

/-- One or more values with commas in between. -/
def commaSeparated {α : Type} (r : Rule α) : Rule (List α) := do
  let first ← r
  let rest ← repeated do
    if ← symbol "," then return some (← r) else return none
  return first :: rest

/-- Values with commas in between, or none before a closing symbol. -/
def commaSeparatedBefore {α : Type} (closing : String) (r : Rule α) : Rule (List α) := do
  if ← peekSymbol closing then return [] else commaSeparated r

/-- A rule between parentheses. -/
def inParentheses {α : Type} (r : Rule α) : Rule α := do
  expectSymbol "("
  let a ← r
  expectSymbol ")"
  return a

end Grammar
end Sql
end QueryTemplate
