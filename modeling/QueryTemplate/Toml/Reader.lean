/-
# Readers

A reader takes characters off the front of a text, or notices a fault.  Where several
readers are possible, the next one is tried at the same place unless the fault is final;
the fault of the last one counts.
-/

import QueryTemplate.Toml.Fault

namespace QueryTemplate
namespace Toml

/-- What is left of a text, and the number of bytes before it. -/
structure Cursor where
  rest : List Char
  offset : Nat
deriving DecidableEq, Repr

/-- Takes characters off the front of a text. -/
abbrev Reader (α : Type) : Type := Cursor → Except Fault (α × Cursor)

namespace Reader

variable {α β : Type}

instance : Monad Reader where
  pure a := fun c => .ok (a, c)
  bind r f := fun c =>
    match r c with
    | .ok (a, c') => f a c'
    | .error e => .error e

/-- A fault at this place. -/
def fail : Reader α := fun c => .error ⟨c.offset, none, [], none, false⟩

/-- A fault at this place, with its cause. -/
def failFor (cause : Cause) : Reader α := fun c => .error ⟨c.offset, none, [], some cause, false⟩

/-- The fault as `f` makes it. -/
def mapFault (f : Fault → Fault) (r : Reader α) : Reader α := fun c => (r c).mapError f

/-- Says what is being read, unless a part of it said so. -/
def labelled (label : String) : Reader α → Reader α :=
  mapFault fun f => { f with label := f.label <|> some label }

/-- Says what would have fitted. -/
def expecting (what : String) : Reader α → Reader α :=
  mapFault fun f => { f with expected := f.expected ++ [what] }

/-- Makes faults final. -/
def commit : Reader α → Reader α := mapFault fun f => { f with final := true }

/-- The first reader, or else the second. -/
def either (r s : Reader α) : Reader α := fun c =>
  match r c with
  | .error f => if f.final then .error f else s c
  | .ok a => .ok a

/-- The reader, or nothing. -/
def option (r : Reader α) : Reader (Option α) := fun c =>
  match r c with
  | .error f => if f.final then .error f else .ok (none, c)
  | .ok (a, c') => .ok (some a, c')

/-- What the reader gives, without taking anything. -/
def ahead (r : Reader α) : Reader α := fun c => (r c).map fun a => (a.1, c)

/-- A check on what is read; its fault stands in front of that. -/
def checked (r : Reader α) (f : α → Except Cause β) : Reader β := fun c =>
  match r c with
  | .error e => .error e
  | .ok (a, c') =>
    match f a with
    | .error cause => failFor cause c
    | .ok b => .ok (b, c')

/-- What is read, and where it stands. -/
def spanned (r : Reader α) : Reader (α × Span) := fun c =>
  (r c).map fun a => ((a.1, ⟨c.offset, a.2.offset⟩), a.2)

/-- The characters that are read. -/
def consumed (r : Reader α) : Reader (List Char) := fun c =>
  (r c).map fun a => (c.rest.take (c.rest.length - a.2.rest.length), a.2)

/-- As many as there are, at most `fuel`. -/
def manyUpTo (r : Reader α) : Nat → Reader (List α)
  | 0 => pure []
  | fuel + 1 => do
    match ← r.option with
    | none => return []
    | some a => return a :: (← manyUpTo r fuel)

/-- As many as there are; each takes at least one character. -/
def many (r : Reader α) : Reader (List α) := fun c => manyUpTo r c.rest.length c

/-- At least one, with separators in between. -/
def separatedOne (r : Reader α) (separator : Reader Unit) : Reader (List α) := do
  let a ← r
  return a :: (← (do separator; r).many)

/-- As many as there are, with separators in between. -/
def separated (r : Reader α) (separator : Reader Unit) : Reader (List α) := do
  return (← (separatedOne r separator).option).getD []

/-- The next character. -/
def any : Reader Char := fun c =>
  match c.rest with
  | x :: rest => .ok (x, ⟨rest, c.offset + x.utf8Size⟩)
  | [] => fail c

/-- The next character, which has a property. -/
def one (p : Char → Bool) : Reader Char := fun c =>
  match any c with
  | .ok (x, c') => if p x then .ok (x, c') else fail c
  | .error e => .error e

/-- A certain next character. -/
def char (x : Char) : Reader Unit := do
  let _ ← one (· == x)

/-- Certain next characters. -/
def literal (xs : List Char) : Reader Unit := fun c =>
  if xs.isPrefixOf c.rest then
    .ok ((), ⟨c.rest.drop xs.length, c.offset + Problem.byteCount xs⟩)
  else fail c

/-- All next characters with a property. -/
def takeWhile (p : Char → Bool) : Reader (List Char) := fun c =>
  let xs := c.rest.takeWhile p
  .ok (xs, ⟨c.rest.drop xs.length, c.offset + Problem.byteCount xs⟩)

/-- The end of the text. -/
def ending : Reader Unit := fun c => if c.rest.isEmpty then .ok ((), c) else fail c

/-! ## Blanks, comments and line ends -/

/-- Blanks and tabs. -/
def blanks : Reader Unit := do
  let _ ← takeWhile fun x => x == ' ' || x == '\t'

/-- The end of a line: a line feed, alone or behind a carriage return.  A fault stands behind
the first byte that does not fit. -/
def newline : Reader Unit := fun c =>
  match any c with
  | .error e => .error e
  | .ok (x, c') =>
    if x == '\n' then .ok ((), c')
    else if x == '\r' then char '\n' c'
    else if x.utf8Size = 1 then fail c'
    else fail c

/-- The end of a line or of the text. -/
def lineEnd : Reader Unit := either newline ending

/-- A character of a comment. -/
def isCommentChar (x : Char) : Bool := x == '\t' || (' ' ≤ x && x != '\x7f')

/-- A comment, without the end of its line. -/
def comment : Reader Unit := do
  char '#'
  let _ ← takeWhile isCommentChar

/-- What may follow on a line. -/
def lineRest : Reader Unit :=
  expecting "`#`" <| expecting "newline" do
    blanks
    let _ ← comment.option
    lineEnd

/-- Blanks, comments and line ends, of at most `fuel` lines.  What starts a line end or a
comment has to be a whole one. -/
def fillerUpTo : Nat → Reader Unit
  | 0 => blanks
  | fuel + 1 => do
    blanks
    match ← (ahead any).option with
    | some '#' => do
      comment
      newline
      fillerUpTo fuel
    | some '\n' | some '\r' => do
      newline
      fillerUpTo fuel
    | _ => pure ()

/-- Blanks, comments and line ends. -/
def filler : Reader Unit := fun c => fillerUpTo c.rest.length c

end Reader
end Toml
end QueryTemplate
