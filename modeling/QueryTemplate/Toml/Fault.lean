/-
# Why a text is no TOML

A fault has a place, and says what was being read there, what would have fitted, and
what is wrong with it, as far as that is known:

    TOML parse error at line 1, column 8
      |
    1 | [limits
      |        ^
    invalid table header
    expected `.`, `]`

Columns count characters; the width of the underlining counts bytes.
-/

import QueryTemplate.Toml.Item

namespace QueryTemplate
namespace Toml

/-- What is wrong with a text that is well-formed. -/
inductive Cause where
  /-- A key twice in a table, which is given by its path if it is known. -/
  | duplicateKey (key : String) (path : Option (List String))
  /-- A dotted key leads through something that is no table. -/
  | notTable (path : List String) (found : String)
  | outOfRange
  | tooDeep
  | tooLarge
  | tooSmall
deriving DecidableEq, Repr

/-- The wording of a cause. -/
def Cause.message : Cause → String
  | .duplicateKey key none => "duplicate key `" ++ key ++ "`"
  | .duplicateKey key (some []) => "duplicate key `" ++ key ++ "` in document root"
  | .duplicateKey key (some path) =>
    "duplicate key `" ++ key ++ "` in table `" ++ String.intercalate "." path ++ "`"
  | .notTable path found =>
    "dotted key `" ++ String.intercalate "." path ++
      "` attempted to extend non-table type (" ++ found ++ ")"
  | .outOfRange => "value is out of range"
  | .tooDeep => "recursion limit exceeded"
  | .tooLarge => "number too large to fit in target type"
  | .tooSmall => "number too small to fit in target type"

/-- Why reading stopped, and before which byte. -/
structure Fault where
  offset : Nat
  /-- What was being read. -/
  label : Option String
  /-- What would have fitted. -/
  expected : List String
  cause : Option Cause
  /-- Whether nothing else is tried at an earlier place. -/
  final : Bool
deriving DecidableEq, Repr

/-- The wording of a fault, without its place. -/
def Fault.wording (f : Fault) : String :=
  let expected := if f.expected.isEmpty then []
    else ["expected " ++ String.intercalate ", " f.expected]
  String.intercalate "\n" <|
    (f.label.toList.map ("invalid " ++ ·)) ++ expected ++ f.cause.toList.map Cause.message

/-- Something wrong in a text, mostly at a place. -/
structure Problem where
  wording : String
  span : Option Span
deriving DecidableEq, Repr

namespace Problem

/-- The characters of a text before a byte, and the character there. -/
def splitBefore (offset : Nat) : List Char → List Char × Option Char
  | [] => ([], none)
  | c :: rest =>
    if offset = 0 then ([], some c)
    else
      let r := splitBefore (offset - c.utf8Size) rest
      (c :: r.1, r.2)

/-- The number of bytes of a text. -/
def byteCount (cs : List Char) : Nat := (String.ofList cs).utf8ByteSize

/-- The fault's character alone is underlined, or the end of the text. -/
def ofFault (text : String) (f : Fault) : Problem :=
  let width := ((splitBefore f.offset text.toList).2.map Char.utf8Size).getD 0
  ⟨f.wording, some ⟨f.offset, f.offset + width⟩⟩

/-- The characters behind the last line feed. -/
def lastLine (cs : List Char) : List Char :=
  (cs.reverse.takeWhile (· != '\n')).reverse

/-- The line, from zero, and the column, from zero, of a byte.  In front of a character of
several bytes the column counts bytes.  The end of the text lies behind its last
character, on the same line. -/
def place (text : String) (offset : Nat) : Nat × Nat :=
  match splitBefore offset text.toList with
  | (before, some c) =>
    let line := lastLine before
    (before.count '\n', if c.utf8Size = 1 then line.length else byteCount line)
  | (before, none) =>
    match before.reverse with
    | [] => (0, offset)
    | _ :: rest =>
      let before := rest.reverse
      (before.count '\n', (lastLine before).length + 1)

/-- Lines of the message that show the place.  The underlining ends with the line; there is
always some of it. -/
def context (text : String) (span : Span) : String :=
  let (line, column) := place text span.start
  let number := toString (line + 1)
  let content := ((text.splitOn "\n")[line]?).getD ""
  let margin := String.ofList (List.replicate (number.length + 1) ' ') ++ "|"
  let width := min (span.stop - span.start) (content.utf8ByteSize - column)
  "TOML parse error at line " ++ number ++ ", column " ++ toString (column + 1) ++ "\n" ++
    margin ++ "\n" ++
    number ++ " | " ++ content ++ "\n" ++
    margin ++ String.ofList (List.replicate (column + 1) ' ') ++
    String.ofList (List.replicate (max width 1) '^') ++ "\n"

/-- The message about a problem in a text. -/
def message (text : String) (p : Problem) : String :=
  ((p.span.map (context text)).getD "") ++ p.wording ++ "\n"

end Problem
end Toml
end QueryTemplate
