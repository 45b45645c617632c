/-
# Copies and stages

Rows are copied between a table and a file, which in `snowflake` stands in a stage.  The name
of a stage has no blanks in it.

| dialect | rule |
| --- | --- |
| `snowflake` | `COPY INTO` |
| all others | rows may stand in the text, up to a point behind a backslash |
-/

import QueryTemplate.Sql.Grammar.ColumnDefinition
import QueryTemplate.Text.Shown

namespace QueryTemplate
namespace Sql
namespace Grammar

/-! ## Copies -/

/-- A string that is one character. -/
def oneCharacter : Rule Unit := do
  let place := (← peek).place
  let s ← literalString
  if s.utf8ByteSize != 1 then fail (.fault ("Expect a char, found " ++ Text.shown s) place)

/-- An option of a copy, in parentheses. -/
def copyOption : Rule Unit := do
  match ← oneOf ["FORMAT", "FREEZE", "DELIMITER", "NULL", "HEADER", "QUOTE", "ESCAPE",
    "FORCE_QUOTE", "FORCE_NOT_NULL", "FORCE_NULL", "ENCODING"] with
  | some "FORMAT" =>
    let _ ← name
  | some "FREEZE" | some "HEADER" =>
    let _ ← oneOf ["TRUE", "FALSE"]
  | some "DELIMITER" | some "QUOTE" | some "ESCAPE" => oneCharacter
  | some "NULL" | some "ENCODING" =>
    let _ ← literalString
  | some _ =>
    let _ ← columnList
  | none => expected "option"

/-- An option of a table of text. -/
def tableTextOption : Rule Unit := do
  match ← firstOf [["HEADER"], ["QUOTE"], ["ESCAPE"], ["FORCE", "NOT", "NULL"],
    ["FORCE", "QUOTE"]] with
  | some ["HEADER"] => return
  | some ["QUOTE"] | some ["ESCAPE"] =>
    let _ ← keyword "AS"
    oneCharacter
  | some _ =>
    let _ ← commaSeparated name
  | none => expected "csv option"

/-- An option of a copy as it was written before options stood in parentheses. -/
def olderCopyOption : Rule Unit := do
  match ← oneOf ["BINARY", "DELIMITER", "NULL", "CSV"] with
  | some "BINARY" => return
  | some "DELIMITER" =>
    let _ ← keyword "AS"
    oneCharacter
  | some "NULL" =>
    let _ ← keyword "AS"
    let _ ← literalString
  | some _ =>
    let _ ← repeated (attempt tableTextOption)
  | none => expected "option"

/-- Rows that stand in the text, up to a point behind a backslash. -/
def copiedRows : Rule Unit := do
  let _ ← repeated do
    let i ← next
    if i.place.isNone then return none
    else if i.isSymbol "\\" then
      if ← symbol "." then return none
      else
        let _ ← next
        return some ()
    else return some ()

/-- `COPY`, after its keyword. -/
def copyRows : Rule Unit := do
  let isQuery ← peekSymbol "("
  if isQuery then
    let _ ← inParentheses query
  else
    let _ ← objectName
    if ← peekSymbol "(" then
      let _ ← nameList
  match ← oneOf ["FROM", "TO"] with
  | none => expected "FROM or TO"
  | some k =>
    if k == "FROM" && isQuery then
      fail (.fault "COPY ... FROM does not support query as a source" none)
  let target ← oneOf ["STDIN", "STDOUT", "PROGRAM"]
  if target.isNone || target == some "PROGRAM" then
    let _ ← literalString
  let _ ← keyword "WITH"
  if ← peekSymbol "(" then
    let _ ← inParentheses (commaSeparated copyOption)
  let _ ← repeated (attempt olderCopyOption)
  if target == some "STDIN" then
    expectSymbol ";"
    copiedRows

/-! ## Stages -/

/-- A part of the name of a stage: tokens up to a point or a blank.  A semicolon ends it too, and
is read. -/
def stagePart : Rule Unit := do
  let _ ← repeated do
    let i ← peek
    if i.place.isNone || i.blank.isSome || i.isSymbol "." then return none
    else
      modify List.tail
      if i.isSymbol ";" then return none
      else if i.ident?.isSome || ["@", "~", "%", "/"].any i.isSymbol then return some ()
      else expected "stage name identifier"

/-- The name of a stage, or of a table. -/
def stageName : Rule Unit := do
  if ← symbol "@" then
    stagePart
    let _ ← repeated do
      if ← symbol "." then return some (← stagePart) else return none
  else
    let _ ← objectName

/-- Options in parentheses, each a word and its value, without commas in between. -/
def stageOptions : Rule Unit := do
  expectSymbol "("
  let _ ← repeated do
    let i ← next
    if i.isSymbol ")" then return none
    else if i.ident?.isNone then expected "another option or ')'"
    else
      expectSymbol "="
      match (← next).token with
      | .word .. | .string .single _ | .number .. => return some ()
      | _ => expected "expected option value"

/-- A value after the keyword `k` and an equals sign, if the keyword is next. -/
def assigned (k : String) (value : Rule Unit) : Rule Unit := do
  if ← keyword k then
    expectSymbol "="
    value

/-- A string in single quotes, in place of which messages name the token after it. -/
def stageText (what : String) : Rule Unit := do
  if (← next).string?.isNone then expected what

/-- Where a stage stands and how it is reached. -/
def stageParameters : Rule Unit := do
  let anyToken : Rule Unit := do
    let _ ← next
  assigned "URL" (stageText "a URL statement")
  assigned "STORAGE_INTEGRATION" anyToken
  assigned "ENDPOINT" (stageText "an endpoint statement")
  assigned "CREDENTIALS" stageOptions
  assigned "ENCRYPTION" stageOptions

/-- `CREATE STAGE`, after its keywords. -/
def createStage : Rule Unit := do
  ifNotExists
  let _ ← objectName
  stageParameters
  assigned "DIRECTORY" stageOptions
  assigned "FILE_FORMAT" stageOptions
  assigned "COPY_OPTIONS" stageOptions
  assigned "COMMENT" (stageText "a comment statement")

/-- A word, in place of which messages name the token after it. -/
def stageWord (what : String) : Rule Unit := do
  if (← next).ident?.isNone then expected what

/-- The column of a file that a parameter numbers. -/
def fileColumn (parameter : String) : Rule Unit :=
  let refuse (why : Decimal.UnsignedFault) : Rule Unit :=
    fail (.fault ("Could not parse '" ++ parameter ++ "' as i32: " ++ why.message) none)
  match Decimal.unsigned (String.ofList (parameter.toList.drop 1)) with
  | .ok n => if n < UInt32.size / 2 then return else refuse .tooLarge
  | .error why => refuse why

/-- A column of the files that are copied, with its element and its new name. -/
def copiedColumn : Rule Unit := do
  let i ← next
  match i.token with
  | .parameter s => fileColumn s
  | .word .. =>
    expectSymbol "."
    let j ← next
    match j.token with
    | .parameter s => fileColumn s
    | _ => expectedAt "file_col_num" j
  | _ => expectedAt "alias or file_col_num" i
  if ← symbol ":" then stageWord "file_col_num"
  if ← keyword "AS" then stageWord "column item alias"

/-- The stage that is copied from, and another name for it. -/
def stageSource : Rule Unit := do
  stageName
  stageParameters
  if ← keyword "AS" then stageWord "stage alias"

/-- `COPY INTO`, after its keywords. -/
def copyInto : Rule Unit := do
  stageName
  expectKeyword "FROM"
  if ← symbol "(" then
    expectKeyword "SELECT"
    let _ ← commaSeparated copiedColumn
    expectKeyword "FROM"
    stageSource
    expectSymbol ")"
  else stageSource
  let text (what : String) : Rule Unit := quotedText what
  assigned "FILES" do
    let _ ← inParentheses (commaSeparated (text "file token"))
  assigned "PATTERN" (text "pattern")
  assigned "FILE_FORMAT" stageOptions
  assigned "COPY_OPTIONS" stageOptions
  assigned "VALIDATION_MODE" do
    let _ ← next

/-- `COPY`, after its keyword. -/
def copy : Rule Unit := do
  if ← onlyIf ((← dialect) == .snowflake) (keyword "INTO") then copyInto else copyRows

end Grammar
end Sql
end QueryTemplate
