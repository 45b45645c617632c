/-
# Documents

A document is read line by line: a key with its value goes into the current table, and a
header starts a new one.  A table is put under its path when the next header comes; the
header itself is checked at once, so that a fault stands at its line.
-/

import QueryTemplate.Toml.Value

namespace QueryTemplate
namespace Toml

/-- A document that is being read. -/
structure Draft where
  /-- All tables before the current one. -/
  root : Table Item
  current : Table Item
  /-- The path of the current table; empty before the first header. -/
  path : List Key
  /-- Whether the current table is one of several by one name. -/
  isElement : Bool
deriving Inhabited

namespace Draft

/-- A document without a line. -/
def start : Draft := ⟨.empty, { Table.empty with span := some ⟨0, 0⟩ }, [], false⟩

/-- A key as a message writes it: in quotes unless it can do without, and between single ones
if that saves escapes of backslashes and double quotes. -/
def keyText (key : String) : String :=
  let xs := key.toList
  let has (p : Char → Bool) : Bool := xs.any p
  let control (x : Char) : Bool := !Reader.isCommentChar x
  if !xs.isEmpty && xs.all Key.isBareChar then key
  else if (has (· == '\\') || has (· == '"')) && !has (· == '\'') && !has control then
    "'" ++ key ++ "'"
  else
    let escaped (x : Char) : List Char :=
      match x with
      | '\\' => ['\\', '\\']
      | '"' => ['\\', '"']
      | '\n' => ['\\', 'n']
      | '\t' => ['\\', 't']
      | '\r' => ['\\', 'r']
      | '\x08' => ['\\', 'b']
      | '\x0c' => ['\\', 'f']
      | x =>
        if control x then
          let hex := (Nat.toDigits 16 x.toNat).map Char.toUpper
          ['\\', 'u'] ++ List.replicate (4 - hex.length) '0' ++ hex
        else [x]
    String.ofList ('"' :: xs.flatMap escaped ++ ['"'])

/-- The cause of a fault in a header whose last key is there already. -/
def taken (before : List Key) (key : Key) : Cause :=
  .duplicateKey (keyText key.text) (some (before.map Key.text))

/-- The bytes from the first to the last of several tables. -/
def spanOf (elements : List (Table Item)) : Option Span :=
  match elements.head?.bind Table.span, elements.getLast?.bind Table.span with
  | some first, some last => some ⟨first.start, last.stop⟩
  | _, _ => none

/-- Puts the current table under its path. -/
def close (d : Draft) : Except Cause Draft :=
  match d.path.reverse with
  | [] => .ok { d with root := d.current, current := .empty }
  | key :: before =>
    let put : Change Unit := fun parent =>
      if d.isElement then
        match parent.find? key.text with
        | none => .ok (parent.put key (.tables [d.current] (spanOf [d.current])), ())
        | some (.tables elements _) =>
          let all := elements ++ [d.current]
          .ok (parent.put key (.tables all (spanOf all)), ())
        | some _ => .error (taken before.reverse key)
      else .ok (parent.put key (.table d.current), ())
    (Table.change false false put [] before.reverse d.root).map fun r =>
      { d with root := r.1, current := .empty, path := [] }

/-- What becomes of the parent of a table with a new header, and what the table holds
already. -/
def opened (before : List Key) (key : Key) : Change (Table Item) := fun parent =>
  match parent.find? key.text with
  | none => .ok (parent, .empty)
  | some (.table t) =>
    if t.form.implicit && !t.form.dotted && !t.form.inline then .ok (parent.erase key.text, t)
    else .error (taken before key)
  | some _ => .error (taken before key)

/-- What becomes of the parent of one of several tables. -/
def openedElement (before : List Key) (key : Key) : Change (Table Item) := fun parent =>
  match parent.find? key.text with
  | none => .ok (parent.put key (.tables [] none), .empty)
  | some (.tables _ _) => .ok (parent, .empty)
  | some _ => .error (taken before key)

/-- Starts a table by its header. -/
def header (isElement : Bool) (path : List Key) (span : Span) (d : Draft) :
    Except Cause Draft := do
  let d ← d.close
  match path.reverse with
  | [] => return d
  | key :: before =>
    let before := before.reverse
    let change := if isElement then openedElement before key else opened before key
    let (root, t) ← Table.change false false change [] before d.root
    let form : Form := ⟨false, false, false⟩
    return ⟨root, { t with form := form, span := some span }, path, isElement⟩

/-- Takes in a key with its value. -/
def assign (keys : List Key) (item : Item) (d : Draft) : Except Cause Draft :=
  let span := match d.current.span, item.span? with
    | some s, some v => some ⟨s.start, v.stop⟩
    | s, _ => s
  (Table.assign false (some (d.path.map Key.text)) { d.current with span := span } keys item).map
    fun t => { d with current := t }

end Draft

namespace Document

open Reader

/-- A line with a key and its value. -/
def assignment (d : Draft) : Reader Draft :=
  checked
    (do
      let keys ← Key.assigned
      commit do
        blanks
        let item ← Value.item Key.maxDepth
        lineRest
        return (keys, item))
    fun (keys, item) => d.assign keys item

/-- A line with a header between brackets. -/
def bracketed (isElement : Bool) (opening closing closingText : String) (d : Draft) :
    Reader Draft :=
  checked
    (do
      let header ← spanned do
        literal opening.toList
        let path ← commit Key.path
        expecting closingText (expecting "`.`" (commit (literal closing.toList)))
        return path
      commit lineRest
      return header)
    fun (path, span) => d.header isElement path span

/-- A line with a header. -/
def headerLine (d : Draft) : Reader Draft :=
  labelled "table header" fun c =>
    match c.rest with
    | ['['] => fail c
    | '[' :: '[' :: _ => bracketed true "[[" "]]" "`]]`" d c
    | _ => bracketed false "[" "]" "`]`" d c

/-- A line with a comment only. -/
def commentLine (d : Draft) : Reader Draft := do
  comment
  lineEnd
  return d

/-- A line. -/
def line (d : Draft) : Reader Draft := do
  let x ← ahead any
  let next ←
    if x == '#' then commit (commentLine d)
    else if x == '[' then commit (headerLine d)
    else if x == '\n' || x == '\r' then do
      newline
      pure d
    else commit (assignment d)
  blanks
  return next

/-- All lines, at most `fuel`. -/
def lines : Nat → Draft → Reader Draft
  | 0, d => pure d
  | fuel + 1, d => do
    match ← (line d).option with
    | none => return d
    | some next => lines fuel next

/-- A whole text. -/
def whole : Reader Draft := fun c =>
  (do
    let _ ← (char '\uFEFF').option
    blanks
    let d ← lines c.rest.length .start
    ending
    return d : Reader Draft) c

/-- The document that a text is. -/
def read (text : String) : Except Problem (Table Item) :=
  match whole ⟨text.toList, 0⟩ with
  | .error f => .error (.ofFault text f)
  | .ok (d, _) =>
    match d.close with
    | .error cause => .error ⟨cause.message, none⟩
    | .ok d => .ok d.root

end Document
end Toml
end QueryTemplate
