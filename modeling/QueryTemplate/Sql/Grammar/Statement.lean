/-
# Statements

A text is a sequence of statements with semicolons in between; it may end early at the
word `END` after a statement.  Statements other than queries are read so that faults in
them are found where templates meet them, and their tokens are kept.

`nested` builds the levels of nesting: the rules at level `n + 1` see those of level `n`
inside them, and level zero refuses everything.
-/

import QueryTemplate.Sql.Grammar.Definition

namespace QueryTemplate
namespace Sql
namespace Grammar

/-! ## Queries and explanations -/

/-- A query after the words that may come before its body, which may be a statement that changes
data. -/
def queryRule : Rule Query := do
  let tables ← commonTables
  if ← keyword "INSERT" then return ⟨tables, .other (← insert), none, none, []⟩
  else if ← keyword "UPDATE" then return ⟨tables, .other (← update), none, none, []⟩
  else
    let b ← body
    let order ← orderBy
    let (limit, tail) ← queryTail
    return ⟨tables, b, order, limit, tail⟩

/-- What is explained, after the keyword `k`: a statement, which `inner` reads, or a table. -/
def explain (inner : Rule Statement) (k : String) : Rule Unit := do
  let d ← dialect
  if ← onlyIf (k == "EXPLAIN" && (d == .ansi || d == .postgres)) (peekSymbol "(") then
    let _ ← inParentheses (commaSeparated do
      let _ ← name
      if !(← peekSymbol ",") && !(← peekSymbol ")") then
        let _ ← expr)
  else if !(← keywords ["QUERY", "PLAN"]) then
    let _ ← keyword "ANALYZE"
    let _ ← keyword "VERBOSE"
    if ← keyword "FORMAT" then
      let i ← next
      unless ["TEXT", "GRAPHVIZ", "JSON"].contains i.keyword do expectedAt "fileformat" i
  let first := (← peek).keyword
  match ← attempt inner with
  | some _ =>
    if explaining.contains first then fail (.fault "Explain must be root of the plan" none)
  | none =>
    let _ ← oneOf ["EXTENDED", "FORMATTED"]
    if d == .snowflake then
      let _ ← keyword "TABLE"
    let _ ← objectName
where
  /-- The words that start an explanation. -/
  explaining : List String := ["EXPLAIN", "DESCRIBE", "DESC"]

/-- A statement; `inner` reads the one that is explained or prepared. -/
def statement (inner : Rule Statement) : Rule Statement := do
  let start ← get
  let i ← peek
  match i.keyword with
  | "SELECT" | "WITH" | "VALUES" => return .query (← query)
  | k =>
    if i.isSymbol "(" then return .query (← query)
    else
      modify List.tail
      let d ← dialect
      let body := if explain.explaining.contains k then some (explain inner k)
        else command? inner d k
      match body with
      | some r =>
        r
        let left ← get
        return .other ((start.take (start.length - left.length)).map Item.token)
      | none => expectedAt "an SQL statement" i

/-! ## Levels -/

/-- The rules with `n` levels of nesting left. -/
def nested (d : Dialect) : Nat → (relating : Bool := false) → Nested
  | 0, relating =>
    ⟨d, relating, fun _ _ => .error .tooDeep, fun _ => .error .tooDeep, fun _ => .error .tooDeep⟩
  | n + 1, relating =>
    let inner := nested d n relating
    ⟨d, relating, fun precedence s => expression precedence inner s, fun s => queryRule inner s,
      fun s => expression 0 (nested d n true) s⟩

/-- A statement with `n` levels of nesting left. -/
def statementAt (d : Dialect) : Nat → List Item → Outcome Statement
  | 0, _ => .error .tooDeep
  | n + 1, s => statement (fun _ s => statementAt d n s) (nested d n) s

/-- How deep statements, queries and expressions may contain one another. -/
def maxDepth : Nat := 50

/-- The statements of a text; `delimited` says whether one may start here.  The fuel bounds
the number of tokens. -/
def statementsUpTo (d : Dialect) : Nat → Bool → List Item → Except SyntaxError (List Statement)
  | 0, _, _ => .ok []
  | fuel + 1, delimited, s =>
    match s with
    | [] => .ok []
    | i :: rest =>
      if i.isSymbol ";" then statementsUpTo d fuel true rest
      else if !delimited && i.keyword == "END" then .ok []
      else if !delimited then .error (.expected "end of statement" i.token.text i.place)
      else
        match statementAt d maxDepth s with
        | .error e => .error e
        | .ok (st, s') => (statementsUpTo d fuel false s').map (st :: ·)

/-- The statements of a sequence of tokens. -/
def statements (d : Dialect) (s : List Item) : Except SyntaxError (List Statement) :=
  statementsUpTo d (s.length + 1) true s

end Grammar
end Sql
end QueryTemplate
