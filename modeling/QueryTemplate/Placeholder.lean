/-
# Placeholders

The text of a placeholder is a name, or a hint, a colon and a name.  The hint is one of
the words below, in any letter case; other text before a colon belongs to the name.

| hint | words |
| --- | --- |
| `all` | all, each, every |
| `sum` | sum, gross, total, whole, aggregate |
| `avg` | avg, mid, par, mean, norm, center, centre, average, midpoint |
-/

import QueryTemplate.Text.Basic

namespace QueryTemplate

/-- What a placeholder stands for. -/
inductive Kind where
  | column
  | table
deriving DecidableEq, Repr, Inhabited

/-- The word for a kind. -/
def Kind.text : Kind → String
  | .column => "column"
  | .table => "table"

/-- How several values of a placeholder are combined. -/
inductive Hint where
  | all
  | sum
  | avg
deriving DecidableEq, Repr, Inhabited

namespace Hint

/-- The word for a hint. -/
def text : Hint → String
  | .all => "all"
  | .sum => "sum"
  | .avg => "avg"

/-- The words that stand for a hint. -/
def words : Hint → List String
  | .all => ["all", "each", "every"]
  | .sum => ["sum", "gross", "total", "whole", "aggregate"]
  | .avg => ["avg", "mid", "par", "mean", "norm", "center", "centre", "average", "midpoint"]

/-- The hint that a word stands for, in any letter case. -/
def ofWord? (word : List Char) : Option Hint :=
  [all, sum, avg].find? fun h => h.words.any (Text.foldsTo word)

end Hint

/-- A name and how its values are combined. -/
structure Placeholder where
  name : String
  hint : Option Hint
deriving DecidableEq, Repr, Inhabited

/-- Splits the text of a placeholder at its first colon if a hint stands before it. -/
def Placeholder.parse (text : String) : Placeholder :=
  let cs := text.toList
  let word := cs.takeWhile (· != ':')
  match cs.drop word.length, Hint.ofWord? word with
  | ':' :: rest, some h => ⟨String.ofList rest, some h⟩
  | _, _ => ⟨text, none⟩

end QueryTemplate
