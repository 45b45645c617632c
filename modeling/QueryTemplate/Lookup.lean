/-
# Looking placeholders up

A resolver answers requests, each for the values of one placeholder.  A table request
has no hint and no context; a column request names the tables of the query.  What a
resolver answers may depend on the requests that it got before.
-/

import QueryTemplate.Placeholder

namespace QueryTemplate

/-- A request for the values of a placeholder. -/
structure Request where
  kind : Kind
  name : String
  hint : Option Hint
  /-- The tables of the query; missing for a table. -/
  sources : Option (List String)
deriving DecidableEq, Repr, Inhabited

namespace Request

/-- The request for a table. -/
def table (name : String) : Request := ⟨.table, name, none, none⟩

/-- The request for a column of a query from the tables `sources`. -/
def column (p : Placeholder) (sources : List String) : Request :=
  ⟨.column, p.name, p.hint, some sources⟩

/-- The text of a request: its kind, its hint and its name. -/
def text (r : Request) : String :=
  match r.hint with
  | some h => r.kind.text ++ " " ++ h.text ++ ":" ++ r.name
  | none => r.kind.text ++ " " ++ r.name

end Request

/-- Why a request has no answer. -/
inductive LookupError where
  | unknownPlaceholder (text : String)
  | backend (text : String)
deriving DecidableEq, Repr, Inhabited

/-- The wording of a failed lookup. -/
def LookupError.message : LookupError → String
  | .unknownPlaceholder text => "Unknown placeholder: " ++ text
  | .backend text => "Resolver backend failed: " ++ text

/-- The values of a placeholder, or why there are none. -/
abbrev Answer := Except LookupError (List String)

/-- Something that answers requests. -/
structure Resolver where
  /-- The answer to a request after the `earlier` ones. -/
  answer : (earlier : List Request) → Request → Answer
  /-- Whether answers take time; then requests that do not wait for one another are all
  made before the first answer. -/
  delayed : Bool

/-- The resolver that answers by a function of the request, at once. -/
def Resolver.ofFunction (f : Request → Answer) : Resolver := ⟨fun _ => f, false⟩

end QueryTemplate
