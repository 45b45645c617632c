/-
# Items of a TOML document

A document is a table of items by key.  Every item knows which bytes of the text it was
read from, as far as it stands in the text: a table that only lies on the way to another
one, such as `a` in `[a.b]`, has no place of its own.

| item | written |
| --- | --- |
| scalar | `"x"`, `1`, `1.5`, `true`, `1979-05-27` |
| array | `[1, 2]` |
| table | `{a = 1}`, `[a]`, and what dotted keys lead through |
| tables | `[[a]]`, one table for each header |
-/

namespace QueryTemplate
namespace Toml

/-- The bytes from `start` up to `stop`. -/
structure Span where
  start : Nat
  stop : Nat
deriving DecidableEq, Repr, Inhabited

/-- A key, and where it stands. -/
structure Key where
  text : String
  span : Span
deriving DecidableEq, Repr, Inhabited

/-- A value without parts. -/
inductive Scalar where
  | string (text : String)
  | integer (value : Int)
  /-- A number with a point or an exponent, in its shortest digits. -/
  | float (text : String)
  | boolean (value : Bool)
  /-- A date, a time or both, in its canonical text. -/
  | moment (text : String)
deriving DecidableEq, Repr, Inhabited

/-- How a table came into the document. -/
structure Form where
  /-- Between braces. -/
  inline : Bool
  /-- Only on the way to another table. -/
  implicit : Bool
  /-- By a dotted key. -/
  dotted : Bool
deriving DecidableEq, Repr, Inhabited

/-- A table; keys stand in the order in which they came in. -/
structure Table (α : Type) where
  form : Form
  entries : List (Key × α)
  span : Option Span
deriving Inhabited

/-- An item of a document. -/
inductive Item where
  | scalar (value : Scalar) (span : Span)
  | array (items : List Item) (span : Span)
  | table (table : Table Item)
  | tables (elements : List (Table Item)) (span : Option Span)
deriving Inhabited

/-- The name of an item's type. -/
def Item.typeName : Item → String
  | .scalar (.string _) _ => "string"
  | .scalar (.integer _) _ => "integer"
  | .scalar (.float _) _ => "float"
  | .scalar (.boolean _) _ => "boolean"
  | .scalar (.moment _) _ => "datetime"
  | .array _ _ => "array"
  | .table t => if t.form.inline then "inline table" else "table"
  | .tables _ _ => "array of tables"

/-- Where an item stands. -/
def Item.span? : Item → Option Span
  | .scalar _ s => some s
  | .array _ s => some s
  | .table t => t.span
  | .tables _ s => s

namespace Table

variable {α : Type}

/-- A table without entries that stands nowhere. -/
def empty : Table α := ⟨⟨false, false, false⟩, [], none⟩

/-- The item under a key. -/
def find? (t : Table α) (key : String) : Option α :=
  (t.entries.find? fun e => e.1.text == key).map Prod.snd

/-- Puts an item under a key: in its place if the key is there, else at the end. -/
def put (t : Table α) (key : Key) (item : α) : Table α :=
  if t.entries.any fun e => e.1.text == key.text then
    { t with entries := t.entries.map fun e => if e.1.text == key.text then (e.1, item) else e }
  else { t with entries := t.entries ++ [(key, item)] }

/-- The table without a key. -/
def erase (t : Table α) (key : String) : Table α :=
  { t with entries := t.entries.filter fun e => e.1.text != key }

end Table
end Toml
end QueryTemplate
