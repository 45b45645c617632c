/-
# Options in a document

Options are the items of a TOML document.

| key | item |
| --- | --- |
| `from` | string |
| `limit` | unsigned integer |
| `limits` | table of unsigned integers |
| `dialect` | the name of a dialect: a string, or the only key of a table, over an empty item |
| `classifier` | table with the truth value `full_numeric_literals`, or an array with it in front |

Other keys are ignored, and a missing key keeps the standard.  Items are checked in the
order of the document.
-/

import QueryTemplate.Options
import QueryTemplate.Text.Shown
import QueryTemplate.Toml.Document

namespace QueryTemplate

/-- Why there are no options. -/
inductive OptionsError where
  | missingFile
  /-- The file is not text. -/
  | notText
  /-- With the document. -/
  | problem (document : String) (problem : Toml.Problem)
deriving DecidableEq, Repr

/-- The wording of a failure. -/
def OptionsError.message : OptionsError → String
  | .missingFile => "IO error: No such file or directory (os error 2)"
  | .notText => "IO error: stream did not contain valid UTF-8"
  | .problem document p => "Parse error: " ++ p.message document

namespace Options

open Toml (Item Problem Scalar Span)

/-! ## Single items -/

/-- How a message names an item that is of the wrong type. -/
def described : Item → String
  | .scalar (.string text) _ => "string " ++ Text.shown text
  | .scalar (.integer n) _ => "integer `" ++ toString n ++ "`"
  | .scalar (.float text) _ => "floating point `" ++ text ++ "`"
  | .scalar (.boolean b) _ => "boolean `" ++ toString b ++ "`"
  | .scalar (.moment _) _ | .table _ => "map"
  | .array _ _ | .tables _ _ => "sequence"

/-- The problem of an item of the wrong type. -/
def wrongType (wanted : String) (i : Item) : Problem :=
  ⟨"invalid type: " ++ described i ++ ", expected " ++ wanted, i.span?⟩

/-- A text. -/
def textOf : Item → Except Problem String
  | .scalar (.string text) _ => .ok text
  | i => .error (wrongType "a string" i)

/-- A truth value. -/
def booleanOf : Item → Except Problem Bool
  | .scalar (.boolean b) _ => .ok b
  | i => .error (wrongType "a boolean" i)

/-- An unsigned integer. -/
def unsignedOf : Item → Except Problem Nat
  | .scalar (.integer n) span =>
    if 0 ≤ n then .ok n.toNat
    else .error ⟨"invalid value: integer `" ++ toString n ++ "`, expected u64", some span⟩
  | i => .error (wrongType "u64" i)

/-- The answer for the item of a key, which gives a problem its place if it has none. -/
def under {α : Type} (key : Toml.Key) (i : Item) (f : Item → Except Problem α) : Except Problem α :=
  (f i).mapError fun p => { p with span := p.span <|> i.span? <|> some key.span }

/-- The limits of single tables. -/
def limitsOf : Item → Except Problem (List (String × Nat))
  | .table t => t.entries.mapM fun (key, i) => do return (key.text, ← under key i unsignedOf)
  | .scalar (.moment text) span =>
    .error ⟨"invalid type: string " ++ Text.shown text ++ ", expected u64", some span⟩
  | i => .error (wrongType "a map" i)

/-! ## The dialect -/

/-- The dialects by their names. -/
def dialectNames : List (String × Sql.Dialect) :=
  [("bigquery", .bigquery), ("snowflake", .snowflake), ("postgres", .postgres), ("ansi", .ansi)]

/-- The dialect of a name that stands at a place. -/
def dialectNamed (name : String) (span : Span) : Except Problem Sql.Dialect :=
  match dialectNames.lookup name with
  | some d => .ok d
  | none =>
    let known := dialectNames.map fun d => "`" ++ d.1 ++ "`"
    .error ⟨"unknown variant `" ++ name ++ "`, expected one of " ++
      String.intercalate ", " known, some span⟩

/-- Nothing but an empty table or array stands over a dialect. -/
def emptyTable : Item → Except Problem Unit
  | .table t => if t.entries.isEmpty then .ok () else .error ⟨"expected empty table", t.span⟩
  | .array items span =>
    if items.isEmpty then .ok () else .error ⟨"expected empty table", some span⟩
  | .tables elements span =>
    if elements.isEmpty then .ok () else .error ⟨"expected empty array", span⟩
  | i => .error ⟨"expected table, found " ++ i.typeName, i.span?⟩

/-- The dialect that an item names. -/
def dialectOf : Item → Except Problem Sql.Dialect
  | .scalar (.string name) span => dialectNamed name span
  | .table t =>
    match t.entries with
    | [] => .error ⟨"wanted exactly 1 element, found 0 elements", t.span⟩
    | [(key, i)] => do
      let d ← dialectNamed key.text key.span
      emptyTable i
      return d
    | _ => .error ⟨"wanted exactly 1 element, more than 1 element", t.span⟩
  | i => .error ⟨"wanted string or table", i.span?⟩

/-! ## All options -/

/-- Whether numerals are read in full. -/
def fullNumeralsOf : Item → Except Problem Bool
  | .table t => t.entries.foldlM (fun found (key, i) =>
      if key.text == "full_numeric_literals" then under key i booleanOf else .ok found) false
  | .array items _ => (items.head?.map booleanOf).getD (.ok false)
  | .tables elements _ => (elements.head?.map fun t => booleanOf (.table t)).getD (.ok false)
  | .scalar (.moment _) _ => .ok false
  | i => .error (wrongType "struct ClassifierOptions" i)

/-- The options with one item of the document taken in. -/
def take (o : Options) (key : Toml.Key) (i : Item) : Except Problem Options :=
  match key.text with
  | "from" => (under key i textOf).map fun t => { o with source := some t }
  | "limit" => (under key i unsignedOf).map fun n => { o with limit := some n }
  | "limits" => (under key i limitsOf).map fun ls => { o with limits := some ls }
  | "dialect" => (under key i dialectOf).map fun d => { o with dialect := d }
  | "classifier" => (under key i fullNumeralsOf).map fun b => { o with fullNumerals := b }
  | _ => .ok o

/-- The options that a document holds. -/
def ofDocument (t : Toml.Table Item) : Except Problem Options :=
  t.entries.foldlM (fun o e => o.take e.1 e.2) standard

/-- The options that a text holds. -/
def ofText (text : String) : Except OptionsError Options :=
  (do ofDocument (← Toml.Document.read text)).mapError (.problem text)

/-- The options that the bytes of a file hold; there are no bytes if there is no file. -/
def ofBytes (bytes : Option ByteArray) : Except OptionsError Options :=
  match bytes with
  | none => .error .missingFile
  | some bs =>
    match String.fromUTF8? bs with
    | none => .error .notText
    | some text => ofText text

end Options
end QueryTemplate
