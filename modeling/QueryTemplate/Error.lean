/-
# Why a template is not filled

| cause | when |
| --- | --- |
| `notSelect` | the template is not a single plain `SELECT` |
| `notTable` | an entry of `FROM` is not a table |
| `parse` | the template, a value or a condition is not SQL |
| `lookup` | a request has no answer |
-/

import QueryTemplate.Lookup
import QueryTemplate.Sql.Parse

namespace QueryTemplate

/-- Why a template was not filled. -/
inductive FillError where
  /-- With the text of the template. -/
  | notSelect (template : String)
  /-- With the written entry. -/
  | notTable (entry : String)
  | parse (error : Sql.ParseError)
  | lookup (error : LookupError)
deriving DecidableEq, Repr

/-- The wording of a failure. -/
def FillError.message : FillError → String
  | .notSelect template =>
    "Unsupported statement, only SELECT can be rewritten: " ++ template
  | .notTable entry =>
    "Unsupported statement, only SELECT can be rewritten: FROM entry is not a table reference: "
      ++ entry
  | .parse e => e.message
  | .lookup e => "Placeholder resolution failed: " ++ e.message

end QueryTemplate
