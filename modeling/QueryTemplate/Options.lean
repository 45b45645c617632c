/-
# Options

How templates are filled.  The greatest number of rows is given for single tables or for
all; if there is a list of single tables, it alone counts, and tables that are not in it
have no limit.  A limit of zero is no limit.
-/

import QueryTemplate.Value

namespace QueryTemplate

/-- How templates are filled. -/
structure Options where
  /-- The table of a query without tables. -/
  source : Option String
  limit : Option Nat
  /-- Limits of single tables, each table once. -/
  limits : Option (List (String × Nat))
  dialect : Sql.Dialect
  /-- Whether numerals of more than one character are numbers. -/
  fullNumerals : Bool
deriving DecidableEq, Repr, Inhabited

namespace Options

/-- No table, no limit, and the permissive dialect. -/
def standard : Options := ⟨none, none, none, .ansi, false⟩

/-- How values are read. -/
def valueRules (o : Options) : ValueRules := ⟨o.dialect, o.fullNumerals⟩

/-- The greatest number of rows of a query whose first table is `table`. -/
def maxRows (o : Options) (table : String) : Option Nat :=
  let limit := match o.limits with
    | some limits => limits.lookup table
    | none => o.limit
  limit.filter (0 < ·)

end Options
end QueryTemplate
