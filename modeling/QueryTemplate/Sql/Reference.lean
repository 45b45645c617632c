/-
# Column references in expressions

`Expr.references` lists the column names in the order of the visit, and
`Expr.substitute` replaces references by expressions, all at the same time: what is put
in is not searched again.
-/

import QueryTemplate.Sql.Expr

namespace QueryTemplate
namespace Sql

mutual

/-- The names of the column references, in the order of the visit, with repeats. -/
def Expr.references : Expr → List String
  | .column _ name => [name.text]
  | .literal _ => []
  | .nested inner => inner.references
  | .unary _ operand => operand.references
  | .binary left _ right => left.references ++ right.references
  | .phrase parts => Part.firstReferences parts ++ Part.laterReferences parts
  termination_by structural e => e

/-- The names in operands that are visited where they stand. -/
def Part.firstReferences : List Part → List String
  | [] => []
  | p :: rest => p.now ++ Part.firstReferences rest
  termination_by structural ps => ps

/-- The names in deferred operands. -/
def Part.laterReferences : List Part → List String
  | [] => []
  | p :: rest => p.later ++ Part.laterReferences rest
  termination_by structural ps => ps

/-- The names in an operand that is visited where it stands. -/
def Part.now : Part → List String
  | .operand e | .enclosed e => e.references
  | .words _ | .deferred _ => []
  termination_by structural p => p

/-- The names in a deferred operand. -/
def Part.later : Part → List String
  | .deferred e => e.references
  | .words _ | .operand _ | .enclosed _ => []
  termination_by structural p => p

end

/-- A list without later repeats. -/
def distinct (names : List String) : List String :=
  names.foldl (fun seen n => if seen.contains n then seen else seen ++ [n]) []

/-- The names of the column references, each where it is first visited. -/
def Expr.placeholders (e : Expr) : List String := distinct e.references

mutual

/-- The expression with every column reference replaced that `f` gives an expression for.
The qualifier goes with the reference. -/
def Expr.substitute (f : String → Option Expr) : Expr → Expr
  | .column qualifier name => (f name.text).getD (.column qualifier name)
  | .literal value => .literal value
  | .nested inner => .nested (inner.substitute f)
  | .unary op operand => .unary op (operand.substitute f)
  | .binary left op right => .binary (left.substitute f) op (right.substitute f)
  | .phrase parts => .phrase (Part.substituteAll f parts)
  termination_by structural e => e

/-- The piece with its column references replaced. -/
def Part.substitute (f : String → Option Expr) : Part → Part
  | .words text => .words text
  | .operand e => .operand (e.substitute f)
  | .deferred e => .deferred (e.substitute f)
  | .enclosed e => .enclosed (e.substitute f)
  termination_by structural p => p

/-- The pieces with their column references replaced. -/
def Part.substituteAll (f : String → Option Expr) : List Part → List Part
  | [] => []
  | p :: rest => p.substitute f :: Part.substituteAll f rest
  termination_by structural ps => ps

end

end Sql
end QueryTemplate
