/-
# Truth of conditions

A condition is true, false or unknown of a row.  `AND`, `OR` and `NOT` follow the tables
below; parentheses change nothing; `true`, `false` and `NULL` mean themselves.  Every other
expression is an atom: an assignment says what it is.

| `AND` | true | unknown | false | | `OR` | true | unknown | false |
| --- | --- | --- | --- | --- | --- | --- | --- | --- |
| **true** | true | unknown | false | | **true** | true | true | true |
| **unknown** | unknown | unknown | false | | **unknown** | true | unknown | unknown |
| **false** | false | false | false | | **false** | true | unknown | false |

The condition that is put together from the own condition of a query and further ones is
true of a row just when the own one is and one of the further ones is (`truth_splice`).
-/

import QueryTemplate.Filter

namespace QueryTemplate

/-! ## Three truth values -/

/-- What a condition is of a row. -/
inductive Truth where
  | yes
  | unknown
  | no
deriving DecidableEq, Repr

namespace Truth

/-- Both. -/
def and : Truth → Truth → Truth
  | yes, b => b
  | no, _ => no
  | unknown, no => no
  | unknown, _ => unknown

/-- At least one. -/
def or : Truth → Truth → Truth
  | no, b => b
  | yes, _ => yes
  | unknown, yes => yes
  | unknown, _ => unknown

/-- The opposite. -/
def not : Truth → Truth
  | yes => no
  | unknown => unknown
  | no => yes

/-- A truth value that is known. -/
def ofBool (b : Bool) : Truth := if b then yes else no

/-- At least one of several; none of no values at all. -/
def any : List Truth → Truth
  | [] => no
  | t :: ts => t.or (any ts)

@[simp] theorem or_no (t : Truth) : t.or no = t := by cases t <;> rfl

theorem or_assoc (a b c : Truth) : (a.or b).or c = a.or (b.or c) := by
  cases a <;> cases b <;> cases c <;> rfl

@[simp] theorem and_no (t : Truth) : t.and no = no := by cases t <;> rfl

/-- Whether `OR` stands inside or outside of a conjunction matters only where the other side
changes what is outside. -/
theorem and_or_eq_iff {a b c : Truth} : (a.and b).or c = a.and (b.or c) ↔ a.and c = c := by
  cases a <;> cases b <;> cases c <;> decide

/-- What stands outside of a conjunction is all that can hold without it. -/
theorem and_or_eq_yes_iff {a b c : Truth} :
    (a.and b).or c = yes ∧ a ≠ yes ↔ c = yes ∧ a ≠ yes := by
  cases a <;> cases b <;> cases c <;> decide

@[simp] theorem any_cons (t : Truth) (ts : List Truth) : any (t :: ts) = t.or (any ts) := rfl

/-- Any of two lists is any of the one or any of the other. -/
theorem any_append (ts us : List Truth) : any (ts ++ us) = (any ts).or (any us) := by
  induction ts with
  | nil => rfl
  | cons t ts ih => rw [List.cons_append, any_cons, any_cons, ih, or_assoc]

end Truth

/-! ## Truth of expressions -/

namespace Sql

/-- What an expression is of a row, for an assignment to its atoms. -/
def Expr.truth (v : Expr → Truth) : Expr → Truth
  | .nested e => e.truth v
  | .unary .not e => (e.truth v).not
  | .binary l .and r => (l.truth v).and (r.truth v)
  | .binary l .or r => (l.truth v).or (r.truth v)
  | .literal (.boolean b) => .ofBool b
  | .literal .null => .unknown
  | e => v e

variable (v : Expr → Truth)

/-- Parentheses do not change what is true. -/
@[simp] theorem Expr.truth_nested (e : Expr) : (Expr.nested e).truth v = e.truth v := by
  simp [Expr.truth]

/-- `AND` is the lesser truth. -/
@[simp] theorem Expr.truth_and (l r : Expr) :
    (Expr.binary l .and r).truth v = (l.truth v).and (r.truth v) := by
  simp [Expr.truth]

/-- `OR` is the greater truth. -/
@[simp] theorem Expr.truth_or (l r : Expr) :
    (Expr.binary l .or r).truth v = (l.truth v).or (r.truth v) := by
  simp [Expr.truth]

/-- `true` is true. -/
@[simp] theorem Expr.truth_true : (Expr.boolean true).truth v = .yes := by
  simp [Expr.truth, Expr.boolean, Truth.ofBool]

end Sql

/-! ## Conditions put together -/

namespace Filter

open Sql (Expr)

/-- What the own condition and further ones mean together: the own one and any of the
further ones, where a missing side is true. -/
def meaning (v : Expr → Truth) (selection : Option Expr) (conditions : List Expr) : Truth :=
  ((selection.map (Expr.truth v)).getD .yes).and
    (if conditions.isEmpty then .yes else .any (conditions.map (Expr.truth v)))

variable (v : Expr → Truth)

/-- The query's own condition is what it was, or true if there is none. -/
theorem truth_own (selection : Option Expr) :
    (own selection).truth v = (selection.map (Expr.truth v)).getD .yes := by
  match selection with
  | none => simp [own]
  | some e => cases e <;> simp [own]

/-- Conditions between `OR` are true if any of them is. -/
theorem truth_anyOf (e : Expr) (rest : List Expr) :
    (anyOf e rest).truth v = .any ((e :: rest).map (Expr.truth v)) := by
  induction rest generalizing e with
  | nil => simp [anyOf, Truth.any]
  | cons next rest ih => simp [anyOf, ih]

/-- Further conditions are true if any of them is, or if there are none. -/
theorem truth_further (conditions : List Expr) :
    (further conditions).truth v =
      if conditions.isEmpty then .yes else .any (conditions.map (Expr.truth v)) := by
  match conditions with
  | [] => simp [further]
  | [e] => simp [further, Truth.any]
  | e :: next :: rest => simpa [further] using truth_anyOf v e (next :: rest)

/-- **The conditions mean together what they should.** -/
theorem truth_splice (selection : Option Expr) (conditions : List Expr) :
    (splice selection conditions).truth v = meaning v selection conditions := by
  rw [splice, Expr.truth_and, truth_own, truth_further, meaning]

end Filter
end QueryTemplate
