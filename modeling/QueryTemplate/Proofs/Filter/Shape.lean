/-
# The shape of a filter

The own condition of a query and further ones are put together by `AND`, `OR`, `true` and
parentheses, whatever the conditions are.  A `Shape` is such a tree with slots for the
conditions: its expression is what stands there when the slots are filled, and its truth
follows from any truth values of the slots.

| own | further | shape |
| --- | --- | --- |
| | | `true AND true` |
| `w` | `p` | `(w) AND p` |
| `(w)` | `p`, `q`, `r` | `(w) AND (p OR q OR r)`, grouped to the right |

Truth values of the slots are free: they need not be those of the conditions that fill them,
so equal conditions may differ, and a condition `true` may be false (`splice_shape`).
-/

import Mathlib.Data.List.FinRange
import QueryTemplate.Proofs.Filter.Truth

namespace QueryTemplate
namespace Filter

open Sql (Expr)

/-! ## Shapes -/

/-- Conditions that are put together, with slots for them. -/
inductive Shape (α : Type) where
  | slot (a : α)
  /-- The condition `true`. -/
  | always
  | enclosed (s : Shape α)
  | both (l r : Shape α)
  | either (l r : Shape α)

namespace Shape

variable {α : Type}

/-- The expression, when each slot is filled. -/
def expr (content : α → Expr) : Shape α → Expr
  | slot a => content a
  | always => .boolean true
  | enclosed s => .nested (s.expr content)
  | both l r => .binary (l.expr content) .and (r.expr content)
  | either l r => .binary (l.expr content) .or (r.expr content)

/-- What is true of a row, when each slot has a truth value. -/
def truth (v : α → Truth) : Shape α → Truth
  | slot a => v a
  | always => .yes
  | enclosed s => s.truth v
  | both l r => (l.truth v).and (r.truth v)
  | either l r => (l.truth v).or (r.truth v)

/-- The slots from left to right. -/
def slots : Shape α → List α
  | slot a => [a]
  | always => []
  | enclosed s => s.slots
  | both l r | either l r => l.slots ++ r.slots

/-- **A shape means what its expression means**, when each slot has the truth value of its
content. -/
theorem truth_expr (v : Expr → Truth) (content : α → Expr) (s : Shape α) :
    (s.expr content).truth v = s.truth fun a => (content a).truth v := by
  induction s with
  | slot a => rfl
  | always => simp [expr, truth]
  | enclosed s ih => simp [expr, truth, ih]
  | both l r ihl ihr => simp [expr, truth, ihl, ihr]
  | either l r ihl ihr => simp [expr, truth, ihl, ihr]

/-! ## The shape of further conditions -/

/-- Any of several slots, the first of which is given apart. -/
def anyOf (a : α) : List α → Shape α
  | [] => slot a
  | next :: rest => either (slot a) (anyOf next rest)

/-- Several slots as one condition. -/
def further : List α → Shape α
  | [] => always
  | [a] => slot a
  | a :: rest => enclosed (anyOf a rest)

/-- Slots between `OR` are filled one by one. -/
theorem expr_anyOf (content : α → Expr) (a : α) (rest : List α) :
    (anyOf a rest).expr content = Filter.anyOf (content a) (rest.map content) := by
  induction rest generalizing a with
  | nil => rfl
  | cons next rest ih => simp [anyOf, expr, Filter.anyOf, ih]

/-- Slots between `OR` are true if any of them is. -/
theorem truth_anyOf (v : α → Truth) (a : α) (rest : List α) :
    (anyOf a rest).truth v = .any ((a :: rest).map v) := by
  induction rest generalizing a with
  | nil => simp [anyOf, truth, Truth.any]
  | cons next rest ih => simp [anyOf, truth, ih]

/-- Slots between `OR` stand in their order, each once. -/
theorem slots_anyOf (a : α) (rest : List α) : (anyOf a rest).slots = a :: rest := by
  induction rest generalizing a with
  | nil => rfl
  | cons next rest ih => simp [anyOf, slots, ih]

/-- The shape of further conditions is filled with the conditions. -/
theorem expr_further (content : α → Expr) (as : List α) :
    (further as).expr content = Filter.further (as.map content) := by
  match as with
  | [] => rfl
  | [a] => rfl
  | a :: next :: rest =>
    simp only [further, expr, expr_anyOf, List.map_cons, Filter.further]

/-- Further slots are true if any of them is, or if there are none. -/
theorem truth_further (v : α → Truth) (as : List α) :
    (further as).truth v = if as.isEmpty then .yes else .any (as.map v) := by
  match as with
  | [] => rfl
  | [a] => simp [further, truth, Truth.any]
  | a :: next :: rest => simpa [further, truth] using truth_anyOf v a (next :: rest)

/-- Further slots stand in their order, each once. -/
theorem slots_further (as : List α) : (further as).slots = as := by
  match as with
  | [] => rfl
  | [a] => rfl
  | a :: next :: rest => simpa [further, slots] using slots_anyOf a (next :: rest)

end Shape

/-! ## The shape of the filter -/

/-- Where a condition stands: the own one, or one of `n` further ones. -/
inductive Slot (n : Nat) where
  | own
  | further (i : Fin n)
deriving DecidableEq

namespace Slot

/-- The condition that stands in a slot. -/
def content (selection : Option Expr) (conditions : List Expr) : Slot conditions.length → Expr
  | own => selection.getD (.boolean true)
  | further i => conditions[i]

/-- The slots of further conditions, in their order. -/
def allFurther (n : Nat) : List (Slot n) := (List.finRange n).map further

/-- The further slots are filled with the conditions in their order. -/
theorem map_content_allFurther (selection : Option Expr) (conditions : List Expr) :
    (allFurther conditions.length).map (content selection conditions) = conditions := by
  rw [allFurther, List.map_map]
  exact List.map_get_finRange conditions

end Slot

/-- The shape of the own condition, which keeps the parentheses that it has. -/
def ownShape (n : Nat) : Option Expr → Shape (Slot n)
  | none => .always
  | some (.nested _) => .slot .own
  | some _ => .enclosed (.slot .own)

section Own

variable {n : Nat}

/-- The slot of the query's own condition is filled with it. -/
theorem expr_ownShape {content : Slot n → Expr} (selection : Option Expr)
    (h : ∀ e, selection = some e → content .own = e) :
    (ownShape n selection).expr content = own selection := by
  match selection with
  | none => rfl
  | some e =>
    have hown : content .own = e := h e rfl
    cases e <;> simp [ownShape, own, Shape.expr, hown]

/-- The slot of the query's own condition is true if there is none. -/
theorem truth_ownShape (v : Slot n → Truth) (selection : Option Expr) :
    (ownShape n selection).truth v = if selection.isSome then v .own else .yes := by
  match selection with
  | none => rfl
  | some e => cases e <;> rfl

/-- The query's own condition stands once, if there is one. -/
theorem slots_ownShape (selection : Option Expr) :
    (ownShape n selection).slots = selection.toList.map fun _ => .own := by
  match selection with
  | none => rfl
  | some e => cases e <;> rfl

end Own

/-- The shape of a filter with `n` further conditions. -/
def filterShape (selection : Option Expr) (n : Nat) : Shape (Slot n) :=
  .both (ownShape n selection) (.further (Slot.allFurther n))

/-- **The filter is the conjunction that it should be.**  Its shape depends on the conditions
only by their number and by the parentheses of the own one.  In this shape the own condition,
if there is one, stands once and before the further ones, each of which stands once and in its
place.  Whatever the truth values of the slots are, the shape has the truth of the own
condition and any of the further ones, where a missing side is true.  The filter means what its
shape means when the slots have the truth values of the conditions. -/
theorem splice_shape (selection : Option Expr) (conditions : List Expr) :
    let s := filterShape selection conditions.length
    s.expr (Slot.content selection conditions) = splice selection conditions ∧
      s.slots = (selection.toList.map fun _ => .own) ++ Slot.allFurther conditions.length ∧
      (∀ v : Slot conditions.length → Truth, s.truth v =
        (if selection.isSome then v .own else .yes).and
          (if conditions.isEmpty then .yes
            else .any ((Slot.allFurther conditions.length).map v))) ∧
      ∀ v : Expr → Truth, (splice selection conditions).truth v =
        s.truth fun a => (Slot.content selection conditions a).truth v := by
  intro s
  have hempty : (Slot.allFurther conditions.length).isEmpty = conditions.isEmpty := by
    cases conditions <;> simp [Slot.allFurther, List.finRange_succ]
  have hown : (ownShape _ selection).expr (Slot.content selection conditions) = own selection :=
    expr_ownShape selection fun e he => by rw [Slot.content, he, Option.getD_some]
  have hexpr : s.expr (Slot.content selection conditions) = splice selection conditions := by
    simp only [s, filterShape, Shape.expr, hown, Shape.expr_further, Slot.map_content_allFurther,
      splice]
  refine ⟨hexpr, ?_, fun v => ?_, fun v => ?_⟩
  · simp only [s, filterShape, Shape.slots, slots_ownShape, Shape.slots_further]
  · simp only [s, filterShape, Shape.truth, truth_ownShape, Shape.truth_further, hempty]
  · rw [← hexpr, Shape.truth_expr]

end Filter
end QueryTemplate
