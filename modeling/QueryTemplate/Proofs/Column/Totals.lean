/-
# What sums and averages compute

A placeholder with a hint for a sum or an average becomes one expression, whatever the columns
are that were found for it.  A `Total` is such an expression with slots for the columns: its
value follows from any values of the slots.  A slot without a value is NULL, and so is every sum
or quotient that it is part of.

| columns | sum | average |
| --- | --- | --- |
| none | `0` | `0` |
| `a` | `a` | `(a / 1)` |
| `a`, `b`, `c` | `((a + b) + c)` | `(((a + b) + c) / 3)` |

The slots are the columns in their order, each of them once, and sums are put in parentheses
one by one (`SumsUp`).  So the value of a sum is the sum of the values, and that of an average
is the sum divided by their number, which is not zero where it is divided by
(`Column.lookup_combines`).
-/

import Mathlib.Algebra.BigOperators.Fin
import Mathlib.Algebra.Order.Field.Rat
import Mathlib.Tactic.NormNum
import QueryTemplate.Proofs.Lookup.Yields
import QueryTemplate.Proofs.Fill.Capped

namespace QueryTemplate
namespace Aggregate

open Sql (Expr)

/-! ## Totals -/

/-- Columns that are added and divided, with slots for them. -/
inductive Total (α : Type) where
  | slot (a : α)
  /-- A whole number. -/
  | number (n : Nat)
  | enclosed (t : Total α)
  | plus (l r : Total α)
  | per (l r : Total α)

/-- Why a total has no value. -/
inductive Fault where
  | divisionByZero
deriving DecidableEq, Repr

namespace Total

variable {α : Type}

/-- The expression, when each slot is filled. -/
def expr (content : α → Expr) : Total α → Expr
  | slot a => content a
  | number n => .number (toString n)
  | enclosed t => .nested (t.expr content)
  | plus l r => .binary (l.expr content) .plus (r.expr content)
  | per l r => .binary (l.expr content) .divide (r.expr content)

/-- The quotient of two values. -/
def quotient : Option ℚ → Option ℚ → Except Fault (Option ℚ)
  | some x, some y => if y = 0 then .error .divisionByZero else .ok (some (x / y))
  | _, _ => .ok none

/-- The value, when each slot has one; `none` is NULL. -/
def value (v : α → Option ℚ) : Total α → Except Fault (Option ℚ)
  | slot a => .ok (v a)
  | number n => .ok (some n)
  | enclosed t => t.value v
  | plus l r => do return Option.map₂ (· + ·) (← l.value v) (← r.value v)
  | per l r => do quotient (← l.value v) (← r.value v)

/-- The slots from left to right. -/
def slots : Total α → List α
  | slot a => [a]
  | number _ => []
  | enclosed t => t.slots
  | plus l r | per l r => l.slots ++ r.slots

/-- The total is a function of numbers in its slots, and NULL if one of them is NULL. -/
def Computes (t : Total α) (f : (α → ℚ) → ℚ) : Prop :=
  (∀ x : α → ℚ, t.value (fun a => some (x a)) = .ok (some (f x))) ∧
    ∀ v, (∃ a, v a = none) → t.value v = .ok none

end Total

/-! ## Sums -/

/-- The sum of values; NULL if one of them is. -/
def valueSum (vs : List (Option ℚ)) : Option ℚ := vs.foldr (Option.map₂ (· + ·)) (some 0)

/-- A value at the end is added to the sum. -/
theorem valueSum_concat (vs : List (Option ℚ)) (w : Option ℚ) :
    valueSum (vs ++ [w]) = Option.map₂ (· + ·) (valueSum vs) w := by
  induction vs with
  | nil => cases w <;> simp [valueSum]
  | cons v vs ih =>
    have hstep : ∀ u us, valueSum (u :: us) = Option.map₂ (· + ·) u (valueSum us) := fun _ _ => rfl
    rw [List.cons_append, hstep, hstep, ih]
    exact (Option.map₂_assoc add_assoc).symm

/-- The sum of numbers is a number. -/
theorem valueSum_some {α : Type} (x : α → ℚ) (as : List α) :
    valueSum (as.map fun a => some (x a)) = some (as.map x).sum := by
  induction as with
  | nil => rfl
  | cons a as ih =>
    change Option.map₂ (· + ·) (some (x a)) (valueSum (as.map fun a => some (x a))) = _
    rw [ih, List.map_cons, List.sum_cons]
    rfl

/-- The sum with a NULL is NULL. -/
theorem valueSum_none {vs : List (Option ℚ)} (h : none ∈ vs) : valueSum vs = none := by
  induction vs with
  | nil => cases h
  | cons v vs ih =>
    change Option.map₂ (· + ·) v (valueSum vs) = none
    rcases List.mem_cons.1 h with rfl | h
    · exact Option.map₂_none_left _ _
    · rw [ih h, Option.map₂_none_right]

variable {α : Type} {as : List α} {t : Total α}

/-- The total adds up the slots from the left, and puts each new sum in parentheses. -/
inductive SumsUp : List α → Total α → Prop
  | nothing : SumsUp [] (.number 0)
  | first (a : α) : SumsUp [a] (.slot a)
  | next {as : List α} {t : Total α} (b : α) (hne : as ≠ []) (h : SumsUp as t) :
      SumsUp (as ++ [b]) (.enclosed (.plus t (.slot b)))

/-- The total divides the sum of the slots by their number. -/
inductive Averages : List α → Total α → Prop
  | nothing : Averages [] (.number 0)
  | sum {as : List α} {t : Total α} (hne : as ≠ []) (h : SumsUp as t) :
      Averages as (.enclosed (.per t (.number as.length)))

/-- A sum has the slots that it adds up, in their order. -/
theorem SumsUp.slots_eq (h : SumsUp as t) : t.slots = as := by
  induction h with
  | nothing => rfl
  | first a => rfl
  | next b hne h ih => simp [Total.slots, ih]

/-- An average has the slots that it adds up, in their order. -/
theorem Averages.slots_eq (h : Averages as t) : t.slots = as := by
  cases h with
  | nothing => rfl
  | sum hne h => simp [Total.slots, h.slots_eq]

/-- **A sum has the sum of the values.** -/
theorem SumsUp.value_eq (h : SumsUp as t) (v : α → Option ℚ) :
    t.value v = .ok (valueSum (as.map v)) := by
  induction h with
  | nothing => simp [Total.value, valueSum]
  | first a => cases hv : v a <;> simp [Total.value, valueSum, hv]
  | next b hne h ih =>
    rw [List.map_append, List.map_cons, List.map_nil, valueSum_concat, Total.value, Total.value, ih]
    rfl

/-- **An average has the sum of the values divided by their number**, and never divides by
zero. -/
theorem Averages.value_eq (h : Averages as t) (v : α → Option ℚ) :
    t.value v = .ok ((valueSum (as.map v)).map (· / as.length)) := by
  cases h with
  | nothing => simp [Total.value, valueSum]
  | sum hne h =>
    have hlength : (as.length : ℚ) ≠ 0 := by
      simpa [List.length_eq_zero_iff] using hne
    rw [Total.value, Total.value, h.value_eq v]
    cases valueSum (as.map v) with
    | none => rfl
    | some x =>
      change Total.quotient (some x) (some as.length) = _
      rw [Total.quotient, if_neg hlength]
      rfl

section Slots

variable {n : Nat} {t : Total (Fin n)}

theorem valueSum_finRange (x : Fin n → ℚ) :
    valueSum ((List.finRange n).map fun i => some (x i)) = some (∑ i, x i) := by
  rw [valueSum_some, ← List.ofFn_eq_map, List.sum_ofFn]

theorem valueSum_finRange_none {v : Fin n → Option ℚ} (h : ∃ i, v i = none) :
    valueSum ((List.finRange n).map v) = none := by
  obtain ⟨i, hi⟩ := h
  exact valueSum_none (List.mem_map.2 ⟨i, List.mem_finRange i, hi⟩)

/-- A sum computes the sum of its slots. -/
theorem SumsUp.computes (h : SumsUp (List.finRange n) t) : t.Computes fun x => ∑ i, x i := by
  refine ⟨fun x => ?_, fun v hv => ?_⟩
  · rw [h.value_eq, valueSum_finRange]
  · rw [h.value_eq, valueSum_finRange_none hv]

/-- An average computes the sum of its slots, divided by their number. -/
theorem Averages.computes (h : Averages (List.finRange n) t) :
    t.Computes fun x => (∑ i, x i) / n := by
  refine ⟨fun x => ?_, fun v hv => ?_⟩
  · rw [h.value_eq, valueSum_finRange, List.length_finRange]
    rfl
  · rw [h.value_eq, valueSum_finRange_none hv]
    rfl

end Slots

/-! ## The totals of columns -/

/-- The slots added up from the left. -/
def totalOf : List α → Total α
  | [] => .number 0
  | a :: rest => rest.foldl (fun t b => .enclosed (.plus t (.slot b))) (.slot a)

/-- The total of slots adds them up. -/
theorem sumsUp_totalOf (as : List α) : SumsUp as (totalOf as) := by
  cases as with
  | nil => exact .nothing
  | cons a rest =>
    induction rest using List.reverseRecOn with
    | nil => exact .first a
    | append_singleton rest b ih =>
      rw [totalOf, List.foldl_append]
      exact .next b (by simp) ih

/-- The total with expressions in its slots is their sum as it is built. -/
theorem expr_totalOf (content : α → Expr) (as : List α) :
    (totalOf as).expr content = sum (as.map content) := by
  cases as with
  | nil => rfl
  | cons a rest =>
    induction rest using List.reverseRecOn with
    | nil => rfl
    | append_singleton rest b ih =>
      rw [totalOf, sum.eq_def] at ih
      rw [totalOf, List.foldl_append, List.map_cons, List.map_append, sum, List.foldl_append]
      simp only [List.foldl_cons, List.foldl_nil, List.map_cons, List.map_nil, Total.expr, add]
      exact congrArg (fun total => Expr.nested (.binary total .plus (content b))) ih

variable (es : List Expr)

/-- **The sum of columns** is one total of them. -/
theorem exists_sum : ∃ t, SumsUp (List.finRange es.length) t ∧ t.expr es.get = sum es := by
  refine ⟨_, sumsUp_totalOf _, ?_⟩
  rw [expr_totalOf, List.map_get_finRange]

/-- **The average of columns** is one total of them. -/
theorem exists_average :
    ∃ t, Averages (List.finRange es.length) t ∧ t.expr es.get = average es := by
  cases es with
  | nil => exact ⟨_, .nothing, rfl⟩
  | cons e es =>
    obtain ⟨t, ht, hexpr⟩ := exists_sum (e :: es)
    have hne : List.finRange (e :: es).length ≠ [] := by
      simp [List.finRange_succ]
    refine ⟨_, .sum hne ht, ?_⟩
    rw [Total.expr, Total.expr, Total.expr, hexpr, List.length_finRange]
    rfl

end Aggregate

namespace Column

open Aggregate (SumsUp Averages)

variable {rules : ValueRules} {r : Resolver} {sources : List String} {text : String}
  {earlier : List Request} {values : List String} {es : List Sql.Expr}

/-- A placeholder becomes what its hint makes of the columns that were found. -/
theorem run_lookup
    (hanswer : r.answer earlier (.column (Placeholder.parse text) sources) = .ok values)
    (hes : Value.exprs rules values = .ok es) :
    (run rules r earlier (lookup sources text)).result =
      .ok (Aggregate.combine (Placeholder.parse text).hint es) := by
  have hfound : answer rules r earlier (.column (Placeholder.parse text) sources) = .ok es := by
    simp only [answer, hanswer, hes]
    rfl
  simp [run, Plan.run, lookup, Plan.map, Plan.ask, askInOrder, hfound, Except.map]

/-- **Hints compute what they say.**  Let the values that are found for a placeholder stand for
expressions.  With the hint for a sum it becomes one expression: the expressions are slots of a
total, each of them once and in order, which are added up from the left; its value is the sum
of their values.  With the hint for an average the sum is divided by the number of slots.  If a
slot is NULL, the value is NULL, and nothing is divided by zero.  Otherwise the placeholder
becomes the expressions as they are. -/
theorem lookup_combines
    (hanswer : r.answer earlier (.column (Placeholder.parse text) sources) = .ok values)
    (hes : Value.exprs rules values = .ok es) :
    let found := (run rules r earlier (lookup sources text)).result
    match (Placeholder.parse text).hint with
    | some .sum => ∃ t, SumsUp (List.finRange es.length) t ∧ found = .ok [t.expr es.get] ∧
        t.slots = List.finRange es.length ∧ t.Computes fun x => ∑ i, x i
    | some .avg => ∃ t, Averages (List.finRange es.length) t ∧ found = .ok [t.expr es.get] ∧
        t.slots = List.finRange es.length ∧ t.Computes fun x => (∑ i, x i) / es.length
    | some .all | none => found = .ok es := by
  intro found
  have hfound : found = .ok (Aggregate.combine (Placeholder.parse text).hint es) :=
    run_lookup hanswer hes
  rw [hfound]
  cases (Placeholder.parse text).hint with
  | none => rfl
  | some hint =>
    cases hint with
    | all => rfl
    | sum =>
      obtain ⟨t, ht, hexpr⟩ := Aggregate.exists_sum es
      exact ⟨t, ht, by rw [hexpr]; rfl, ht.slots_eq, ht.computes⟩
    | avg =>
      obtain ⟨t, ht, hexpr⟩ := Aggregate.exists_average es
      exact ⟨t, ht, by rw [hexpr]; rfl, ht.slots_eq, ht.computes⟩

/-- The average of `a`, `b` and `2`: with the values `1`, NULL and `2` it is NULL, with `1`, `3`
and `5` it is `3`. -/
theorem lookup_combines_average :
    let rules : ValueRules := ⟨.ansi, false⟩
    let r : Resolver := .ofFunction fun _ => .ok ["a", "b", "2"]
    ∃ t : Aggregate.Total (Fin 3),
      (run rules r [] (lookup ["users"] "Mean:price")).result.toOption.map (List.map Sql.Expr.sql) =
        some ["(((a + b) + 2) / 3)"] ∧
      t.value ![some 1, none, some 2] = .ok none ∧
      t.value (fun i => some (2 * i.val + 1)) = .ok (some 3) := by
  intro rules r
  have hes : Value.exprs rules ["a", "b", "2"] =
      .ok [.identifier (.plain "a"), .identifier (.plain "b"), .number "2"] := by
    rfl
  have hanswer : r.answer [] (.column (Placeholder.parse "Mean:price") ["users"]) =
      .ok ["a", "b", "2"] := rfl
  obtain ⟨t, -, hfound, -, hvalue, hnull⟩ := lookup_combines hanswer hes
  refine ⟨t, ?_, hnull _ ⟨1, rfl⟩, ?_⟩
  · decide +kernel
  · have hmean : (∑ i : Fin 3, (2 * (i.val : ℚ) + 1)) / (3 : ℕ) = 3 := by
      norm_num [Fin.sum_univ_three]
    exact (hvalue fun i => 2 * i.val + 1).trans (congrArg (fun x => Except.ok (some x)) hmean)

end Column
end QueryTemplate
