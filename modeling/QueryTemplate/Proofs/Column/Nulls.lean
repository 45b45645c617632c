/-
# Values that are NULL

A value may be the word `null`, and then it stands for `NULL` like any other value stands for an
expression.  Such values are not put aside: each of them leaves one `NULL` more in what the
placeholder becomes, and it counts as one of the columns of an average.

| values | none, `all` | sum | average |
| --- | --- | --- | --- |
| `x` | `x` | `x` | `(x / 1)` |
| `null`, `x` | `NULL`, `x` | `(NULL + x)` | `((NULL + x) / 2)` |

So a placeholder becomes the same without its `null` values just if it has none of them, or if one
of its values cannot be read (`lookup_keeps_nulls`).
-/

import QueryTemplate.Proofs.Column.Totals

namespace QueryTemplate

namespace Sql

/-- Whether an expression is the constant `NULL`. -/
def Expr.isNull : Expr → Bool
  | .literal .null => true
  | _ => false

/-- How often `NULL` is an operand, in parentheses and binary operators. -/
def Expr.nulls : Expr → Nat
  | .literal .null => 1
  | .nested inner => inner.nulls
  | .binary left _ right => left.nulls + right.nulls
  | _ => 0
  termination_by structural e => e

/-- NULL has one NULL. -/
theorem Expr.nulls_of_isNull {e : Expr} (h : e.isNull = true) : e.nulls = 1 := by
  unfold Expr.isNull at h
  split at h
  · rfl
  · cases h

end Sql

open Sql (Expr)

/-! ## What hints make of them -/

namespace Aggregate

/-- Adding up expressions adds up their NULLs. -/
theorem nulls_foldl_add (total : Expr) (es : List Expr) :
    (es.foldl add total).nulls = total.nulls + (es.map Expr.nulls).sum := by
  induction es generalizing total with
  | nil => rfl
  | cons e es ih =>
    have hadd : (add total e).nulls = total.nulls + e.nulls := rfl
    rw [List.foldl_cons, ih, hadd, List.map_cons, List.sum_cons, Nat.add_assoc]

/-- A sum has the NULLs of what it adds up. -/
theorem nulls_sum (es : List Expr) : (sum es).nulls = (es.map Expr.nulls).sum := by
  cases es with
  | nil => rfl
  | cons e es => exact nulls_foldl_add e es

/-- An average has the NULLs of what it adds up. -/
theorem nulls_average (es : List Expr) : (average es).nulls = (es.map Expr.nulls).sum := by
  cases es with
  | nil => rfl
  | cons e es => exact nulls_sum (e :: es)

/-- **No hint adds or drops a `NULL`.** -/
theorem nulls_combine (hint : Option Hint) (es : List Expr) :
    ((combine hint es).map Expr.nulls).sum = (es.map Expr.nulls).sum := by
  match hint with
  | none | some .all => rfl
  | some .sum => exact nulls_sum es
  | some .avg => exact nulls_average es

/-- Every expression that is `NULL` accounts for one. -/
theorem nulls_eq_add_countP (es : List Expr) : (es.map Expr.nulls).sum =
    ((es.filter fun e => !e.isNull).map Expr.nulls).sum + es.countP Expr.isNull := by
  induction es with
  | nil => rfl
  | cons e es ih =>
    cases he : e.isNull with
    | true =>
      simp [he, Expr.nulls_of_isNull he, ih]
      omega
    | false =>
      simp [he, ih]
      omega

/-- What a hint makes of expressions has one `NULL` more than without those that are `NULL`, for
each of them. -/
theorem nulls_combine_filter (hint : Option Hint) (es : List Expr) :
    ((combine hint es).map Expr.nulls).sum =
      ((combine hint (es.filter fun e => !e.isNull)).map Expr.nulls).sum +
        es.countP Expr.isNull := by
  rw [nulls_combine, nulls_combine, nulls_eq_add_countP]

/-- Leaving NULLs out changes a combination exactly if there are any. -/
theorem combine_filter_eq_iff (hint : Option Hint) (es : List Expr) :
    combine hint es = combine hint (es.filter fun e => !e.isNull) ↔
      ∀ e ∈ es, e.isNull = false := by
  constructor
  · intro h
    have hcount := nulls_combine_filter hint es
    rw [← h] at hcount
    have hzero : es.countP Expr.isNull = 0 := by omega
    simpa [List.countP_eq_zero] using hzero
  · intro h
    rw [List.filter_eq_self.2 (by simpa using h)]

end Aggregate

/-! ## What values make of them -/

namespace Value

variable {rules : ValueRules} {values : List String}

/-- Whether a value stands for `NULL`. -/
def isNull (rules : ValueRules) (raw : String) : Bool :=
  match expr rules raw with
  | .ok e => e.isNull
  | .error _ => false

/-- The values that do not stand for `NULL`. -/
def withoutNulls (rules : ValueRules) (values : List String) : List String :=
  values.filter fun raw => !isNull rules raw

/-- A value is classified as NULL exactly if its expression is. -/
theorem isNull_of_expr {raw : String} {e : Expr} (h : expr rules raw = .ok e) :
    isNull rules raw = e.isNull := by
  simp [isNull, h]

/-- **Without the values that are `NULL`, the same expressions are found without these**, and the
same failure. -/
theorem exprs_withoutNulls (values : List String) : exprs rules (withoutNulls rules values) =
    (exprs rules values).map (List.filter fun e => !e.isNull) := by
  induction values with
  | nil => rfl
  | cons raw values ih =>
    cases hraw : expr rules raw with
    | error e =>
      have hkept : withoutNulls rules (raw :: values) = raw :: withoutNulls rules values := by
        simp [withoutNulls, isNull, hraw]
      simp [hkept, exprs, hraw, Except.map]
    | ok e =>
      have hnull := isNull_of_expr hraw
      cases he : e.isNull with
      | true =>
        have hdropped : withoutNulls rules (raw :: values) = withoutNulls rules values := by
          simp [withoutNulls, hnull, he]
        rw [hdropped, ih, exprs, hraw]
        cases exprs rules values <;> simp [Except.map, he]
      | false =>
        have hkept : withoutNulls rules (raw :: values) = raw :: withoutNulls rules values := by
          simp [withoutNulls, hnull, he]
        rw [hkept, exprs, exprs, hraw, ih]
        cases exprs rules values <;> simp [Except.map, he]

/-- As many expressions are NULL as values are. -/
theorem countP_isNull {es : List Expr} (h : exprs rules values = .ok es) :
    es.countP Expr.isNull = values.countP (isNull rules) := by
  induction values generalizing es with
  | nil =>
    obtain rfl : [] = es := Except.ok.inj h
    rfl
  | cons raw values ih =>
    rw [exprs] at h
    cases hraw : expr rules raw with
    | error e => simp [hraw] at h
    | ok e =>
      cases hrest : exprs rules values with
      | error e' => simp [hraw, hrest, Except.map] at h
      | ok es' =>
        obtain rfl : e :: es' = es := by simpa [hraw, hrest, Except.map] using h
        rw [List.countP_cons, List.countP_cons, ih hrest, isNull_of_expr hraw]

end Value

/-! ## What placeholders become -/

namespace Column

variable {rules : ValueRules} {r r' : Resolver} {sources : List String} {text : String}
  {earlier earlier' : List Request} {values : List String}

/-- What a placeholder becomes follows from the values that are found for it. -/
theorem run_lookup_eq
    (hanswer : r.answer earlier (.column (Placeholder.parse text) sources) = .ok values) :
    (run rules r earlier (lookup sources text)).result =
      ((Value.exprs rules values).mapError .parse).map
        (Aggregate.combine (Placeholder.parse text).hint) := by
  cases hes : Value.exprs rules values with
  | ok es => exact run_lookup hanswer hes
  | error e =>
    have hfound : answer rules r earlier (.column (Placeholder.parse text) sources) =
        .error (.parse e) := by
      simp only [answer, hanswer, hes]
      rfl
    simp [run, Plan.run, lookup, Plan.map, Plan.ask, askInOrder, hfound, Except.map,
      Except.mapError]

/-- **Values that stand for `NULL` are kept.**  Let one resolver give `values` for a placeholder,
and another one the same values without those that stand for `NULL`.  Both lookups fail alike if
a value cannot be read.  Otherwise the first result has one `NULL` more than the second for each
value that was left out, whatever the hint is.  So the results are the same just if no value
stands for `NULL`, or a value cannot be read. -/
theorem lookup_keeps_nulls
    (hanswer : r.answer earlier (.column (Placeholder.parse text) sources) = .ok values)
    (hanswer' : r'.answer earlier' (.column (Placeholder.parse text) sources) =
      .ok (Value.withoutNulls rules values)) :
    let found := (run rules r earlier (lookup sources text)).result
    let cleaned := (run rules r' earlier' (lookup sources text)).result
    (∀ e, found = .error e ↔ cleaned = .error e) ∧
    (∀ es es', found = .ok es → cleaned = .ok es' → (es.map Expr.nulls).sum =
      (es'.map Expr.nulls).sum + values.countP (Value.isNull rules)) ∧
    (found = cleaned ↔ (∃ e, Value.exprs rules values = .error e) ∨
      ∀ raw ∈ values, Value.isNull rules raw = false) := by
  intro found cleaned
  have hfound : found = _ := run_lookup_eq hanswer
  have hcleaned : cleaned = _ := run_lookup_eq hanswer'
  rw [Value.exprs_withoutNulls] at hcleaned
  cases hes : Value.exprs rules values with
  | error e =>
    have heq : found = cleaned := by simp [hfound, hcleaned, hes, Except.map, Except.mapError]
    refine ⟨fun e => by rw [heq], fun es es' h => ?_, iff_of_true heq (.inl ⟨e, rfl⟩)⟩
    simp [hfound, hes, Except.map, Except.mapError] at h
  | ok es =>
    have hcount := Value.countP_isNull hes
    replace hfound : found = .ok (Aggregate.combine (Placeholder.parse text).hint es) := by
      simp [hfound, hes, Except.map, Except.mapError]
    replace hcleaned : cleaned = .ok (Aggregate.combine (Placeholder.parse text).hint
        (es.filter fun e => !e.isNull)) := by
      simp [hcleaned, hes, Except.map, Except.mapError]
    rw [hfound, hcleaned]
    refine ⟨by simp, ?_, ?_⟩
    · rintro _ _ ⟨⟩ ⟨⟩
      rw [← hcount]
      exact Aggregate.nulls_combine_filter _ es
    · rw [Except.ok.injEq, Aggregate.combine_filter_eq_iff]
      have hiff : (∀ e ∈ es, e.isNull = false) ↔ ∀ raw ∈ values, Value.isNull rules raw = false := by
        have hzero := List.countP_eq_zero (p := Expr.isNull) (l := es)
        have hzero' := List.countP_eq_zero (p := Value.isNull rules) (l := values)
        rw [hcount] at hzero
        simpa using hzero.symm.trans hzero'
      simp [hiff]

/-- The average of `null` and `x` is taken over two columns. -/
theorem lookup_keeps_nulls_average :
    let rules : ValueRules := ⟨.ansi, false⟩
    let r : Resolver := .ofFunction fun _ => .ok ["null", "x"]
    let r' : Resolver := .ofFunction fun _ => .ok ["x"]
    let p := Placeholder.parse "avg:a"
    r.answer [] (.column p []) = .ok ["null", "x"] ∧
      r'.answer [] (.column p []) = .ok (Value.withoutNulls rules ["null", "x"]) ∧
      (run rules r [] (lookup [] "avg:a")).result ≠ (run rules r' [] (lookup [] "avg:a")).result := by
  intro rules r r' p
  have hanswer : r.answer [] (.column p []) = .ok ["null", "x"] := rfl
  have hanswer' : r'.answer [] (.column p []) = .ok (Value.withoutNulls rules ["null", "x"]) := rfl
  have hread : Value.exprs rules ["null", "x"] = .ok [.literal .null, .identifier (.plain "x")] :=
    rfl
  have hnull : Value.isNull rules "null" = true := rfl
  refine ⟨hanswer, hanswer', fun h => ?_⟩
  rcases (lookup_keeps_nulls hanswer hanswer').2.2.1 h with ⟨e, he⟩ | hnone
  · cases hread.symm.trans he
  · cases hnull.symm.trans (hnone "null" (by simp))

/-- **A value `null` becomes a column `NULL`**, and makes a sum `NULL`. -/
theorem lookup_finds_null :
    let rules : ValueRules := ⟨.ansi, false⟩
    let values := ["null", "x"]
    let x : Expr := .identifier (.plain "x")
    let found (values : List String) (text : String) :=
      (run rules (.ofFunction fun _ => .ok values) [] (lookup [] text)).result
    found (Value.withoutNulls rules values) "a" = .ok [x] ∧
      found values "a" = .ok [.literal .null, x] ∧
      found (Value.withoutNulls rules values) "sum:a" = .ok [x] ∧
      found values "sum:a" = .ok [.nested (.binary (.literal .null) .plus x)] :=
  ⟨rfl, rfl, rfl, rfl⟩

end Column
end QueryTemplate
