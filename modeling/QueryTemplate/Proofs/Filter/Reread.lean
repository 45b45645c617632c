/-
# Written conditions, read again

The condition that `splice` puts together is written as its parts with `AND` and `OR` in
between; a single further condition gets no parentheses of its own.

| own | further | written |
| --- | --- | --- |
| `w` | `(p)` | `(w) AND (p)` |
| `w` | `(p)`, `(q)` | `(w) AND ((p) OR (q))` |
| `w` | `(p) OR (q)` | `(w) AND (p) OR (q)` |

Read again, `AND` takes the first operand behind it, and `OR` comes last.  In the last row `(q)`
is left outside, and every row of `q` is kept; otherwise the filter means what it should
(`reread_splice`).  A further condition has this form when its text closes the parentheses
that it is read in, as `a = 1) OR (b = 2` does (`reread_opens`).
-/

import QueryTemplate.Proofs.Filter.Truth
import QueryTemplate.Proofs.Grammar.Junction
import QueryTemplate.Value

namespace QueryTemplate
namespace Filter

open Sql (Expr Dialect)
open Sql.Grammar (ReadAs ReadInside orSql orGroup)

variable {d : Dialect}

/-- The condition that a written one is, read again behind `WHERE`. -/
def reread (d : Dialect) (text : String) : Option Expr :=
  match Sql.parseSelect d ("SELECT * FROM T WHERE " ++ text) with
  | .ok (some (_, s)) => s.selection
  | _ => none

/-- The written expression is read as this expression wherever an operand of `AND` or `OR` may
stand in a filter, which is at most six levels below the statement. -/
def IsOperand (d : Dialect) (e : Expr) : Prop := ReadAs d 44 e.sql e

/-- In parentheses, what is read as itself is an operand. -/
theorem isOperand_nested {e : Expr} (h : ReadInside d 43 e.sql e) : IsOperand d (.nested e) := by
  have hsql : (Expr.nested e).sql = "(" ++ e.sql ++ ")" := by simp [Expr.sql]
  rw [IsOperand, hsql]
  exact h.readAs

/-- `true` is an operand wherever it stands. -/
theorem isOperand_true : IsOperand d (.boolean true) := by
  have hsql : (Expr.boolean true).sql = "true" := by simp [Expr.boolean, Expr.sql, Sql.Literal.sql]
  rw [IsOperand, hsql]
  exact (Sql.Grammar.readAs_true d).mono (by decide)

/-! ## What is read -/

/-- **`AND` takes the first operand behind it**, and `OR` comes last. -/
theorem reread_junction {left : String} {a r : Expr} {es : List Expr} {depth : Nat}
    (hdepth : depth ≤ 46) (ha : ReadAs d depth left a) (hr : ReadAs d depth r.sql r)
    (hes : ∀ e ∈ es, ReadAs d depth e.sql e) :
    reread d (left ++ " AND " ++ r.sql ++ orSql es) = some (orGroup (.binary a .and r) es) := by
  obtain ⟨ts, hreads, hspells⟩ := Sql.Grammar.readAs_junction ha hr hes
  obtain ⟨q, found, hparse, hfound⟩ :=
    Sql.Grammar.parseSelect_where hreads fun s hs => hspells 46 s hdepth hs
  simp [reread, hparse, hfound]

/-! ## Operands of `OR` -/

/-- The first of the expressions that stand between `OR` outside of parentheses. -/
def firstChoice : Expr → Expr
  | .binary l .or _ => firstChoice l
  | e => e

/-- The further ones. -/
def laterChoices : Expr → List Expr
  | .binary l .or r => laterChoices l ++ [r]
  | _ => []

/-- The expressions that stand between `OR` outside of parentheses. -/
def choices (e : Expr) : List Expr := firstChoice e :: laterChoices e

/-- Written text groups `OR` to the left, and so does an expression that was read. -/
theorem orGroup_choices (e : Expr) : orGroup (firstChoice e) (laterChoices e) = e := by
  fun_induction firstChoice e with
  | case1 l r ih => simpa [orGroup, laterChoices] using ih
  | case2 e he =>
    unfold laterChoices
    split
    · exact absurd rfl (he _ _)
    · rfl

/-- An expression is printed as its choices with `OR` between them. -/
theorem choices_sql (e : Expr) : (firstChoice e).sql ++ orSql (laterChoices e) = e.sql := by
  rw [← Sql.Grammar.orGroup_sql, orGroup_choices]

/-- Two lists of choices are printed one after the other. -/
theorem orSql_append (es rest : List Expr) : orSql (es ++ rest) = orSql es ++ orSql rest := by
  induction es with
  | nil => simp [orSql]
  | cons e es ih => simp [orSql, ih, String.append_assoc]

/-- Printing expressions between `OR` is printing their choices. -/
theorem orSql_choices (es : List Expr) : orSql (es.flatMap choices) = orSql es := by
  induction es with
  | nil => rfl
  | cons e es ih =>
    rw [List.flatMap_cons, orSql_append, ih, choices, orSql, orSql, ← choices_sql e,
      ← String.append_assoc]

/-- Conditions between `OR` are printed as the first one with the others behind it. -/
theorem anyOf_sql (e : Expr) (rest : List Expr) : (anyOf e rest).sql = e.sql ++ orSql rest := by
  induction rest generalizing e with
  | nil => simp [anyOf, orSql]
  | cons next rest ih => simp [anyOf, orSql, Expr.sql, Sql.BinaryOp.sql, ih, String.append_assoc]

/-- A group of choices is true if any of them is. -/
theorem truth_orGroup (v : Expr → Truth) (e : Expr) (rest : List Expr) :
    (orGroup e rest).truth v = .any ((e :: rest).map (Expr.truth v)) := by
  induction rest generalizing e with
  | nil => simp [orGroup, Truth.any]
  | cons r rest ih =>
    have := ih (.binary e .or r)
    simp only [orGroup, List.foldl_cons] at this ⊢
    simp [this, Truth.or_assoc]

/-- Expressions are true together as their choices are. -/
theorem truth_choices (v : Expr → Truth) (es : List Expr) :
    .any ((es.flatMap choices).map (Expr.truth v)) = Truth.any (es.map (Expr.truth v)) := by
  induction es with
  | nil => rfl
  | cons e es ih =>
    have he : .any ((choices e).map (Expr.truth v)) = e.truth v := by
      rw [choices, ← truth_orGroup, orGroup_choices]
    rw [List.flatMap_cons, List.map_append, Truth.any_append, ih, he]
    rfl

/-! ## The filter -/

/-- What `AND` takes of the further conditions. -/
def taken : List Expr → Expr
  | [] => .boolean true
  | [e] => firstChoice e
  | e :: rest => .nested (orGroup (firstChoice e) (laterChoices e ++ rest.flatMap choices))

/-- What it leaves: a single condition gets no parentheses. -/
def outside : List Expr → List Expr
  | [e] => laterChoices e
  | _ => []

/-- Further conditions are printed as what `AND` takes, and what stands outside behind it. -/
theorem further_sql (conditions : List Expr) :
    (further conditions).sql = (taken conditions).sql ++ orSql (outside conditions) := by
  match conditions with
  | [] => simp [further, taken, outside, orSql]
  | [e] => rw [further, taken, outside, choices_sql]
  | e :: next :: rest =>
    have hchain : (anyOf e (next :: rest)).sql =
        (orGroup (firstChoice e) (laterChoices e ++ (next :: rest).flatMap choices)).sql := by
      rw [anyOf_sql, Sql.Grammar.orGroup_sql, orSql_append, orSql_choices, ← String.append_assoc,
        choices_sql]
    simp only [further, taken, outside, Expr.sql, orSql, String.append_empty, hchain]

/-- Nothing is lost between the two. -/
theorem truth_taken (v : Expr → Truth) (conditions : List Expr) :
    ((taken conditions).truth v).or (.any ((outside conditions).map (Expr.truth v))) =
      (further conditions).truth v := by
  match conditions with
  | [] => simp [further, taken, outside, Truth.any]
  | [e] =>
    have he := congrArg (Expr.truth v) (orGroup_choices e)
    rwa [truth_orGroup, List.map_cons, Truth.any_cons] at he
  | e :: next :: rest =>
    -- the chain in parentheses is flat, but each condition may have been one of its own
    have hall := truth_choices v (e :: next :: rest)
    rw [List.flatMap_cons, choices, List.cons_append] at hall
    simp only [taken, outside, further, Expr.truth_nested, truth_orGroup, truth_anyOf, hall]
    exact Truth.or_no _

/-- What `AND` takes is an operand if the operands of `OR` are. -/
theorem readAs_taken {conditions : List Expr}
    (h : ∀ e ∈ conditions, ∀ x ∈ choices e, IsOperand d x) :
    ReadAs d 46 (taken conditions).sql (taken conditions) := by
  match conditions with
  | [] => exact isOperand_true.mono (by decide)
  | [e] => exact ReadAs.mono (h e (by simp) (firstChoice e) (by simp [choices])) (by decide)
  | e :: next :: rest =>
    have hlater : ∀ r ∈ laterChoices e ++ (next :: rest).flatMap choices, IsOperand d r := by
      intro r hr
      rcases List.mem_append.1 hr with hr | hr
      · exact h e (by simp) r (by simp [choices, hr])
      · obtain ⟨x, hx, hr⟩ := List.mem_flatMap.1 hr
        exact h x (List.mem_cons_of_mem e hx) r hr
    have hinside :=
      Sql.Grammar.readInside_or (h e (by simp) (firstChoice e) (by simp [choices])) hlater
    have hsql : (taken (e :: next :: rest)).sql = "(" ++ (orGroup (firstChoice e)
        (laterChoices e ++ (next :: rest).flatMap choices)).sql ++ ")" := by
      simp only [taken, Expr.sql]
    rw [hsql]
    exact hinside.readAs

/-- What stands outside is an operand if the choices of every condition are. -/
theorem isOperand_of_mem_outside {conditions : List Expr}
    (h : ∀ e ∈ conditions, ∀ x ∈ choices e, IsOperand d x) :
    ∀ x ∈ outside conditions, IsOperand d x := by
  intro x hx
  match conditions, hx with
  | [e], hx => exact h e (by simp) x (by rw [outside] at hx; simp [choices, hx])

/-- A filter is printed as the query's own condition, `AND` and the further ones. -/
theorem splice_sql (selection : Option Expr) (conditions : List Expr) :
    (splice selection conditions).sql =
      (own selection).sql ++ " AND " ++ (further conditions).sql := by
  simp [splice, Expr.sql, Sql.BinaryOp.sql, String.append_assoc]

/-- The written filter, read again: what `AND` does not take stays outside. -/
theorem reread_splice_eq {selection : Option Expr} {conditions : List Expr}
    (hown : IsOperand d (own selection))
    (hfurther : ∀ e ∈ conditions, ∀ x ∈ choices e, IsOperand d x) :
    reread d (splice selection conditions).sql =
      some (orGroup (.binary (own selection) .and (taken conditions)) (outside conditions)) := by
  rw [splice_sql, further_sql, ← String.append_assoc]
  exact reread_junction (Nat.le_refl 46) (hown.mono (by decide)) (readAs_taken hfurther)
    fun e he => (isOperand_of_mem_outside hfurther e he).mono (by decide)

/-- **When the filter means what it should.**  Let the own condition be an operand, and each
further one operands with `OR` in between.  The written filter is read as an expression that
is true, false or unknown just as the own condition together with any of the further ones is,
except for rows where the own condition changes what is left outside.  It keeps a row against
the own condition just when something that is left outside is true. -/
theorem reread_splice {selection : Option Expr} {conditions : List Expr}
    (hown : IsOperand d (own selection))
    (hfurther : ∀ e ∈ conditions, ∀ x ∈ choices e, IsOperand d x) :
    ∃ e, reread d (splice selection conditions).sql = some e ∧ ∀ v,
      let rest : Truth := .any ((outside conditions).map (Expr.truth v))
      (e.truth v = meaning v selection conditions ↔
        ((own selection).truth v).and rest = rest) ∧
      (e.truth v = .yes ∧ (own selection).truth v ≠ .yes ↔
        rest = .yes ∧ (own selection).truth v ≠ .yes) := by
  refine ⟨_, reread_splice_eq hown hfurther, fun v => ?_⟩
  rw [truth_orGroup, List.map_cons, Truth.any_cons, Expr.truth_and, ← truth_splice, splice,
    Expr.truth_and, ← truth_taken]
  exact ⟨Truth.and_or_eq_iff, Truth.and_or_eq_yes_iff⟩

/-- `a` and `b` as conditions: `(a) AND ((b) OR (a))`. -/
theorem reread_splice_columns :
    let column (name : String) : Expr := .identifier (.plain name)
    let conditions : List Expr := [.nested (column "b"), .nested (column "a")]
    ∃ e, reread .ansi (splice (some (column "a")) conditions).sql = some e ∧
      ∀ v, e.truth v = meaning v (some (column "a")) conditions := by
  intro column conditions
  have hinside : ∀ name ∈ ["a", "b"], IsOperand .ansi (.nested (column name)) := by
    intro name hname
    have hsql : (column name).sql = name := by
      simp [column, Expr.identifier, Expr.sql, Sql.dotted, Sql.Ident.sql, Sql.Ident.plain]
    simp only [List.mem_cons, List.not_mem_nil, or_false] at hname
    refine isOperand_nested ⟨.word name none, [], ?_, ?_, ?_⟩
    · rcases hname with rfl | rfl <;> decide
    · intro rest
      rw [hsql]
      refine Sql.Lexer.reads_word ?_ Sql.Lexer.breaks_close
      rcases hname with rfl | rfl <;> decide
    · intro n u b p q s hn hu
      obtain ⟨m, rfl⟩ := Nat.exists_eq_add_of_le' hn
      obtain ⟨b', p', q', u', rfl, hu'⟩ := hu.item rfl
      obtain rfl := Sql.Grammar.Item.Spells.nil_iff.1 hu'
      rcases hname with rfl | rfl <;> rfl
  have hfurther : ∀ e ∈ conditions, ∀ x ∈ choices e, IsOperand .ansi x := by
    intro e he x hx
    simp only [conditions, List.mem_cons, List.not_mem_nil, or_false] at he
    have hx : x = e := by
      rcases he with rfl | rfl <;> simpa [choices, firstChoice, laterChoices] using hx
    subst hx
    rcases he with rfl | rfl <;> exact hinside _ (by simp)
  have hown : IsOperand .ansi (own (some (column "a"))) := hinside "a" (by simp)
  obtain ⟨e, he, htruth⟩ := reread_splice hown hfurther
  refine ⟨e, he, fun v => (htruth v).1.2 ?_⟩
  rw [show outside conditions = [] from rfl]
  exact Truth.and_no _

/-- **A further condition may open the filter.**  The written condition, read again, accepts
a row that the own condition `w = 0` of the query rejects. -/
theorem reread_opens : ∃ w p e v, reread .ansi "w = 0" = some w ∧
    Sql.parseCondition .ansi (escapeOperators "a = 1) OR (b = 2") = .ok p ∧
    reread .ansi (splice (some w) [p]).sql = some e ∧
    meaning v (some w) [p] = .no ∧ e.truth v = .yes := by
  let v : Expr → Truth := fun e => if e.sql = "b = 2" then .yes else .no
  have hrun : (do
      let w ← reread .ansi "w = 0"
      let p ← (Sql.parseCondition .ansi (escapeOperators "a = 1) OR (b = 2")).toOption
      let e ← reread .ansi (splice (some w) [p]).sql
      return (meaning v (some w) [p], e.truth v)) = some (.no, .yes) := by
    decide +kernel
  obtain ⟨w, hw, hrun⟩ := Option.bind_eq_some_iff.1 hrun
  obtain ⟨p, hp, hrun⟩ := Option.bind_eq_some_iff.1 hrun
  obtain ⟨e, he, hrun⟩ := Option.bind_eq_some_iff.1 hrun
  obtain ⟨hmeaning, htruth⟩ := Prod.mk.inj (Option.some.inj hrun)
  refine ⟨w, p, e, v, hw, ?_, he, hmeaning, htruth⟩
  cases hcondition : Sql.parseCondition .ansi (escapeOperators "a = 1) OR (b = 2") with
  | error e => simp [hcondition, Except.toOption] at hp
  | ok q => simpa [hcondition, Except.toOption] using hp

end Filter
end QueryTemplate
