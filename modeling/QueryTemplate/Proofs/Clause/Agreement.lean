/-
# Clauses that agree

A resolver whose answers depend on the request alone gives each name one list of expressions
(`Column.Resolves`).  With one list for each name, an entry becomes one thing, whatever clause it
stands in.

| in | a column reference `c` with expressions `x`, `y` | any other expression |
| --- | --- | --- |
| the list of `SELECT` | `x`, `y` | itself, with `x` for `c` inside |
| `GROUP BY` | `x`, `y` | itself, with `x` for `c` inside |
| `ORDER BY` | `x`, `y`, both with the direction of `c` | itself, with `x` for `c` inside |
| `WHERE`, `HAVING` | `x` | itself, with `x` for `c` inside |

So equal entries of different clauses become equal (`fill_agrees`), and a query that is grouped
by what it selects stays so.
-/

import QueryTemplate.Proofs.Clause.Replaced

namespace QueryTemplate
namespace Sql

/-! ## Replaced by values -/

/-- The one expression that an expression becomes: each name inside turns into the first
expression that belongs to it, and a name without any stays. -/
def Expr.firstOnly (values : String → List Expr) (e : Expr) : Expr :=
  e.substitute fun name => (values name).head?

section Values

variable {found : String → List Expr → Prop} {values : String → List Expr}

mutual

/-- **Columns whose values are known are replaced by substitution.** -/
theorem Expr.eq_firstOnly (h : ∀ n es, found n es → es = values n) :
    (e e' : Expr) → e.Replaced found e' → e' = e.firstOnly values
  | .column _ name, _, he => by
    cases he with
    | column hfound => simp [Expr.firstOnly, Expr.substitute, ← h _ _ hfound]
    | kept hfound => simp [Expr.firstOnly, Expr.substitute, ← h _ _ hfound]
  | .literal _, _, he => by
    cases he
    rfl
  | .nested inner, _, he => by
    cases he with
    | nested he => exact congrArg _ (inner.eq_firstOnly h _ he)
  | .unary op operand, _, he => by
    cases he with
    | unary he => exact congrArg _ (operand.eq_firstOnly h _ he)
  | .binary left op right, _, he => by
    cases he with
    | binary hl hr =>
      rw [left.eq_firstOnly h _ hl, right.eq_firstOnly h _ hr]
      rfl
  | .phrase parts, _, he => by
    cases he with
    | phrase he => exact congrArg _ (Part.eq_allFirstOnly h parts _ he)
  termination_by structural e => e

/-- A part that is replaced by known values has the first of each in it. -/
theorem Part.eq_firstOnly (h : ∀ n es, found n es → es = values n) :
    (p p' : Part) → p.Replaced found p' → p' = p.substitute fun name => (values name).head?
  | .words _, _, hp => by
    cases hp
    rfl
  | .operand e, _, hp => by
    cases hp with
    | operand he => exact congrArg _ (e.eq_firstOnly h _ he)
  | .deferred e, _, hp => by
    cases hp with
    | deferred he => exact congrArg _ (e.eq_firstOnly h _ he)
  | .enclosed e, _, hp => by
    cases hp with
    | enclosed he => exact congrArg _ (e.eq_firstOnly h _ he)
  termination_by structural p => p

/-- Parts that are replaced by known values have the first of each in them. -/
theorem Part.eq_allFirstOnly (h : ∀ n es, found n es → es = values n) :
    (ps ps' : List Part) → Part.AllReplaced found ps ps' →
      ps' = Part.substituteAll (fun name => (values name).head?) ps
  | [], _, hps => by
    cases hps
    rfl
  | p :: rest, _, hps => by
    cases hps with
    | cons hp hrest =>
      rw [p.eq_firstOnly h _ hp, Part.eq_allFirstOnly h rest _ hrest, Part.substituteAll]
  termination_by structural ps => ps

end

end Values

/-! ## One result -/

section Unique

variable {found : String → List Expr → Prop} (h : Relator.RightUnique found)

include h

/-- A relation that finds one list at most for each name finds what some function gives. -/
theorem exists_values : ∃ values : String → List Expr, ∀ n es, found n es → es = values n := by
  classical
  refine ⟨fun n => if hn : ∃ es, found n es then hn.choose else [], fun n es hes => ?_⟩
  have hn : ∃ es, found n es := ⟨es, hes⟩
  simp only [dif_pos hn]
  exact h hes hn.choose_spec

/-- **An expression is replaced by one expression at most.** -/
theorem Expr.rightUnique_replaced : Relator.RightUnique (Expr.Replaced found) := by
  obtain ⟨values, hvalues⟩ := exists_values h
  intro e x y hx hy
  rw [e.eq_firstOnly hvalues x hx, e.eq_firstOnly hvalues y hy]

/-- **An entry becomes one list of expressions at most.** -/
theorem Expr.rightUnique_expanded : Relator.RightUnique (Expr.Expanded found) := by
  intro e es es' hes hes'
  cases hes with
  | column hfound =>
    cases hes' with
    | column hfound' => exact h hfound hfound'
    | other hname _ => cases hname
  | other hname he =>
    cases hes' with
    | column _ => cases hname
    | other _ he' => rw [Expr.rightUnique_replaced h he he']

end Unique

/-! ## Lists of entries -/

/-- The second list is what the entries of the first one become, in their order. -/
def AllExpanded (found : String → List Expr → Prop) (es es' : List Expr) : Prop :=
  ∃ ess, List.Forall₂ (Expr.Expanded found) es ess ∧ es' = ess.flatten

section Lists

variable {found : String → List Expr → Prop}

/-- The expressions of a `SELECT` list become those of the new list. -/
theorem SelectItem.allExpanded {items : List SelectItem} {groups : List (List SelectItem)}
    (h : List.Forall₂ (SelectItem.Expanded found) items groups) :
    AllExpanded found (items.filterMap Clause.itemExpr?)
      (groups.flatten.filterMap Clause.itemExpr?) := by
  induction h with
  | nil => exact ⟨[], .nil, rfl⟩
  | @cons item group items groups hitem _ ih =>
    obtain ⟨ess, hess, hrest⟩ := ih
    rw [List.flatten_cons, List.filterMap_append, hrest]
    cases hitem with
    | wildcard parts => exact ⟨ess, hess, rfl⟩
    | @column e given es _ hes hnamed =>
      refine ⟨es :: ess, .cons hes hess, ?_⟩
      rw [Clause.namedAll_iff.1 hnamed]
      simp [Clause.itemExpr?, Function.comp_def]

/-- The terms of `GROUP BY` become those of the new clause. -/
theorem GroupBy.Expanded.allExpanded {g g' : GroupBy} (h : g.Expanded found g') :
    AllExpanded found (Clause.groupTerms g) (Clause.groupTerms g') := by
  cases h with
  | all modifiers => exact ⟨[], .nil, rfl⟩
  | terms hes => exact ⟨_, hes, rfl⟩

namespace AllExpanded

variable {es es' fs fs' : List Expr}

/-- A list becomes one list at most. -/
theorem unique (hfound : Relator.RightUnique found) (h : AllExpanded found es es')
    (h' : AllExpanded found es fs') : es' = fs' := by
  obtain ⟨ess, hess, rfl⟩ := h
  obtain ⟨fss, hfss, rfl⟩ := h'
  rw [(Expr.rightUnique_expanded hfound).forall₂ hess hfss]

/-- What is in the new list came from an entry of the old one, and every entry left its
expressions there. -/
theorem mem_iff (hfound : Relator.RightUnique found) (h : AllExpanded found es es') {x : Expr} :
    x ∈ es' ↔ ∃ e ∈ es, ∃ xs, e.Expanded found xs ∧ x ∈ xs := by
  obtain ⟨ess, hess, rfl⟩ := h
  induction hess with
  | nil => simp
  | @cons e xs es ess he _ ih =>
    have hfirst : (∃ ys, e.Expanded found ys ∧ x ∈ ys) ↔ x ∈ xs := by
      constructor
      · rintro ⟨ys, hys, hx⟩
        rwa [Expr.rightUnique_expanded hfound he hys]
      · exact fun hx => ⟨xs, he, hx⟩
    rw [List.flatten_cons, List.mem_append, ih, List.exists_mem_cons_iff, hfirst]

/-- Lists of the same entries become lists of the same expressions. -/
theorem mem_congr (hfound : Relator.RightUnique found) (h : AllExpanded found es es')
    (h' : AllExpanded found fs fs') (hsame : ∀ e, e ∈ es ↔ e ∈ fs) (x : Expr) :
    x ∈ es' ↔ x ∈ fs' := by
  simp only [h.mem_iff hfound, h'.mem_iff hfound, hsame]

end AllExpanded

end Lists

end Sql

/-! ## Filled templates -/

section Filling

variable {o : Options} {r : Resolver} {earlier : List Request} {template : String}

/-- A resolver whose answers depend on the request alone. -/
def Resolver.IsFunction (r : Resolver) : Prop :=
  ∀ before before' request, r.answer before request = r.answer before' request

namespace Column

/-- The expressions that a resolver gives for a name, if it gives an answer. -/
def Resolves (rules : ValueRules) (r : Resolver) (sources : List String) (name : String)
    (es : List Sql.Expr) : Prop :=
  Finds (fun request values => answer rules r [] request = .ok values) sources name es

variable {rules : ValueRules} {sources : List String}

/-- There is no other answer. -/
theorem rightUnique_resolves : Relator.RightUnique (Resolves rules r sources) := by
  rintro name _ _ ⟨values, hvalues, rfl⟩ ⟨values', hvalues', rfl⟩
  rw [Except.ok.inj (hvalues.symm.trans hvalues')]

/-- Whatever was asked before, a request is answered as if it were the first. -/
theorem answer_eq (hr : r.IsFunction) (rules : ValueRules) (before : List Request)
    (request : Request) : answer rules r before request = answer rules r [] request := by
  unfold answer
  rw [hr before []]

/-- What a plan makes of the answers in a trace, it makes of the only answers there are. -/
theorem yields_answer {α : Type} (hr : r.IsFunction) {trace : List Request}
    {p : Plan Sql.Expr α} {a : α} (h : p.Yields (AnsweredIn (answer rules r) trace) a) :
    p.Yields (fun request values => answer rules r [] request = .ok values) a := by
  obtain ⟨answers, hanswers, rfl⟩ := h
  refine ⟨answers, hanswers.imp fun request values h => ?_, rfl⟩
  obtain ⟨before, after, -, hvalues⟩ := h
  rwa [answer_eq hr] at hvalues

end Column

/-- What the resolver gives for the name of a column, now that the tables are known. -/
def Filled.Resolves (f : Filled o r earlier template) : String → List Sql.Expr → Prop :=
  Column.Resolves o.valueRules r (o.sourcesFor f.tables)

/-- **The clauses of a filled template agree.**  When answers depend on the request alone, each
name has one list of expressions.  In the list of `SELECT`, in `GROUP BY` and in `ORDER BY` that
list stands in the place of every entry that is a column of this name; inside any other
expression, and in `WHERE` and `HAVING`, its first element stands for the name, or the name
stays if there is none.  Aliases apart, what an entry becomes does not depend on the clause; so
a query that is grouped by the expressions it selects is so afterwards. -/
theorem fill_agrees (hr : r.IsFunction) {text : String}
    (h : (fill o r earlier template).result = .ok text) :
    ∃ f : Filled o r earlier template, text = f.newQuery.sql ∧
      f.query.Replaced f.Resolves f.conditions f.select f.newQuery f.newSelect ∧
      (∀ name es es', f.Resolves name es → f.Resolves name es' → es = es') ∧
      (∀ (e : Sql.Expr) es es', e.Expanded f.Resolves es → e.Expanded f.Resolves es' →
        es = es') ∧
      (Clause.groupTerms f.select.groupBy = f.select.projection.filterMap Clause.itemExpr? →
        Clause.groupTerms f.newSelect.groupBy =
          f.newSelect.projection.filterMap Clause.itemExpr?) ∧
      ((∀ e, e ∈ Clause.groupTerms f.select.groupBy ↔
          e ∈ f.select.projection.filterMap Clause.itemExpr?) →
        ∀ e, e ∈ Clause.groupTerms f.newSelect.groupBy ↔
          e ∈ f.newSelect.projection.filterMap Clause.itemExpr?) := by
  obtain ⟨f, rfl⟩ := fill_eq_ok_iff.1 h
  have hfound : Relator.RightUnique f.Resolves := Column.rightUnique_resolves
  have hreplaced : f.query.Replaced f.Resolves f.conditions f.select f.newQuery f.newSelect :=
    f.replaced (Column.yields_answer hr f.yields_clauses)
  obtain ⟨groups, hgroups, hprojection⟩ := hreplaced.projection
  have hselected := Sql.SelectItem.allExpanded hgroups
  rw [← hprojection] at hselected
  have hgrouped := hreplaced.groupBy.allExpanded
  refine ⟨f, rfl, hreplaced, fun _ _ _ hes hes' => hfound hes hes', fun e _ _ hes hes' =>
    Sql.Expr.rightUnique_expanded hfound hes hes', fun hsame => ?_, fun hsame => ?_⟩
  · rw [hsame] at hgrouped
    exact hgrouped.unique hfound hselected
  · exact hgrouped.mem_congr hfound hselected hsame

/-- One column with two values, as an entry and inside a call, a `CASE` and a list. -/
theorem fill_grouped : (fill .standard (.ofFunction fun request =>
    .ok (if request.name = "c" then ["x", "y"] else [request.name])) []
      ("SELECT c, ABS(c), CASE WHEN c > 0 THEN c END FROM t WHERE c IN (1, c) " ++
        "GROUP BY c, ABS(c), CASE WHEN c > 0 THEN c END ORDER BY c DESC, ABS(c)")).result =
          .ok ("SELECT x, y, ABS(x) AS \"ABS(x)\", " ++
            "CASE WHEN x > 0 THEN x END AS \"CASE WHEN x > 0 THEN x END\" " ++
            "FROM t WHERE (x IN (1, x)) AND true " ++
            "GROUP BY x, y, ABS(x), CASE WHEN x > 0 THEN x END ORDER BY x DESC, y DESC, ABS(x)") := by
  refine eq_ok_of_toOption ?_
  decide +kernel

/-- The column becomes `x` and `y` in the three lists, and `x` everywhere else. -/
theorem fill_agrees_grouped :
    let answers : Request → Answer := fun request =>
      .ok (if request.name = "c" then ["x", "y"] else [request.name])
    let r : Resolver := .ofFunction answers
    let template := "SELECT c, ABS(c), CASE WHEN c > 0 THEN c END FROM t WHERE c IN (1, c) " ++
      "GROUP BY c, ABS(c), CASE WHEN c > 0 THEN c END ORDER BY c DESC, ABS(c)"
    let text := "SELECT x, y, ABS(x) AS \"ABS(x)\", " ++
      "CASE WHEN x > 0 THEN x END AS \"CASE WHEN x > 0 THEN x END\" " ++
      "FROM t WHERE (x IN (1, x)) AND true " ++
      "GROUP BY x, y, ABS(x), CASE WHEN x > 0 THEN x END ORDER BY x DESC, y DESC, ABS(x)"
    r.IsFunction ∧ (fill .standard r [] template).result = .ok text ∧
      ∃ f : Filled .standard r [] template, text = f.newQuery.sql ∧
        f.Resolves "c" [.identifier (.plain "x"), .identifier (.plain "y")] ∧
        f.query.Replaced f.Resolves f.conditions f.select f.newQuery f.newSelect := by
  intro answers r template text
  have hr : r.IsFunction := fun _ _ _ => rfl
  obtain ⟨f, htext, hreplaced, -⟩ := fill_agrees hr fill_grouped
  have hparse : Placeholder.parse "c" = ⟨"c", none⟩ := by decide +kernel
  have hvalues : Value.exprs Options.standard.valueRules ["x", "y"] =
      .ok [.identifier (.plain "x"), .identifier (.plain "y")] := rfl
  refine ⟨hr, fill_grouped, f, htext, ⟨_, ?_, by rw [hparse]; rfl⟩, hreplaced⟩
  simp [Column.answer, r, answers, Resolver.ofFunction, Column.request, Request.column, hparse,
    hvalues, Except.mapError]

end Filling

end QueryTemplate
