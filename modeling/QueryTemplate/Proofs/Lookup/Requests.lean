/-
# The requests of a template

When answers come at once, the requests of a template are fixed in advance: one for each
table of `FROM`, and then, once these tables are known, those of the clauses
(`Clauses.requests_fill`).

| entry | requests |
| --- | --- |
| of `SELECT`, `GROUP BY`, `ORDER BY`, a column reference | one, for its name |
| of these clauses, anything else | one for each name inside |
| `WHERE`, `HAVING` | one for each name inside |
| a wildcard of `SELECT` | none |

This file computes them, and says for which names of which expressions they are made
(`Sql.Query.mem_columnRequests_iff`).
-/

import Mathlib.Data.List.Induction
import QueryTemplate.Fill
import QueryTemplate.Proofs.Lookup.Asked

namespace QueryTemplate

open Sql (Expr)

/-! ## Names without repeats -/

namespace Sql

/-- A name at the end is new exactly if it did not stand before. -/
theorem distinct_concat (names : List String) (n : String) :
    distinct (names ++ [n]) =
      if n ∈ distinct names then distinct names else distinct names ++ [n] := by
  simp [distinct, List.foldl_append]

/-- Making names distinct loses none. -/
@[simp] theorem mem_distinct {names : List String} {n : String} :
    n ∈ distinct names ↔ n ∈ names := by
  induction names using List.reverseRecOn with
  | nil => simp [distinct]
  | append_singleton names m ih =>
    rw [distinct_concat]
    split
    · rename_i hm
      rw [ih, List.mem_append, List.mem_singleton]
      refine ⟨.inl, fun h => h.elim id ?_⟩
      rintro rfl
      exact ih.1 hm
    · simp [ih]

/-- Distinct names stand once. -/
theorem nodup_distinct (names : List String) : (distinct names).Nodup := by
  induction names using List.reverseRecOn with
  | nil => simp [distinct]
  | append_singleton names n ih =>
    rw [distinct_concat]
    split
    · exact ih
    · rename_i hn
      refine List.nodup_append.2 ⟨ih, by simp, ?_⟩
      intro m hm n' hn'
      rw [List.mem_singleton.1 hn']
      rintro rfl
      exact hn hm

end Sql

/-! ## The requests of the clauses -/

namespace Column

/-- The request for the text of a placeholder, for a query from the tables `sources`. -/
def request (sources : List String) (text : String) : Request :=
  .column (Placeholder.parse text) sources

/-- The requests for the names inside an expression, each name once. -/
def insideRequests (sources : List String) (e : Expr) : List Request :=
  e.placeholders.map (request sources)

/-- Every name inside an expression is asked for, and nothing else is. -/
theorem mem_insideRequests_iff {sources : List String} {e : Expr} {r : Request} :
    r ∈ insideRequests sources e ↔ ∃ n ∈ e.references, r = request sources n := by
  simp [insideRequests, Expr.placeholders, eq_comm]

/-- A column reference has one name inside, its own. -/
theorem insideRequests_of_columnName? {sources : List String} {e : Expr} {name : String}
    (h : e.columnName? = some name) : insideRequests sources e = [request sources name] := by
  cases e with
  | column qualifier i =>
    obtain rfl := Option.some.inj h
    rfl
  | _ => cases h

@[simp] theorem requests_lookup (sources : List String) (text : String) :
    (lookup sources text).requests = [request sources text] := rfl

/-- A substitution asks for the names inside the expression. -/
@[simp] theorem requests_substitute (sources : List String) (e : Expr) :
    (substitute sources e).requests = insideRequests sources e := by
  simp [substitute, insideRequests, List.flatMap_map, ← List.map_eq_flatMap]

/-- A column reference is asked for as an entry just as it is inside an expression. -/
@[simp] theorem requests_expand (sources : List String) (e : Expr) :
    (expand sources e).requests = insideRequests sources e := by
  cases e with
  | column qualifier name => rfl
  | _ => exact requests_substitute sources _

end Column

namespace Clause

/-- The expression of an entry of `SELECT`; a wildcard has none. -/
def itemExpr? : Sql.SelectItem → Option Expr
  | .wildcard _ => none
  | .column e _ => some e

/-- The terms of `GROUP BY`. -/
def groupTerms : Sql.GroupBy → List Expr
  | .all _ => []
  | .terms es _ => es

/-- The terms of `ORDER BY`, if there are any. -/
def orderTerms (o : Option Sql.OrderBy) : List Sql.OrderTerm := (o.map Sql.OrderBy.terms).getD []

/-- The entries of `ORDER BY` without their directions. -/
def orderExprs (o : Option Sql.OrderBy) : List Expr := (orderTerms o).map Sql.OrderTerm.expr

/-- The requests of an entry of `SELECT`. -/
def itemRequests (sources : List String) (i : Sql.SelectItem) : List Request :=
  (itemExpr? i).toList.flatMap (Column.insideRequests sources)

variable (sources : List String)

/-- An item asks for the names inside its expression. -/
@[simp] theorem requests_selectItem (i : Sql.SelectItem) :
    (selectItem sources i).requests = itemRequests sources i := by
  cases i <;> simp [selectItem, itemRequests, itemExpr?]

/-- A projection asks for its items one after the other. -/
@[simp] theorem requests_projection (items : List Sql.SelectItem) :
    (projection sources items).requests = items.flatMap (itemRequests sources) := by
  simp [projection, List.flatMap_map]

/-- A condition asks for the names inside it. -/
@[simp] theorem requests_condition (e : Option Expr) :
    (condition sources e).requests = e.toList.flatMap (Column.insideRequests sources) := by
  cases e <;> simp [condition]

/-- A grouping asks for its terms one after the other. -/
@[simp] theorem requests_groupBy (g : Sql.GroupBy) :
    (groupBy sources g).requests = (groupTerms g).flatMap (Column.insideRequests sources) := by
  cases g <;> simp [groupBy, groupTerms, List.flatMap_map]

/-- An ordering asks for its expressions one after the other. -/
@[simp] theorem requests_orderBy (o : Option Sql.OrderBy) :
    (orderBy sources o).requests = (orderExprs o).flatMap (Column.insideRequests sources) := by
  cases o <;> simp [orderBy, orderTerm, orderExprs, orderTerms, List.flatMap_map]

/-- The entries of a list ask for the names in their expressions. -/
theorem flatMap_itemRequests (items : List Sql.SelectItem) :
    items.flatMap (itemRequests sources) =
      (items.filterMap itemExpr?).flatMap (Column.insideRequests sources) := by
  induction items with
  | nil => rfl
  | cons i items ih => cases i <;> simp [itemRequests, List.filterMap_cons, itemExpr?, ih]

end Clause

/-- The expressions of a query that are searched for columns, in the order in which this is
done. -/
def Sql.Query.entries (q : Sql.Query) (s : Sql.Select) : List Expr :=
  s.projection.filterMap Clause.itemExpr? ++ s.selection.toList ++ s.having.toList ++
    Clause.groupTerms s.groupBy ++ Clause.orderExprs q.orderBy

/-- The requests for the columns of a query from the tables `sources`. -/
def Sql.Query.columnRequests (q : Sql.Query) (s : Sql.Select) (sources : List String) :
    List Request :=
  (q.entries s).flatMap (Column.insideRequests sources)

/-- **The clauses of a query ask for its entries one after the other.** -/
@[simp] theorem Clauses.requests_fill (q : Sql.Query) (s : Sql.Select) (sources : List String) :
    ((ofQuery q s).fill sources).requests = q.columnRequests s sources := by
  simp [fill, ofQuery, Sql.Query.columnRequests, Sql.Query.entries, Clause.flatMap_itemRequests]

/-- **The names in the entries of a query are asked for**, and nothing else is. -/
theorem Sql.Query.mem_columnRequests_iff {q : Sql.Query} {s : Sql.Select} {sources : List String}
    {r : Request} : r ∈ q.columnRequests s sources ↔
      ∃ e ∈ q.entries s, ∃ n ∈ e.references, r = Column.request sources n := by
  simp only [columnRequests, List.mem_flatMap, Column.mem_insideRequests_iff]

/-! ## The requests for tables -/

namespace Table

/-- The names of a `FROM` list are those of its relations, joined ones included. -/
theorem placeholders_eq_ok_iff {sources : List Sql.Source} {names : List String} :
    placeholders sources = .ok names ↔
      List.Forall₂ (fun r name => placeholder r = .ok name)
        (sources.flatMap Sql.Source.relations) names := by
  unfold placeholders
  generalize sources.flatMap Sql.Source.relations = relations
  induction relations generalizing names with
  | nil => simp [relationPlaceholders, eq_comm]
  | cons r rest ih =>
    rw [relationPlaceholders]
    cases hr : placeholder r with
    | error e => simp [List.forall₂_cons_left_iff, hr]
    | ok name =>
      cases hrest : relationPlaceholders rest with
      | error e =>
        have : ∀ ns, ¬ List.Forall₂ (fun r name => placeholder r = .ok name) rest ns :=
          fun ns h => by simpa [hrest] using ih.2 h
        simp [List.forall₂_cons_left_iff, this, Except.map]
      | ok rest' =>
        have hrest' := ih.1 hrest
        constructor
        · intro h
          obtain rfl : name :: rest' = names := by simpa [Except.map] using h
          exact .cons hr hrest'
        · intro h
          obtain ⟨n, ns, hn, hns, rfl⟩ := List.forall₂_cons_left_iff.1 h
          rw [hr] at hn
          have hns := ih.2 hns
          rw [hrest] at hns
          simp_all [Except.map]

end Table

namespace Tables

/-- Tables are asked for by name, one after the other. -/
@[simp] theorem requests_plan (names : List String) :
    (plan names).requests = names.map Request.table := by
  simp [plan, List.flatMap_map, ← List.map_eq_flatMap]

/-- The plan for tables sorts all values that came, in the order of the tables. -/
theorem finish_plan (names : List String) (answers : List (List String))
    (h : answers.length = names.length) :
    (plan names).finish answers = ofValues answers.flatten := by
  have hall := Plan.finish_all_ask (names.map Request.table) answers (by simpa using h)
  rw [List.map_map] at hall
  exact congrArg (fun found => ofValues found.flatten) hall

end Tables

/-- The names of the tables that columns are looked up for. -/
def Options.sourcesFor (o : Options) (t : Tables) : List String :=
  (o.tablesOr t.names).map Sql.Ident.text

/-! ## The requests of a template -/

section Filling

variable {o : Options} {r : Resolver} {earlier : List Request}

/-- The tables that a resolver gives for a `FROM` list whose names are known. -/
theorem Tables.resolve_eq {sources : List Sql.Source} {names : List String}
    (hn : Table.placeholders sources = .ok names) :
    Tables.resolve r earlier sources =
      let t := askInOrder (Table.answer r) earlier (names.map Request.table)
      ⟨if r.delayed then names.map Request.table else t.requests,
        t.result.map fun values => Tables.ofValues values.flatten⟩ := by
  have hasks : Asks (Table.answer r) earlier (names.map Request.table) _ _ :=
    askInOrder_asks earlier (names.map Request.table)
  simp only [Tables.resolve, hn, Plan.run, Tables.requests_plan]
  generalize askInOrder (Table.answer r) earlier (names.map Request.table) = t at hasks
  obtain ⟨asked, found⟩ := t
  cases hasks with
  | complete hvalues =>
    have hlen := hvalues.length_eq
    rw [List.length_map] at hlen
    simp [Except.map, Tables.finish_plan names _ hlen]
  | cut _ _ _ => rfl

variable (earlier) in
/-- Without delay, the tables are looked up one after the other, up to the first failure. -/
theorem Tables.resolve_asks (hr : r.delayed = false) {sources : List Sql.Source}
    {names : List String} (hn : Table.placeholders sources = .ok names) :
    ∃ asked found, Asks (Table.answer r) earlier (names.map Request.table) asked found ∧
      Tables.resolve r earlier sources =
        ⟨asked, found.map fun values => Tables.ofValues values.flatten⟩ :=
  ⟨_, _, askInOrder_asks earlier _, by simp [Tables.resolve_eq hn, hr]⟩

variable (earlier) in
/-- Without delay, the columns are looked up one after the other, up to the first failure. -/
theorem Column.run_asks {α : Type} (hr : r.delayed = false) (rules : ValueRules)
    (plan : Plan Expr α) :
    ∃ asked found, Asks (Column.answer rules r) earlier plan.requests asked found ∧
      Column.run rules r earlier plan = ⟨asked, found.map plan.finish⟩ :=
  ⟨_, _, askInOrder_asks earlier plan.requests, by simp [Column.run, Plan.run, hr]⟩

end Filling

end QueryTemplate
