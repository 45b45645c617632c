/-
# The steps of a filling that succeeds

Filling gives a text just when each of its steps gives something (`fill_eq_ok_iff`).  What
the steps give is a `Filled`, and the query that is written is put together from it.

| step | gives |
| --- | --- |
| read the template | `query`, `select` |
| look up its tables | `tables` |
| look up its columns | `clauses` |
| read the conditions that came with the tables | `conditions` |
-/

import QueryTemplate.Proofs.Lookup.Yields
import QueryTemplate.Proofs.Lookup.Requests

namespace QueryTemplate

/-! ## Outcomes -/

theorem eq_ok_of_toOption {ε α : Type} {x : Except ε α} {a : α} (h : x.toOption = some a) :
    x = .ok a := by
  cases x with
  | error e => cases h
  | ok b => exact congrArg _ (Option.some.inj h)

theorem exists_of_map_eq_ok {ε α β : Type} {x : Except ε α} {g : α → β} {b : β}
    (h : x.map g = .ok b) : ∃ a, x = .ok a ∧ g a = b := by
  cases x with
  | error e => cases h
  | ok a => exact ⟨a, rfl, Except.ok.inj h⟩

/-! ## The steps -/

/-- The first table of a query. -/
def Options.firstTable (o : Options) (t : Tables) : Sql.Ident :=
  (o.tablesOr t.names).headD nullTable

/-- The tables of a query as they are written: there is always one. -/
def Options.writtenTables (o : Options) (t : Tables) : List Sql.Ident :=
  o.firstTable t :: (o.tablesOr t.names).tail

/-- What the steps of a filling give that succeeds. -/
structure Filled (o : Options) (r : Resolver) (earlier : List Request) (template : String) where
  query : Sql.Query
  select : Sql.Select
  tables : Tables
  clauses : Clauses
  conditions : List Sql.Expr
  query_read : readTemplate o.dialect template = .ok (query, select)
  tables_found : (Tables.resolve r earlier select.sources).result = .ok tables
  clauses_found : (Column.run o.valueRules r
    (earlier ++ (Tables.resolve r earlier select.sources).requests)
    ((Clauses.ofQuery query select).fill (o.sourcesFor tables))).result = .ok clauses
  conditions_read : tables.parseConditions o.dialect = .ok conditions

variable {o : Options} {r : Resolver} {earlier : List Request} {template : String}

namespace Filled

/-- The `SELECT` that is written. -/
def newSelect (f : Filled o r earlier template) : Sql.Select :=
  { f.select with
    projection := f.clauses.projection
    sources := Tables.sources (o.writtenTables f.tables)
    selection := some (Filter.splice f.clauses.selection f.conditions)
    groupBy := f.clauses.groupBy
    having := f.clauses.having }

/-- The query that is written, apart from a limit on its rows. -/
def unlimited (f : Filled o r earlier template) : Sql.Query :=
  { f.query with body := .select f.newSelect, orderBy := f.clauses.orderBy }

/-- The query that is written. -/
def newQuery (f : Filled o r earlier template) : Sql.Query :=
  match o.maxRows (o.firstTable f.tables).text with
  | some most => RowLimit.clamp most f.unlimited
  | none => f.unlimited

/-- A limit on rows changes one clause only. -/
theorem newQuery_eq (f : Filled o r earlier template) :
    f.newQuery = { f.unlimited with limit := f.newQuery.limit } := by
  unfold newQuery
  split <;> rfl

end Filled

/-- A query is finished when the conditions that came with its tables are read. -/
theorem finish_eq_ok_iff {q query : Sql.Query} {s : Sql.Select} {tables : Tables} {c : Clauses} :
    finish o q s tables c = .ok query ↔
      ∃ conditions, tables.parseConditions o.dialect = .ok conditions ∧
        query = assemble o q s (o.firstTable tables) (o.tablesOr tables.names).tail c
          conditions := by
  unfold finish Options.firstTable
  cases tables.parseConditions o.dialect with
  | error e => simp
  | ok conditions => cases o.tablesOr tables.names <;> simp [eq_comm]

/-- A query is filled by resolving its tables, rewriting its clauses and finishing it. -/
theorem fillQuery_eq_ok_iff {q query : Sql.Query} {s : Sql.Select} :
    (fillQuery o r earlier q s).result = .ok query ↔
      ∃ tables c, (Tables.resolve r earlier s.sources).result = .ok tables ∧
        (Column.run o.valueRules r (earlier ++ (Tables.resolve r earlier s.sources).requests)
          ((Clauses.ofQuery q s).fill (o.sourcesFor tables))).result = .ok c ∧
        finish o q s tables c = .ok query := by
  cases htables : (Tables.resolve r earlier s.sources).result with
  | error e => simp [fillQuery, Traced.andThen, htables]
  | ok tables =>
    have hsources : (o.tablesOr tables.names).map Sql.Ident.text = o.sourcesFor tables := rfl
    simp only [fillQuery, Traced.andThen, htables, hsources]
    split <;> simp_all

/-- What makes no requests adds none. -/
@[simp] theorem Traced.requests_andThen_result {ε α β : Type} {t : Traced ε α}
    {next : α → Except ε β} : (t.andThen fun a => ⟨[], next a⟩).requests = t.requests := by
  unfold Traced.andThen
  split <;> simp

/-- Once the tables are found, the columns are looked up for them, and nothing else is. -/
theorem requests_fillQuery {q : Sql.Query} {s : Sql.Select} {tables : Tables}
    (h : (Tables.resolve r earlier s.sources).result = .ok tables) :
    (fillQuery o r earlier q s).requests = (Tables.resolve r earlier s.sources).requests ++
      (Column.run o.valueRules r (earlier ++ (Tables.resolve r earlier s.sources).requests)
        ((Clauses.ofQuery q s).fill (o.sourcesFor tables))).requests := by
  have hsources : (o.tablesOr tables.names).map Sql.Ident.text = o.sourcesFor tables := rfl
  rw [fillQuery, Traced.andThen, h]
  simp only [hsources, Traced.requests_andThen_result]

/-- What is filled is put together from what the steps gave. -/
theorem Filled.fillQuery_eq (f : Filled o r earlier template) :
    (fillQuery o r earlier f.query f.select).result = .ok f.newQuery :=
  fillQuery_eq_ok_iff.2 ⟨f.tables, f.clauses, f.tables_found, f.clauses_found,
    finish_eq_ok_iff.2 ⟨f.conditions, f.conditions_read, rfl⟩⟩

/-- **A template is filled just when every step gives something.** -/
theorem fill_eq_ok_iff {text : String} :
    (fill o r earlier template).result = .ok text ↔
      ∃ f : Filled o r earlier template, text = f.newQuery.sql := by
  constructor
  · intro h
    cases hq : readTemplate o.dialect template with
    | error e => simp [fill, hq] at h
    | ok found =>
      obtain ⟨q, s⟩ := found
      have hmap : (fillQuery o r earlier q s).result.map Sql.Query.sql = .ok text := by
        simpa [fill, hq, Traced.map] using h
      cases hquery : (fillQuery o r earlier q s).result with
      | error e => simp [hquery, Except.map] at hmap
      | ok query =>
        obtain ⟨tables, c, htables, hc, hfinish⟩ := fillQuery_eq_ok_iff.1 hquery
        obtain ⟨conditions, hconditions, rfl⟩ := finish_eq_ok_iff.1 hfinish
        obtain rfl := Except.ok.inj (hquery ▸ hmap :)
        exact ⟨⟨q, s, tables, c, conditions, hq, htables, hc, hconditions⟩, rfl⟩
  · rintro ⟨f, rfl⟩
    simp [fill, f.query_read, Traced.map, f.fillQuery_eq, Except.map]

namespace Filled

variable (f : Filled o r earlier template)

/-- The requests that a filling makes for columns. -/
def columnRequests : List Request :=
  f.query.columnRequests f.select (o.sourcesFor f.tables)

/-- The requests that were made before those for columns. -/
def before : List Request := earlier ++ (Tables.resolve r earlier f.select.sources).requests

/-- All tables of the template have been asked for. -/
theorem requests_resolve : ∃ names, Table.placeholders f.select.sources = .ok names ∧
    (Tables.resolve r earlier f.select.sources).requests = names.map Request.table := by
  have hfound := f.tables_found
  cases hn : Table.placeholders f.select.sources with
  | error e => simp [Tables.resolve, hn] at hfound
  | ok names =>
    simp only [Tables.resolve, hn] at hfound ⊢
    exact ⟨names, rfl, (Plan.requests_run hfound).trans (Tables.requests_plan names)⟩

/-- **A filling that succeeds asks for the tables and then for the columns.** -/
theorem requests_fill : (fill o r earlier template).requests =
    (Tables.resolve r earlier f.select.sources).requests ++ f.columnRequests := by
  have hcolumns := Plan.requests_run f.clauses_found
  rw [Clauses.requests_fill] at hcolumns
  simp only [fill, f.query_read, Traced.map, requests_fillQuery f.tables_found, Column.run,
    hcolumns, columnRequests]

/-- The clauses are what their plan makes of the answers. -/
theorem yields_clauses :
    ((Clauses.ofQuery f.query f.select).fill (o.sourcesFor f.tables)).Yields
      (AnsweredIn (Column.answer o.valueRules r) (f.before ++ f.columnRequests)) f.clauses := by
  have := Plan.yields_of_run f.clauses_found
  rwa [Clauses.requests_fill] at this

end Filled

end QueryTemplate
