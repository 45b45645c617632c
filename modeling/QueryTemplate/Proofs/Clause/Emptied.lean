/-
# Lists that lose their entries

A column reference becomes as many entries of `SELECT` as its lookup gives expressions,
possibly none.  The list is left empty when all of its entries are column references that
give nothing (`projection_eq_nil_iff`).  It is written all the same, so that the text that
filling gives is no query any more (`fill_emptied`).
-/

import QueryTemplate.Proofs.Fill.Steps
import QueryTemplate.Proofs.Grammar.NoEntries

namespace QueryTemplate

/-! ## Empty lists -/

namespace Clause

open Sql (Expr SelectItem)

variable (values : Request → List Expr) (sources : List String)

/-- What a lookup comes to when all answers are given. -/
@[simp] theorem given_lookup (text : String) :
    (Column.lookup sources text).given values =
      Aggregate.combine (Placeholder.parse text).hint (values (Column.request sources text)) :=
  rfl

/-- The entries of an expression are none only for a column reference that gives nothing. -/
theorem given_expand_eq_nil_iff {e : Expr} :
    (Column.expand sources e).given values = [] ↔ ∃ name, e.columnName? = some name ∧
      Aggregate.combine (Placeholder.parse name).hint
        (values (Column.request sources name)) = [] := by
  unfold Column.expand
  cases e.columnName? <;> simp

/-- **A `SELECT` list is emptied by its lookups** just when each of its entries is a column
reference, and the lookup of each gives nothing. -/
theorem projection_eq_nil_iff {items : List SelectItem} :
    (projection sources items).given values = [] ↔
      ∀ i ∈ items, ∃ e a name, i = .column e a ∧ e.columnName? = some name ∧
        Aggregate.combine (Placeholder.parse name).hint
          (values (Column.request sources name)) = [] := by
  simp only [projection, Plan.given_map, Plan.given_all, List.map_map, List.flatten_eq_nil_iff,
    List.forall_mem_map]
  refine forall₂_congr fun i _ => ?_
  cases i with
  | wildcard parts => simp [selectItem]
  | column e a => simp [selectItem, given_expand_eq_nil_iff]

/-- The entry is a column reference that a resolver has no values for. -/
def IsEmptied (r : Resolver) (sources : List String) (i : SelectItem) : Prop :=
  ∃ e a name, i = .column e a ∧ e.columnName? = some name ∧
    Aggregate.combine (Placeholder.parse name).hint [] = [] ∧
    ∀ earlier, r.answer earlier (Column.request sources name) = .ok []

variable {sources} {r : Resolver} {items : List SelectItem}

/-- All lookups for such entries give nothing. -/
theorem answer_of_isEmptied {rules : ValueRules} {earlier : List Request} {request : Request}
    {v : List Expr} (h : ∀ i ∈ items, IsEmptied r sources i)
    (hrequest : request ∈ (projection sources items).requests)
    (hv : Column.answer rules r earlier request = .ok v) : v = [] := by
  rw [requests_projection, List.mem_flatMap] at hrequest
  obtain ⟨i, hi, hrequest⟩ := hrequest
  obtain ⟨e, a, name, rfl, hname, -, hnone⟩ := h i hi
  obtain rfl : request = Column.request sources name := by
    simpa [itemRequests, itemExpr?, Column.insideRequests_of_columnName? hname] using hrequest
  simpa [Column.answer, hnone, Value.exprs, Except.mapError, eq_comm] using hv

/-- So nothing is left of the list. -/
theorem projection_emptied {rules : ValueRules} {earlier rest : List Request}
    {found : List (List Expr)} (h : ∀ i ∈ items, IsEmptied r sources i)
    (hfound : Answers (Column.answer rules r) earlier
      ((projection sources items).requests ++ rest) found) :
    (projection sources items).finish
      (found.take (projection sources items).requests.length) = [] := by
  have hnone : found.take (projection sources items).requests.length =
      (projection sources items).requests.map fun _ => [] := by
    generalize hrs : (projection sources items).requests = rs at hfound
    have hall : ∀ request ∈ rs, ∀ earlier v,
        Column.answer rules r earlier request = .ok v → v = [] :=
      fun request hmem earlier v hv => answer_of_isEmptied h (hrs ▸ hmem) hv
    clear hrs
    -- each request is made after another history, so the answers are known one by one only
    induction rs generalizing earlier found with
    | nil => rfl
    | cons request rs ih =>
      cases hfound with
      | cons hv hrest =>
        obtain rfl := hall request (by simp) _ _ hv
        have := ih hrest fun r hr => hall r (List.mem_cons_of_mem request hr)
        simp [this]
  rw [hnone]
  refine (projection_eq_nil_iff (fun _ => []) sources).2 fun i hi => ?_
  obtain ⟨e, a, name, hi, hname, hcombine, -⟩ := h i hi
  exact ⟨e, a, name, hi, hname, hcombine⟩

end Clause

/-! ## Names of tables -/

/-- A name as values write it: plain, or in double quotes. -/
def Value.IsWritten (n : Sql.Ident) : Prop :=
  n.quote = none ∧ isPlainName n.text.toList = true ∨ n.quote = some '"'

namespace Value

/-- A name that is made for a text can be written. -/
theorem isWritten_nameIdent (name : String) : IsWritten (nameIdent name) := by
  unfold nameIdent
  split
  · rename_i h
    exact .inl ⟨rfl, h⟩
  · exact .inr rfl

/-- A name that is found in a text can be written. -/
theorem isWritten_of_ident? {text : String} {n : Sql.Ident} (h : ident? text = some n) :
    IsWritten n := by
  unfold ident? at h
  split at h
  · obtain rfl := Option.some.inj h
    exact isWritten_nameIdent text
  · obtain ⟨inner, -, rfl⟩ := Option.map_eq_some_iff.1 h
    exact .inr rfl

end Value

open Value (IsWritten)

namespace Tables

/-- Sorting in one value keeps the names written as values write them. -/
theorem isWritten_push {t : Tables} {raw : String} (h : ∀ n ∈ t.names, IsWritten n) :
    ∀ n ∈ (t.push raw).names, IsWritten n := by
  unfold push
  dsimp only
  split
  · rename_i name hname
    split
    · exact h
    · intro n hn
      rcases List.mem_append.1 hn with hn | hn
      · exact h n hn
      · rw [List.mem_singleton.1 hn]
        exact Value.isWritten_of_ident? hname
  · exact h

/-- The names of tables can be written. -/
theorem isWritten_ofValues (values : List String) : ∀ n ∈ (ofValues values).names, IsWritten n := by
  have hall : ∀ t : Tables, (∀ n ∈ t.names, IsWritten n) →
      ∀ n ∈ (values.foldl push t).names, IsWritten n := by
    induction values with
    | nil => exact fun t ht => ht
    | cons raw rest ih => exact fun t ht => ih (t.push raw) (isWritten_push ht)
  exact hall empty (by simp [empty])

end Tables

/-- **The first table is written as a name**, wherever it comes from. -/
theorem isWritten_firstTable (o : Options) (values : List String) :
    IsWritten (o.firstTable (.ofValues values)) := by
  have hall : ∀ n ∈ o.tablesOr (Tables.ofValues values).names, IsWritten n := by
    unfold Options.tablesOr
    split
    · intro n hn
      obtain ⟨name, -, rfl⟩ := List.mem_map.1 hn
      exact Value.isWritten_nameIdent name
    · exact Tables.isWritten_ofValues values
  unfold Options.firstTable
  cases h : o.tablesOr (Tables.ofValues values).names with
  | nil => exact .inl ⟨rfl, by decide⟩
  | cons n rest => exact hall n (by simp [h])

/-- Such a name is read as a name, unless it is the word of an operator. -/
theorem startsName_of_isWritten {d : Sql.Dialect} {n : Sql.Ident} {tail : String}
    (hn : IsWritten n) (hfree : Text.upper n.sql ∉ Sql.Grammar.infixWords)
    (htail : Sql.Lexer.Breaks tail.toList) : Sql.Grammar.StartsName d (n.sql ++ tail).toList := by
  obtain ⟨text, quote⟩ := n
  rcases hn with ⟨hquote, hplain⟩ | hquote
  · obtain rfl : quote = none := hquote
    rw [String.toList_append]
    exact Sql.Grammar.startsName_plain hplain hfree htail
  · obtain rfl : quote = some '"' := hquote
    have hsql : (Sql.Ident.sql ⟨text, some '"'⟩ ++ tail).toList =
        '"' :: ((Sql.Quoting.doubled '"' text).toList ++ ('"' :: tail.toList)) := by
      simp [Sql.Ident.sql, Sql.Quoting.inQuotes]
    rw [hsql]
    exact Sql.Grammar.startsName_quoted

/-! ## The text without entries -/

namespace Sql

/-- Two rows of parts are printed one after the other. -/
theorem Part.allSql_append (ps ps' : List Part) :
    Part.allSql (ps ++ ps') = Part.allSql ps ++ Part.allSql ps' := by
  induction ps with
  | nil => simp [Part.allSql]
  | cons p ps ih => simp [Part.allSql, ih, String.append_assoc]

/-- A query with nothing before the list of `SELECT`, and with nothing between the list and
`FROM`. -/
structure Query.IsBare (q : Query) (s : Select) : Prop where
  commonTables : Part.allSql q.commonTables = ""
  modifiers : Part.allSql s.modifiers = ""
  into : s.into = none
  /-- What follows the tables is set off from them. -/
  beforeWhere : Lexer.Breaks (Part.allSql s.beforeWhere).toList

/-- A `SELECT` whose list is empty is written with two blanks before `FROM`. -/
theorem select_sql {s : Select} {e : Expr} (hmodifiers : Part.allSql s.modifiers = "")
    (hprojection : s.projection = []) (hinto : s.into = none) (hsources : s.sources ≠ [])
    (hselection : s.selection = some e) : ∃ more : String, Part.allSql s.parts =
      "SELECT  FROM " ++ (Part.allSql (Part.separated ", " (s.sources.map Source.parts)) ++
        (Part.allSql s.beforeWhere ++ (" WHERE " ++ more))) := by
  have hstart (text : String) : "SELECT" ++ ("" ++ (" " ++ ("" ++ ("" ++ (" FROM " ++ text))))) =
      "SELECT  FROM " ++ text := by
    rw [String.empty_append, String.empty_append, String.empty_append, ← String.append_assoc,
      ← String.append_assoc]
    rfl
  have hlist : (if s.sources.isEmpty then []
      else .words " FROM " :: Part.separated ", " (s.sources.map Source.parts)) =
        .words " FROM " :: Part.separated ", " (s.sources.map Source.parts) := by
    rw [if_neg (by simpa using hsources)]
  rw [Select.parts, hlist, hprojection, hinto, hselection]
  simp only [Part.allSql_append, Part.allSql, Part.sql, Part.clause, hmodifiers, List.map_nil,
    Part.separated, String.append_assoc, List.cons_append, hstart]
  exact ⟨_, rfl⟩

/-- Behind a first table come further ones after a comma, or what follows the tables. -/
theorem sources_sql (first : Ident) (rest : List Ident) {more : String}
    (hmore : Lexer.Breaks more.toList) : ∃ tail : String, Lexer.Breaks tail.toList ∧
      Part.allSql (Part.separated ", " ((Tables.sources (first :: rest)).map Source.parts)) ++
        more = first.sql ++ tail := by
  have hfirst : Part.allSql (Source.ofTable first).parts = first.sql := by
    simp [Source.ofTable, Source.parts, Relation.parts, Part.allSql, Part.sql, dotted]
  cases rest with
  | nil => exact ⟨more, hmore, by simp [Tables.sources, Part.separated, hfirst]⟩
  | cons next rest =>
    refine ⟨", " ++ (Part.allSql (Part.separated ", "
      ((Tables.sources (next :: rest)).map Source.parts)) ++ more), by simp, ?_⟩
    simp [Tables.sources, Part.separated, Part.allSql_append, Part.allSql, Part.sql, hfirst,
      String.append_assoc]

end Sql

open Sql.Lexer (Breaks)

/-- **A query whose list is empty** is written with two blanks before `FROM`. -/
theorem assemble_sql {o : Options} {q : Sql.Query} {s : Sql.Select} {first : Sql.Ident}
    {rest : List Sql.Ident} {c : Clauses} {conditions : List Sql.Expr} (h : q.IsBare s)
    (hc : c.projection = []) : ∃ tail : String, Breaks tail.toList ∧
      (assemble o q s first rest c conditions).sql = "SELECT  FROM " ++ (first.sql ++ tail) := by
  let select : Sql.Select :=
    { s with
      projection := c.projection
      sources := Tables.sources (first :: rest)
      selection := some (Filter.splice c.selection conditions)
      groupBy := c.groupBy
      having := c.having }
  -- a limit on rows changes one clause, far behind the tables
  obtain ⟨limit, hlimit⟩ : ∃ limit, assemble o q s first rest c conditions =
      { q with body := .select select, orderBy := c.orderBy, limit := limit } := by
    unfold assemble
    dsimp only
    split
    · exact ⟨_, rfl⟩
    · exact ⟨_, rfl⟩
  have hne : select.sources ≠ [] := by simp [select, Tables.sources]
  obtain ⟨more, hselect⟩ := Sql.select_sql (s := select) h.modifiers hc h.into hne rfl
  obtain ⟨more', hquery⟩ : ∃ more', (assemble o q s first rest c conditions).sql =
      Sql.Part.allSql select.parts ++ more' := by
    rw [hlimit]
    simp only [Sql.Query.sql, Sql.Query.parts, Sql.Part.allSql_append, Sql.Part.allSql,
      Sql.Part.sql, Sql.Expr.sql, Sql.Body.parts, h.commonTables, String.empty_append,
      List.append_assoc, List.cons_append]
    exact ⟨_, rfl⟩
  have hmore : Breaks (Sql.Part.allSql s.beforeWhere ++ (" WHERE " ++ more ++ more')).toList := by
    have := h.beforeWhere
    cases hchars : (Sql.Part.allSql s.beforeWhere).toList <;> simp_all [Breaks]
  obtain ⟨tail, htail, hsources⟩ := Sql.sources_sql first rest hmore
  refine ⟨tail, htail, ?_⟩
  rw [hquery, hselect, ← hsources]
  simp only [String.append_assoc, select]

section Filling

variable {o : Options} {r : Resolver} {earlier : List Request}

/-- Tables that are resolved come from values. -/
theorem Tables.resolve_eq_ok {sources : List Sql.Source} {tables : Tables}
    (h : (Tables.resolve r earlier sources).result = .ok tables) :
    ∃ values, tables = .ofValues values := by
  unfold Tables.resolve at h
  split at h
  · cases h
  · obtain ⟨found, -, htables⟩ := Plan.run_eq_ok h
    exact ⟨_, htables⟩

/-- Clauses whose entries of `SELECT` are all emptied are filled with none. -/
theorem Clauses.projection_emptied {c c' : Clauses} {sources : List String}
    (hitems : ∀ i ∈ c.projection, Clause.IsEmptied r sources i)
    (h : (Column.run o.valueRules r earlier (c.fill sources)).result = .ok c') :
    c'.projection = [] := by
  obtain ⟨found, hfound, rfl⟩ := Plan.run_eq_ok h
  exact Clause.projection_emptied hitems hfound

/-- A filled query is put together from its first table. -/
theorem finish_eq_ok {q query : Sql.Query} {s : Sql.Select} {tables : Tables} {c : Clauses}
    (h : finish o q s tables c = .ok query) :
    ∃ rest conditions, query = assemble o q s (o.firstTable tables) rest c conditions := by
  obtain ⟨conditions, -, rfl⟩ := finish_eq_ok_iff.1 h
  exact ⟨_, conditions, rfl⟩

/-- A query that is filled has all of its clauses rewritten, once its tables are known. -/
theorem fillQuery_eq_ok {q query : Sql.Query} {s : Sql.Select} {tables : Tables}
    (htables : (Tables.resolve r earlier s.sources).result = .ok tables)
    (h : (fillQuery o r earlier q s).result = .ok query) :
    ∃ earlier' c, (Column.run o.valueRules r earlier'
        ((Clauses.ofQuery q s).fill (o.sourcesFor tables))).result = .ok c ∧
      finish o q s tables c = .ok query := by
  obtain ⟨tables', c, htables', hc, hfinish⟩ := fillQuery_eq_ok_iff.1 h
  obtain rfl := Except.ok.inj (htables.symm.trans htables')
  exact ⟨_, c, hc, hfinish⟩

/-- **A template whose entries all give nothing** is filled with a text that is no query. -/
theorem fill_emptied {template text : String} {q : Sql.Query} {s : Sql.Select} {tables : Tables}
    (hq : readTemplate o.dialect template = .ok (q, s)) (hbare : q.IsBare s)
    (htables : (Tables.resolve r earlier s.sources).result = .ok tables)
    (hfirst : Text.upper (o.firstTable tables).sql ∉ Sql.Grammar.infixWords)
    (hitems : ∀ i ∈ s.projection, Clause.IsEmptied r (o.sourcesFor tables) i)
    (hfill : (fill o r earlier template).result = .ok text) :
    ∃ e, Sql.parseSelect o.dialect text = .error e := by
  obtain ⟨values, rfl⟩ := Tables.resolve_eq_ok htables
  have hmap : ((fillQuery o r earlier q s).map Sql.Query.sql).result = .ok text := by
    simpa only [fill, hq] using hfill
  cases hquery : (fillQuery o r earlier q s).result with
  | error e => simp [Traced.map, hquery, Except.map] at hmap
  | ok query =>
    obtain rfl : query.sql = text := by simpa [Traced.map, hquery, Except.map] using hmap
    obtain ⟨earlier', c, hc, hfinish⟩ := fillQuery_eq_ok htables hquery
    obtain ⟨rest, conditions, rfl⟩ := finish_eq_ok hfinish
    have hnone : c.projection = [] := Clauses.projection_emptied hitems hc
    obtain ⟨tail, htail, hsql⟩ := assemble_sql hbare hnone
    rw [hsql]
    exact Sql.Grammar.parseSelect_noEntries
      (startsName_of_isWritten (isWritten_firstTable o values) hfirst htail)

/-- A column that no value is found for leaves an empty list behind. -/
theorem fill_ghost : (fill .standard (.ofFunction fun request =>
    .ok (if request.name = "t" then ["users"] else [])) [] "SELECT ghost FROM t").result =
      .ok "SELECT  FROM users WHERE true AND true" := by
  have hrun : (fill .standard (.ofFunction fun request =>
      .ok (if request.name = "t" then ["users"] else [])) []
        "SELECT ghost FROM t").result.toOption = some "SELECT  FROM users WHERE true AND true" := by
    decide +kernel
  generalize (fill _ _ _ _).result = result at hrun ⊢
  cases result with
  | error e => cases hrun
  | ok text => exact congrArg _ (Option.some.inj hrun)

/-- **A list without entries makes a text that is no query.**  The only column of this
template gives nothing. -/
theorem fill_unreadable :
    let f : Request → Answer := fun request => .ok (if request.name = "t" then ["users"] else [])
    (fill .standard (.ofFunction f) [] "SELECT ghost FROM t").result =
        .ok "SELECT  FROM users WHERE true AND true" ∧
      ∃ e, Sql.parseSelect .ansi "SELECT  FROM users WHERE true AND true" = .error e := by
  intro f
  refine ⟨fill_ghost, ?_⟩
  have hrun : (Sql.parseSelect .ansi "SELECT  FROM users WHERE true AND true").toOption.isNone := by
    decide +kernel
  cases h : Sql.parseSelect .ansi "SELECT  FROM users WHERE true AND true" with
  | error e => exact ⟨e, rfl⟩
  | ok found => simp [h, Except.toOption] at hrun

/-- The same template, for which all that the general statement asks for is true. -/
theorem fill_emptied_ghost :
    let f : Request → Answer := fun request => .ok (if request.name = "t" then ["users"] else [])
    let r : Resolver := .ofFunction f
    let tables : Tables := ⟨[.plain "users"], []⟩
    ∃ q s, readTemplate .ansi "SELECT ghost FROM t" = .ok (q, s) ∧ q.IsBare s ∧
      (Tables.resolve r [] s.sources).result = .ok tables ∧
      (∀ i ∈ s.projection, Clause.IsEmptied r (Options.standard.sourcesFor tables) i) ∧
      ∃ e, Sql.parseSelect .ansi "SELECT  FROM users WHERE true AND true" = .error e := by
  intro f r tables
  have hrun : ((readTemplate .ansi "SELECT ghost FROM t").toOption.map fun (q, s) =>
      ([q.commonTables, s.modifiers, s.beforeWhere].map Sql.Part.allSql, s.into,
        (Table.placeholders s.sources).toOption, s.projection.map fun
          | .column e _ => e.columnName?
          | .wildcard _ => none)) = some (["", "", ""], none, some ["t"], [some "ghost"]) := by
    decide +kernel
  cases hq : readTemplate .ansi "SELECT ghost FROM t" with
  | error e => simp [hq, Except.toOption] at hrun
  | ok found =>
    obtain ⟨q, s⟩ := found
    simp only [hq, Except.toOption, Option.map_some, Option.some.injEq, Prod.mk.injEq,
      List.map_cons, List.map_nil, List.cons.injEq, and_true] at hrun
    obtain ⟨⟨hcommon, hmodifiers, hbefore⟩, hinto, hnames, hitems⟩ := hrun
    have hbare : q.IsBare s := ⟨hcommon, hmodifiers, hinto, by simp [hbefore]⟩
    have htables : (Tables.resolve r [] s.sources).result = .ok tables := by
      cases hn : Table.placeholders s.sources with
      | error e => simp [hn] at hnames
      | ok names =>
        obtain rfl : names = ["t"] := by simpa [hn] using hnames
        simp only [Tables.resolve, hn]
        rfl
    have hemptied : ∀ i ∈ s.projection,
        Clause.IsEmptied r (Options.standard.sourcesFor tables) i := by
      obtain ⟨i, hi, hname⟩ := List.map_eq_singleton_iff.1 hitems
      rw [hi]
      intro j hj
      obtain rfl := List.mem_singleton.1 hj
      cases j with
      | wildcard parts => cases hname
      | column e a => exact ⟨e, a, "ghost", rfl, hname, by decide, fun _ => rfl⟩
    exact ⟨q, s, rfl, hbare, htables, hemptied,
      fill_emptied hq hbare htables (by decide) hemptied fill_ghost⟩

end Filling

end QueryTemplate
