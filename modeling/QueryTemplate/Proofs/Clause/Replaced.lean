/-
# Replaced columns

Which columns of a template are looked up, and where the expressions that were found for
them stand in the query.  A relation `found` between names and lists of expressions says
what a lookup may have given; `Replaced` and `Expanded` say position by position what that
makes of an expression.

| reference | becomes |
| --- | --- |
| inside an expression | the first expression; itself if there is none |
| as an entry of a list | all expressions, possibly none |

This is done in five clauses: `SELECT`, `WHERE`, `HAVING`, `GROUP BY` and `ORDER BY`
(`fill_replaces_columns`).  What else a query has is carried over as it is written, so a
column of `QUALIFY`, `WINDOW` or `DISTINCT ON` keeps the name that it has in the template
(`fill_keeps_qualify`).
-/

import QueryTemplate.Proofs.Clause.Named
import QueryTemplate.Proofs.Fill.Steps

namespace QueryTemplate
namespace Sql

/-! ## The columns of an expression -/

mutual

/-- The names that the column references of an expression end in, wherever they stand. -/
def Expr.columnNames : Expr → List Ident
  | .column _ name => [name]
  | .literal _ => []
  | .nested inner => inner.columnNames
  | .unary _ operand => operand.columnNames
  | .binary left _ right => left.columnNames ++ right.columnNames
  | .phrase parts => Part.allColumnNames parts
  termination_by structural e => e

/-- The names in a piece. -/
def Part.columnNames : Part → List Ident
  | .words _ => []
  | .operand e | .deferred e | .enclosed e => e.columnNames
  termination_by structural p => p

/-- The names in the pieces of a phrase. -/
def Part.allColumnNames : List Part → List Ident
  | [] => []
  | p :: rest => p.columnNames ++ Part.allColumnNames rest
  termination_by structural ps => ps

end

mutual

/-- The visit finds every column reference, in whatever order. -/
theorem Expr.mem_references_iff {n : String} :
    (e : Expr) → (n ∈ e.references ↔ ∃ i ∈ e.columnNames, i.text = n)
  | .column _ name => by simp [Expr.references, Expr.columnNames, eq_comm]
  | .literal _ => by simp [Expr.references, Expr.columnNames]
  | .nested inner => by
    simpa only [Expr.references, Expr.columnNames] using inner.mem_references_iff
  | .unary _ operand => by
    simpa only [Expr.references, Expr.columnNames] using operand.mem_references_iff
  | .binary left _ right => by
    simp only [Expr.references, Expr.columnNames, List.mem_append, left.mem_references_iff,
      right.mem_references_iff, or_and_right, exists_or]
  | .phrase parts => by
    simpa only [Expr.references, Expr.columnNames, List.mem_append] using
      Part.mem_allReferences_iff parts
  termination_by structural e => e

/-- A part refers to a name, at once or later, exactly if the name is one of its columns. -/
theorem Part.mem_references_iff {n : String} :
    (p : Part) → (n ∈ p.now ∨ n ∈ p.later ↔ ∃ i ∈ p.columnNames, i.text = n)
  | .words _ => by simp [Part.now, Part.later, Part.columnNames]
  | .operand e => by
    simpa [Part.now, Part.later, Part.columnNames] using e.mem_references_iff
  | .deferred e => by
    simpa [Part.now, Part.later, Part.columnNames] using e.mem_references_iff
  | .enclosed e => by
    simpa [Part.now, Part.later, Part.columnNames] using e.mem_references_iff
  termination_by structural p => p

/-- Parts refer to a name, at once or later, exactly if the name is one of their columns. -/
theorem Part.mem_allReferences_iff {n : String} :
    (ps : List Part) → (n ∈ Part.firstReferences ps ∨ n ∈ Part.laterReferences ps ↔
      ∃ i ∈ Part.allColumnNames ps, i.text = n)
  | [] => by simp [Part.firstReferences, Part.laterReferences, Part.allColumnNames]
  | p :: rest => by
    have hp := p.mem_references_iff (n := n)
    have hrest := Part.mem_allReferences_iff (n := n) rest
    simp only [Part.firstReferences, Part.laterReferences, Part.allColumnNames, List.mem_append,
      or_and_right, exists_or, ← hp, ← hrest]
    exact or_or_or_comm
  termination_by structural ps => ps

end

/-! ## Replaced expressions -/

section Relations

variable (found : String → List Expr → Prop)

mutual

/-- The second expression is the first one with its column references replaced. -/
inductive Expr.Replaced : Expr → Expr → Prop
  | column {qualifier : List Ident} {name : Ident} {e : Expr} {more : List Expr} :
      found name.text (e :: more) → Expr.Replaced (.column qualifier name) e
  | kept {qualifier : List Ident} {name : Ident} :
      found name.text [] → Expr.Replaced (.column qualifier name) (.column qualifier name)
  | literal (value : Literal) : Expr.Replaced (.literal value) (.literal value)
  | nested {e e' : Expr} : Expr.Replaced e e' → Expr.Replaced (.nested e) (.nested e')
  | unary {op : PrefixOp} {e e' : Expr} :
      Expr.Replaced e e' → Expr.Replaced (.unary op e) (.unary op e')
  | binary {op : BinaryOp} {l l' r r' : Expr} : Expr.Replaced l l' → Expr.Replaced r r' →
      Expr.Replaced (.binary l op r) (.binary l' op r')
  | phrase {ps ps' : List Part} :
      Part.AllReplaced ps ps' → Expr.Replaced (.phrase ps) (.phrase ps')

/-- A piece with its column references replaced. -/
inductive Part.Replaced : Part → Part → Prop
  | words (text : String) : Part.Replaced (.words text) (.words text)
  | operand {e e' : Expr} : Expr.Replaced e e' → Part.Replaced (.operand e) (.operand e')
  | deferred {e e' : Expr} : Expr.Replaced e e' → Part.Replaced (.deferred e) (.deferred e')
  | enclosed {e e' : Expr} : Expr.Replaced e e' → Part.Replaced (.enclosed e) (.enclosed e')

/-- A phrase with its column references replaced. -/
inductive Part.AllReplaced : List Part → List Part → Prop
  | nil : Part.AllReplaced [] []
  | cons {p p' : Part} {ps ps' : List Part} : Part.Replaced p p' → Part.AllReplaced ps ps' →
      Part.AllReplaced (p :: ps) (p' :: ps')

end

/-- The entries that an entry of a list becomes: a column reference becomes all that was found
for it, and any other expression stays one. -/
inductive Expr.Expanded : Expr → List Expr → Prop
  | column {qualifier : List Ident} {name : Ident} {es : List Expr} :
      found name.text es → Expanded (.column qualifier name) es
  | other {e e' : Expr} : e.columnName? = none → e.Replaced found e' → Expanded e [e']

/-- The entries that an entry of `SELECT` becomes, each with its alias. -/
inductive SelectItem.Expanded : SelectItem → List SelectItem → Prop
  | wildcard (parts : List Part) : Expanded (.wildcard parts) [.wildcard parts]
  | column {e : Expr} {given : Option Ident} {es : List Expr} {group : List SelectItem} :
      e.Expanded found es → Clause.NamedAll given es group → Expanded (.column e given) group

/-- What `GROUP BY` becomes. -/
inductive GroupBy.Expanded : GroupBy → GroupBy → Prop
  | all (modifiers : List String) : Expanded (.all modifiers) (.all modifiers)
  | terms {es : List Expr} {modifiers : List String} {ess : List (List Expr)} :
      List.Forall₂ (Expr.Expanded found) es ess →
        Expanded (.terms es modifiers) (.terms ess.flatten modifiers)

/-- The terms that a term of `ORDER BY` becomes, each with its direction. -/
inductive OrderTerm.Expanded : OrderTerm → List OrderTerm → Prop
  | mk {e : Expr} {tail : List Part} {es : List Expr} : e.Expanded found es →
      Expanded ⟨e, tail⟩ (es.map fun x => ⟨x, tail⟩)

/-- What `ORDER BY` becomes. -/
inductive OrderBy.Expanded : OrderBy → OrderBy → Prop
  | mk {terms : List OrderTerm} {interpolation : List Part} {found' : List (List OrderTerm)} :
      List.Forall₂ (OrderTerm.Expanded found) terms found' →
        Expanded ⟨terms, interpolation⟩ ⟨found'.flatten, interpolation⟩

end Relations

variable {found : String → List Expr → Prop} {f : String → Option Expr}

mutual

/-- **Substitution replaces every column reference**, if `f` gives the first expression that
was found for its name. -/
theorem Expr.replaced_substitute : (e : Expr) →
    (∀ i ∈ e.columnNames, ∃ es, found i.text es ∧ f i.text = es.head?) →
      e.Replaced found (e.substitute f)
  | .column qualifier name, h => by
    obtain ⟨es, hes, hf⟩ := h name (by simp [Expr.columnNames])
    cases es with
    | nil =>
      rw [Expr.substitute, hf]
      exact .kept hes
    | cons e more =>
      rw [Expr.substitute, hf]
      exact .column hes
  | .literal value, _ => .literal value
  | .nested inner, h => .nested (inner.replaced_substitute h)
  | .unary _ operand, h => .unary (operand.replaced_substitute h)
  | .binary left _ right, h =>
    have h' := List.forall_mem_append.1 h
    .binary (left.replaced_substitute h'.1) (right.replaced_substitute h'.2)
  | .phrase parts, h => .phrase (Part.allReplaced_substituteAll parts h)
  termination_by structural e => e

/-- Substituting what was found first replaces every column of the part by it. -/
theorem Part.replaced_substitute : (p : Part) →
    (∀ i ∈ p.columnNames, ∃ es, found i.text es ∧ f i.text = es.head?) →
      p.Replaced found (p.substitute f)
  | .words text, _ => .words text
  | .operand e, h => .operand (e.replaced_substitute h)
  | .deferred e, h => .deferred (e.replaced_substitute h)
  | .enclosed e, h => .enclosed (e.replaced_substitute h)
  termination_by structural p => p

/-- Substituting what was found first replaces every column of the parts by it. -/
theorem Part.allReplaced_substituteAll : (ps : List Part) →
    (∀ i ∈ Part.allColumnNames ps, ∃ es, found i.text es ∧ f i.text = es.head?) →
      Part.AllReplaced found ps (Part.substituteAll f ps)
  | [], _ => .nil
  | p :: rest, h =>
    have h' := List.forall_mem_append.1 h
    .cons (p.replaced_substitute h'.1) (Part.allReplaced_substituteAll rest h'.2)
  termination_by structural ps => ps

end

end Sql

open Sql (Expr)

/-! ## Replaced clauses -/

/-- The second clauses are the first ones with their columns looked up. -/
structure Clauses.Replaced (found : String → List Expr → Prop) (c c' : Clauses) : Prop where
  projection : ∃ items, List.Forall₂ (Sql.SelectItem.Expanded found) c.projection items ∧
    c'.projection = items.flatten
  selection : Option.Rel (Expr.Replaced found) c.selection c'.selection
  having : Option.Rel (Expr.Replaced found) c.having c'.having
  groupBy : c.groupBy.Expanded found c'.groupBy
  orderBy : Option.Rel (Sql.OrderBy.Expanded found) c.orderBy c'.orderBy

/-- The query `q'` with the `SELECT` `s'` is the query `q` with the `SELECT` `s`, the columns of
their five clauses looked up.  On the rows there are the `conditions` besides. -/
structure Sql.Query.Replaced (found : String → List Expr → Prop) (conditions : List Expr)
    (q : Sql.Query) (s : Sql.Select) (q' : Sql.Query) (s' : Sql.Select) : Prop where
  projection : ∃ groups, List.Forall₂ (Sql.SelectItem.Expanded found) s.projection groups ∧
    s'.projection = groups.flatten
  selection : ∃ e, Option.Rel (Expr.Replaced found) s.selection e ∧
    s'.selection = some (Filter.splice e conditions)
  having : Option.Rel (Expr.Replaced found) s.having s'.having
  groupBy : s.groupBy.Expanded found s'.groupBy
  orderBy : Option.Rel (Sql.OrderBy.Expanded found) q.orderBy q'.orderBy

section Yields

variable {R : Request → List Expr → Prop} {sources : List String}

namespace Column

/-- What is found for a name when `R` says which answers are possible. -/
def Finds (R : Request → List Expr → Prop) (sources : List String) (name : String)
    (es : List Expr) : Prop :=
  ∃ values, R (request sources name) values ∧
    es = Aggregate.combine (Placeholder.parse name).hint values

/-- A lookup yields what is found for the name. -/
@[simp] theorem yields_lookup_iff {name : String} {es : List Expr} :
    (lookup sources name).Yields R es ↔ Finds R sources name es := by
  simp only [lookup, Plan.yields_map_iff, Plan.yields_ask_iff, Finds, request]

/-- What belongs to a name is what was found where the name was looked up. -/
theorem firstOf_eq {found : String → List Expr → Prop} {names : List String}
    {answers : List (List Expr)} (h : List.Forall₂ found names answers) {name : String}
    (hname : name ∈ names) : ∃ es, found name es ∧ firstOf names answers name = es.head? := by
  induction h with
  | nil => cases hname
  | @cons n es names answers hn _ ih =>
    by_cases heq : name = n
    · subst heq
      exact ⟨es, hn, by simp [firstOf]⟩
    · obtain ⟨es', hes', hfirst⟩ := ih ((List.mem_cons.1 hname).resolve_left heq)
      have hne : (name == n) = false := by simpa using heq
      refine ⟨es', hes', ?_⟩
      simpa [firstOf, List.lookup_cons, hne] using hfirst

/-- A substitution yields the expression with its columns replaced. -/
theorem replaced_of_yields {e e' : Expr} (h : (substitute sources e).Yields R e') :
    e.Replaced (Finds R sources) e' := by
  obtain ⟨answers, hanswers, rfl⟩ := Plan.yields_map_iff.1 h
  rw [Plan.yields_all_iff, List.forall₂_map_left_iff] at hanswers
  have hfound : List.Forall₂ (Finds R sources) e.placeholders answers :=
    hanswers.imp fun _ _ => yields_lookup_iff.1
  refine e.replaced_substitute fun i hi => firstOf_eq hfound ?_
  exact Sql.mem_distinct.2 (e.mem_references_iff.2 ⟨i, hi, rfl⟩)

/-- An expansion yields what the expression expands to. -/
theorem expanded_of_yields {e : Expr} {es : List Expr} (h : (expand sources e).Yields R es) :
    e.Expanded (Finds R sources) es := by
  cases hname : e.columnName? with
  | some name =>
    obtain ⟨qualifier, i, rfl, rfl⟩ : ∃ qualifier i, e = .column qualifier i ∧ i.text = name := by
      cases e <;> simp_all [Expr.columnName?]
    exact .column (yields_lookup_iff.1 h)
  | none =>
    rw [expand, hname, Plan.yields_map_iff] at h
    obtain ⟨e', he', rfl⟩ := h
    exact .other hname (replaced_of_yields he')

end Column

namespace Clause

/-- A rewritten item is what the item expands to. -/
theorem expanded_selectItem {i : Sql.SelectItem} {items : List Sql.SelectItem}
    (h : (selectItem sources i).Yields R items) :
    i.Expanded (Column.Finds R sources) items := by
  cases i with
  | wildcard parts =>
    obtain rfl := Plan.yields_ofValue_iff.1 h
    exact .wildcard parts
  | column e given =>
    obtain ⟨es, hes, hgroup⟩ := Plan.yields_map_iff.1 h
    exact .column (Column.expanded_of_yields hes) (namedAll_iff.2 hgroup)

/-- A rewritten condition is the condition with its columns replaced. -/
theorem replaced_condition {e e' : Option Expr} (h : (condition sources e).Yields R e') :
    Option.Rel (Expr.Replaced (Column.Finds R sources)) e e' := by
  cases e with
  | none =>
    obtain rfl := Plan.yields_ofValue_iff.1 h
    exact .none
  | some e =>
    obtain ⟨x, hx, rfl⟩ := Plan.yields_map_iff.1 h
    exact .some (Column.replaced_of_yields hx)

/-- A rewritten grouping is what the grouping expands to. -/
theorem expanded_groupBy {g g' : Sql.GroupBy} (h : (groupBy sources g).Yields R g') :
    g.Expanded (Column.Finds R sources) g' := by
  cases g with
  | all modifiers =>
    obtain rfl := Plan.yields_ofValue_iff.1 h
    exact .all modifiers
  | terms es modifiers =>
    obtain ⟨ess, hess, rfl⟩ := Plan.yields_map_iff.1 h
    rw [Plan.yields_all_iff, List.forall₂_map_left_iff] at hess
    exact .terms (hess.imp fun _ _ => Column.expanded_of_yields)

/-- A rewritten term is what the term expands to. -/
theorem expanded_orderTerm {t : Sql.OrderTerm} {ts : List Sql.OrderTerm}
    (h : (orderTerm sources t).Yields R ts) : t.Expanded (Column.Finds R sources) ts := by
  obtain ⟨es, hes, rfl⟩ := Plan.yields_map_iff.1 h
  exact .mk (Column.expanded_of_yields hes)

/-- A rewritten ordering is what the ordering expands to. -/
theorem expanded_orderBy {o o' : Option Sql.OrderBy} (h : (orderBy sources o).Yields R o') :
    Option.Rel (Sql.OrderBy.Expanded (Column.Finds R sources)) o o' := by
  cases o with
  | none =>
    obtain rfl := Plan.yields_ofValue_iff.1 h
    exact .none
  | some o =>
    obtain ⟨terms, hterms, rfl⟩ := Plan.yields_map_iff.1 h
    rw [Plan.yields_all_iff, List.forall₂_map_left_iff] at hterms
    exact .some (.mk (hterms.imp fun _ _ => expanded_orderTerm))

end Clause

/-- **Filling the clauses replaces their columns**, by what was found for them. -/
theorem Clauses.replaced_of_yields {c c' : Clauses} (h : (c.fill sources).Yields R c') :
    c.Replaced (Column.Finds R sources) c' := by
  obtain ⟨⟨p, w, v, g, b⟩, hparts, rfl⟩ := Plan.yields_map_iff.1 h
  simp only [Plan.yields_both_iff] at hparts
  obtain ⟨hp, hw, hv, hg, hb⟩ := hparts
  obtain ⟨items, hitems, rfl⟩ := Plan.yields_map_iff.1 hp
  rw [Plan.yields_all_iff, List.forall₂_map_left_iff] at hitems
  exact ⟨⟨items, hitems.imp fun _ _ => Clause.expanded_selectItem, rfl⟩,
    Clause.replaced_condition hw, Clause.replaced_condition hv, Clause.expanded_groupBy hg,
    Clause.expanded_orderBy hb⟩

end Yields

/-! ## Filled templates -/

section Filling

variable {o : Options} {r : Resolver} {earlier : List Request} {template : String}

/-- What was found for a name in the course of a filling. -/
def Filled.Finds (f : Filled o r earlier template) : String → List Expr → Prop :=
  Column.Finds (AnsweredIn (Column.answer o.valueRules r) (f.before ++ f.columnRequests))
    (o.sourcesFor f.tables)

/-- A filling looks up the columns in the entries of its query, and no others. -/
theorem Filled.mem_requests_iff (f : Filled o r earlier template) {request : Request}
    (hkind : request.kind = .column) : request ∈ (fill o r earlier template).requests ↔
      ∃ e ∈ f.query.entries f.select, ∃ i ∈ e.columnNames,
        request = Column.request (o.sourcesFor f.tables) i.text := by
  obtain ⟨names, -, hnames⟩ := f.requests_resolve
  have hnone : request ∉ names.map Request.table := by
    rintro hmem
    obtain ⟨name, -, rfl⟩ := List.mem_map.1 hmem
    cases hkind
  rw [f.requests_fill, hnames, List.mem_append, or_iff_right hnone, columnRequests,
    Sql.Query.mem_columnRequests_iff]
  refine exists_congr fun e => and_congr_right fun _ => ?_
  constructor
  · rintro ⟨n, hn, rfl⟩
    obtain ⟨i, hi, rfl⟩ := e.mem_references_iff.1 hn
    exact ⟨i, hi, rfl⟩
  · rintro ⟨i, hi, rfl⟩
    exact ⟨i.text, e.mem_references_iff.2 ⟨i, hi, rfl⟩, rfl⟩

/-- The written query has the columns of its clauses replaced by what was found for them. -/
theorem Filled.replaced (f : Filled o r earlier template) {R : Request → List Expr → Prop}
    (h : ((Clauses.ofQuery f.query f.select).fill (o.sourcesFor f.tables)).Yields R f.clauses) :
    f.query.Replaced (Column.Finds R (o.sourcesFor f.tables)) f.conditions f.select f.newQuery
      f.newSelect := by
  have hclauses : (Clauses.ofQuery f.query f.select).Replaced _ f.clauses :=
    Clauses.replaced_of_yields h
  exact ⟨hclauses.projection, ⟨f.clauses.selection, hclauses.selection, rfl⟩, hclauses.having,
    hclauses.groupBy, by rw [f.newQuery_eq]; exact hclauses.orderBy⟩

/-- **The columns of five clauses are looked up and replaced, and no others.**  A request for a
column is made just for the column references in `SELECT`, `WHERE`, `HAVING`, `GROUP BY` and
`ORDER BY`, at any depth.  In these clauses what was found for a reference stands in its
place; everything else is written as it was read, column references included. -/
theorem fill_replaces_columns {text : String}
    (h : (fill o r earlier template).result = .ok text) :
    ∃ f : Filled o r earlier template, text = f.newQuery.sql ∧
      (∀ request : Request, request.kind = .column →
        (request ∈ (fill o r earlier template).requests ↔
          ∃ e ∈ f.query.entries f.select, ∃ i ∈ e.columnNames,
            request = Column.request (o.sourcesFor f.tables) i.text)) ∧
      f.query.Replaced f.Finds f.conditions f.select f.newQuery f.newSelect ∧
      f.newQuery =
        { f.query with
          body := .select
            { f.select with
              projection := f.newSelect.projection
              sources := Tables.sources (o.writtenTables f.tables)
              selection := f.newSelect.selection
              groupBy := f.newSelect.groupBy
              having := f.newSelect.having }
          orderBy := f.newQuery.orderBy
          limit := f.newQuery.limit } := by
  obtain ⟨f, rfl⟩ := fill_eq_ok_iff.1 h
  refine ⟨f, rfl, fun request hkind => f.mem_requests_iff hkind, f.replaced f.yields_clauses, ?_⟩
  have horder : f.newQuery.orderBy = f.clauses.orderBy := by
    rw [f.newQuery_eq]
    rfl
  rw [horder]
  exact f.newQuery_eq

/-- A column inside an expression becomes the first value, one that stands alone all of them. -/
theorem fill_case : (fill .standard (.ofFunction fun request =>
    .ok (if request.name = "c" then ["x", "y"] else [request.name])) []
      "SELECT CASE WHEN a THEN t.b END FROM t ORDER BY c + 1, c").result =
        .ok ("SELECT CASE WHEN a THEN b END AS \"CASE WHEN a THEN b END\" FROM t " ++
          "WHERE true AND true ORDER BY x + 1, x, y") := by
  refine eq_ok_of_toOption ?_
  decide +kernel

/-- References in the condition and in the result of a `CASE`, in a sum and as a term of
`ORDER BY`. -/
theorem fill_replaces_columns_case :
    let answers : Request → Answer := fun request =>
      .ok (if request.name = "c" then ["x", "y"] else [request.name])
    let template := "SELECT CASE WHEN a THEN t.b END FROM t ORDER BY c + 1, c"
    let text := "SELECT CASE WHEN a THEN b END AS \"CASE WHEN a THEN b END\" FROM t " ++
      "WHERE true AND true ORDER BY x + 1, x, y"
    (fill .standard (.ofFunction answers) [] template).result = .ok text ∧
      ∃ f : Filled .standard (.ofFunction answers) [] template, text = f.newQuery.sql ∧
        f.query.Replaced f.Finds f.conditions f.select f.newQuery f.newSelect := by
  obtain ⟨f, htext, -, hreplaced, -⟩ := fill_replaces_columns fill_case
  exact ⟨fill_case, f, htext, hreplaced⟩

/-- A clause that is not rewritten keeps its columns. -/
theorem fill_qualify :
    let answers : Request → Answer := fun request =>
      .ok (if request.name = "t" then ["users"] else if request.name = "a" then ["x"] else ["y"])
    let template := "SELECT a FROM t QUALIFY b > 1"
    let t := fill .standard (.ofFunction answers) [] template
    ((readTemplate .ansi template).toOption.map fun (_, s) =>
        (Sql.Part.allColumnNames s.tail).map Sql.Ident.text, t.requests, t.result.toOption) =
      (some ["b"], [.table "t", Column.request ["users"] "a"],
        some "SELECT x FROM users WHERE true AND true QUALIFY b > 1") := by
  decide +kernel

/-- **A column of `QUALIFY` is not looked up.**  It keeps its name in the query, although the
resolver has a value for it. -/
theorem fill_keeps_qualify :
    let answers : Request → Answer := fun request =>
      .ok (if request.name = "t" then ["users"] else if request.name = "a" then ["x"] else ["y"])
    let template := "SELECT a FROM t QUALIFY b > 1"
    (∃ q s, readTemplate .ansi template = .ok (q, s) ∧
        ∃ i ∈ Sql.Part.allColumnNames s.tail, i.text = "b") ∧
      answers (Column.request ["users"] "b") = .ok ["y"] ∧
      (fill .standard (.ofFunction answers) [] template).requests =
        [.table "t", Column.request ["users"] "a"] ∧
      (fill .standard (.ofFunction answers) [] template).result =
        .ok "SELECT x FROM users WHERE true AND true QUALIFY b > 1" := by
  intro answers template
  have hrun := fill_qualify
  simp only [Prod.mk.injEq, Option.map_eq_some_iff] at hrun
  obtain ⟨⟨⟨q, s⟩, hread, hnames⟩, hrequests, hresult⟩ := hrun
  have hb : ∃ i ∈ Sql.Part.allColumnNames s.tail, i.text = "b" :=
    List.mem_map.1 (hnames ▸ List.mem_singleton.2 rfl)
  exact ⟨⟨q, s, eq_ok_of_toOption hread, hb⟩, rfl, hrequests, eq_ok_of_toOption hresult⟩

end Filling

end QueryTemplate
