/-
# The order of the lookups

When answers come at once, the requests of a template follow a plan.  Its text and the answers
for its tables fix the plan.

| in this order | requests |
| --- | --- |
| the relations of `FROM`, joined ones included | one for each, by its dotted name |
| the entries of `SELECT`, `WHERE`, `HAVING`, the entries of `GROUP BY` and of `ORDER BY` | one for each name of a column inside, where the visit meets it first |

The columns are looked up for the tables that came.  What a column lookup gives has no part in
the plan.  The first lookup that fails ends the requests, and its failure is the one that is
reported (`fill_follows_plan`).
-/

import QueryTemplate.Proofs.Column.Visited
import QueryTemplate.Proofs.Table.Partition

namespace QueryTemplate

open Sql (Expr)

/-! ## Lookups that fail -/

/-- Why the lookup of a column fails after other requests: the resolver fails, or its first value
that is no expression does. -/
inductive Column.Fails (rules : ValueRules) (r : Resolver) (before : List Request)
    (request : Request) : FillError → Prop
  | refused {e : LookupError} : r.answer before request = .error e →
      Fails rules r before request (.lookup e)
  | unread {read rest : List String} {raw : String} {e : Sql.ParseError} :
      r.answer before request = .ok (read ++ raw :: rest) →
        (∀ v ∈ read, ∃ x, Value.expr rules v = .ok x) → Value.expr rules raw = .error e →
          Fails rules r before request (.parse e)

/-- Values are read one by one, up to the first that is no expression. -/
theorem Value.exprs_eq_error_iff {rules : ValueRules} {values : List String} {e : Sql.ParseError} :
    exprs rules values = .error e ↔ ∃ read raw rest, values = read ++ raw :: rest ∧
      (∀ v ∈ read, ∃ x, expr rules v = .ok x) ∧ expr rules raw = .error e := by
  induction values with
  | nil => simp [exprs]
  | cons v values ih =>
    rw [exprs]
    cases hv : expr rules v with
    | error fault =>
      constructor
      · intro h
        obtain rfl := Except.error.inj h
        exact ⟨[], v, values, rfl, by simp, hv⟩
      · rintro ⟨read, raw, rest, hvalues, hread, hraw⟩
        cases read with
        | nil =>
          obtain ⟨rfl, -⟩ := List.cons.inj hvalues
          obtain rfl := Except.error.inj (hv.symm.trans hraw)
          rfl
        | cons first read =>
          obtain ⟨rfl, -⟩ := List.cons.inj hvalues
          obtain ⟨x, hx⟩ := hread v List.mem_cons_self
          cases hv.symm.trans hx
    | ok x =>
      have hrest : ((exprs rules values).map (x :: ·) = .error e) ↔
          exprs rules values = .error e := by
        cases exprs rules values <;> simp [Except.map]
      rw [hrest, ih]
      constructor
      · rintro ⟨read, raw, rest, rfl, hread, hraw⟩
        exact ⟨v :: read, raw, rest, rfl, List.forall_mem_cons.2 ⟨⟨x, hv⟩, hread⟩, hraw⟩
      · rintro ⟨read, raw, rest, hvalues, hread, hraw⟩
        cases read with
        | nil =>
          obtain ⟨rfl, -⟩ := List.cons.inj hvalues
          cases hv.symm.trans hraw
        | cons first read =>
          obtain ⟨rfl, rfl⟩ := List.cons.inj hvalues
          exact ⟨read, raw, rest, rfl, (List.forall_mem_cons.1 hread).2, hraw⟩

/-- **A column lookup fails with its resolver, or with the first value that is no expression.** -/
theorem Column.answer_eq_error_iff {rules : ValueRules} {r : Resolver} {before : List Request}
    {request : Request} {e : FillError} :
    answer rules r before request = .error e ↔ Fails rules r before request e := by
  unfold answer
  constructor
  · intro h
    split at h
    · rename_i fault hfault
      obtain rfl := Except.error.inj h
      exact .refused hfault
    · rename_i values hvalues
      cases hexprs : Value.exprs rules values with
      | error fault =>
        rw [hexprs] at h
        obtain rfl := Except.error.inj h
        obtain ⟨read, raw, rest, rfl, hread, hraw⟩ := Value.exprs_eq_error_iff.1 hexprs
        exact .unread hvalues hread hraw
      | ok es => simp [hexprs, Except.mapError] at h
  · intro h
    cases h with
    | refused hfault => rw [hfault]
    | unread hvalues hread hraw =>
      simp only [hvalues, Value.exprs_eq_error_iff.2 ⟨_, _, _, rfl, hread, hraw⟩]
      rfl

namespace Table

/-- A table lookup fails with its resolver. -/
theorem answer_eq_error_iff {r : Resolver} {before : List Request} {request : Request}
    {e : FillError} : answer r before request = .error e ↔
      ∃ fault, r.answer before request = .error fault ∧ e = .lookup fault := by
  unfold answer
  cases r.answer before request with
  | error fault => simp [Except.mapError, eq_comm]
  | ok values => simp [Except.mapError]

/-- A relation is looked up just if it has a dotted name, and then by that. -/
theorem placeholder_eq_ok_iff {relation : Sql.Relation} {name : String} :
    placeholder relation = .ok name ↔ ∃ parts arguments tail,
      relation = .table parts arguments tail ∧
        name = String.intercalate "." (parts.map Sql.Ident.text) := by
  cases relation with
  | table parts arguments tail => simp [placeholder, eq_comm]
  | other parts => simp [placeholder]

end Table

/-! ## The plan -/

/-- The `plan` asks for the columns of the query, from the tables `sources`: entry by entry, and
for each name in an entry once. -/
def Sql.Query.PlansColumns (q : Sql.Query) (s : Sql.Select) (sources : List String)
    (plan : List Request) : Prop :=
  ∃ names, List.Forall₂ Expr.Names (q.entries s) names ∧
    plan = names.flatten.map fun n => .column (Placeholder.parse n) sources

/-- **The clauses of a query ask for its columns as planned.** -/
theorem Sql.Query.plansColumns (q : Sql.Query) (s : Sql.Select) (sources : List String) :
    q.PlansColumns s sources (q.columnRequests s sources) := by
  refine ⟨(q.entries s).map Expr.placeholders, ?_, ?_⟩
  · rw [List.forall₂_map_right_iff, List.forall₂_same]
    exact fun e _ => e.names_placeholders
  · rw [columnRequests, List.map_flatten, List.map_map, ← List.flatMap_def]
    rfl

section Filling

variable {o : Options} {r : Resolver} {earlier : List Request}

/-- What filling the query `q` of a template comes to when requests are made one by one: first
those for the tables `names`, then those for its columns and for the tables that came, up to the
first request that fails.  Its failure is the result. -/
def FollowsPlan (o : Options) (r : Resolver) (earlier : List Request) (names : List String)
    (q : Sql.Query) (s : Sql.Select) (t : Traced FillError String) : Prop :=
  ∃ asked found, Asks (Table.answer r) earlier (names.map Request.table) asked found ∧
    match found with
    | .error e => t = ⟨asked, .error e⟩
    | .ok values =>
      ∃ tables idents written sources plan asked' found',
        Tables.Sorted values.flatten idents tables.conditions ∧
        tables.names = Sql.firstSeen idents ∧ o.Writes tables written sources ∧
        q.PlansColumns s sources plan ∧
        Asks (Column.answer o.valueRules r) (earlier ++ asked) plan asked' found' ∧
        t.requests = asked ++ asked' ∧ ∀ e, found' = .error e → t.result = .error e

/-- **The requests of a template follow a plan** that its text and the answers for its tables
fix.  There is one table request for each relation of `FROM` in the order of the text, and then
one column request for each name in each entry of the clauses.  What a column lookup gives is no
part of the plan.  A lookup fails as the resolver does, or because of a value for a column that is
no expression. -/
theorem fill_follows_plan (hr : r.delayed = false) {template : String} {q : Sql.Query}
    {s : Sql.Select} {names : List String} (hq : readTemplate o.dialect template = .ok (q, s))
    (hn : Table.placeholders s.sources = .ok names) :
    List.Forall₂ (fun relation name => ∃ parts arguments tail,
        relation = .table parts arguments tail ∧
          name = String.intercalate "." (parts.map Sql.Ident.text))
      (s.sources.flatMap Sql.Source.relations) names ∧
    FollowsPlan o r earlier names q s (fill o r earlier template) ∧
    (∀ before request e, Table.answer r before request = .error e ↔
      ∃ fault, r.answer before request = .error fault ∧ e = .lookup fault) ∧
    ∀ before request e, Column.answer o.valueRules r before request = .error e ↔
      Column.Fails o.valueRules r before request e := by
  refine ⟨(Table.placeholders_eq_ok_iff.1 hn).imp fun _ _ => Table.placeholder_eq_ok_iff.1, ?_,
    fun _ _ _ => Table.answer_eq_error_iff, fun _ _ _ => Column.answer_eq_error_iff⟩
  obtain ⟨asked, found, hasks, hresolve⟩ := Tables.resolve_asks earlier hr hn
  refine ⟨asked, found, hasks, ?_⟩
  have hfill : fill o r earlier template = (fillQuery o r earlier q s).map Sql.Query.sql := by
    simp [fill, hq]
  rw [hfill, fillQuery, hresolve]
  cases found with
  | error e => rfl
  | ok values =>
    obtain ⟨idents, hsorted, hnames⟩ := Tables.sorted_ofValues values.flatten
    obtain ⟨asked', found', hasks', hrun⟩ := Column.run_asks (earlier ++ asked) hr
      o.valueRules
      ((Clauses.ofQuery q s).fill (o.sourcesFor (Tables.ofValues values.flatten)))
    rw [Clauses.requests_fill] at hasks'
    refine ⟨Tables.ofValues values.flatten, idents, _, _, _, asked', found', hsorted, hnames,
      o.writes_writtenTables _, q.plansColumns s _, hasks', ?_⟩
    have hsources : (o.tablesOr (Tables.ofValues values.flatten).names).map Sql.Ident.text =
      o.sourcesFor (Tables.ofValues values.flatten) := rfl
    simp only [Except.map, Traced.andThen, Traced.map, hsources, hrun]
    cases found' <;> simp

/-- The requests of a query with a column in each of its clauses. -/
theorem fill_planned :
    let f : Request → Answer := fun request =>
      if request.name = "c" then .error (.unknownPlaceholder "c") else .ok [request.name]
    let template := "SELECT a, ABS(\"sum:b\") FROM t JOIN u ON true WHERE b < c OR c < b ORDER BY d"
    let t := fill .standard (.ofFunction f) [] template
    ((readTemplate .ansi template).toOption.map
        fun (_, s) => (Table.placeholders s.sources).toOption, t.requests,
      match t.result with
      | .error (.lookup e) => some e
      | _ => none) =
      (some (some ["t", "u"]),
        [.table "t", .table "u", .column ⟨"a", none⟩ ["t", "u"], .column ⟨"b", some .sum⟩ ["t", "u"],
          .column ⟨"b", none⟩ ["t", "u"], .column ⟨"c", none⟩ ["t", "u"]],
        some (.unknownPlaceholder "c")) := by
  decide +kernel

/-- A template with a joined table, with a hint inside a call and with one column in two places of
a condition, filled by a resolver that knows no column `c`: the columns behind it are not looked
up. -/
theorem fill_follows_plan_joined :
    let f : Request → Answer := fun request =>
      if request.name = "c" then .error (.unknownPlaceholder "c") else .ok [request.name]
    let r : Resolver := .ofFunction f
    let template := "SELECT a, ABS(\"sum:b\") FROM t JOIN u ON true WHERE b < c OR c < b ORDER BY d"
    let t := fill .standard r [] template
    r.delayed = false ∧ ∃ q s, readTemplate .ansi template = .ok (q, s) ∧
      Table.placeholders s.sources = .ok ["t", "u"] ∧
      t.requests =
        [.table "t", .table "u", .column ⟨"a", none⟩ ["t", "u"], .column ⟨"b", some .sum⟩ ["t", "u"],
          .column ⟨"b", none⟩ ["t", "u"], .column ⟨"c", none⟩ ["t", "u"]] ∧
      t.result = .error (.lookup (.unknownPlaceholder "c")) ∧
      FollowsPlan .standard r [] ["t", "u"] q s t := by
  intro f r template t
  have hrun := fill_planned
  simp only [Prod.mk.injEq, Option.map_eq_some_iff] at hrun
  obtain ⟨⟨⟨q, s⟩, hq, hn⟩, hrequests, hfailure⟩ := hrun
  have hresult : t.result = .error (.lookup (.unknownPlaceholder "c")) := by
    split at hfailure
    · rename_i e he
      rwa [Option.some.inj hfailure] at he
    · cases hfailure
  exact ⟨rfl, q, s, eq_ok_of_toOption hq, eq_ok_of_toOption hn, hrequests, hresult,
    (fill_follows_plan rfl (eq_ok_of_toOption hq) (eq_ok_of_toOption hn)).2.1⟩

end Filling

end QueryTemplate
