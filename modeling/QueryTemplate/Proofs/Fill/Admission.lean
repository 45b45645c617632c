/-
# Templates that are turned away

A template is admitted when it is one plain `SELECT` and every relation of its `FROM` list,
joined ones included, is a table.  All of this is known from the text, so it is settled before
anything is looked up.

| the template | fails with |
| --- | --- |
| has no tokens | `parse`, on its own text |
| is not SQL without its comments and its last semicolon | `parse`, on the text that is left |
| is something else than one plain `SELECT` | `notSelect` |
| takes rows from something else than a table | `notTable`, for the first such relation |

`Inadmissible` lists these causes with their failures.  They are just the failures that come
without a request, and a failure that calls a template unsupported never comes otherwise
(`fill_admits_first`).
-/

import QueryTemplate.Proofs.Fill.Steps

namespace QueryTemplate

/-! ## Admission -/

/-- A relation that is looked up by its name. -/
def Sql.Relation.IsTable (r : Relation) : Prop :=
  ∃ name arguments tail, r = .table name arguments tail

/-- Without its comments the template is one query, and its body is a plain `SELECT`. -/
structure IsSelect (d : Sql.Dialect) (template : String) (q : Sql.Query) (s : Sql.Select) :
    Prop where
  statement : ∃ cleaned, Sql.sanitize d template = .ok cleaned ∧
    Sql.parseStatements d cleaned = .ok [.query q]
  body : q.body = .select s

/-- One plain `SELECT` whose rows come from tables alone. -/
def Admissible (d : Sql.Dialect) (template : String) : Prop :=
  ∃ q s, IsSelect d template q s ∧ ∀ relation ∈ s.sources.flatMap Sql.Source.relations,
    relation.IsTable

/-- What is wrong with a template that is turned away, and the failure that says so. -/
inductive Inadmissible (d : Sql.Dialect) (template : String) : FillError → Prop
  | noTokens {e : Sql.LexError} : Sql.lexemes d template = .error e →
      Inadmissible d template (.parse ⟨.invalid (.lex e), template⟩)
  | noSql {cleaned : String} {e : Sql.SyntaxError} : Sql.sanitize d template = .ok cleaned →
      Sql.parseStatements d cleaned = .error e →
        Inadmissible d template (.parse ⟨.invalid e, cleaned⟩)
  | noSelect {cleaned : String} {statements : List Sql.Statement} :
      Sql.sanitize d template = .ok cleaned → Sql.parseStatements d cleaned = .ok statements →
        (∀ q s, statements = [.query q] → q.body ≠ .select s) →
          Inadmissible d template (.notSelect template)
  | noTable {q : Sql.Query} {s : Sql.Select} {before after : List Sql.Relation}
      {parts : List Sql.Part} : IsSelect d template q s →
        s.sources.flatMap Sql.Source.relations = before ++ .other parts :: after →
          (∀ relation ∈ before, relation.IsTable) →
            Inadmissible d template (.notTable (Sql.Part.allSql parts))

/-- A failure that calls a template unsupported. -/
def FillError.isUnsupported : FillError → Bool
  | .notSelect _ | .notTable _ => true
  | .parse _ | .lookup _ => false

/-- A failure to read SQL. -/
def FillError.isParse : FillError → Bool
  | .parse _ => true
  | .notSelect _ | .notTable _ | .lookup _ => false

/-! ## Reading -/

section Reading

variable {d : Sql.Dialect} {template : String} {e : FillError} {q : Sql.Query} {s : Sql.Select}

/-- A text that is one query with a plain `SELECT` is read as it. -/
theorem parseSelect_of_body {sql : String} (h : Sql.parseStatements d sql = .ok [.query q])
    (hbody : q.body = .select s) : Sql.parseSelect d sql = .ok (some (q, s)) := by
  simp [Sql.parseSelect, h, hbody]

/-- A text that is anything else is read as no `SELECT`. -/
theorem parseSelect_of_noSelect {sql : String} {statements : List Sql.Statement}
    (h : Sql.parseStatements d sql = .ok statements)
    (hnone : ∀ q s, statements = [.query q] → q.body ≠ .select s) :
    Sql.parseSelect d sql = .ok none := by
  unfold Sql.parseSelect
  split
  · simp_all
  · rename_i q hq
    obtain rfl := Except.ok.inj (h.symm.trans hq)
    split
    · rename_i s hs
      exact absurd hs (hnone q s rfl)
    · rfl
  · rfl

variable (d template) in
/-- **A template is read as a `SELECT` or is turned away.** -/
theorem readTemplate_cases :
    (∃ e, readTemplate d template = .error e ∧ Inadmissible d template e) ∨
      ∃ q s, readTemplate d template = .ok (q, s) ∧ IsSelect d template q s := by
  cases hls : Sql.lexemes d template with
  | error e =>
    have hread : readTemplate d template = .error (.parse ⟨.invalid (.lex e), template⟩) := by
      simp [readTemplate, cleanTemplate, Sql.sanitize, hls, Except.map, Except.mapError]
    exact .inl ⟨_, hread, .noTokens hls⟩
  | ok ls =>
    obtain ⟨cleaned, hcleaned⟩ : ∃ cleaned, Sql.sanitize d template = .ok cleaned := by
      simp [Sql.sanitize, hls, Except.map]
    have hclean : cleanTemplate d template = .ok cleaned := by
      simp [cleanTemplate, hcleaned, Except.mapError]
    cases hstatements : Sql.parseStatements d cleaned with
    | error e =>
      have hread : readTemplate d template = .error (.parse ⟨.invalid e, cleaned⟩) := by
        simp [readTemplate, hclean, Sql.parseSelect, hstatements]
      exact .inl ⟨_, hread, .noSql hcleaned hstatements⟩
    | ok statements =>
      by_cases h : ∃ q s, statements = [.query q] ∧ q.body = .select s
      · obtain ⟨q, s, rfl, hbody⟩ := h
        refine .inr ⟨q, s, ?_, ⟨cleaned, hcleaned, hstatements⟩, hbody⟩
        simp [readTemplate, hclean, parseSelect_of_body hstatements hbody]
      · have hnone : ∀ q s, statements = [.query q] → q.body ≠ .select s :=
          fun q s hq hs => h ⟨q, s, hq, hs⟩
        refine .inl ⟨_, ?_, .noSelect hcleaned hstatements hnone⟩
        simp [readTemplate, hclean, parseSelect_of_noSelect hstatements hnone]

/-- A template that is one plain `SELECT` is read as it. -/
theorem IsSelect.readTemplate_eq (h : IsSelect d template q s) :
    readTemplate d template = .ok (q, s) := by
  obtain ⟨cleaned, hcleaned, hstatement⟩ := h.statement
  simp [readTemplate, cleanTemplate, hcleaned, Except.mapError,
    parseSelect_of_body hstatement h.body]

/-! ## Relations -/

/-- Relations are tables up to the first that is none. -/
theorem Sql.Relation.tables_or_other (relations : List Sql.Relation) :
    (∀ relation ∈ relations, relation.IsTable) ∨ ∃ before parts after,
      relations = before ++ .other parts :: after ∧ ∀ relation ∈ before, relation.IsTable := by
  induction relations with
  | nil => exact .inl (by simp)
  | cons relation rest ih =>
    cases relation with
    | other parts => exact .inr ⟨[], parts, rest, rfl, by simp⟩
    | table name arguments tail =>
      have htable : IsTable (.table name arguments tail) := ⟨_, _, _, rfl⟩
      rcases ih with hall | ⟨before, parts, after, rfl, hbefore⟩
      · exact .inl (List.forall_mem_cons.2 ⟨htable, hall⟩)
      · exact .inr ⟨_ :: before, parts, after, rfl, List.forall_mem_cons.2 ⟨htable, hbefore⟩⟩

namespace Table

/-- Tables have names. -/
theorem relationPlaceholders_eq_ok {relations : List Sql.Relation}
    (h : ∀ relation ∈ relations, relation.IsTable) :
    ∃ names, relationPlaceholders relations = .ok names := by
  induction relations with
  | nil => exact ⟨[], rfl⟩
  | cons relation rest ih =>
    obtain ⟨⟨name, arguments, tail, rfl⟩, hrest⟩ := List.forall_mem_cons.1 h
    obtain ⟨names, hnames⟩ := ih hrest
    simp [relationPlaceholders, placeholder, hnames, Except.map]

/-- The first relation that is no table is the one that is reported. -/
theorem relationPlaceholders_eq_error {before after : List Sql.Relation} {parts : List Sql.Part}
    (h : ∀ relation ∈ before, relation.IsTable) :
    relationPlaceholders (before ++ .other parts :: after) =
      .error (.notTable (Sql.Part.allSql parts)) := by
  induction before with
  | nil => rfl
  | cons relation rest ih =>
    obtain ⟨⟨name, arguments, tail, rfl⟩, hrest⟩ := List.forall_mem_cons.1 h
    simp [relationPlaceholders, placeholder, ih hrest, Except.map]

end Table

end Reading

/-! ## Requests and failures -/

section Plans

variable {ε γ α : Type} {answer : List Request → Request → Except ε (List γ)}
  {earlier rs : List Request} {p : Plan γ α} {delayed : Bool}

/-- A run that makes no requests is one of a plan without any, and does not fail. -/
theorem Plan.run_of_no_requests (h : (p.run answer delayed earlier).requests = []) :
    p.requests = [] ∧ (p.run answer delayed earlier).result = .ok (p.finish []) := by
  have hplan := Plan.requests_run_eq_nil_iff.1 h
  refine ⟨hplan, ?_⟩
  simp [Plan.run, hplan, askInOrder, Except.map]

/-- What goes on after requests has made them. -/
theorem Traced.requests_eq_nil_of_andThen {β : Type} {t : Traced ε α} {next : α → Traced ε β}
    (h : (t.andThen next).requests = []) : t.requests = [] := by
  unfold Traced.andThen at h
  split at h
  · exact h
  · exact (List.append_eq_nil_iff.1 h).1

/-- A plan fails with what some request failed with. -/
theorem Plan.run_eq_error {e : ε} (h : (p.run answer delayed earlier).result = .error e) :
    ∃ before r, answer before r = .error e := by
  obtain ⟨asked, found, hasks, hrun⟩ := p.exists_run_eq answer delayed earlier
  rw [hrun] at h
  cases hasks with
  | complete _ => cases h
  | cut _ _ hfailed =>
    obtain rfl := Except.error.inj h
    exact ⟨_, _, hfailed⟩

end Plans

/-! ## Filled templates -/

section Filling

variable {o : Options} {r : Resolver} {earlier : List Request} {template : String}
  {e : FillError}

/-- **A template that is turned away fails without a request.** -/
theorem Inadmissible.fill_eq (h : Inadmissible o.dialect template e) :
    fill o r earlier template = ⟨[], .error e⟩ := by
  cases h with
  | noTokens h =>
    simp [fill, readTemplate, cleanTemplate, Sql.sanitize, h, Except.map, Except.mapError]
  | noSql hcleaned h =>
    simp [fill, readTemplate, cleanTemplate, hcleaned, Except.mapError, Sql.parseSelect, h]
  | noSelect hcleaned h hnone =>
    simp [fill, readTemplate, cleanTemplate, hcleaned, Except.mapError,
      parseSelect_of_noSelect h hnone]
  | @noTable q s before after parts hselect hrelations hbefore =>
    have hnames : Table.placeholders s.sources = .error (.notTable (Sql.Part.allSql parts)) := by
      rw [Table.placeholders, hrelations]
      exact Table.relationPlaceholders_eq_error hbefore
    simp [fill, hselect.readTemplate_eq, fillQuery, Tables.resolve, hnames, Traced.andThen,
      Traced.map, Except.map]

/-- **A template is admitted or turned away.** -/
theorem admissible_or_inadmissible (d : Sql.Dialect) (template : String) :
    Admissible d template ∨ ∃ e, Inadmissible d template e := by
  rcases readTemplate_cases d template with
    ⟨e, -, he⟩ | ⟨q, s, -, hselect⟩
  · exact .inr ⟨e, he⟩
  · rcases Sql.Relation.tables_or_other (s.sources.flatMap Sql.Source.relations) with
      hall | ⟨before, parts, after, hrelations, hbefore⟩
    · exact .inl ⟨q, s, hselect, hall⟩
    · exact .inr ⟨_, .noTable hselect hrelations hbefore⟩

/-- The failures that turn a template away. -/
theorem Inadmissible.isParse_or_isUnsupported {d : Sql.Dialect} (h : Inadmissible d template e) :
    e.isParse = true ∨ e.isUnsupported = true := by
  cases h <;> simp [FillError.isParse, FillError.isUnsupported]

/-- Filling a template is filling the query that it is. -/
theorem IsSelect.fill_eq {q : Sql.Query} {s : Sql.Select}
    (h : IsSelect o.dialect template q s) :
    fill o r earlier template = (fillQuery o r earlier q s).map Sql.Query.sql := by
  simp [fill, h.readTemplate_eq]

variable (r earlier) in
/-- The tables of an admitted template are looked up by the names of its relations. -/
theorem Tables.exists_resolve_eq {sources : List Sql.Source}
    (h : ∀ relation ∈ sources.flatMap Sql.Source.relations, relation.IsTable) :
    ∃ names, Tables.resolve r earlier sources =
      (Tables.plan names).run (Table.answer r) r.delayed earlier := by
  obtain ⟨names, hnames⟩ := Table.relationPlaceholders_eq_ok h
  exact ⟨names, by simp [Tables.resolve, Table.placeholders, hnames]⟩

/-- **An admitted template that makes no requests is filled.** -/
theorem Admissible.exists_filled (h : Admissible o.dialect template)
    (hnone : (fill o r earlier template).requests = []) :
    ∃ text, (fill o r earlier template).result = .ok text := by
  obtain ⟨q, s, hselect, hrelations⟩ := h
  obtain ⟨names, hresolve⟩ := Tables.exists_resolve_eq r earlier hrelations
  have hquery : (fillQuery o r earlier q s).requests = [] := by
    simpa [hselect.fill_eq, Traced.map] using hnone
  -- without requests for tables there are none, so no conditions came with them
  obtain ⟨hplan, hfound⟩ := Plan.run_of_no_requests
    (hresolve ▸ Traced.requests_eq_nil_of_andThen hquery)
  obtain rfl : names = [] := by simpa using hplan
  rw [← hresolve] at hfound
  rw [requests_fillQuery hfound, List.append_eq_nil_iff] at hquery
  obtain ⟨-, hclauses⟩ := Plan.run_of_no_requests hquery.2
  have hquery : (fillQuery o r earlier q s).result = .ok _ :=
    fillQuery_eq_ok_iff.2 ⟨_, _, hfound, hclauses, finish_eq_ok_iff.2 ⟨[], rfl, rfl⟩⟩
  exact ⟨_, by rw [hselect.fill_eq, Traced.map, hquery]; rfl⟩

/-- No answer for a table calls the template unsupported. -/
theorem Table.not_isUnsupported_answer {request : Request}
    (h : Table.answer r earlier request = .error e) : e.isUnsupported = false := by
  unfold Table.answer at h
  cases hanswer : r.answer earlier request with
  | error e' =>
    rw [hanswer] at h
    exact Except.error.inj h ▸ rfl
  | ok values => simp [hanswer, Except.mapError] at h

/-- No answer for a column calls the template unsupported. -/
theorem Column.not_isUnsupported_answer {rules : ValueRules} {request : Request}
    (h : Column.answer rules r earlier request = .error e) : e.isUnsupported = false := by
  unfold Column.answer at h
  split at h
  · exact Except.error.inj h ▸ rfl
  · rename_i values _
    cases hexprs : Value.exprs rules values with
    | error e' =>
      rw [hexprs] at h
      exact Except.error.inj h ▸ rfl
    | ok es => simp [hexprs, Except.mapError] at h

/-- No filter calls the template unsupported. -/
theorem not_isUnsupported_finish {q : Sql.Query} {s : Sql.Select} {tables : Tables} {c : Clauses}
    (h : finish o q s tables c = .error e) : e.isUnsupported = false := by
  unfold finish at h
  split at h
  · exact Except.error.inj h ▸ rfl
  · split at h <;> cases h

/-- A query fails in one of its three steps. -/
theorem fillQuery_eq_error {q : Sql.Query} {s : Sql.Select}
    (h : (fillQuery o r earlier q s).result = .error e) :
    (Tables.resolve r earlier s.sources).result = .error e ∨
      (∃ before sources, (Column.run o.valueRules r before
        ((Clauses.ofQuery q s).fill sources)).result = .error e) ∨
      ∃ tables c, finish o q s tables c = .error e := by
  simp only [fillQuery, Traced.andThen] at h
  split at h
  · rename_i e' he
    obtain rfl := Except.error.inj h
    exact .inl he
  · dsimp only at h
    split at h
    · rename_i e' he
      obtain rfl := Except.error.inj h
      exact .inr (.inl ⟨_, _, he⟩)
    · exact .inr (.inr ⟨_, _, h⟩)

/-- What fails in an admitted template is a lookup, or text that came with one. -/
theorem Admissible.not_isUnsupported (h : Admissible o.dialect template)
    (he : (fill o r earlier template).result = .error e) : e.isUnsupported = false := by
  obtain ⟨q, s, hselect, hrelations⟩ := h
  obtain ⟨names, hresolve⟩ := Tables.exists_resolve_eq r earlier hrelations
  have hquery : (fillQuery o r earlier q s).result = .error e := by
    rw [hselect.fill_eq, Traced.map] at he
    cases hresult : (fillQuery o r earlier q s).result with
    | error e' =>
      rw [hresult] at he
      exact congrArg _ (Except.error.inj he)
    | ok query => simp [hresult, Except.map] at he
  rcases fillQuery_eq_error hquery with htables | ⟨before, sources, hclauses⟩ | ⟨tables, c, hlast⟩
  · obtain ⟨before, request, hanswer⟩ := Plan.run_eq_error (hresolve ▸ htables)
    exact Table.not_isUnsupported_answer hanswer
  · obtain ⟨before, request, hanswer⟩ := Plan.run_eq_error hclauses
    exact Column.not_isUnsupported_answer hanswer
  · exact not_isUnsupported_finish hlast

/-- **A template is admitted before anything is looked up.**  One that is not fails without a
request, as SQL that cannot be read or as an unsupported statement, by the cause that
`Inadmissible` gives.  No other failure comes without a request; and no template is called
unsupported once a request has been made. -/
theorem fill_admits_first (o : Options) (r : Resolver) (earlier : List Request)
    (template : String) :
    (¬ Admissible o.dialect template → ∃ e, Inadmissible o.dialect template e ∧
        (e.isParse = true ∨ e.isUnsupported = true) ∧
        fill o r earlier template = ⟨[], .error e⟩) ∧
      (∀ e, fill o r earlier template = ⟨[], .error e⟩ ↔ Inadmissible o.dialect template e) ∧
      ∀ e, (fill o r earlier template).result = .error e → e.isUnsupported = true →
        (fill o r earlier template).requests = [] := by
  have hcases := admissible_or_inadmissible o.dialect template
  refine ⟨fun hnot => ?_, fun e => ⟨fun hfill => ?_, Inadmissible.fill_eq⟩,
    fun e he hunsupported => ?_⟩
  · obtain ⟨e, he⟩ := hcases.resolve_left hnot
    exact ⟨e, he, he.isParse_or_isUnsupported, he.fill_eq⟩
  · rcases hcases with hadmitted | ⟨e', he'⟩
    · obtain ⟨text, htext⟩ := hadmitted.exists_filled (congrArg Traced.requests hfill)
      rw [hfill] at htext
      cases htext
    · have hsame : (⟨[], .error e'⟩ : Traced FillError String) = ⟨[], .error e⟩ :=
        he'.fill_eq.symm.trans hfill
      obtain rfl : e' = e := by simpa using hsame
      exact he'
  · rcases hcases with hadmitted | ⟨e', he'⟩
    · rw [hadmitted.not_isUnsupported he] at hunsupported
      cases hunsupported
    · rw [he'.fill_eq]

/-- The first relation is a table, but nothing is asked for it. -/
example :
    let t := fill .standard (.ofFunction fun _ => .ok []) [] "SELECT a FROM t JOIN (SELECT 1)"
    t.requests = [] ∧ t.result = .error (.notTable "(SELECT 1)") := by
  decide +kernel

end Filling
end QueryTemplate
