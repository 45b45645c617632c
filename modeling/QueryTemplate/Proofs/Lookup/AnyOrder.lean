/-
# Filling with answers in any order

With delay there are two groups of requests: those for the tables of `FROM`, and then those
for the columns of all clauses.  A `Filling` is a template on its way to a query, together
with a log of what happened so far.

| stage | under way | what an answer leads to |
| --- | --- | --- |
| `tables` | the tables | the next answer, the columns, or a failure |
| `columns` | the columns of all clauses | the next answer, the query, or a failure |
| `finished` | nothing | |

`Filling.receive` takes the answer to the request at one place of its group; a failure ends
the filling at once.  Every filling that can come about has one of the forms of `Reached`,
which say exactly what its log holds.  So the outcome is that of a resolver without delay,
and the requests do not depend on the order either (`fill_in_any_order`).
-/

import QueryTemplate.Proofs.Lookup.Arrival
import QueryTemplate.Proofs.Lookup.Requests

namespace QueryTemplate

open Sql (Expr)

/-! ## The requests of the two groups -/

/-- The requests for the tables of a template; none if it is not read. -/
def tableRequests (o : Options) (template : String) : List Request :=
  match readTemplate o.dialect template with
  | .error _ => []
  | .ok (_, s) =>
    match Table.placeholders s.sources with
    | .error _ => []
    | .ok names => names.map Request.table

/-- The requests for the columns of a template, when `f` answers; none if some table is not
found. -/
def columnRequests (o : Options) (f : Request → Answer) (template : String) : List Request :=
  match readTemplate o.dialect template with
  | .error _ => []
  | .ok (q, s) =>
    match (Tables.resolve (.ofFunction f) [] s.sources).result with
    | .error _ => []
    | .ok tables => q.columnRequests s (o.sourcesFor tables)

/-! ## The log -/

/-- What happens while a template is filled. -/
inductive Event where
  | asked (r : Request)
  /-- The request at a place of its group got its values. -/
  | answered (group : Kind) (place : Nat)
  | failed (group : Kind) (place : Nat)
deriving DecidableEq, Repr

namespace Event

/-- The request that is made, if it is one for this kind of placeholder. -/
def asked? (kind : Kind) : Event → Option Request
  | .asked r => if r.kind = kind then some r else none
  | _ => none

/-- The requests of one kind in a log. -/
def askedOf (kind : Kind) (log : List Event) : List Request := log.filterMap (asked? kind)

/-- All tables of a template have been found. -/
def TablesFound (o : Options) (template : String) (log : List Event) : Prop :=
  ∀ place < (tableRequests o template).length, .answered .table place ∈ log

instance (o : Options) (template : String) (log : List Event) :
    Decidable (TablesFound o template log) :=
  inferInstanceAs (Decidable (∀ place < (tableRequests o template).length, _))

/-- **What a log says in any order.**  The tables of the template are asked for; the columns
are asked for as soon as all tables have been found, and never before. -/
structure Orderly (o : Options) (f : Request → Answer) (template : String) (log : List Event) :
    Prop where
  tables : askedOf .table log = tableRequests o template
  columns : askedOf .column log =
    if TablesFound o template log then columnRequests o f template else []
  tablesFirst : ∀ before r after, log = before ++ .asked r :: after → r.kind = .column →
    TablesFound o template before

end Event

/-- A group in the log: its requests, and then its answers. -/
def Pending.events {γ : Type} (group : Kind) (p : Pending γ) : List Event :=
  p.requests.map Event.asked ++ p.arrived.map fun a => .answered group a.1

/-! ## The steps -/

/-- What a filling waits for. -/
inductive Filling.Stage where
  | tables (q : Sql.Query) (s : Sql.Select) (p : Pending String)
  | columns (q : Sql.Query) (s : Sql.Select) (tables : Tables) (p : Pending Expr)
  | finished (result : Except FillError String)

/-- The query that has come about. -/
def Filling.Stage.text? : Stage → Option String
  | .finished (.ok text) => some text
  | _ => none

/-- A filling has a text exactly if it is finished and gave one. -/
theorem Filling.Stage.text?_eq_some_iff {stage : Stage} {text : String} :
    stage.text? = some text ↔ stage = .finished (.ok text) := by
  unfold text?
  split <;> simp_all

/-- A template on its way to a query. -/
structure Filling where
  stage : Filling.Stage
  log : List Event

namespace Filling

variable (o : Options) (f : Request → Answer)

/-- Goes on to the query once all columns are there. -/
def ofColumns (q : Sql.Query) (s : Sql.Select) (tables : Tables) (p : Pending Expr)
    (log : List Event) : Filling :=
  match p.answers? with
  | none => ⟨.columns q s tables p, log⟩
  | some answers =>
    let c := ((Clauses.ofQuery q s).fill (o.sourcesFor tables)).finish answers
    ⟨.finished ((finish o q s tables c).map Sql.Query.sql), log⟩

/-- Makes the requests for the columns of all clauses. -/
def askColumns (q : Sql.Query) (s : Sql.Select) (tables : Tables) (log : List Event) : Filling :=
  let requests := ((Clauses.ofQuery q s).fill (o.sourcesFor tables)).requests
  ofColumns o q s tables ⟨requests, []⟩ (log ++ requests.map .asked)

/-- Goes on to the columns once all tables are there. -/
def ofTables (q : Sql.Query) (s : Sql.Select) (p : Pending String) (log : List Event) : Filling :=
  match p.answers? with
  | none => ⟨.tables q s p, log⟩
  | some answers => askColumns o q s (Tables.ofValues answers.flatten) log

/-- Reads a template and makes the requests for its tables. -/
def start (template : String) : Filling :=
  match readTemplate o.dialect template with
  | .error e => ⟨.finished (.error e), []⟩
  | .ok (q, s) =>
    match Table.placeholders s.sources with
    | .error e => ⟨.finished (.error e), []⟩
    | .ok names =>
      let requests := names.map Request.table
      ofTables o q s ⟨requests, []⟩ (requests.map .asked)

/-- The answer to the request at a place of its group, if that request waits for one. -/
def receive (t : Filling) (place : Nat) : Option Filling :=
  match t.stage with
  | .finished _ => none
  | .tables q s p => (p.waiting? place).map fun r =>
    match Table.answer (.ofFunction f) [] r with
    | .error e => ⟨.finished (.error e), t.log ++ [.failed .table place]⟩
    | .ok values =>
      ofTables o q s (p.arrive place values) (t.log ++ [.answered .table place])
  | .columns q s tables p => (p.waiting? place).map fun r =>
    match Column.answer o.valueRules (.ofFunction f) [] r with
    | .error e => ⟨.finished (.error e), t.log ++ [.failed .column place]⟩
    | .ok values =>
      ofColumns o q s tables (p.arrive place values) (t.log ++ [.answered .column place])

/-- Answers in an order. -/
def receiveAll (t : Filling) (order : List Nat) : Option Filling :=
  order.foldlM (receive o f) t

end Filling

/-! ## The forms of a filling -/

section Forms

variable {o : Options} {f : Request → Answer} {template : String} {q : Sql.Query} {s : Sql.Select}

/-- A template whose tables are not even looked up. -/
inductive Refused (o : Options) (template : String) (e : FillError) : Prop
  | unread (h : readTemplate o.dialect template = .error e)
  | unnamed {q : Sql.Query} {s : Sql.Select} (h : readTemplate o.dialect template = .ok (q, s))
      (hn : Table.placeholders s.sources = .error e)

/-- The requests for the tables of a template, with right answers so far. -/
structure TablesAsked (o : Options) (f : Request → Answer) (template : String) (q : Sql.Query)
    (s : Sql.Select) (p : Pending String) : Prop where
  read : readTemplate o.dialect template = .ok (q, s)
  named : ∃ names, Table.placeholders s.sources = .ok names ∧ p.requests = names.map Request.table
  sound : p.Sound (Table.answer (.ofFunction f) [])

/-- The requests for the columns of a template, with right answers so far; all answers for its
tables are there. -/
structure ColumnsAsked (o : Options) (f : Request → Answer) (template : String) (q : Sql.Query)
    (s : Sql.Select) (before : Pending String) (tables : Tables) (p : Pending Expr) : Prop where
  earlier : TablesAsked o f template q s before
  found : ∃ values, before.answers? = some values ∧ tables = Tables.ofValues values.flatten
  requests : p.requests = q.columnRequests s (o.sourcesFor tables)
  sound : p.Sound (Column.answer o.valueRules (.ofFunction f) [])

/-- A refused template asks for no table. -/
theorem Refused.tableRequests_eq {e : FillError} (h : Refused o template e) :
    tableRequests o template = [] := by
  cases h with
  | unread h => simp [tableRequests, h]
  | unnamed h hn => simp [tableRequests, h, hn]

/-- A refused template asks for no column. -/
theorem Refused.columnRequests_eq {e : FillError} (h : Refused o template e) :
    columnRequests o f template = [] := by
  cases h with
  | unread h => simp [columnRequests, h]
  | unnamed h hn => simp [columnRequests, h, Tables.resolve, hn]

/-- A refused template gives its error and asks nothing. -/
theorem Refused.fill_eq {r : Resolver} {e : FillError} (h : Refused o template e) :
    fill o r [] template = ⟨[], .error e⟩ := by
  cases h with
  | unread h => simp [fill, h]
  | unnamed h hn =>
    simp [fill, h, fillQuery, Tables.resolve, hn, Traced.andThen, Traced.map, Except.map]

namespace TablesAsked

variable {p : Pending String}

/-- The requests of the first group are the template's table requests. -/
theorem tableRequests_eq (h : TablesAsked o f template q s p) :
    tableRequests o template = p.requests := by
  obtain ⟨names, hn, hp⟩ := h.named
  simp [tableRequests, h.read, hn, hp]

/-- What the first group resolves to is what its answers make of it, asked in order. -/
theorem resolve_eq (h : TablesAsked o f template q s p) :
    (Tables.resolve (.ofFunction f) [] s.sources).result =
      (askInOrder (Table.answer (.ofFunction f)) [] p.requests).result.map
        fun values => Tables.ofValues values.flatten := by
  obtain ⟨names, hn, hp⟩ := h.named
  rw [Tables.resolve_eq hn, hp]

/-- A table that is not found fails the template. -/
theorem failed (h : TablesAsked o f template q s p) {r : Request} {e : FillError}
    (hr : r ∈ p.requests) (he : Table.answer (.ofFunction f) [] r = .error e) :
    columnRequests o f template = [] ∧
      ∃ e', (fill o (.ofFunction f) [] template).result = .error e' := by
  obtain ⟨e', he'⟩ := askInOrder_eq_error_of_mem [] hr he
  have hresolve : (Tables.resolve (.ofFunction f) [] s.sources).result = .error e' := by
    rw [h.resolve_eq]
    exact congrArg _ he'
  constructor
  · simp [columnRequests, h.read, hresolve]
  · refine ⟨e', ?_⟩
    simp [fill, h.read, fillQuery, Traced.andThen, hresolve, Traced.map, Except.map]

/-- All answers together give the tables of the template. -/
theorem found (h : TablesAsked o f template q s p) {values : List (List String)}
    (hv : p.answers? = some values) :
    (Tables.resolve (.ofFunction f) [] s.sources).result =
      .ok (Tables.ofValues values.flatten) := by
  rw [h.resolve_eq]
  exact congrArg _ (askInOrder_eq_ok_iff.2 (h.sound.answers?_eq_some hv).1)

/-- An answer that arrives leaves the other requests of its group as they were. -/
theorem arrive (h : TablesAsked o f template q s p) {place : Nat} {r : Request}
    {values : List String} (hr : p.waiting? place = some r)
    (hv : Table.answer (.ofFunction f) [] r = .ok values) :
    TablesAsked o f template q s (p.arrive place values) :=
  ⟨h.read, h.named, h.sound.arrive hr hv⟩

end TablesAsked

namespace ColumnsAsked

variable {before : Pending String} {tables : Tables} {p : Pending Expr}

theorem resolve_eq (h : ColumnsAsked o f template q s before tables p) :
    (Tables.resolve (.ofFunction f) [] s.sources).result = .ok tables := by
  obtain ⟨values, hv, rfl⟩ := h.found
  exact h.earlier.found hv

/-- The requests of the second group are the template's column requests. -/
theorem columnRequests_eq (h : ColumnsAsked o f template q s before tables p) :
    columnRequests o f template = p.requests := by
  simp [columnRequests, h.earlier.read, h.resolve_eq, h.requests]

/-- What a template comes to, once its tables are known, is what the answers of the second group
make of it. -/
theorem fill_eq (h : ColumnsAsked o f template q s before tables p) :
    (fill o (.ofFunction f) [] template).result =
      match (askInOrder (Column.answer o.valueRules (.ofFunction f)) [] p.requests).result with
      | .error e => .error e
      | .ok answers =>
        (finish o q s tables
          (((Clauses.ofQuery q s).fill (o.sourcesFor tables)).finish answers)).map Sql.Query.sql := by
  have hsources : (o.tablesOr tables.names).map Sql.Ident.text = o.sourcesFor tables := rfl
  have hplan : ((Clauses.ofQuery q s).fill (o.sourcesFor tables)).requests = p.requests := by
    rw [Clauses.requests_fill, h.requests]
  simp only [fill, h.earlier.read, fillQuery, Traced.andThen, h.resolve_eq, hsources, Column.run,
    Plan.run, hplan, Traced.map]
  rw [show Column.answer o.valueRules (.ofFunction f) =
    fun _ => Column.answer o.valueRules (.ofFunction f) [] from rfl, askInOrder_earlier _ _ _ []]
  cases (askInOrder (fun _ => Column.answer o.valueRules (.ofFunction f) []) []
    p.requests).result <;> rfl

/-- A column that is not found fails the template. -/
theorem failed (h : ColumnsAsked o f template q s before tables p) {r : Request} {e : FillError}
    (hr : r ∈ p.requests) (he : Column.answer o.valueRules (.ofFunction f) [] r = .error e) :
    ∃ e', (fill o (.ofFunction f) [] template).result = .error e' := by
  obtain ⟨e', he'⟩ := askInOrder_eq_error_of_mem [] hr he
  refine ⟨e', ?_⟩
  rw [h.fill_eq, show (askInOrder (Column.answer o.valueRules (.ofFunction f)) []
    p.requests).result = .error e' from he']

/-- All answers together give the query. -/
theorem found_result (h : ColumnsAsked o f template q s before tables p)
    {answers : List (List Expr)} (ha : p.answers? = some answers) :
    (fill o (.ofFunction f) [] template).result =
      (finish o q s tables
        (((Clauses.ofQuery q s).fill (o.sourcesFor tables)).finish answers)).map Sql.Query.sql := by
  have hall : (askInOrder (Column.answer o.valueRules (.ofFunction f)) [] p.requests).result =
      .ok answers :=
    askInOrder_eq_ok_iff.2 (h.sound.answers?_eq_some ha).1
  rw [h.fill_eq, hall]

theorem arrive (h : ColumnsAsked o f template q s before tables p) {place : Nat} {r : Request}
    {values : List Expr} (hr : p.waiting? place = some r)
    (hv : Column.answer o.valueRules (.ofFunction f) [] r = .ok values) :
    ColumnsAsked o f template q s before tables (p.arrive place values) :=
  ⟨h.earlier, h.found, h.requests, h.sound.arrive hr hv⟩

end ColumnsAsked

/-- **The fillings that come about**, with their logs: the tables that were asked for and
answered, then, once all of them are there, the columns; at most one failure, at the end. -/
inductive Reached (o : Options) (f : Request → Answer) (template : String) : Filling → Prop
  | refused {e : FillError} (h : Refused o template e) :
      Reached o f template ⟨.finished (.error e), []⟩
  | tables {q : Sql.Query} {s : Sql.Select} {p : Pending String}
      (h : TablesAsked o f template q s p) (hp : p.answers? = none) :
      Reached o f template ⟨.tables q s p, p.events .table⟩
  | tableFailed {q : Sql.Query} {s : Sql.Select} {p : Pending String} {place : Nat} {r : Request}
      {e : FillError} (h : TablesAsked o f template q s p) (hr : p.waiting? place = some r)
      (he : Table.answer (.ofFunction f) [] r = .error e) :
      Reached o f template ⟨.finished (.error e), p.events .table ++ [.failed .table place]⟩
  | columns {q : Sql.Query} {s : Sql.Select} {before : Pending String} {tables : Tables}
      {p : Pending Expr} (h : ColumnsAsked o f template q s before tables p)
      (hp : p.answers? = none) :
      Reached o f template ⟨.columns q s tables p, before.events .table ++ p.events .column⟩
  | columnFailed {q : Sql.Query} {s : Sql.Select} {before : Pending String} {tables : Tables}
      {p : Pending Expr} {place : Nat} {r : Request} {e : FillError}
      (h : ColumnsAsked o f template q s before tables p) (hr : p.waiting? place = some r)
      (he : Column.answer o.valueRules (.ofFunction f) [] r = .error e) :
      Reached o f template
        ⟨.finished (.error e), before.events .table ++ p.events .column ++ [.failed .column place]⟩
  | found {q : Sql.Query} {s : Sql.Select} {before : Pending String} {tables : Tables}
      {p : Pending Expr} {answers : List (List Expr)}
      (h : ColumnsAsked o f template q s before tables p) (ha : p.answers? = some answers) :
      Reached o f template
        ⟨.finished ((finish o q s tables
            (((Clauses.ofQuery q s).fill (o.sourcesFor tables)).finish answers)).map Sql.Query.sql),
          before.events .table ++ p.events .column⟩

/-- An arriving answer is logged after what was logged before. -/
theorem Pending.events_arrive {γ : Type} {p : Pending γ} {group : Kind} {place : Nat}
    {values : List γ} :
    (p.arrive place values).events group = p.events group ++ [.answered group place] := by
  simp [events, arrive]

namespace Reached

variable {before : Pending String} {tables : Tables}

/-- A filling that waits for columns is reached. -/
theorem ofColumns {p : Pending Expr} (h : ColumnsAsked o f template q s before tables p) :
    Reached o f template
      (Filling.ofColumns o q s tables p (before.events .table ++ p.events .column)) := by
  unfold Filling.ofColumns
  cases ha : p.answers? with
  | none => exact .columns h ha
  | some answers => exact .found h ha

/-- A filling that waits for tables is reached. -/
theorem ofTables {p : Pending String} (h : TablesAsked o f template q s p) :
    Reached o f template (Filling.ofTables o q s p (p.events .table)) := by
  unfold Filling.ofTables
  cases ha : p.answers? with
  | none => exact .tables h ha
  | some values =>
    have hcolumns : ColumnsAsked o f template q s p (Tables.ofValues values.flatten)
        ⟨((Clauses.ofQuery q s).fill (o.sourcesFor (Tables.ofValues values.flatten))).requests, []⟩ :=
      ⟨h, ⟨values, ha, rfl⟩, Clauses.requests_fill _ _ _, Pending.sound_start _⟩
    simpa [Filling.askColumns, Pending.events] using ofColumns hcolumns

/-- A filling that starts is reached. -/
theorem start : Reached o f template (Filling.start o template) := by
  unfold Filling.start
  cases hq : readTemplate o.dialect template with
  | error e => exact .refused (.unread hq)
  | ok found =>
    obtain ⟨q, s⟩ := found
    dsimp only
    cases hn : Table.placeholders s.sources with
    | error e => exact .refused (.unnamed hq hn)
    | ok names =>
      have htables : TablesAsked o f template q s ⟨names.map Request.table, []⟩ :=
        ⟨hq, ⟨names, hn, rfl⟩, Pending.sound_start _⟩
      simpa [Pending.events] using ofTables htables

/-- **One answer leads from one of these forms to another.** -/
theorem receive {t t' : Filling} {place : Nat} (h : Reached o f template t)
    (ht : t.receive o f place = some t') : Reached o f template t' := by
  cases h with
  | refused _ | tableFailed _ _ _ | columnFailed _ _ _ | found _ _ => cases ht
  | tables h _ =>
    obtain ⟨r, hr, rfl⟩ := Option.map_eq_some_iff.1 ht
    cases hv : Table.answer (.ofFunction f) [] r with
    | error e => exact .tableFailed h hr hv
    | ok values =>
      simpa [Pending.events_arrive] using ofTables (h.arrive hr hv)
  | columns h _ =>
    obtain ⟨r, hr, rfl⟩ := Option.map_eq_some_iff.1 ht
    cases hv : Column.answer o.valueRules (.ofFunction f) [] r with
    | error e => exact .columnFailed h hr hv
    | ok values =>
      simpa [Pending.events_arrive] using ofColumns (h.arrive hr hv)

/-- Whatever order the answers arrive in, the filling stays a reached one. -/
theorem receiveAll {t t' : Filling} {order : List Nat} (h : Reached o f template t)
    (ht : t.receiveAll o f order = some t') : Reached o f template t' := by
  induction order generalizing t with
  | nil =>
    obtain rfl := Option.some.inj ht
    exact h
  | cons place order ih =>
    obtain ⟨next, hnext, hrest⟩ := Option.bind_eq_some_iff.1 ht
    exact ih (h.receive hnext) hrest

end Reached

/-! ## What the log holds -/

open Event

/-- What two logs ask together is what they ask one after the other. -/
theorem Event.askedOf_append (kind : Kind) (log more : List Event) :
    askedOf kind (log ++ more) = askedOf kind log ++ askedOf kind more :=
  List.filterMap_append

/-- A failure asks nothing. -/
@[simp] theorem Event.askedOf_failed (kind group : Kind) (place : Nat) :
    askedOf kind [.failed group place] = [] := rfl

/-- Requests for placeholders of one kind ask for nothing else. -/
theorem Event.askedOf_requests {rs : List Request} {group : Kind}
    (h : ∀ r ∈ rs, r.kind = group) (kind : Kind) :
    askedOf kind (rs.map Event.asked) = if group = kind then rs else [] := by
  induction rs with
  | nil => simp [askedOf]
  | cons r rest ih =>
    have hr := h r List.mem_cons_self
    have hrest := ih fun r hr => h r (List.mem_cons_of_mem _ hr)
    rw [List.map_cons, ← List.singleton_append, askedOf_append, hrest]
    by_cases hkind : group = kind <;> simp [askedOf, asked?, hr, hkind]

/-- A group asks its own requests and no others. -/
theorem Pending.askedOf_events {γ : Type} {p : Pending γ} {group : Kind}
    (h : ∀ r ∈ p.requests, r.kind = group) (kind : Kind) :
    askedOf kind (p.events group) = if group = kind then p.requests else [] := by
  have hanswers : askedOf kind (p.arrived.map fun a => .answered group a.1) = [] := by
    simp [askedOf, asked?]
  rw [events, askedOf_append, hanswers, askedOf_requests h, List.append_nil]

/-- A request is logged as answered exactly if its answer has arrived. -/
theorem Pending.answered_mem_events_iff {γ : Type} {p : Pending γ} {group : Kind} {place : Nat} :
    .answered group place ∈ p.events group ↔ (p.arrived.lookup place).isSome := by
  have hplace : ∀ a : Nat × List γ,
      Event.answered group a.1 = .answered group place ↔ (place == a.1) = true := by
    intro a
    rw [beq_iff_eq, Event.answered.injEq]
    exact ⟨fun h => h.2.symm, fun h => ⟨rfl, h.symm⟩⟩
  simp [events, hplace, List.lookup_isSome_iff]

/-- The entries of a query ask for columns only. -/
theorem Sql.Query.kind_of_mem_columnRequests {q : Sql.Query} {s : Sql.Select}
    {sources : List String} {r : Request} (hr : r ∈ q.columnRequests s sources) :
    r.kind = .column := by
  obtain ⟨e, -, n, -, rfl⟩ := mem_columnRequests_iff.1 hr
  rfl

/-- A request that is logged is asked in its own group. -/
theorem Event.mem_askedOf {r : Request} {log : List Event} (h : .asked r ∈ log) :
    r ∈ askedOf r.kind log :=
  List.mem_filterMap.2 ⟨_, h, by simp [asked?]⟩

namespace TablesAsked

variable {p : Pending String}

/-- The first group asks for tables only. -/
theorem kind_of_mem (h : TablesAsked o f template q s p) :
    ∀ r ∈ p.requests, r.kind = .table := by
  intro r hr
  obtain ⟨names, -, hp⟩ := h.named
  obtain ⟨name, -, rfl⟩ := List.mem_map.1 (hp ▸ hr)
  rfl

/-- The tables are found once every request of the first group is answered. -/
theorem tablesFound (h : TablesAsked o f template q s p) {values : List (List String)}
    (hv : p.answers? = some values) : TablesFound o template (p.events .table) := by
  intro place hplace
  rw [h.tableRequests_eq] at hplace
  exact Pending.answered_mem_events_iff.2 ((h.sound.answers?_eq_some hv).2 place hplace)

/-- The tables are not found while a request of the first group waits. -/
theorem not_tablesFound (h : TablesAsked o f template q s p) {place : Nat} {r : Request}
    (hr : p.waiting? place = some r) : ¬ TablesFound o template (p.events .table) := by
  intro hfound
  have hplace := (List.getElem?_eq_some_iff.1 (Pending.getElem?_of_waiting? hr)).1
  have hsome := Pending.answered_mem_events_iff.1 (hfound place (by rwa [h.tableRequests_eq]))
  simp [Pending.waiting?, hsome] at hr

/-- While a table is missing, no column is asked for. -/
theorem orderly (h : TablesAsked o f template q s p) {place : Nat} {r : Request}
    (hr : p.waiting? place = some r) : Orderly o f template (p.events .table) := by
  have hcolumns : askedOf .column (p.events .table) = [] :=
    (Pending.askedOf_events h.kind_of_mem .column).trans (if_neg (by decide))
  refine ⟨?_, ?_, ?_⟩
  · rw [Pending.askedOf_events h.kind_of_mem, if_pos rfl, h.tableRequests_eq]
  · rw [hcolumns, if_neg (h.not_tablesFound hr)]
  · intro before r after hlog hkind
    have hmem : .asked r ∈ p.events .table := by simp [hlog]
    have := mem_askedOf hmem
    simp [hkind, hcolumns] at this

end TablesAsked

/-- Once all tables are there, the columns of all clauses are asked for. -/
theorem ColumnsAsked.orderly {before : Pending String} {tables : Tables} {p : Pending Expr}
    (h : ColumnsAsked o f template q s before tables p) :
    Orderly o f template (before.events .table ++ p.events .column) := by
  obtain ⟨values, hv, -⟩ := h.found
  have hfound := h.earlier.tablesFound hv
  have hmono : ∀ {more}, TablesFound o template (before.events .table ++ more) :=
    fun place hplace => List.mem_append_left _ (hfound place hplace)
  have hkind : ∀ r ∈ p.requests, r.kind = .column := fun r hr =>
    Sql.Query.kind_of_mem_columnRequests (h.requests ▸ hr)
  have hbefore : askedOf .column (before.events .table) = [] :=
    (Pending.askedOf_events h.earlier.kind_of_mem .column).trans (if_neg (by decide))
  refine ⟨?_, ?_, ?_⟩
  · rw [askedOf_append, Pending.askedOf_events h.earlier.kind_of_mem, if_pos rfl,
      Pending.askedOf_events hkind, if_neg (by decide), List.append_nil,
      h.earlier.tableRequests_eq]
  · rw [askedOf_append, hbefore, Pending.askedOf_events hkind, if_pos rfl, if_pos hmono,
      h.columnRequests_eq, List.nil_append]
  · intro pre r post hlog hr
    rcases List.append_eq_append_iff.1 hlog with ⟨as, rfl, -⟩ | ⟨bs, hpre, hpost⟩
    · exact hmono
    · cases bs with
      | nil =>
        rw [List.append_nil] at hpre
        exact hpre ▸ hfound
      | cons b bs =>
        obtain ⟨rfl, -⟩ := List.cons.inj hpost
        have hmem : .asked r ∈ before.events .table := by simp [hpre]
        have := mem_askedOf hmem
        simp [hr, hbefore] at this

/-- A failure at the end of a log asks for nothing and finds nothing. -/
theorem Event.Orderly.failed {log : List Event} (h : Orderly o f template log) (group : Kind)
    (place : Nat) : Orderly o f template (log ++ [.failed group place]) := by
  have hfound : TablesFound o template (log ++ [.failed group place]) ↔
      TablesFound o template log := by
    simp [TablesFound]
  refine ⟨?_, ?_, ?_⟩
  · rw [askedOf_append, askedOf_failed, List.append_nil, h.tables]
  · rw [askedOf_append, askedOf_failed, List.append_nil, h.columns]
    simp only [hfound]
  · intro before r after hlog hr
    rcases List.append_eq_append_iff.1 hlog.symm with ⟨as, hbefore, hafter⟩ | ⟨bs, rfl, hbs⟩
    · cases as with
      | nil => simp at hafter
      | cons a as =>
        obtain ⟨rfl, -⟩ := List.cons.inj hafter
        exact h.tablesFirst before r as hbefore hr
    · cases bs with
      | nil => simp at hbs
      | cons b bs => simp at hbs

/-- Every filling that is reached has an orderly log. -/
theorem Reached.orderly {t : Filling} (h : Reached o f template t) :
    Orderly o f template t.log := by
  cases h with
  | refused h =>
    refine ⟨h.tableRequests_eq.symm, by simp [h.columnRequests_eq, askedOf], ?_⟩
    intro before r after hlog
    simp at hlog
  | tables h hp =>
    obtain ⟨place, r, hr⟩ := Pending.exists_waiting? hp
    exact h.orderly hr
  | tableFailed h hr _ => exact (h.orderly hr).failed _ _
  | columns h _ => exact h.orderly
  | columnFailed h _ _ => exact h.orderly.failed _ _
  | found h _ => exact h.orderly

/-! ## How a filling ends -/

/-- A finished filling has succeeded just when the template is filled without delay, and then
with the same text. -/
theorem Reached.result_eq_ok_iff {t : Filling} (h : Reached o f template t)
    {result : Except FillError String} (ht : t.stage = .finished result) (text : String) :
    result = .ok text ↔ (fill o (.ofFunction f) [] template).result = .ok text := by
  cases h with
  | refused h =>
    obtain rfl := Filling.Stage.finished.inj ht
    rw [h.fill_eq]
  | tables _ _ | columns _ _ => cases ht
  | tableFailed h hr he =>
    obtain rfl := Filling.Stage.finished.inj ht
    have hmem := List.mem_of_getElem? (Pending.getElem?_of_waiting? hr)
    obtain ⟨e', he'⟩ := (h.failed hmem he).2
    simp [he']
  | columnFailed h hr he =>
    obtain rfl := Filling.Stage.finished.inj ht
    have hmem := List.mem_of_getElem? (Pending.getElem?_of_waiting? hr)
    obtain ⟨e', he'⟩ := h.failed hmem he
    simp [he']
  | found h ha =>
    obtain rfl := Filling.Stage.finished.inj ht
    rw [h.found_result ha]

/-- How many answers a filling still waits for, at most. -/
def Filling.left (o : Options) (f : Request → Answer) (template : String) (t : Filling) : Nat :=
  match t.stage with
  | .tables _ _ p => p.waiting.card + (columnRequests o f template).length
  | .columns _ _ _ p => p.waiting.card
  | .finished _ => 0

/-- While columns are awaited, no more arrivals are left than requests wait. -/
theorem Filling.left_ofColumns_le {tables : Tables} {p : Pending Expr} {log : List Event} :
    (ofColumns o q s tables p log).left o f template ≤ p.waiting.card := by
  unfold ofColumns
  cases p.answers? with
  | none => exact le_rfl
  | some answers => exact Nat.zero_le _

/-- While tables are awaited, no more arrivals are left than tables wait and columns will be asked.
-/
theorem TablesAsked.left_ofTables_le {p : Pending String} (h : TablesAsked o f template q s p)
    {log : List Event} : (Filling.ofTables o q s p log).left o f template ≤
      p.waiting.card + (columnRequests o f template).length := by
  unfold Filling.ofTables
  cases ha : p.answers? with
  | none => exact le_rfl
  | some values =>
    have hcolumns : ColumnsAsked o f template q s p (Tables.ofValues values.flatten)
        ⟨((Clauses.ofQuery q s).fill (o.sourcesFor (Tables.ofValues values.flatten))).requests, []⟩ :=
      ⟨h, ⟨values, ha, rfl⟩, Clauses.requests_fill _ _ _, Pending.sound_start _⟩
    rw [hcolumns.columnRequests_eq]
    refine le_trans Filling.left_ofColumns_le ?_
    rw [Pending.card_waiting_start]
    exact Nat.le_add_left _ _

/-- Each answer leaves fewer to wait for. -/
theorem Reached.left_receive_lt {t t' : Filling} {place : Nat} (h : Reached o f template t)
    (ht : t.receive o f place = some t') : t'.left o f template < t.left o f template := by
  cases h with
  | refused _ | tableFailed _ _ _ | columnFailed _ _ _ | found _ _ => cases ht
  | @tables q s p h _ =>
    obtain ⟨r, hr, rfl⟩ := Option.map_eq_some_iff.1 ht
    have hfewer := fun values => Pending.card_waiting_arrive hr values
    cases hv : Table.answer (.ofFunction f) [] r with
    | error e => exact Nat.lt_of_lt_of_le (Nat.zero_lt_of_lt (hfewer [])) (Nat.le_add_right _ _)
    | ok values =>
      exact Nat.lt_of_le_of_lt (h.arrive hr hv).left_ofTables_le
        (Nat.add_lt_add_right (hfewer values) _)
  | columns h _ =>
    obtain ⟨r, hr, rfl⟩ := Option.map_eq_some_iff.1 ht
    have hfewer := fun values => Pending.card_waiting_arrive hr values
    cases hv : Column.answer o.valueRules (.ofFunction f) [] r with
    | error e => exact Nat.zero_lt_of_lt (hfewer [])
    | ok values => exact Nat.lt_of_le_of_lt Filling.left_ofColumns_le (hfewer values)

/-- A filling that is not finished waits for some answer. -/
theorem Reached.exists_receive {t : Filling} (h : Reached o f template t) :
    (∃ result, t.stage = .finished result) ∨ ∃ place t', t.receive o f place = some t' := by
  cases h with
  | refused _ | tableFailed _ _ _ | columnFailed _ _ _ | found _ _ => exact .inl ⟨_, rfl⟩
  | tables h hp | columns h hp =>
    obtain ⟨place, r, hr⟩ := Pending.exists_waiting? hp
    exact .inr ⟨place, _, Option.map_eq_some_iff.2 ⟨r, hr, rfl⟩⟩

/-- Every filling can go on to its end. -/
theorem Reached.exists_finished {t : Filling} (h : Reached o f template t) :
    ∃ more t' result, t.receiveAll o f more = some t' ∧ t'.stage = .finished result := by
  induction hn : t.left o f template using Nat.strong_induction_on generalizing t with
  | _ n ih =>
    rcases h.exists_receive with ⟨result, hresult⟩ | ⟨place, next, hnext⟩
    · exact ⟨[], t, result, rfl, hresult⟩
    · obtain ⟨more, t', result, hmore, hresult⟩ :=
        ih _ (hn ▸ h.left_receive_lt hnext) (h.receive hnext) rfl
      exact ⟨place :: more, t', result, Option.bind_eq_some_iff.2 ⟨next, hnext, hmore⟩, hresult⟩

/-- A resolver with delay makes all requests of a group, and gives what it gives without. -/
theorem fill_delayed :
    fill o ⟨fun _ => f, true⟩ [] template =
      ⟨tableRequests o template ++ columnRequests o f template,
        (fill o (.ofFunction f) [] template).result⟩ := by
  cases hq : readTemplate o.dialect template with
  | error e =>
    have h : Refused o template e := .unread hq
    rw [h.fill_eq, h.fill_eq, h.tableRequests_eq, h.columnRequests_eq, List.append_nil]
  | ok found =>
    obtain ⟨q, s⟩ := found
    cases hn : Table.placeholders s.sources with
    | error e =>
      have h : Refused o template e := .unnamed hq hn
      rw [h.fill_eq, h.fill_eq, h.tableRequests_eq, h.columnRequests_eq, List.append_nil]
    | ok names =>
      have hdelay : Tables.resolve ⟨fun _ => f, true⟩ [] s.sources =
          ⟨tableRequests o template, (Tables.resolve (.ofFunction f) [] s.sources).result⟩ := by
        simp only [Tables.resolve_eq hn, tableRequests, hq, hn, if_true]
        rfl
      have hcolumns : columnRequests o f template =
          match (Tables.resolve (.ofFunction f) [] s.sources).result with
          | .error _ => []
          | .ok tables => q.columnRequests s (o.sourcesFor tables) := by
        simp only [columnRequests, hq]
      rw [hcolumns]
      simp only [fill, hq, fillQuery, hdelay]
      generalize Tables.resolve (.ofFunction f) [] s.sources = t
      obtain ⟨asked, found⟩ := t
      cases found with
      | error e => simp [Traced.andThen, Traced.map]
      | ok tables =>
        have hsources : (o.tablesOr tables.names).map Sql.Ident.text = o.sourcesFor tables := rfl
        have hearlier : askInOrder (Column.answer o.valueRules ⟨fun _ => f, true⟩)
              ([] ++ tableRequests o template) (q.columnRequests s (o.sourcesFor tables)) =
            askInOrder (Column.answer o.valueRules (.ofFunction f)) ([] ++ asked)
              (q.columnRequests s (o.sourcesFor tables)) :=
          askInOrder_earlier (Column.answer o.valueRules (.ofFunction f) []) _ _ _
        simp only [Traced.andThen, Traced.map, hsources, Column.run, Plan.run,
          Clauses.requests_fill, hearlier]
        cases (askInOrder (Column.answer o.valueRules (.ofFunction f)) ([] ++ asked)
          (q.columnRequests s (o.sourcesFor tables))).result <;> simp [Except.map]

end Forms

/-! ## Any order -/

/-- **The order of the answers does not matter.**  However they come, the same tables are asked
for, then, once all of these have been found, the same columns.  Every order can go on until
the filling ends.  It ends with a text just when the template is filled without delay, and with
the same text.  A resolver with delay makes these requests. -/
theorem fill_in_any_order (o : Options) (f : Request → Answer) (template : String) :
    (∀ order t, (Filling.start o template).receiveAll o f order = some t →
      Event.Orderly o f template t.log ∧
      (∃ more t' result, t.receiveAll o f more = some t' ∧ t'.stage = .finished result) ∧
      ∀ result, t.stage = .finished result → ∀ text,
        (result = .ok text ↔ (fill o (.ofFunction f) [] template).result = .ok text)) ∧
    fill o ⟨fun _ => f, true⟩ [] template =
      ⟨tableRequests o template ++ columnRequests o f template,
        (fill o (.ofFunction f) [] template).result⟩ := by
  refine ⟨fun order t ht => ?_, ?_⟩
  · have hreached := Reached.start.receiveAll ht
    exact ⟨hreached.orderly, hreached.exists_finished,
      fun result hresult text => hreached.result_eq_ok_iff hresult text⟩
  · exact fill_delayed

/-- The condition of the second table comes before the name of the first. -/
theorem fill_in_any_order_second_first :
    let f : Request → Answer := fun request =>
      .ok [if request.name = "u" then "age > 18" else request.name]
    let template := "SELECT a FROM t JOIN u ON true WHERE b"
    let text := "SELECT a FROM t WHERE (b) AND (age > 18)"
    ∃ t, (Filling.start .standard template).receiveAll .standard f [1, 0, 1, 0] = some t ∧
      t.stage = .finished (.ok text) ∧
      (fill .standard (.ofFunction f) [] template).result = .ok text := by
  intro f template text
  have hrun : ((Filling.start .standard template).receiveAll .standard f [1, 0, 1, 0]).bind
      (fun t => t.stage.text?) = some text := by
    decide +kernel
  obtain ⟨t, ht, htext⟩ := Option.bind_eq_some_iff.1 hrun
  have hstage : t.stage = .finished (.ok text) := Filling.Stage.text?_eq_some_iff.1 htext
  exact ⟨t, ht, hstage, ((fill_in_any_order .standard f template).1 _ t ht).2.2 _ hstage text |>.1 rfl⟩

end QueryTemplate
