/-
# Tables and conditions

The values that come for the tables of a template are sorted one by one.  A value that is a
name is a table, and any other value is a condition; so each value has one place, and nothing
is lost or made up (`Tables.Sorted`).

| | order | repeats |
| --- | --- | --- |
| tables | as first seen, in all answers | none, in whatever quotes |
| conditions | as they came | kept |

The tables are what `FROM` is written from and what columns are looked up for
(`fill_partitions`).  If there are none, the default table stands in for them, and else
`null` in `FROM` alone.
-/

import QueryTemplate.Proofs.Fill.Steps
import QueryTemplate.Proofs.Grammar.TableList

namespace QueryTemplate

open Sql (Ident)

/-! ## Names -/

namespace Value

/-- A text that is a name: a word, or something without double quotes in double quotes. -/
inductive Names : (text : String) → Ident → Prop
  | word {text : String} : text ≠ "" → (∀ c ∈ text.toList, isWordChar c = true) →
      Names text (nameIdent text)
  | quoted {inner : String} : inner ≠ "" → '"' ∉ inner.toList →
      Names ("\"" ++ inner ++ "\"") (.quoted inner)

/-- A text is unquoted if it stands between double quotes and has none inside. -/
theorem unquoted?_eq_some_iff {cs inner : List Char} :
    unquoted? cs = some inner ↔ cs = '"' :: (inner ++ ['"']) ∧ inner ≠ [] ∧ '"' ∉ inner := by
  constructor
  · intro h
    unfold unquoted? at h
    split at h
    · rename_i rest
      split at h
      · rename_i more hrest
        have hcs : rest = more.reverse ++ ['"'] := by
          rw [← List.reverse_reverse rest, hrest, List.reverse_cons]
        split at h
        · cases h
        · rename_i hinner
          obtain rfl := Option.some.inj h
          rw [Bool.or_eq_true, not_or, List.isEmpty_iff, List.contains_iff_mem] at hinner
          exact ⟨by rw [hcs], by simpa using hinner.1, by simpa using hinner.2⟩
      · cases h
    · cases h
  · rintro ⟨rfl, hne, hquote⟩
    have hempty : inner.isEmpty = false := by simpa using hne
    simp [unquoted?, hempty, hquote]

/-- **A value names just what its text says.** -/
theorem ident?_eq_some_iff {text : String} {n : Ident} : ident? text = some n ↔ Names text n := by
  constructor
  · intro h
    unfold ident? at h
    split at h
    · rename_i hword
      obtain rfl := Option.some.inj h
      rw [Bool.and_eq_true, Bool.not_eq_true', List.all_eq_true] at hword
      exact .word (by simpa using hword.1) hword.2
    · obtain ⟨inner, hinner, rfl⟩ := Option.map_eq_some_iff.1 h
      obtain ⟨hcs, hne, hquote⟩ := unquoted?_eq_some_iff.1 hinner
      have htext : text = "\"" ++ String.ofList inner ++ "\"" := by
        rw [← String.toList_inj, hcs]
        simp
      rw [htext]
      exact .quoted (by simpa using hne) (by simpa using hquote)
  · rintro (⟨hne, hword⟩ | ⟨hne, hquote⟩)
    · have hword' : (!text.isEmpty && text.toList.all isWordChar) = true := by
        rw [Bool.and_eq_true, Bool.not_eq_true', List.all_eq_true]
        exact ⟨by simpa using hne, hword⟩
      rw [ident?, if_pos hword']
    · rename_i inner
      have hcs : ("\"" ++ inner ++ "\"").toList = '"' :: (inner.toList ++ ['"']) := by simp
      have hsome : unquoted? ("\"" ++ inner ++ "\"").toList = some inner.toList :=
        unquoted?_eq_some_iff.2 ⟨hcs, by simpa using hne, hquote⟩
      have hquoted : isWordChar '"' = false := by decide
      rw [ident?, if_neg (by simp [hquoted]), hsome]
      simp

/-- A text names one thing. -/
theorem Names.unique {text : String} {n n' : Ident} (h : Names text n) (h' : Names text n') :
    n = n' :=
  Option.some.inj ((ident?_eq_some_iff.2 h).symm.trans (ident?_eq_some_iff.2 h'))

end Value

open Value (Names)

/-! ## First seen names -/

namespace Sql

/-- Names without those that have the text of an earlier one. -/
def firstSeen (names : List Ident) : List Ident :=
  names.eraseDupsBy fun n m => n.text == m.text

/-- The texts of first seen names are the first seen texts. -/
theorem map_text_firstSeen (names : List Ident) :
    (firstSeen names).map Ident.text = distinct (names.map Ident.text) := by
  have hloop : ∀ names seen : List Ident,
      (List.eraseDupsBy.loop (fun n m => n.text == m.text) names seen).map Ident.text =
        (names.map Ident.text).foldl
          (fun seen n => if seen.contains n then seen else seen ++ [n])
          (seen.reverse.map Ident.text) := by
    intro names
    induction names with
    | nil => intro seen; rfl
    | cons n names ih =>
      intro seen
      have hany : seen.any (fun m => n.text == m.text) =
          (seen.reverse.map Ident.text).contains n.text := by
        rw [List.contains_eq_any_beq, List.any_map, List.any_reverse]
        rfl
      rw [List.eraseDupsBy.loop, List.map_cons, List.foldl_cons, ← hany]
      cases seen.any fun m => n.text == m.text with
      | true => exact ih seen
      | false => simpa using ih (n :: seen)
  exact hloop names []

end Sql

/-! ## Sorted values -/

namespace Tables

/-- Values, in their order: which of them are names, and which are conditions. -/
inductive Sorted : (values : List String) → List Ident → (conditions : List String) → Prop
  | nil : Sorted [] [] []
  | name {v : String} {vs : List String} {n : Ident} {ns : List Ident} {cs : List String} :
      Names (Text.trim v) n → Sorted vs ns cs → Sorted (v :: vs) (n :: ns) cs
  | condition {v : String} {vs : List String} {ns : List Ident} {cs : List String} :
      (∀ n, ¬ Names (Text.trim v) n) → Sorted vs ns cs →
        Sorted (v :: vs) ns (Text.trim v :: cs)

/-- There is one way to sort values. -/
theorem Sorted.unique {values : List String} {ns ns' : List Ident} {cs cs' : List String}
    (h : Sorted values ns cs) (h' : Sorted values ns' cs') : ns = ns' ∧ cs = cs' := by
  induction h generalizing ns' cs' with
  | nil =>
    cases h'
    exact ⟨rfl, rfl⟩
  | name hn _ ih =>
    cases h' with
    | name hn' hrest =>
      obtain ⟨rfl, rfl⟩ := ih hrest
      exact ⟨by rw [hn.unique hn'], rfl⟩
    | condition hnone _ => exact absurd hn (hnone _)
  | condition hnone _ ih =>
    cases h' with
    | name hn' _ => exact absurd hn' (hnone _)
    | condition _ hrest =>
      obtain ⟨rfl, rfl⟩ := ih hrest
      exact ⟨rfl, rfl⟩

/-- A value that went to the conditions names nothing. -/
theorem Sorted.not_names {values : List String} {ns : List Ident} {cs : List String}
    (h : Sorted values ns cs) : ∀ c ∈ cs, ∀ n, ¬ Names c n := by
  induction h with
  | nil => simp
  | name _ _ ih => exact ih
  | condition hnone _ ih => exact List.forall_mem_cons.2 ⟨hnone, ih⟩

/-- **Each value has a place**: it names a table, or it is a condition. -/
theorem Sorted.place {values : List String} {ns : List Ident} {cs : List String}
    (h : Sorted values ns cs) {v : String} (hv : v ∈ values) :
    (∃ n ∈ ns, Names (Text.trim v) n) ∨ Text.trim v ∈ cs := by
  induction h with
  | nil => cases hv
  | name hn _ ih =>
    rcases List.mem_cons.1 hv with rfl | hv
    · exact .inl ⟨_, List.mem_cons_self, hn⟩
    · exact (ih hv).imp_left fun ⟨n, hn, hname⟩ => ⟨n, List.mem_cons_of_mem _ hn, hname⟩
  | condition _ _ ih =>
    rcases List.mem_cons.1 hv with rfl | hv
    · exact .inr List.mem_cons_self
    · exact (ih hv).imp_right (List.mem_cons_of_mem _)

/-- A value is sorted in behind those before it. -/
theorem push_eq (t : Tables) (v : String) :
    t.push v = match Value.ident? (Text.trim v) with
      | some n => if t.names.any fun m => n.text == m.text then t else
          { t with names := t.names ++ [n] }
      | none => { t with conditions := t.conditions ++ [Text.trim v] } := by
  cases hname : Value.ident? (Text.trim v) with
  | none => simp only [push, hname]
  | some n =>
    have hcomm : (fun m : Ident => m.text == n.text) = fun m => n.text == m.text :=
      funext fun m => BEq.comm
    simp only [push, hname, hcomm]

/-- Values are sorted in behind the tables and conditions that are there already. -/
theorem foldl_push (values : List String) (t : Tables) : ∃ ns cs, Sorted values ns cs ∧
    (values.foldl push t).names =
      List.eraseDupsBy.loop (fun n m => n.text == m.text) ns t.names.reverse ∧
    (values.foldl push t).conditions = t.conditions ++ cs := by
  induction values generalizing t with
  | nil => exact ⟨[], [], .nil, by simp [List.eraseDupsBy.loop], by simp⟩
  | cons v values ih =>
    rw [List.foldl_cons, push_eq]
    cases hname : Value.ident? (Text.trim v) with
    | some n =>
      have hn := Value.ident?_eq_some_iff.1 hname
      dsimp only
      rw [← List.any_reverse]
      cases hany : t.names.reverse.any fun m => n.text == m.text with
      | true =>
        obtain ⟨ns, cs, hsorted, hnames, hconditions⟩ := ih t
        refine ⟨n :: ns, cs, .name hn hsorted, ?_, hconditions⟩
        rw [List.eraseDupsBy.loop, hany]
        exact hnames
      | false =>
        obtain ⟨ns, cs, hsorted, hnames, hconditions⟩ := ih { t with names := t.names ++ [n] }
        refine ⟨n :: ns, cs, .name hn hsorted, ?_, hconditions⟩
        rw [List.eraseDupsBy.loop, hany]
        simpa using hnames
    | none =>
      have hnone : ∀ n, ¬ Names (Text.trim v) n := fun n hn => by
        simp [Value.ident?_eq_some_iff.2 hn] at hname
      obtain ⟨ns, cs, hsorted, hnames, hconditions⟩ :=
        ih { t with conditions := t.conditions ++ [Text.trim v] }
      exact ⟨ns, Text.trim v :: cs, .condition hnone hsorted, hnames, by simpa using hconditions⟩

/-- **Values are sorted without loss.**  The tables are the names as first seen. -/
theorem sorted_ofValues (values : List String) : ∃ ns,
    Sorted values ns (ofValues values).conditions ∧
      (ofValues values).names = Sql.firstSeen ns := by
  obtain ⟨ns, cs, hsorted, hnames, hconditions⟩ := foldl_push values empty
  obtain rfl : (ofValues values).conditions = cs := by simpa [ofValues, empty] using hconditions
  exact ⟨ns, hsorted, hnames⟩

end Tables

/-- The tables of a query as `FROM` names them, and those that columns are looked up for. -/
inductive Options.Writes (o : Options) (t : Tables) : List Ident → (context : List String) → Prop
  | found : t.names ≠ [] → Writes o t t.names t.texts
  | standIn {name : String} : t.names = [] → o.source = some name →
      Writes o t [Value.nameIdent name] [name]
  | null : t.names = [] → o.source = none → Writes o t [.plain "null"] []

/-- The tables that are written are written as the options say. -/
theorem Options.writes_writtenTables (o : Options) (t : Tables) :
    o.Writes t (o.writtenTables t) (o.sourcesFor t) := by
  cases hnames : t.names with
  | cons n rest =>
    have hne : t.names ≠ [] := by simp [hnames]
    have hwritten : o.writtenTables t = t.names := by
      simp [writtenTables, firstTable, tablesOr, hnames]
    have hcontext : o.sourcesFor t = t.texts := by
      simp [sourcesFor, tablesOr, Tables.texts, hnames]
    rw [hwritten, hcontext]
    exact .found hne
  | nil =>
    cases hsource : o.source with
    | some name =>
      have hwritten : o.writtenTables t = [Value.nameIdent name] := by
        simp [writtenTables, firstTable, tablesOr, hnames, hsource]
      have hcontext : o.sourcesFor t = [name] := by
        simp [sourcesFor, tablesOr, hnames, hsource]
      rw [hwritten, hcontext]
      exact .standIn hnames hsource
    | none =>
      have hwritten : o.writtenTables t = [.plain "null"] := by
        simp [writtenTables, firstTable, tablesOr, hnames, hsource, nullTable]
      have hcontext : o.sourcesFor t = [] := by
        simp [sourcesFor, tablesOr, hnames, hsource]
      rw [hwritten, hcontext]
      exact .null hnames hsource

/-! ## Filled templates -/

section Filling

variable {o : Options} {r : Resolver} {earlier : List Request} {template : String} {q : Sql.Query}
  {s : Sql.Select} {names : List String} {found : List (List String)}

/-- The tables are sorted from the values of all lookups together. -/
theorem Tables.resolve_of_answers (hn : Table.placeholders s.sources = .ok names)
    (hfound : Answers (Table.answer r) earlier (names.map Request.table) found) :
    Tables.resolve r earlier s.sources =
      ⟨names.map Request.table, .ok (.ofValues found.flatten)⟩ := by
  simp [Tables.resolve_eq hn, hfound.askInOrder_eq, Except.map]

/-- Once the tables are there, all columns are looked up for them, also if some lookup fails. -/
theorem sources_of_mem_requests {request : Request}
    (hq : readTemplate o.dialect template = .ok (q, s))
    (hn : Table.placeholders s.sources = .ok names)
    (hfound : Answers (Table.answer r) earlier (names.map Request.table) found)
    (hrequest : request ∈ (fill o r earlier template).requests) (hkind : request.kind = .column) :
    request.sources = some (o.sourcesFor (.ofValues found.flatten)) := by
  have hresolve := Tables.resolve_of_answers hn hfound
  have htables : (Tables.resolve r earlier s.sources).result = .ok (.ofValues found.flatten) := by
    rw [hresolve]
  have hfill : (fill o r earlier template).requests = (fillQuery o r earlier q s).requests := by
    rw [fill, hq]
    rfl
  rw [hfill, requests_fillQuery htables, hresolve, List.mem_append] at hrequest
  rcases hrequest with htable | hcolumn
  · obtain ⟨name, -, rfl⟩ := List.mem_map.1 htable
    cases hkind
  · have hmem := Plan.mem_requests_run hcolumn
    rw [Clauses.requests_fill] at hmem
    obtain ⟨e, -, n, -, rfl⟩ := Sql.Query.mem_columnRequests_iff.1 hmem
    rfl

/-- **The tables of a template are a partition of all values that came for them**: the names
among the values, each where it is first seen, and every other value as a condition.  `FROM` is
written from these tables alone, as a list of them that is read and renamed would be, and
every column is looked up for them. -/
theorem fill_partitions (hq : readTemplate o.dialect template = .ok (q, s))
    (hn : Table.placeholders s.sources = .ok names)
    (hfound : Answers (Table.answer r) earlier (names.map Request.table) found) :
    ∃ tables idents written context,
      Tables.Sorted found.flatten idents tables.conditions ∧
      (∀ v ∈ found.flatten, Xor (∃ n, Names (Text.trim v) n ∧ n.text ∈ tables.texts)
        (Text.trim v ∈ tables.conditions)) ∧
      tables.names = Sql.firstSeen idents ∧ tables.texts.Nodup ∧
      o.Writes tables written context ∧
      (∀ request ∈ (fill o r earlier template).requests, request.kind = .column →
        request.sources = some context) ∧
      ∀ text, (fill o r earlier template).result = .ok text →
        ∃ f : Filled o r earlier template, text = f.newQuery.sql ∧ f.tables = tables ∧
          f.newSelect.sources = written.map Sql.Source.ofTable ∧
          ∃ read, Tables.rename o.dialect written = .ok read ∧
            read.map (fun s => Sql.Part.allSql s.parts) =
              f.newSelect.sources.map fun s => Sql.Part.allSql s.parts := by
  obtain ⟨idents, hsorted, hnames⟩ := Tables.sorted_ofValues found.flatten
  have htexts : (Tables.ofValues found.flatten).texts = Sql.distinct (idents.map Ident.text) := by
    rw [Tables.texts, hnames, Sql.map_text_firstSeen]
  refine ⟨.ofValues found.flatten, idents, _, _, hsorted, ?_, hnames, ?_,
    o.writes_writtenTables _, fun request => sources_of_mem_requests hq hn hfound, ?_⟩
  · intro v hv
    rcases hsorted.place hv with ⟨n, hn, hname⟩ | hcondition
    · have htext : n.text ∈ (Tables.ofValues found.flatten).texts := by
        rw [htexts, Sql.mem_distinct]
        exact List.mem_map_of_mem hn
      exact .inl ⟨⟨n, hname, htext⟩, fun hmem => hsorted.not_names _ hmem n hname⟩
    · exact .inr ⟨hcondition, fun ⟨n, hname, _⟩ => hsorted.not_names _ hcondition n hname⟩
  · rw [htexts]
    exact Sql.nodup_distinct _
  · intro text htext
    obtain ⟨f, rfl⟩ := fill_eq_ok_iff.1 htext
    have hselect : f.select = s := (Prod.mk.inj (Except.ok.inj (f.query_read.symm.trans hq))).2
    have htables : f.tables = .ofValues found.flatten := by
      have hresult := f.tables_found
      rw [hselect, Tables.resolve_of_answers hn hfound] at hresult
      exact (Except.ok.inj hresult).symm
    have hsources : f.newSelect.sources =
        (o.writtenTables (.ofValues found.flatten)).map Sql.Source.ofTable := by
      rw [← htables]
      rfl
    refine ⟨f, rfl, htables, hsources, ?_⟩
    rw [hsources]
    exact Tables.rename_sql o.dialect _

/-- A query that joins two tables asks for both. -/
theorem readTemplate_joined : (readTemplate .ansi "SELECT a FROM t JOIN u").map
    (fun r => (Table.placeholders r.2.sources).toOption) = .ok (some ["t", "u"]) := by
  refine eq_ok_of_toOption ?_
  decide +kernel

/-- Names become sources in order, each once, and other values become conditions. -/
theorem fill_joined : (fill .standard (.ofFunction fun request =>
    .ok (if request.name = "t" then ["users", "age > 18", "orders"]
      else if request.name = "u" then ["\"users\"", " 42 ", "age > 18"] else [request.name])) []
      "SELECT a FROM t JOIN u").result =
        .ok "SELECT a FROM users, orders, \"42\" WHERE true AND ((age > 18) OR (age > 18))" := by
  refine eq_ok_of_toOption ?_
  decide +kernel

/-- Two relations, with a table that comes twice, a name that needs quotes, and a condition that
comes twice. -/
theorem fill_partitions_joined :
    let found := [["users", "age > 18", "orders"], ["\"users\"", " 42 ", "age > 18"]]
    let answers : Request → Answer := fun request =>
      .ok (if request.name = "t" then ["users", "age > 18", "orders"]
        else if request.name = "u" then ["\"users\"", " 42 ", "age > 18"] else [request.name])
    let template := "SELECT a FROM t JOIN u"
    let text := "SELECT a FROM users, orders, \"42\" WHERE true AND ((age > 18) OR (age > 18))"
    ∃ q s, readTemplate .ansi template = .ok (q, s) ∧
      Table.placeholders s.sources = .ok ["t", "u"] ∧
      Answers (Table.answer (.ofFunction answers)) [] (["t", "u"].map Request.table) found ∧
      (fill .standard (.ofFunction answers) [] template).result = .ok text ∧
      ∃ tables idents written context,
        Tables.Sorted found.flatten idents tables.conditions ∧
        tables.names = Sql.firstSeen idents ∧
        Options.standard.Writes tables written context ∧
        ∃ f : Filled .standard (.ofFunction answers) [] template, text = f.newQuery.sql ∧
          f.newSelect.sources = written.map Sql.Source.ofTable := by
  intro found answers template text
  obtain ⟨⟨q, s⟩, hq, hnames⟩ := exists_of_map_eq_ok readTemplate_joined
  have hn : Table.placeholders s.sources = .ok ["t", "u"] := eq_ok_of_toOption hnames
  have hfound : Answers (Table.answer (.ofFunction answers)) []
      (["t", "u"].map Request.table) found :=
    .cons rfl (.cons rfl (.nil _))
  obtain ⟨tables, idents, written, context, hsorted, -, hnames, -, hwrites, -, htext⟩ :=
    fill_partitions (o := .standard) hq hn hfound
  obtain ⟨f, hf, -, hsources, -⟩ := htext _ fill_joined
  exact ⟨q, s, hq, hn, hfound, fill_joined, tables, idents, written, context, hsorted, hnames,
    hwrites, f, hf, hsources⟩

end Filling

end QueryTemplate
