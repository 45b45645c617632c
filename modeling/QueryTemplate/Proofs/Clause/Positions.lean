/-
# Positions in the `SELECT` list

An entry of `GROUP BY` or `ORDER BY` that is an integer names a column of the `SELECT` list by
its position.  Such an entry holds no placeholder, so it is kept as it is.  The entries of the
`SELECT` list become any number of columns, and what stands behind them moves.

| template | `a` becomes | query | the integer names |
| --- | --- | --- | --- |
| `SELECT a, b FROM t ORDER BY 2` | `x` | `SELECT x, b FROM t ORDER BY 2` | `b`, as before |
| `SELECT a, b FROM t ORDER BY 2` | `x`, `y` | `SELECT x, y, b FROM t ORDER BY 2` | `y`, which was `a` |
| `SELECT a, b FROM t ORDER BY 2` | nothing | `SELECT b FROM t ORDER BY 2` | no column |

An integer `i` still names the entry `i` just when the columns of this entry include the
position `i`, or when there are fewer than `i` columns (`fill_keeps_integers`).  Nothing adjusts
an integer to what moved (`fill_moves_position`).
-/

import Mathlib.Algebra.GroupWithZero.Nat
import QueryTemplate.Proofs.Clause.Replaced
import QueryTemplate.Proofs.Fill.Capped

namespace QueryTemplate
namespace Clause

open Sql (Expr SelectItem)

/-! ## Where a column came from -/

/-- The number that an entry is, if it is an integer. -/
def position? : Expr → Option Nat
  | .literal (.number digits _) => Decimal.natural? digits
  | _ => none

/-- For each column the entry that it came from.  The first entry has the number `first`, and
`widths` says how many columns each entry becomes. -/
def originsFrom (first : Nat) : List Nat → List Nat
  | [] => []
  | w :: ws => List.replicate w first ++ originsFrom (first + 1) ws

/-- For each column the entry that it came from, counted from one. -/
def origins (widths : List Nat) : List Nat := originsFrom 1 widths

/-- How many columns the first `i` entries become. -/
def columnsUpTo (widths : List Nat) (i : Nat) : Nat := (widths.take i).sum

/-- There are as many origins as entries. -/
theorem length_originsFrom (first : Nat) (widths : List Nat) :
    (originsFrom first widths).length = widths.sum := by
  induction widths generalizing first with
  | nil => rfl
  | cons w ws ih => rw [originsFrom, List.length_append, List.length_replicate, ih, List.sum_cons]

/-- The columns of an entry stand behind those of the entries before it. -/
theorem originsFrom_getElem?_iff {first m j : Nat} {widths : List Nat} :
    (originsFrom first widths)[m]? = some j ↔
      ∃ d, j = first + d ∧ columnsUpTo widths d ≤ m ∧ m < columnsUpTo widths (d + 1) := by
  induction widths generalizing first m with
  | nil => simp [originsFrom, columnsUpTo]
  | cons w ws ih =>
    have hsucc : ∀ d, columnsUpTo (w :: ws) (d + 1) = w + columnsUpTo ws d := fun d => by
      rw [columnsUpTo, List.take_succ_cons, List.sum_cons, columnsUpTo]
    have hzero : columnsUpTo (w :: ws) 0 = 0 := rfl
    rw [originsFrom]
    by_cases hm : m < w
    · -- the position is one of the first entry
      rw [List.getElem?_append_left (by simpa using hm), List.getElem?_replicate, if_pos hm]
      constructor
      · intro h
        refine ⟨0, (Option.some.inj h).symm, by omega, ?_⟩
        rw [hsucc]
        omega
      · rintro ⟨d, rfl, hle, -⟩
        cases d with
        | zero => rfl
        | succ d =>
          rw [hsucc] at hle
          omega
    · rw [List.getElem?_append_right (by simpa using hm), List.length_replicate, ih]
      constructor
      · rintro ⟨d, rfl, hle, hlt⟩
        refine ⟨d + 1, by omega, ?_, ?_⟩ <;> rw [hsucc] <;> omega
      · rintro ⟨d, rfl, hle, hlt⟩
        cases d with
        | zero =>
          rw [hsucc, columnsUpTo, List.take_zero, List.sum_nil] at hlt
          omega
        | succ d =>
          rw [hsucc] at hle hlt
          exact ⟨d, by omega, by omega, by omega⟩

/-- What stands at a position, counted from one, came from the entry `i`; this holds too when
nothing stands there. -/
def NamesEntry (widths : List Nat) (position i : Nat) : Prop :=
  ∀ m, position = m + 1 → ∀ j, (origins widths)[m]? = some j → j = i

/-- **When an integer names what it named.**  The columns of its entry include its position, or
there are too few columns. -/
theorem namesEntry_self_iff {widths : List Nat} {i : Nat} (hi : 0 < i) :
    NamesEntry widths i i ↔
      columnsUpTo widths (i - 1) < i ∧ i ≤ columnsUpTo widths i ∨ widths.sum < i := by
  obtain ⟨m, rfl⟩ : ∃ m, i = m + 1 := ⟨i - 1, by omega⟩
  have hself : (origins widths)[m]? = some (m + 1) ↔
      columnsUpTo widths m ≤ m ∧ m < columnsUpTo widths (m + 1) := by
    rw [origins, originsFrom_getElem?_iff]
    constructor
    · rintro ⟨d, hd, hbounds⟩
      obtain rfl : m = d := by omega
      exact hbounds
    · exact fun h => ⟨m, by omega, h⟩
  have hlength : (origins widths).length = widths.sum := length_originsFrom 1 widths
  rw [Nat.add_sub_cancel]
  constructor
  · intro h
    by_cases hm : m < widths.sum
    · have hm' : m < (origins widths).length := hlength ▸ hm
      have hj := h m rfl _ (List.getElem?_eq_getElem hm')
      have hbounds := hself.1 (by rw [List.getElem?_eq_getElem hm', hj])
      exact .inl ⟨by omega, by omega⟩
    · exact .inr (by omega)
  · rintro (⟨hle, hlt⟩ | hfew) m' hm' j hj
    · obtain rfl : m = m' := by omega
      have := hself.2 ⟨by omega, by omega⟩
      exact Option.some.inj (hj.symm.trans this)
    · have hm := (List.getElem?_eq_some_iff.1 hj).1
      omega

/-! ## Entries that are integers -/

section Entries

variable {found : String → List Expr → Prop} {widths : List Nat}

/-- An integer is no column and holds none, so it stays. -/
theorem eq_of_position? {e : Expr} {es : List Expr} {i : Nat} (h : e.Expanded found es)
    (hi : position? e = some i) : es = [e] := by
  cases e with
  | literal value =>
    cases h with
    | other _ he =>
      cases he
      rfl
  | _ => cases hi

/-- **An entry that is an integer stays**, and keeps its meaning just if it is at the right
place. -/
theorem position_kept {e : Expr} {es : List Expr} {i : Nat} (h : e.Expanded found es)
    (hi : position? e = some i) :
    es = [e] ∧ (0 < i → ((∀ x ∈ es, ∀ k, position? x = some k → NamesEntry widths k i) ↔
      columnsUpTo widths (i - 1) < i ∧ i ≤ columnsUpTo widths i ∨ widths.sum < i)) := by
  obtain rfl : es = [e] := eq_of_position? h hi
  refine ⟨rfl, fun hpos => ?_⟩
  rw [← namesEntry_self_iff hpos]
  constructor
  · exact fun hnames => hnames e (List.mem_singleton_self e) i hi
  · intro hself x hx k hk
    obtain rfl := List.mem_singleton.1 hx
    obtain rfl := Option.some.inj (hi.symm.trans hk)
    exact hself

/-- An entry of a list stands beside the pieces that it becomes. -/
theorem exists_mem_zip {α β : Type} {R : α → β → Prop} {as : List α} {bs : List β}
    (h : List.Forall₂ R as bs) {a : α} (ha : a ∈ as) : ∃ b, (a, b) ∈ as.zip bs := by
  rw [← List.map_fst_zip (Nat.le_of_eq h.length_eq)] at ha
  obtain ⟨⟨a', b⟩, hmem, rfl⟩ := List.mem_map.1 ha
  exact ⟨b, hmem⟩

end Entries

end Clause

/-! ## How many columns an entry becomes -/

open Sql (Expr SelectItem OrderTerm)

section Widths

variable {found : String → List Expr → Prop}

/-- How many columns an entry of `SELECT` becomes: a column reference as many as expressions were
found for it, and everything else one. -/
inductive Sql.SelectItem.Widens (found : String → List Expr → Prop) : SelectItem → Nat → Prop
  | wildcard (parts : List Sql.Part) : Widens found (.wildcard parts) 1
  | column {qualifier : List Sql.Ident} {name : Sql.Ident} {given : Option Sql.Ident}
      {es : List Expr} : found name.text es →
      Widens found (.column (.column qualifier name) given) es.length
  | other {e : Expr} {given : Option Sql.Ident} :
      e.columnName? = none → Widens found (.column e given) 1

/-- An item widens to as many entries as it expands to. -/
theorem Sql.SelectItem.Expanded.widens {i : SelectItem} {items : List SelectItem}
    (h : i.Expanded found items) : i.Widens found items.length := by
  cases h with
  | wildcard parts => exact .wildcard parts
  | column he hnamed =>
    rw [Clause.namedAll_iff.1 hnamed, List.length_map]
    cases he with
    | column hes => exact .column hes
    | other hname _ => exact .other hname

/-- A column reference becomes as many columns as expressions were found for it. -/
theorem Sql.SelectItem.Widens.exists_found {i : SelectItem} {k : Nat} {n : String}
    (h : i.Widens found k) (hn : (Clause.itemExpr? i).bind Expr.columnName? = some n) :
    ∃ es, found n es ∧ k = es.length := by
  cases h with
  | wildcard parts => cases hn
  | column hes =>
    obtain rfl := Option.some.inj hn
    exact ⟨_, hes, rfl⟩
  | other hname => exact absurd (hname.symm.trans hn) (by simp)

/-- An expression becomes expressions, and never a wildcard. -/
theorem Sql.SelectItem.Expanded.isSome_itemExpr? {i : SelectItem} {items : List SelectItem}
    (h : i.Expanded found items) (hi : (Clause.itemExpr? i).isSome) :
    ∀ j ∈ items, (Clause.itemExpr? j).isSome := by
  cases h with
  | wildcard parts => cases hi
  | column he hnamed =>
    obtain rfl := Clause.namedAll_iff.1 hnamed
    intro j hj
    obtain ⟨x, -, rfl⟩ := List.mem_map.1 hj
    rfl

end Widths

/-! ## Filled templates -/

section Filling

variable {o : Options} {r : Resolver} {earlier : List Request} {template : String}

/-- What the entries of the three lists of a template become, entry by entry. -/
structure Filled.Pieces (f : Filled o r earlier template) where
  selected : List (List SelectItem)
  grouped : List (List Expr)
  ordered : List (List OrderTerm)
  selected_expanded : List.Forall₂ (SelectItem.Expanded f.Finds) f.select.projection selected
  grouped_expanded :
    List.Forall₂ (Expr.Expanded f.Finds) (Clause.groupTerms f.select.groupBy) grouped
  ordered_expanded :
    List.Forall₂ (OrderTerm.Expanded f.Finds) (Clause.orderTerms f.query.orderBy) ordered
  projection_eq : f.newSelect.projection = selected.flatten
  groupTerms_eq : Clause.groupTerms f.newSelect.groupBy = grouped.flatten
  orderTerms_eq : Clause.orderTerms f.newQuery.orderBy = ordered.flatten

namespace Filled

variable (f : Filled o r earlier template)

/-- **A filled template has its lists in pieces.** -/
theorem nonempty_pieces : Nonempty f.Pieces := by
  have hclauses : (Clauses.ofQuery f.query f.select).Replaced f.Finds f.clauses :=
    Clauses.replaced_of_yields f.yields_clauses
  obtain ⟨selected, hselected, hprojection⟩ := hclauses.projection
  obtain ⟨grouped, hgrouped, hgroup⟩ : ∃ grouped,
      List.Forall₂ (Expr.Expanded f.Finds) (Clause.groupTerms f.select.groupBy) grouped ∧
        Clause.groupTerms f.clauses.groupBy = grouped.flatten := by
    have h : f.select.groupBy.Expanded f.Finds f.clauses.groupBy := hclauses.groupBy
    generalize f.select.groupBy = g, f.clauses.groupBy = g' at h
    cases h with
    | all modifiers => exact ⟨[], .nil, rfl⟩
    | terms h => exact ⟨_, h, rfl⟩
  obtain ⟨ordered, hordered, horder⟩ : ∃ ordered,
      List.Forall₂ (OrderTerm.Expanded f.Finds) (Clause.orderTerms f.query.orderBy) ordered ∧
        Clause.orderTerms f.clauses.orderBy = ordered.flatten := by
    have h : Option.Rel (Sql.OrderBy.Expanded f.Finds) f.query.orderBy f.clauses.orderBy :=
      hclauses.orderBy
    generalize f.query.orderBy = b, f.clauses.orderBy = b' at h
    cases h with
    | none => exact ⟨[], .nil, rfl⟩
    | some h =>
      cases h with
      | mk h => exact ⟨_, h, rfl⟩
  refine ⟨⟨selected, grouped, ordered, hselected, hgrouped, hordered, hprojection, hgroup, ?_⟩⟩
  rw [f.newQuery_eq]
  exact horder

namespace Pieces

variable {f} (p : f.Pieces)

/-- How many columns each entry of the `SELECT` list becomes. -/
def widths : List Nat := p.selected.map List.length

/-- What the entries of `ORDER BY` become, without directions. -/
def orderedExprs : List (List Expr) := p.ordered.map (List.map OrderTerm.expr)

/-- The widths are those that the items of the query widen to. -/
theorem widens : List.Forall₂ (SelectItem.Widens f.Finds) f.select.projection p.widths := by
  rw [widths, List.forall₂_map_right_iff]
  exact p.selected_expanded.imp fun _ _ h => h.widens

include p in
/-- Without wildcards every entry of the new list is one column. -/
theorem isSome_itemExpr? (h : ∀ i ∈ f.select.projection, (Clause.itemExpr? i).isSome) :
    ∀ i ∈ f.newSelect.projection, (Clause.itemExpr? i).isSome := by
  intro i hi
  rw [p.projection_eq] at hi
  obtain ⟨items, hitems, hi⟩ := List.mem_flatten.1 hi
  obtain ⟨n, hn, rfl⟩ := List.getElem_of_mem hitems
  have hn' : n < f.select.projection.length := p.selected_expanded.length_eq ▸ hn
  exact (p.selected_expanded.get hn' hn).isSome_itemExpr? (h _ (List.getElem_mem hn')) i hi

/-- The ordered expressions are what those of the query expand to. -/
theorem orderedExprs_expanded : List.Forall₂ (Expr.Expanded f.Finds)
    (Clause.orderExprs f.query.orderBy) p.orderedExprs := by
  rw [Clause.orderExprs, orderedExprs, List.forall₂_map_left_iff, List.forall₂_map_right_iff]
  refine p.ordered_expanded.imp fun t ts h => ?_
  cases h with
  | mk h => simpa [Function.comp_def] using h

end Pieces

end Filled

/-- **When an integer of `GROUP BY` or `ORDER BY` keeps its meaning.**  In both clauses an entry
that is an integer stays as it is.  It names nothing but columns of the entry of the `SELECT`
list that it named before, just when the columns of this entry include its position, or there
are fewer columns.  An entry becomes as many columns as expressions were found for it, and one
if it is no column reference; without wildcards each entry of the new list is one column. -/
theorem fill_keeps_integers {text : String} (h : (fill o r earlier template).result = .ok text) :
    ∃ f : Filled o r earlier template, text = f.newQuery.sql ∧ Nonempty f.Pieces ∧
      ∀ p : f.Pieces,
        List.Forall₂ (SelectItem.Widens f.Finds) f.select.projection p.widths ∧
        ((∀ i ∈ f.select.projection, (Clause.itemExpr? i).isSome) →
          ∀ i ∈ f.newSelect.projection, (Clause.itemExpr? i).isSome) ∧
        ∀ clause ∈ [(Clause.groupTerms f.select.groupBy, p.grouped),
            (Clause.orderExprs f.query.orderBy, p.orderedExprs)],
          ∀ q ∈ clause.1.zip clause.2, ∀ i, Clause.position? q.1 = some i →
            q.2 = [q.1] ∧
            (0 < i → ((∀ e ∈ q.2, ∀ k, Clause.position? e = some k →
                Clause.NamesEntry p.widths k i) ↔
              Clause.columnsUpTo p.widths (i - 1) < i ∧ i ≤ Clause.columnsUpTo p.widths i ∨
                p.widths.sum < i)) := by
  obtain ⟨f, rfl⟩ := fill_eq_ok_iff.1 h
  refine ⟨f, rfl, f.nonempty_pieces, fun p => ⟨p.widens, p.isSome_itemExpr?, ?_⟩⟩
  intro clause hclause q hq i hi
  have hexpanded : List.Forall₂ (Expr.Expanded f.Finds) clause.1 clause.2 := by
    simp only [List.mem_cons, List.not_mem_nil, or_false] at hclause
    rcases hclause with rfl | rfl
    · exact p.grouped_expanded
    · exact p.orderedExprs_expanded
  exact Clause.position_kept (List.forall₂_zip hexpanded hq) hi

section Moved

/-- `a` becomes two columns. -/
def twoColumns (request : Request) : Answer :=
  .ok (if request.name = "a" then ["x", "y"] else [request.name])

/-- A position stays while the entries before it become more. -/
theorem fill_positions : (fill .standard (.ofFunction twoColumns) []
    "SELECT a, b FROM t ORDER BY 2").result =
      .ok "SELECT x, y, b FROM t WHERE true AND true ORDER BY 2" := by
  refine eq_ok_of_toOption ?_
  decide +kernel

/-- The query has two columns, and is ordered by the second. -/
theorem readTemplate_positions : (readTemplate .ansi "SELECT a, b FROM t ORDER BY 2").map
    (fun r => (r.2.projection.map fun i => (Clause.itemExpr? i).bind Expr.columnName?,
      (Clause.orderExprs r.1.orderBy).map Clause.position?)) =
        .ok ([some "a", some "b"], [some 2]) := by
  refine eq_ok_of_toOption ?_
  decide +kernel

/-- Whatever was asked for before, two expressions are found for `a`. -/
theorem length_of_finds {template : String} {f : Filled .standard (.ofFunction twoColumns) [] template}
    {es : List Expr} (h : f.Finds "a" es) : es.length = 2 := by
  obtain ⟨values, ⟨before, after, -, hvalues⟩, rfl⟩ := h
  have hexprs : (Value.exprs Options.standard.valueRules ["x", "y"]).toOption.map List.length =
      some 2 := by
    decide +kernel
  have hparse : Placeholder.parse "a" = ⟨"a", none⟩ := by decide +kernel
  have hanswer : Column.answer Options.standard.valueRules (.ofFunction twoColumns) before
      (Column.request (Options.standard.sourcesFor f.tables) "a") =
        (Value.exprs Options.standard.valueRules ["x", "y"]).mapError .parse := by
    simp [Column.answer, Resolver.ofFunction, twoColumns, Column.request, Request.column, hparse]
  rw [hanswer] at hvalues
  cases hfound : Value.exprs Options.standard.valueRules ["x", "y"] with
  | error e => simp [hfound, Except.toOption] at hexprs
  | ok found =>
    obtain rfl : found = es := by simpa [hfound, Except.mapError] using hvalues
    simpa [hfound, Except.toOption] using hexprs

end Moved

/-- Two entries, the first of which becomes two columns, and the integer of the second one. -/
theorem fill_keeps_integers_two :
    let template := "SELECT a, b FROM t ORDER BY 2"
    let text := "SELECT x, y, b FROM t WHERE true AND true ORDER BY 2"
    (fill .standard (.ofFunction twoColumns) [] template).result = .ok text ∧
      ∃ f : Filled .standard (.ofFunction twoColumns) [] template, text = f.newQuery.sql ∧
        Nonempty f.Pieces ∧ ∀ p : f.Pieces,
          List.Forall₂ (SelectItem.Widens f.Finds) f.select.projection p.widths ∧
          ∀ q ∈ (Clause.orderExprs f.query.orderBy).zip p.orderedExprs,
            Clause.position? q.1 = some 2 → q.2 = [q.1] ∧
              ((∀ e ∈ q.2, ∀ k, Clause.position? e = some k → Clause.NamesEntry p.widths k 2) ↔
                Clause.columnsUpTo p.widths 1 < 2 ∧ 2 ≤ Clause.columnsUpTo p.widths 2 ∨
                  p.widths.sum < 2) := by
  obtain ⟨f, htext, hpieces, hall⟩ := fill_keeps_integers fill_positions
  refine ⟨fill_positions, f, htext, hpieces, fun p => ?_⟩
  obtain ⟨hwidens, -, hclauses⟩ := hall p
  refine ⟨hwidens, fun q hq hposition => ?_⟩
  obtain ⟨hkept, hmeaning⟩ :=
    hclauses (Clause.orderExprs f.query.orderBy, p.orderedExprs) (by simp) q hq 2 hposition
  exact ⟨hkept, hmeaning (by decide)⟩

/-- **An integer may name another entry afterwards.**  The second column of the query came from
the first entry of the template. -/
theorem fill_moves_position :
    let template := "SELECT a, b FROM t ORDER BY 2"
    let text := "SELECT x, y, b FROM t WHERE true AND true ORDER BY 2"
    (fill .standard (.ofFunction twoColumns) [] template).result = .ok text ∧
      ∃ f : Filled .standard (.ofFunction twoColumns) [] template, text = f.newQuery.sql ∧
        (∀ i ∈ f.select.projection, (Clause.itemExpr? i).isSome) ∧ Nonempty f.Pieces ∧
        ∀ p : f.Pieces, p.widths.length = 2 ∧
          ∃ q ∈ (Clause.orderExprs f.query.orderBy).zip p.orderedExprs,
            Clause.position? q.1 = some 2 ∧ q.2 = [q.1] ∧ ¬ Clause.NamesEntry p.widths 2 2 := by
  intro template text
  obtain ⟨f, htext⟩ := fill_eq_ok_iff.1 fill_positions
  have hread := readTemplate_positions
  rw [show readTemplate .ansi template = .ok (f.query, f.select) from f.query_read] at hread
  obtain ⟨hnames, hpositions⟩ := Prod.mk.inj (Except.ok.inj hread)
  have hcolumns : ∀ i ∈ f.select.projection, (Clause.itemExpr? i).isSome := by
    intro i hi
    have := List.mem_map_of_mem (f := fun i => (Clause.itemExpr? i).bind Expr.columnName?) hi
    rw [hnames] at this
    cases hitem : Clause.itemExpr? i with
    | none => simp [hitem] at this
    | some e => rfl
  refine ⟨fill_positions, f, htext, hcolumns, f.nonempty_pieces, fun p => ?_⟩
  obtain ⟨a, rest, hprojection, ha, hrest⟩ := List.map_eq_cons_iff.1 hnames
  obtain ⟨b, rest, rfl, -, hrest⟩ := List.map_eq_cons_iff.1 hrest
  obtain rfl := List.map_eq_nil_iff.1 hrest
  have hwidens := p.widens
  rw [hprojection] at hwidens
  obtain ⟨k, ks, hk, hks, hwidths⟩ := List.forall₂_cons_left_iff.1 hwidens
  obtain ⟨l, ls, -, hls, rfl⟩ := List.forall₂_cons_left_iff.1 hks
  obtain rfl := List.forall₂_nil_left_iff.1 hls
  -- the first entry has two columns, so the second one starts behind position two
  obtain ⟨es, hes, rfl⟩ := hk.exists_found ha
  rw [length_of_finds hes] at hwidths
  obtain ⟨e, he, hposition⟩ := List.mem_map.1 (hpositions ▸ List.mem_singleton.2 rfl)
  obtain ⟨pieces, hpieces⟩ := Clause.exists_mem_zip p.orderedExprs_expanded he
  have hkept : pieces = [e] :=
    Clause.eq_of_position? (List.forall₂_zip p.orderedExprs_expanded hpieces) hposition
  refine ⟨by simp [hwidths], (e, pieces), hpieces, hposition, hkept, ?_⟩
  have hbefore : Clause.columnsUpTo [2, l] (2 - 1) = 2 := rfl
  have hall : [2, l].sum = 2 + l := by simp
  rw [Clause.namesEntry_self_iff (by decide), hwidths, hbefore, hall]
  omega

end Filling

end QueryTemplate
