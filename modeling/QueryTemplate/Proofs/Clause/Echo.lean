/-
# Templates that are filled with themselves

A resolver that answers each request with the name that was asked for changes little of a
template whose tables and columns are plain words.

| part | becomes |
| --- | --- |
| a column reference in the five clauses | the same without its qualifier |
| `FROM` | a list of the tables, each once |
| `WHERE w` | `WHERE (w) AND true` |
| no `WHERE` | `WHERE true AND true` |
| an entry of `SELECT` without alias, neither a column nor a wildcard | named after its own text |

All else stays (`fill_echoes`).  So no plain word but `null`, `true` and `false` means
anything else than a name: not `e`, not `inf`, not `sum`.
-/

import Mathlib.Data.List.TakeWhile
import QueryTemplate.Proofs.Clause.Replaced
import QueryTemplate.Proofs.Table.Partition

namespace QueryTemplate

/-! ## The echo of a query -/

namespace Sql

/-- A plain word that is no constant. -/
structure Ident.IsOrdinary (i : Ident) : Prop where
  unquoted : i.quote = none
  plain : Value.isPlainName i.text.toList = true
  noConstant : i.text.toList.map Char.toLower ∉ ["null", "true", "false"].map String.toList

instance (i : Ident) : Decidable i.IsOrdinary :=
  decidable_of_iff (i.quote = none ∧ Value.isPlainName i.text.toList = true ∧
      i.text.toList.map Char.toLower ∉ ["null", "true", "false"].map String.toList)
    ⟨fun h => ⟨h.1, h.2.1, h.2.2⟩, fun h => ⟨h.unquoted, h.plain, h.noConstant⟩⟩

/-- An ordinary name is written without quotes. -/
theorem Ident.IsOrdinary.eq_plain {i : Ident} (h : i.IsOrdinary) : i = .plain i.text := by
  obtain ⟨text, quote⟩ := i
  obtain rfl : quote = none := h.unquoted
  rfl

mutual

/-- An expression whose column references lose their qualifiers. -/
def Expr.unqualified : Expr → Expr
  | .column _ name => .column [] name
  | .literal value => .literal value
  | .nested inner => .nested inner.unqualified
  | .unary op operand => .unary op operand.unqualified
  | .binary left op right => .binary left.unqualified op right.unqualified
  | .phrase parts => .phrase (Part.allUnqualified parts)
  termination_by structural e => e

/-- A piece of such an expression. -/
def Part.unqualified : Part → Part
  | .words text => .words text
  | .operand e => .operand e.unqualified
  | .deferred e => .deferred e.unqualified
  | .enclosed e => .enclosed e.unqualified
  termination_by structural p => p

/-- The pieces of such a phrase. -/
def Part.allUnqualified : List Part → List Part
  | [] => []
  | p :: rest => p.unqualified :: Part.allUnqualified rest
  termination_by structural ps => ps

end

/-- An entry of `SELECT`; one without alias that is neither a wildcard nor a column gets its own
text as its alias. -/
def SelectItem.echo : SelectItem → SelectItem
  | .wildcard parts => .wildcard parts
  | .column e (some a) => .column e.unqualified (some a)
  | .column (.column _ name) none => .column (.column [] name) none
  | .column e none => .column e.unqualified (some (.quoted e.unqualified.sql))

/-- `GROUP BY` without qualifiers. -/
def GroupBy.unqualified : GroupBy → GroupBy
  | .all modifiers => .all modifiers
  | .terms es modifiers => .terms (es.map Expr.unqualified) modifiers

/-- A term of `ORDER BY` without qualifiers. -/
def OrderTerm.unqualified (t : OrderTerm) : OrderTerm := { t with expr := t.expr.unqualified }

/-- `ORDER BY` without qualifiers. -/
def OrderBy.unqualified (o : OrderBy) : OrderBy :=
  { o with terms := o.terms.map OrderTerm.unqualified }

/-- A condition in parentheses and a further one that is always true. -/
def Expr.andTrue : Option Expr → Expr
  | none => .binary (.boolean true) .and (.boolean true)
  | some (.nested e) => .binary (.nested e) .and (.boolean true)
  | some e => .binary (.nested e) .and (.boolean true)

/-- The names of the tables of a `FROM` list, joined ones included. -/
def Source.tableNames (sources : List Source) : List String :=
  (sources.flatMap Source.relations).flatMap fun
    | .table name _ _ => name.map Ident.text
    | .other _ => []

/-- A `SELECT` whose tables and columns are named by themselves. -/
def Select.echo (s : Select) : Select :=
  { s with
    projection := s.projection.map SelectItem.echo
    sources := (Source.tableNames s.sources).eraseDups.map fun n => Source.ofTable (.plain n)
    selection := some (Expr.andTrue (s.selection.map Expr.unqualified))
    groupBy := s.groupBy.unqualified
    having := s.having.map Expr.unqualified }

/-- A query whose tables and columns are named by themselves. -/
def Query.echo (q : Query) (s : Select) : Query :=
  { q with body := .select s.echo, orderBy := q.orderBy.map OrderBy.unqualified }

/-- A table that is a plain word, whatever its alias and arguments are. -/
def Relation.isWord : Relation → Bool
  | .table [⟨name, none⟩] _ _ => Value.isPlainName name.toList
  | _ => false

/-- A relation is a word if it is a table by one plain name. -/
theorem Relation.isWord_iff {r : Relation} : r.isWord = true ↔ ∃ name arguments tail,
    r = .table [.plain name] arguments tail ∧ Value.isPlainName name.toList = true := by
  constructor
  · intro h
    unfold isWord at h
    split at h
    · exact ⟨_, _, _, rfl, h⟩
    · cases h
  · rintro ⟨name, arguments, tail, rfl, h⟩
    exact h

/-- A `SELECT` from tables that are plain words, and whose columns are, apart from their
qualifiers. -/
structure Query.IsOrdinary (q : Query) (s : Select) : Prop where
  sources : s.sources.isEmpty = false
  tables : ∀ r ∈ s.sources.flatMap Source.relations, r.isWord = true
  columns : ∀ e ∈ q.entries s, ∀ i ∈ e.columnNames, i.IsOrdinary

instance (q : Query) (s : Select) : Decidable (q.IsOrdinary s) :=
  decidable_of_iff (s.sources.isEmpty = false ∧
      (∀ r ∈ s.sources.flatMap Source.relations, r.isWord = true) ∧
      ∀ e ∈ q.entries s, ∀ i ∈ e.columnNames, i.IsOrdinary)
    ⟨fun h => ⟨h.1, h.2.1, h.2.2⟩, fun h => ⟨h.sources, h.tables, h.columns⟩⟩

end Sql

/-! ## Plain words as values -/

namespace Value

variable {text : String}

/-- The word characters lie between `0` and `z`. -/
theorem toNat_of_isWordChar {c : Char} (h : isWordChar c = true) :
    48 ≤ c.toNat ∧ c.toNat ≤ 122 := by
  have hupper (h : c.isUpper = true) : 65 ≤ c.toNat ∧ c.toNat ≤ 90 := of_decide_eq_true h
  have hlower (h : c.isLower = true) : 97 ≤ c.toNat ∧ c.toNat ≤ 122 :=
    ((Bool.and_eq_true _ _).mp h).imp of_decide_eq_true of_decide_eq_true
  have hdigit (h : c.isDigit = true) : 48 ≤ c.toNat ∧ c.toNat ≤ 57 :=
    ((Bool.and_eq_true _ _).mp h).imp of_decide_eq_true of_decide_eq_true
  have hletter (h : c.isAlpha = true) : 65 ≤ c.toNat ∧ c.toNat ≤ 122 := by
    rcases (Bool.or_eq_true _ _).mp h with h | h
    · have := hupper h
      omega
    · have := hlower h
      omega
  rw [isWordChar, Char.isAlphanum, Bool.or_eq_true, Bool.or_eq_true] at h
  rcases h with (h | h) | h
  · have := hletter h
    omega
  · have := hdigit h
    omega
  · obtain rfl : c = '_' := by simpa using h
    decide

/-- No word character is a blank. -/
theorem isBlank_of_isWordChar {c : Char} (h : isWordChar c = true) : Text.isBlank c = false := by
  obtain ⟨hlow, hhigh⟩ := toNat_of_isWordChar h
  simp only [Text.isBlank, Bool.or_eq_false_iff, Bool.and_eq_false_iff, decide_eq_false_iff_not,
    beq_eq_false_iff_ne]
  omega

/-- A text without blanks is its own trimmed text. -/
theorem trim_of_forall_not_isBlank (hblank : ∀ c ∈ text.toList, Text.isBlank c = false) :
    Text.trim text = text := by
  have hdrop : ∀ cs : List Char, (∀ c ∈ cs, Text.isBlank c = false) →
      cs.dropWhile Text.isBlank = cs := by
    intro cs hcs
    cases cs with
    | nil => rfl
    | cons c cs => simp [hcs c List.mem_cons_self]
  rw [Text.trim, Text.trimList, hdrop _ hblank, hdrop _ (by simpa using hblank),
    List.reverse_reverse, String.ofList_toList]

/-- A plain name has no blanks to trim. -/
theorem trim_eq (h : isPlainName text.toList = true) : Text.trim text = text :=
  trim_of_forall_not_isBlank fun c hc => isBlank_of_isWordChar (all_isWordChar h c hc)

/-- A plain name is the value that names itself. -/
theorem names_plain (h : isPlainName text.toList = true) : Names text (.plain text) := by
  have hne : text ≠ "" := by
    rintro rfl
    simp [isPlainName] at h
  have hname := Names.word hne (all_isWordChar h)
  rwa [nameIdent, if_pos h] at hname

/-- Case folding of a word is that of its ASCII letters. -/
theorem foldsTo_eq {cs : List Char} {word : String} (h : ∀ c ∈ cs, isWordChar c = true) :
    Text.foldsTo cs word = (cs.map Char.toLower == word.toList) := by
  have hfold : ∀ c ∈ cs, Text.fold c = c.toLower := by
    intro c hc
    have hhigh := (toNat_of_isWordChar (h c hc)).2
    have hs : c ≠ 'ſ' := by
      rintro rfl
      revert hhigh
      decide
    have hk : c ≠ '\u212A' := by
      rintro rfl
      revert hhigh
      decide
    simp [Text.fold, hs, hk]
  rw [Text.foldsTo, List.map_congr_left hfold]

/-- A text that starts with a letter is no number. -/
theorem number?_eq_none {full : Bool} {cs : List Char} (h : isPlainName cs = true) :
    number? full cs = none := by
  cases cs with
  | nil => simp [isPlainName] at h
  | cons c cs =>
    have hword : isWordChar c = true := all_isWordChar h c List.mem_cons_self
    have hdigit : c.isDigit = false := by
      rw [isPlainName, Bool.and_eq_true, Bool.not_eq_true'] at h
      exact h.1
    have hminus : c ≠ '-' := by
      rintro rfl
      revert hword
      decide
    have hpoint : c ≠ '.' := by
      rintro rfl
      revert hword
      decide
    cases full with
    | false => cases cs <;> simp [number?, hdigit]
    | true => simp [number?, Decimal.Numeral.ofChars?, hminus, hpoint, hdigit]

/-- A plain name is no quoted character. -/
theorem quotedChar?_eq_none {cs : List Char} (h : isPlainName cs = true) :
    quotedChar? cs = none := by
  unfold quotedChar?
  split
  · simp [isPlainName, isWordChar] at h
  · rfl

/-- **A plain word that is no constant is read as a column reference.** -/
theorem expr_ordinary (rules : ValueRules) {i : Sql.Ident} (h : i.IsOrdinary) :
    expr rules i.text = .ok (.identifier i) := by
  obtain ⟨text, quote⟩ := i
  obtain ⟨rfl, hplain, hconstant⟩ := h
  have hfolds (word : String) (hword : word ∈ ["null", "true", "false"]) :
      Text.foldsTo text.toList word = false := by
    rw [foldsTo_eq (all_isWordChar hplain), beq_eq_false_iff_ne]
    intro heq
    exact hconstant (List.mem_map.2 ⟨word, hword, heq.symm⟩)
  have hboolean : boolean? text.toList = none := by
    simp [boolean?, hfolds]
  have hident : ident? text = some (.plain text) := ident?_eq_some_iff.2 (names_plain hplain)
  have hsimple : simple? rules.fullNumerals text = some (.identifier (.plain text)) := by
    simp [simple?, hfolds, hboolean, number?_eq_none hplain, quotedChar?_eq_none hplain, hident]
  simp only [expr, trim_eq hplain, hsimple]
  rfl

end Value

/-! ## Columns that are replaced by themselves -/

namespace Sql

/-- What is found for these names is the names themselves. -/
def FindsSelf (found : String → List Expr → Prop) (names : List Ident) : Prop :=
  ∀ i ∈ names, ∀ es, found i.text es → es = [.identifier i]

variable {found : String → List Expr → Prop}

mutual

/-- **Columns that are replaced by themselves lose their qualifiers.** -/
theorem Expr.eq_unqualified : (e e' : Expr) → e.Replaced found e' →
    FindsSelf found e.columnNames → e' = e.unqualified
  | .column _ name, e', h, hself => by
    have hname := hself name (by simp [Expr.columnNames])
    cases h with
    | column hfound =>
      obtain ⟨rfl, -⟩ := List.cons.inj (hname _ hfound)
      rfl
    | kept hfound => cases hname _ hfound
  | .literal _, _, h, _ => by
    cases h
    rfl
  | .nested inner, _, h, hself => by
    cases h with
    | nested h => rw [inner.eq_unqualified _ h hself, Expr.unqualified]
  | .unary _ operand, _, h, hself => by
    cases h with
    | unary h => rw [operand.eq_unqualified _ h hself, Expr.unqualified]
  | .binary left _ right, _, h, hself => by
    cases h with
    | binary hl hr =>
      have hself' := List.forall_mem_append.1 hself
      rw [left.eq_unqualified _ hl hself'.1, right.eq_unqualified _ hr hself'.2, Expr.unqualified]
  | .phrase parts, _, h, hself => by
    cases h with
    | phrase h => rw [Part.eq_allUnqualified parts _ h hself, Expr.unqualified]
  termination_by structural e => e

/-- A part whose columns find themselves becomes itself without its qualifiers. -/
theorem Part.eq_unqualified : (p p' : Part) → p.Replaced found p' →
    FindsSelf found p.columnNames → p' = p.unqualified
  | .words _, _, h, _ => by
    cases h
    rfl
  | .operand e, _, h, hself => by
    cases h with
    | operand h => rw [e.eq_unqualified _ h hself, Part.unqualified]
  | .deferred e, _, h, hself => by
    cases h with
    | deferred h => rw [e.eq_unqualified _ h hself, Part.unqualified]
  | .enclosed e, _, h, hself => by
    cases h with
    | enclosed h => rw [e.eq_unqualified _ h hself, Part.unqualified]
  termination_by structural p => p

/-- Parts whose columns find themselves become themselves without their qualifiers. -/
theorem Part.eq_allUnqualified : (ps ps' : List Part) → Part.AllReplaced found ps ps' →
    FindsSelf found (Part.allColumnNames ps) → ps' = Part.allUnqualified ps
  | [], _, h, _ => by
    cases h
    rfl
  | p :: rest, _, h, hself => by
    cases h with
    | cons hp hrest =>
      have hself' := List.forall_mem_append.1 hself
      rw [p.eq_unqualified _ hp hself'.1, Part.eq_allUnqualified rest _ hrest hself'.2,
        Part.allUnqualified]
  termination_by structural ps => ps

end

/-- An expression whose columns find themselves becomes itself without its qualifiers. -/
theorem Expr.Expanded.eq_unqualified {e : Expr} {es : List Expr} (h : e.Expanded found es)
    (hself : FindsSelf found e.columnNames) : es = [e.unqualified] := by
  cases h with
  | column hfound => exact hself _ (by simp [Expr.columnNames]) _ hfound
  | other _ h => rw [e.eq_unqualified _ h hself]

/-- An item whose columns find themselves is echoed. -/
theorem SelectItem.Expanded.eq_echo {i : SelectItem} {items : List SelectItem}
    (h : i.Expanded found items)
    (hself : ∀ e ∈ Clause.itemExpr? i, FindsSelf found e.columnNames) : items = [i.echo] := by
  cases h with
  | wildcard parts => rfl
  | @column e given es _ h hnamed =>
    obtain rfl := Clause.namedAll_iff.1 hnamed
    obtain rfl := h.eq_unqualified (hself e rfl)
    cases given with
    | none => cases e <;> rfl
    | some a => cases e <;> rfl

/-- A term whose columns find themselves becomes itself without its qualifiers. -/
theorem OrderTerm.Expanded.eq_unqualified {t : OrderTerm} {ts : List OrderTerm}
    (h : t.Expanded found ts) (hself : FindsSelf found t.expr.columnNames) :
    ts = [t.unqualified] := by
  cases h with
  | mk h =>
    rw [h.eq_unqualified hself]
    rfl

/-- Lists of lists of one element each. -/
theorem flatten_eq_map {α β : Type} {R : α → List β → Prop} {f : α → β} {as : List α}
    {bs : List (List β)} (h : List.Forall₂ R as bs) (hf : ∀ a ∈ as, ∀ b, R a b → b = [f a]) :
    bs.flatten = as.map f := by
  induction h with
  | nil => rfl
  | @cons a b as bs hab _ ih =>
    obtain rfl := hf a List.mem_cons_self b hab
    rw [List.flatten_cons, List.map_cons, ih fun a ha => hf a (List.mem_cons_of_mem _ ha)]
    rfl

end Sql

/-- The clauses of a query whose columns are named by themselves. -/
def Clauses.echo (c : Clauses) : Clauses where
  projection := c.projection.map Sql.SelectItem.echo
  selection := c.selection.map Sql.Expr.unqualified
  having := c.having.map Sql.Expr.unqualified
  groupBy := c.groupBy.unqualified
  orderBy := c.orderBy.map Sql.OrderBy.unqualified

section Echo

open Sql (Expr FindsSelf flatten_eq_map)

variable {found : String → List Expr → Prop}

/-- Where every column finds itself, the clauses lose their qualifiers and nothing else. -/
theorem Clauses.Replaced.eq_echo {q : Sql.Query} {s : Sql.Select} {c' : Clauses}
    (h : (Clauses.ofQuery q s).Replaced found c')
    (hself : ∀ e ∈ q.entries s, FindsSelf found e.columnNames) :
    c' = (Clauses.ofQuery q s).echo := by
  simp only [Sql.Query.entries, List.mem_append, or_imp, forall_and] at hself
  obtain ⟨⟨⟨⟨hp, hw⟩, hv⟩, hg⟩, ho⟩ := hself
  have hcondition : ∀ {e e' : Option Expr}, Option.Rel (Expr.Replaced found) e e' →
      (∀ x ∈ e.toList, FindsSelf found x.columnNames) → e' = e.map Expr.unqualified := by
    intro e e' h hself
    cases h with
    | none => rfl
    | @some x _ h => rw [x.eq_unqualified _ h (hself x (by simp)), Option.map_some]
  obtain ⟨items, hitems, hprojection⟩ := h.projection
  have hp' : c'.projection = s.projection.map Sql.SelectItem.echo := by
    rw [hprojection]
    refine flatten_eq_map hitems fun i hi items hexpanded => hexpanded.eq_echo fun e he => ?_
    exact hp e (List.mem_filterMap.2 ⟨i, hi, he⟩)
  have hg' : c'.groupBy = s.groupBy.unqualified := by
    have hgroup : s.groupBy.Expanded found c'.groupBy := h.groupBy
    generalize s.groupBy = g, c'.groupBy = g' at hgroup hg ⊢
    cases hgroup with
    | all modifiers => rfl
    | terms hterms =>
      rw [flatten_eq_map hterms fun e he es hexpanded => hexpanded.eq_unqualified (hg e he),
        Sql.GroupBy.unqualified]
  have ho' : c'.orderBy = q.orderBy.map Sql.OrderBy.unqualified := by
    have horder : Option.Rel (Sql.OrderBy.Expanded found) q.orderBy c'.orderBy := h.orderBy
    generalize q.orderBy = o, c'.orderBy = o' at horder ho ⊢
    cases horder with
    | none => rfl
    | some h =>
      cases h with
      | @mk terms interpolation _ hterms =>
        rw [flatten_eq_map hterms fun t ht ts hexpanded => hexpanded.eq_unqualified ?_]
        · rfl
        · exact ho t.expr (List.mem_map_of_mem (f := Sql.OrderTerm.expr) ht)
  obtain ⟨p, w, v, g, o⟩ := c'
  simp only [Clauses.echo, Clauses.mk.injEq]
  exact ⟨hp', hcondition h.selection hw, hcondition h.having hv, hg', ho'⟩

end Echo

/-! ## Tables that are named by themselves -/

namespace Sql

/-- Plain names are seen first where their texts are. -/
theorem firstSeen_plain (names : List String) :
    firstSeen (names.map Ident.plain) = names.eraseDups.map Ident.plain := by
  have hloop : ∀ names seen : List String,
      List.eraseDupsBy.loop (fun n m : Ident => n.text == m.text) (names.map Ident.plain)
          (seen.map Ident.plain) =
        (List.eraseDupsBy.loop (· == ·) names seen).map Ident.plain := by
    intro names
    induction names with
    | nil => simp [List.eraseDupsBy.loop]
    | cons n names ih =>
      intro seen
      have hany : (seen.map Ident.plain).any (fun m => (Ident.plain n).text == m.text) =
          seen.any (n == ·) := by
        rw [List.any_map]
        rfl
      rw [List.map_cons, List.eraseDupsBy.loop, List.eraseDupsBy.loop, hany]
      cases seen.any (n == ·) with
      | true => exact ih seen
      | false => exact ih (n :: seen)
  exact hloop names []

/-- The placeholders of such tables are their names. -/
theorem placeholders_of_tables {sources : List Source}
    (h : ∀ r ∈ sources.flatMap Source.relations, r.isWord = true) :
    Table.placeholders sources = .ok (Source.tableNames sources) ∧
      ∀ name ∈ Source.tableNames sources, Value.isPlainName name.toList = true := by
  rw [Table.placeholders_eq_ok_iff, Source.tableNames]
  generalize sources.flatMap Source.relations = relations at h
  induction relations with
  | nil => exact ⟨.nil, by simp⟩
  | cons r relations ih =>
    obtain ⟨name, arguments, tail, rfl, hname⟩ := Relation.isWord_iff.1 (h r List.mem_cons_self)
    obtain ⟨hrest, hplain⟩ := ih fun r hr => h r (List.mem_cons_of_mem _ hr)
    refine ⟨.cons ?_ hrest, ?_⟩
    · simp [Table.placeholder, Ident.plain]
    · simpa [Ident.plain, hname] using hplain

end Sql

/-- Plain words are sorted as tables. -/
theorem Tables.ofValues_plain {names : List String}
    (h : ∀ name ∈ names, Value.isPlainName name.toList = true) :
    Tables.ofValues names = ⟨names.eraseDups.map Sql.Ident.plain, []⟩ := by
  have hsorted : Tables.Sorted names (names.map Sql.Ident.plain) [] := by
    induction names with
    | nil => exact .nil
    | cons n names ih =>
      have hn := h n List.mem_cons_self
      refine .name ?_ (ih fun m hm => h m (List.mem_cons_of_mem _ hm))
      rw [Value.trim_eq hn]
      exact Value.names_plain hn
  obtain ⟨ns, hns, hnames⟩ := Tables.sorted_ofValues names
  obtain ⟨rfl, hconditions⟩ := hns.unique hsorted
  rw [Sql.firstSeen_plain] at hnames
  generalize Tables.ofValues names = t at hnames hconditions
  obtain ⟨ts, cs⟩ := t
  simp_all

/-! ## Filled templates -/

section Filling

variable {o : Options} {r : Resolver} {earlier : List Request} {template : String} {q : Sql.Query}
  {s : Sql.Select}

/-- The resolver answers each request with the name that was asked for. -/
def Resolver.EchoesNames (r : Resolver) : Prop :=
  ∀ earlier request, r.answer earlier request = .ok [request.name]

/-- The tables are found under their own names. -/
theorem Resolver.EchoesNames.tables_found (hr : r.EchoesNames) (h : q.IsOrdinary s) :
    (Tables.resolve r earlier s.sources).result =
      .ok ⟨(Sql.Source.tableNames s.sources).eraseDups.map Sql.Ident.plain, []⟩ := by
  obtain ⟨hnames, hplain⟩ := Sql.placeholders_of_tables h.tables
  have hrun : ((Tables.plan (Sql.Source.tableNames s.sources)).run (Table.answer r) r.delayed
      earlier).result = .ok ((Tables.plan (Sql.Source.tableNames s.sources)).given
        fun request => [request.name]) :=
    Plan.run_eq_given fun earlier request _ => by
      rw [Table.answer, hr]
      rfl
  have hgiven : (Tables.plan (Sql.Source.tableNames s.sources)).given
      (fun request => [request.name]) = Tables.ofValues (Sql.Source.tableNames s.sources) := by
    have hanswers : (Sql.Source.tableNames s.sources).map (Plan.given (fun request => [request.name])
        ∘ fun n => (Plan.ask (.table n) : Plan String (List String))) =
          (Sql.Source.tableNames s.sources).map fun n => [n] := rfl
    rw [Tables.plan, Plan.given_map, Plan.given_all, List.map_map, hanswers, ← List.flatMap_def,
      List.flatMap_singleton']
  simp only [Tables.resolve, hnames]
  rw [hrun, hgiven, Tables.ofValues_plain hplain]

/-- A plain word has no hint. -/
theorem Placeholder.parse_ordinary {i : Sql.Ident} (h : i.IsOrdinary) :
    Placeholder.parse i.text = ⟨i.text, none⟩ := by
  have hcolon : i.text.toList.takeWhile (· != ':') = i.text.toList := by
    rw [List.takeWhile_eq_self_iff]
    intro c hc
    have hword := Value.all_isWordChar h.plain c hc
    rw [bne_iff_ne]
    rintro rfl
    revert hword
    decide
  simp [Placeholder.parse, hcolon]

/-- The columns are found under their own names. -/
theorem Resolver.EchoesNames.clauses_found (hr : r.EchoesNames) (h : q.IsOrdinary s)
    (sources : List String) :
    (Column.run o.valueRules r earlier ((Clauses.ofQuery q s).fill sources)).result =
      .ok (Clauses.ofQuery q s).echo := by
  let values : Request → List Sql.Expr := fun request => [.identifier (.plain request.name)]
  have hanswer : ∀ earlier, ∀ request ∈ ((Clauses.ofQuery q s).fill sources).requests,
      Column.answer o.valueRules r earlier request = .ok (values request) := by
    intro earlier request hrequest
    rw [Clauses.requests_fill] at hrequest
    obtain ⟨e, he, n, hn, rfl⟩ := Sql.Query.mem_columnRequests_iff.1 hrequest
    obtain ⟨i, hi, rfl⟩ := e.mem_references_iff.1 hn
    have hi' := h.columns e he i hi
    have hname : (Column.request sources i.text).name = i.text := by
      rw [Column.request, Placeholder.parse_ordinary hi']
      rfl
    have hvalue : Value.exprs o.valueRules [i.text] = .ok [.identifier i] := by
      rw [Value.exprs, Value.expr_ordinary o.valueRules hi']
      rfl
    simp only [Column.answer, hr earlier, hname, hvalue, values, ← hi'.eq_plain]
    rfl
  have hrun : (((Clauses.ofQuery q s).fill sources).run (Column.answer o.valueRules r) r.delayed
      earlier).result = .ok (((Clauses.ofQuery q s).fill sources).given values) :=
    Plan.run_eq_given hanswer
  have hyields : ((Clauses.ofQuery q s).fill sources).Yields (fun request v => v = values request)
      (((Clauses.ofQuery q s).fill sources).given values) :=
    Plan.yields_given _ fun _ _ => rfl
  rw [Column.run, hrun]
  refine congrArg _ ((Clauses.replaced_of_yields hyields).eq_echo fun e he i hi es hes => ?_)
  obtain ⟨found, rfl, rfl⟩ := hes
  have hi' := h.columns e he i hi
  have hplain : i = .plain i.text := hi'.eq_plain
  rw [Placeholder.parse_ordinary hi', Aggregate.combine]
  simp only [values, Column.request, Placeholder.parse_ordinary hi', Request.column, ← hplain]

/-- Without further conditions, `true` stands for them. -/
theorem Filter.splice_nil (e : Option Sql.Expr) : splice e [] = Sql.Expr.andTrue e := by
  cases e with
  | none => rfl
  | some e => cases e <;> rfl

/-- The tables that were found are those that are written. -/
theorem Options.writtenTables_of_ne_nil {t : Tables} (h : t.names ≠ []) :
    o.firstTable t :: (o.tablesOr t.names).tail = t.names := by
  have hfound : o.tablesOr t.names = t.names := by
    rw [tablesOr, if_neg (by simpa using h)]
  rw [firstTable, hfound]
  cases hnames : t.names with
  | nil => exact absurd hnames h
  | cons n rest => rfl

/-- An ordinary query names a table. -/
theorem Sql.Query.IsOrdinary.tableNames_ne_nil (h : q.IsOrdinary s) :
    Sql.Source.tableNames s.sources ≠ [] := by
  obtain ⟨first, rest, hsources⟩ :=
    List.exists_cons_of_ne_nil (List.isEmpty_eq_false_iff.1 h.sources)
  have hfirst : first.relation ∈ s.sources.flatMap Sql.Source.relations := by
    simp [hsources, Sql.Source.relations]
  obtain ⟨name, arguments, tail, hrelation, -⟩ :=
    Sql.Relation.isWord_iff.1 (h.tables _ hfirst)
  simp [Sql.Source.tableNames, hsources, Sql.Source.relations, hrelation]

/-- **A template of plain words is filled with itself** by a resolver that answers with the names
that it is asked for, in every dialect and whatever numerals mean. -/
theorem fill_echoes (hq : readTemplate o.dialect template = .ok (q, s)) (h : q.IsOrdinary s)
    (hr : r.EchoesNames) (hrows : ∀ table, o.maxRows table = none) :
    (fillQuery o r earlier q s).result = .ok (q.echo s) ∧
      (fill o r earlier template).result = .ok (q.echo s).sql := by
  let names := Sql.Source.tableNames s.sources
  let tables : Tables := ⟨names.eraseDups.map Sql.Ident.plain, []⟩
  have htables : (Tables.resolve r earlier s.sources).result = .ok tables := hr.tables_found h
  have hclauses : (Column.run o.valueRules r
      (earlier ++ (Tables.resolve r earlier s.sources).requests)
      ((Clauses.ofQuery q s).fill (o.sourcesFor tables))).result =
        .ok (Clauses.ofQuery q s).echo :=
    hr.clauses_found h (o.sourcesFor tables)
  have hquery : (fillQuery o r earlier q s).result = .ok (q.echo s) := by
    refine fillQuery_eq_ok_iff.2 ⟨tables, _, htables, hclauses,
      finish_eq_ok_iff.2 ⟨[], rfl, ?_⟩⟩
    have hne : tables.names ≠ [] := by
      obtain ⟨n, rest, hnames⟩ := List.exists_cons_of_ne_nil h.tableNames_ne_nil
      simp [tables, names, hnames, List.eraseDups_cons]
    have hwritten : Tables.sources (o.firstTable tables :: (o.tablesOr tables.names).tail) =
        names.eraseDups.map fun n => Sql.Source.ofTable (.plain n) := by
      rw [Options.writtenTables_of_ne_nil hne, Tables.sources, List.map_map]
      rfl
    simp only [assemble, hrows, hwritten, Filter.splice_nil]
    rfl
  refine ⟨hquery, ?_⟩
  rw [fill, hq]
  simp [Traced.map, hquery, Except.map]

/-- An ordinary query and its echo, with the words of special numbers as columns. -/
theorem readTemplate_words :
    (readTemplate .ansi "SELECT inf + u.nan FROM t JOIN u, t WHERE t.e > 1 LIMIT 5").map
      (fun r => (decide (r.1.IsOrdinary r.2), (r.1.echo r.2).sql)) =
        .ok (true, "SELECT inf + nan AS \"inf + nan\" FROM t, u WHERE (e > 1) AND true LIMIT 5") := by
  refine eq_ok_of_toOption ?_
  decide +kernel

/-- Words that look like numerals, a table that comes twice, and a sum without alias. -/
theorem fill_echoes_words :
    let o : Options := { Options.standard with fullNumerals := true }
    let r : Resolver := .ofFunction fun request => .ok [request.name]
    let template := "SELECT inf + u.nan FROM t JOIN u, t WHERE t.e > 1 LIMIT 5"
    ∃ q s, readTemplate o.dialect template = .ok (q, s) ∧ q.IsOrdinary s ∧ r.EchoesNames ∧
      (∀ table, o.maxRows table = none) ∧
      (fillQuery o r [] q s).result = .ok (q.echo s) ∧
      (fill o r [] template).result =
        .ok "SELECT inf + nan AS \"inf + nan\" FROM t, u WHERE (e > 1) AND true LIMIT 5" := by
  intro o r template
  obtain ⟨⟨q, s⟩, hq, hrun⟩ := exists_of_map_eq_ok readTemplate_words
  obtain ⟨hordinary, htext⟩ := Prod.mk.inj hrun
  have hordinary : q.IsOrdinary s := of_decide_eq_true hordinary
  have hr : r.EchoesNames := fun _ _ => rfl
  have hrows : ∀ table, o.maxRows table = none := fun _ => rfl
  obtain ⟨hquery, hfill⟩ : (fillQuery o r [] q s).result = .ok (q.echo s) ∧
      (fill o r [] template).result = .ok (q.echo s).sql :=
    fill_echoes hq hordinary hr hrows
  exact ⟨q, s, hq, hordinary, hr, hrows, hquery, hfill.trans (congrArg _ htext)⟩

end Filling

end QueryTemplate
