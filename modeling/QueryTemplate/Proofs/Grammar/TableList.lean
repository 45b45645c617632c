/-
# Tables that are read and renamed

A `FROM` list of given names can be made in two steps: a list of as many other names is
read, `SELECT * FROM t0, t1, t2`, and then these names are written over.  In every dialect the
first step gives one table for each name, without alias, arguments or joins, so that the
second gives a table for each of the given names (`Tables.rename_eq`).  They are written like
the tables of `Tables.sources` (`Tables.rename_sql`).
-/

import Mathlib.Data.String.Basic
import QueryTemplate.Proofs.Grammar.Where
import QueryTemplate.Table

namespace QueryTemplate

/-! ## Names without points -/

section Points

open String

/-- From any place behind `cs`, a text without points is not split. -/
theorem splitOnAux_eq (cs cs' : List Char) (h : '.' ∉ cs') :
    splitOnAux (ofList (cs ++ cs')) "." 0 ⟨utf8Len cs⟩ 0 [] = [ofList (cs ++ cs')] := by
  induction cs' generalizing cs with
  | nil =>
    have hend : (⟨utf8Len cs⟩ : Pos.Raw).atEnd (ofList (cs ++ [])) = true := by
      simp [atEnd_iff]
    have hextract := extract_zero_rawEndPos (ofList (cs ++ []))
    rw [rawEndPos_ofList, List.append_nil] at hextract
    rw [splitOnAux, if_pos hend]
    simp [hextract]
  | cons c cs' ih =>
    have hc : c ≠ '.' := by
      rintro rfl
      exact h List.mem_cons_self
    have hend : ¬ (⟨utf8Len cs⟩ : Pos.Raw).atEnd (ofList (cs ++ c :: cs')) = true := by
      rw [atEnd_of_valid]
      exact List.cons_ne_nil c cs'
    have hget : (⟨utf8Len cs⟩ : Pos.Raw).get (ofList (cs ++ c :: cs')) = c := by
      rw [get_of_valid]
      rfl
    have hsep : (0 : Pos.Raw).get "." = '.' := by decide
    have hnext : ((⟨utf8Len cs⟩ : Pos.Raw).unoffsetBy 0).next (ofList (cs ++ c :: cs')) =
        ⟨utf8Len (cs ++ [c])⟩ := by
      simpa using next_of_valid cs c cs'
    have hrest := ih (cs ++ [c]) (List.not_mem_of_not_mem_cons h)
    rw [splitOnAux, if_neg hend, hget, hsep, if_neg (by simpa using hc), hnext]
    simpa using hrest

/-- A name without a dot is not split. -/
theorem splitOn_eq {s : String} (h : '.' ∉ s.toList) : s.splitOn "." = [s] := by
  simpa [splitOn] using splitOnAux_eq [] s.toList h

end Points

namespace Sql
namespace Grammar

variable {env : Nested} {i : Item} {s : List Item} {name : String}

/-! ## One table -/

/-- What follows a table in a list: nothing, or a comma. -/
inductive AfterTable : List Item → Prop
  | nothing : AfterTable []
  | comma (b : Option Lexeme) (p q : Text.Position) (s : List Item) :
      AfterTable (.ofLexeme b ⟨.symbol ",", p, q⟩ :: s)

/-- The words that start another relation than a table. -/
def relationWords : List String := ["LATERAL", "TABLE", "VALUES", "UNNEST"]

/-- The item is a plain name that can only be a table. -/
structure IsTable (name : String) (i : Item) : Prop where
  token : i.token = .word name none
  keyword : i.keyword ∉ relationWords
  whole : '.' ∉ name.toList

namespace IsTable

/-- A table's name is read as a plain one. -/
theorem tableName (h : IsTable name i) (hs : AfterTable s) :
    tableName env (i :: s) = .ok ([.plain name], s) := by
  have hwhole := splitOn_eq h.whole
  obtain ⟨t, k, place, b⟩ := i
  obtain ⟨d, relating, f, g, f'⟩ := env
  obtain rfl : t = .word name none := h.token
  cases d with
  | bigquery =>
    have hnames : hyphenatedNames ((⟨.word name none, k, place, b⟩ :: s : List Item).length + 1)
        ⟨.bigquery, relating, f, g, f'⟩ (⟨.word name none, k, place, b⟩ :: s) = .ok ([.plain name], s) := by
      cases hs <;> rfl
    have hseparate : separateNames .bigquery [.plain name] = [.plain name] := by
      simp [separateNames, Ident.plain, hwhole]
    refine bind_eq rfl (bind_eq rfl (bind_eq hnames ?_))
    rw [hseparate]
    rfl
  | snowflake =>
    cases hs with
    | nothing => rfl
    | comma _ _ _ s => cases s <;> rfl
  | _ => cases hs <;> rfl

/-- The table, without anything around its name. -/
def read (name : String) : Unaliased :=
  ⟨fun tail => .table [.plain name] none (.words "" :: tail), none, [], false⟩

/-- A table's name is read as the table. -/
theorem table (h : IsTable name i) (hs : AfterTable s) :
    table env (i :: s) = .ok (read name, s) := by
  have hname : Grammar.tableName env (i :: s) = .ok ([.plain name], s) := h.tableName hs
  refine bind_eq rfl (bind_eq hname ?_)
  obtain ⟨d, _, _, _, _⟩ := env
  cases hs <;> cases d <;> rfl

/-- No clause that turns or matches rows follows a table in a list. -/
theorem reshapedTable (h : IsTable name i) (hs : AfterTable s) :
    reshapedTable env (i :: s) = .ok (read name, s) := by
  have htable : Grammar.table env (i :: s) = .ok (read name, s) := h.table hs
  have hpivoted : pivoted (read name) env s = .ok (read name, s) := by cases hs <;> rfl
  refine bind_eq rfl (bind_eq htable (bind_eq hpivoted ?_))
  obtain ⟨d, _, _, _, _⟩ := env
  cases hs <;> cases d <;> rfl

/-- No parenthesis follows a table in a list, so its name is no keyword of a table function. -/
theorem keywordOpening_eq_false (hs : AfterTable s) (k : String) :
    keywordOpening k env (i :: s) = .ok (false, i :: s) := by
  have hnext : ((i :: s).getD 1 .ending).isSymbol "(" = false := by cases hs <;> rfl
  unfold keywordOpening
  refine bind_eq rfl (bind_eq rfl ?_)
  rw [hnext, Bool.and_false]
  rfl

/-- A table's name is read as a relation. -/
theorem relation {fuel : Nat} (h : IsTable name i) (hs : AfterTable s) :
    relationUpTo (fuel + 1) env (i :: s) = .ok (read name, s) := by
  have hk := h.keyword
  simp only [relationWords, List.mem_cons, List.not_mem_nil, or_false, not_or] at hk
  obtain ⟨hlateral, htable, hvalues, hunnest⟩ := hk
  have hrows : (i.keyword == "VALUES") = false := by simpa using hvalues
  have hopen : symbol "(" env (i :: s) = .ok (false, i :: s) := by
    obtain ⟨t, k, place, b⟩ := i
    obtain rfl : t = .word name none := h.token
    rfl
  have harrays : onlyIf (env.dialect != .snowflake) (Grammar.keyword "UNNEST") env (i :: s) =
      .ok (false, i :: s) := by
    unfold onlyIf
    split
    · exact keyword_eq_false hunnest
    · rfl
  refine bind_eq rfl <| bind_eq (keyword_eq_false hlateral) <|
    bind_eq (keyword_eq_false htable) <| bind_eq hopen <| bind_eq rfl <| bind_eq rfl ?_
  rw [show (i :: s).getD 0 Item.ending = i from rfl, hrows, Bool.and_false, Bool.false_and]
  exact bind_eq harrays <| bind_eq (keywordOpening_eq_false hs _) <|
    bind_eq (keywordOpening_eq_false hs _) (h.reshapedTable hs)

/-- **A plain name is an entry of `FROM`** without alias, arguments or joins. -/
theorem source (h : IsTable name i) (hs : AfterTable s) :
    source env (i :: s) = .ok (⟨.table [.plain name] none [.words ""], []⟩, s) := by
  refine bind_eq rfl (bind_eq (h.relation hs) ?_)
  cases hs <;> rfl

end IsTable

/-! ## A list of tables -/

/-- A plain name that can only be a table. -/
structure IsTableName (name : String) : Prop where
  plain : Value.isPlainName name.toList = true
  free : Text.upper name ∉ relationWords

/-- A name that is no keyword is read as a table. -/
theorem IsTableName.isTable (h : IsTableName name) (b : Option Lexeme) (p q : Text.Position) :
    IsTable name (.ofLexeme b ⟨.word name none, p, q⟩) := by
  refine ⟨rfl, h.free, fun hdot => ?_⟩
  have hpoint := Value.all_isWordChar h.plain '.' hdot
  revert hpoint
  decide

/-- The entry of `FROM` that is read for a name. -/
def readSource (name : String) : Source := ⟨.table [.plain name] none [.words ""], []⟩

/-- The tokens of further names, each after a comma. -/
def furtherTokens (names : List String) : List Token :=
  names.flatMap fun n => [.symbol ",", .space, .word n none]

/-- What stands behind a table in the list does not belong to it. -/
theorem afterTable {names : List String} (h : Item.Spells (furtherTokens names) s) :
    AfterTable s := by
  cases names with
  | nil =>
    obtain rfl := Item.Spells.nil_iff.1 h
    exact .nothing
  | cons n names =>
    obtain ⟨b, p, q, s, rfl, -⟩ := h.item rfl
    exact .comma b p q s

/-- One further table, after a comma. -/
def furtherSource : Rule (Option Source) := do
  if ← symbol "," then return some (← source) else return none

/-- The tables behind the first one are all read. -/
theorem furtherSources {names : List String} {fuel : Nat}
    (hnames : ∀ n ∈ names, IsTableName n) (hfuel : s.length < fuel)
    (h : Item.Spells (furtherTokens names) s) :
    repeatUpTo furtherSource fuel env s = .ok (names.map readSource, []) := by
  induction names generalizing fuel s with
  | nil =>
    obtain rfl := Item.Spells.nil_iff.1 h
    obtain ⟨fuel, rfl⟩ : ∃ more, fuel = more + 1 := Nat.exists_eq_succ_of_ne_zero (by omega)
    rfl
  | cons n names ih =>
    obtain ⟨b, p, q, s, rfl, hs⟩ := h.item rfl
    obtain ⟨b', p', q', s, rfl, hrest⟩ := (hs.blank rfl).item rfl
    simp only [List.length_cons] at hfuel
    obtain ⟨fuel, rfl⟩ : ∃ more, fuel = more + 1 := Nat.exists_eq_succ_of_ne_zero (by omega)
    have htable := (hnames n List.mem_cons_self).isTable b' p' q'
    have hround : furtherSource env (.ofLexeme b ⟨.symbol ",", p, q⟩ ::
        .ofLexeme b' ⟨.word n none, p', q'⟩ :: s) = .ok (some (readSource n), s) :=
      bind_eq rfl (bind_eq (htable.source (afterTable hrest)) rfl)
    have hmore : repeatUpTo furtherSource fuel env s = .ok (names.map readSource, []) :=
      ih (fun n hn => hnames n (List.mem_cons_of_mem _ hn)) (by omega) hrest
    exact bind_eq hround (bind_eq hmore rfl)

/-- **A list of tables is read name by name.** -/
theorem sources_eq {names : List String} (hname : IsTableName name)
    (hnames : ∀ n ∈ names, IsTableName n)
    (h : Item.Spells (.word name none :: furtherTokens names) s) :
    commaSeparated source env s = .ok ((name :: names).map readSource, []) := by
  obtain ⟨b, p, q, s, rfl, hs⟩ := h.item rfl
  have hfirst : source env (.ofLexeme b ⟨.word name none, p, q⟩ :: s) =
      .ok (readSource name, s) :=
    (hname.isTable b p q).source (afterTable hs)
  have hrest : repeated furtherSource env s = .ok (names.map readSource, []) :=
    bind_eq rfl (furtherSources hnames (Nat.lt_succ_self _) hs)
  exact bind_eq hfirst (bind_eq hrest rfl)

/-- A query of all columns from listed tables is read with these tables as its sources. -/
theorem select_tables {names : List String} (hname : IsTableName name)
    (hnames : ∀ n ∈ names, IsTableName n)
    (h : Item.Spells ([.word "SELECT" none, .space, .symbol "*", .space, .word "FROM" none, .space] ++
      .word name none :: furtherTokens names) s) :
    ReadsAll env s (·.sources = (name :: names).map readSource) select := by
  obtain ⟨b₁, p₁, q₁, s₁, rfl, h₁⟩ := h.item rfl
  obtain ⟨b₂, p₂, q₂, s₂, rfl, h₂⟩ := (h₁.blank rfl).item rfl
  obtain ⟨b₃, p₃, q₃, s₃, rfl, h₃⟩ := (h₂.blank rfl).item rfl
  have hsources : commaSeparated source env s₃ = .ok ((name :: names).map readSource, []) :=
    sources_eq hname hnames (h₃.blank rfl)
  obtain ⟨d, _, _, _, _⟩ := env
  unfold select
  cases d
  all_goals
    iterate 6 refine .bind rfl ?_
    refine .bind hsources ?_
    refine ⟨_, rfl, ?_⟩
    rfl

/-! ## The text of a list -/

variable {d : Dialect} {names : List String}

/-- A list of table names is read name by name. -/
theorem reads_tables (hname : IsTableName name) (hnames : ∀ n ∈ names, IsTableName n) :
    Lexer.Reads d (String.intercalate ", " (name :: names)).toList
      (.word name none :: furtherTokens names) [] := by
  induction names generalizing name with
  | nil =>
    rw [String.toList_intercalate, List.map_singleton, List.intercalate_singleton]
    exact Lexer.reads_word hname.plain Lexer.breaks_nil
  | cons n names ih =>
    have hrest := ih (hnames n List.mem_cons_self)
      fun m hm => hnames m (List.mem_cons_of_mem _ hm)
    rw [String.toList_intercalate, List.map_cons] at hrest ⊢
    rw [List.map_cons, List.intercalate_cons_cons, List.append_assoc]
    have hcomma : Lexer.Reads d ", ".toList [.symbol ",", .space]
        ((", ".toList.intercalate (n.toList :: names.map String.toList)) ++ []) :=
      Lexer.reads_comma.append Lexer.reads_blank
    exact (Lexer.reads_word hname.plain Lexer.breaks_comma).append (hcomma.append hrest)

/-- **Plain names with commas in between are tables.** -/
theorem parseSelect_tables (hname : IsTableName name) (hnames : ∀ n ∈ names, IsTableName n) :
    ∃ q found, parseSelect d ("SELECT * FROM " ++ String.intercalate ", " (name :: names)) =
        .ok (some (q, found)) ∧ found.sources = (name :: names).map readSource := by
  have hread := Lexer.reads_from.append (reads_tables (d := d) hname hnames)
  rw [← String.toList_append] at hread
  exact parseSelect_of_select hread fun s hs => select_tables hname hnames hs

/-- A digit has no other case. -/
theorem upperChar_of_isDigit {c : Char} (h : c.isDigit = true) : Text.upperChar c = [c] := by
  have hall : ∀ k : Fin 10, Text.upperChar (Char.ofNat (48 + k)) = [Char.ofNat (48 + k)] := by
    decide
  rw [Char.isDigit, Bool.and_eq_true, decide_eq_true_eq, decide_eq_true_eq] at h
  have hlow : 48 ≤ c.toNat := h.1
  have hhigh : c.toNat ≤ 57 := h.2
  have hc : Char.ofNat (48 + (c.toNat - 48)) = c := by
    rw [Nat.add_sub_cancel' hlow, Char.ofNat_toNat]
  have hdigit := hall ⟨c.toNat - 48, by omega⟩
  rwa [hc] at hdigit

/-- A letter and a number are such a name. -/
theorem isTableName_numbered (i : Nat) : IsTableName ("t" ++ toString i) := by
  have hdigits : ∀ c ∈ (toString i).toList, c.isDigit = true := by
    rw [Nat.toString_eq_repr, Nat.toList_repr]
    exact fun c hc => Nat.isDigit_of_mem_toDigits (by decide) (by decide) hc
  have hchars : ("t" ++ toString i).toList = 't' :: (toString i).toList := by simp
  constructor
  · have hword : (toString i).toList.all Value.isWordChar = true :=
      List.all_eq_true.2 fun c hc => by simp [Value.isWordChar, Char.isAlphanum, hdigits c hc]
    rw [hchars, Value.isPlainName, List.all_cons, hword]
    decide
  · have hupper : (Text.upper ("t" ++ toString i)).toList = 'T' :: (toString i).toList := by
      rw [Text.upper, String.toList_ofList, hchars, List.flatMap_cons,
        List.flatMap_congr fun c hc => upperChar_of_isDigit (hdigits c hc), List.flatMap_singleton']
      rfl
    -- behind its first letter, none of these words has digits alone
    have hletters : ∀ w ∈ relationWords, w.toList.tail.all Char.isDigit = false := by decide
    intro hmem
    have hnone := hletters _ hmem
    rw [hupper, List.tail_cons, List.all_eq_true.2 hdigits] at hnone
    cases hnone

end Grammar

/-! ## Renamed tables -/

/-- The text of a list of tables `t0`, `t1` and so on. -/
def tableListSql (n : Nat) : String :=
  "SELECT * FROM " ++ String.intercalate ", " ((List.range n).map fun i => "t" ++ toString i)

/-- As many tables as a number says. -/
def parseTableList (d : Dialect) (n : Nat) : Except ParseError (List Source) :=
  match parseSelect d (tableListSql n) with
  | .error e => .error e
  | .ok none => .error ⟨.notSelect, tableListSql n⟩
  | .ok (some (_, s)) => .ok s.sources

/-- The entry with a name written over that of its table. -/
def Source.rename (s : Source) (name : Ident) : Source :=
  match s.relation with
  | .table _ arguments tail => { s with relation := .table [name] arguments tail }
  | .other _ => s

/-- The numbered tables are read as themselves. -/
theorem parseTableList_eq (d : Dialect) {n : Nat} (hn : n ≠ 0) :
    parseTableList d n =
      .ok (((List.range n).map fun i => "t" ++ toString i).map Grammar.readSource) := by
  obtain ⟨n, rfl⟩ := Nat.exists_eq_succ_of_ne_zero hn
  have hrange : (List.range (n + 1)).map (fun i => "t" ++ toString i) =
      ("t" ++ toString 0) :: (List.range n).map fun i => "t" ++ toString (i + 1) := by
    rw [List.range_succ_eq_map, List.map_cons, List.map_map]
    rfl
  have hfurther : ∀ name ∈ (List.range n).map fun i => "t" ++ toString (i + 1),
      Grammar.IsTableName name := by
    intro name hname
    obtain ⟨i, -, rfl⟩ := List.mem_map.1 hname
    exact Grammar.isTableName_numbered (i + 1)
  obtain ⟨q, found, hparse, hfound⟩ :=
    Grammar.parseSelect_tables (d := d) (Grammar.isTableName_numbered 0) hfurther
  rw [← hrange] at hparse hfound
  rw [parseTableList, tableListSql, hparse]
  exact congrArg _ hfound

/-- Only the name of a table that was read is its own. -/
theorem zipWith_rename {names : List String} {names' : List Ident}
    (h : names.length = names'.length) :
    (names.map Grammar.readSource).zipWith Source.rename names' =
      names'.map fun n => ⟨.table [n] none [.words ""], []⟩ := by
  induction names generalizing names' with
  | nil =>
    obtain rfl := List.eq_nil_of_length_eq_zero h.symm
    rfl
  | cons name names ih =>
    obtain ⟨n, names', rfl⟩ := List.exists_cons_of_length_eq_add_one h.symm
    rw [List.map_cons, List.zipWith_cons_cons, List.map_cons, ih (by simpa using h)]
    rfl

end Sql

namespace Tables

/-- A `FROM` list of tables that is read as a list of other names, which are written over. -/
def rename (d : Sql.Dialect) (names : List Sql.Ident) :
    Except Sql.ParseError (List Sql.Source) :=
  if names.isEmpty then .ok []
  else (Sql.parseTableList d names.length).map fun found =>
    found.zipWith Sql.Source.rename names ++ found.drop names.length

/-- **Nothing but the given names is left of the list that was read.** -/
theorem rename_eq (d : Sql.Dialect) (names : List Sql.Ident) :
    rename d names = .ok (names.map fun n => ⟨.table [n] none [.words ""], []⟩) := by
  unfold rename
  split
  · rename_i hempty
    rw [List.isEmpty_iff.1 hempty]
    rfl
  · rename_i hne
    have hlength : names.length ≠ 0 := by simpa using hne
    rw [Sql.parseTableList_eq d hlength, Except.map, Sql.zipWith_rename (by simp),
      List.drop_eq_nil_of_le (by simp), List.append_nil]

/-- **The renamed list is written like the list of the tables alone.** -/
theorem rename_sql (d : Sql.Dialect) (names : List Sql.Ident) :
    ∃ found, rename d names = .ok found ∧
      found.map (fun s => Sql.Part.allSql s.parts) =
        (sources names).map fun s => Sql.Part.allSql s.parts := by
  refine ⟨_, rename_eq d names, ?_⟩
  rw [sources, List.map_map, List.map_map]
  refine List.map_congr_left fun n _ => ?_
  simp [Sql.Source.ofTable, Sql.Source.parts, Sql.Relation.parts, Sql.Part.allSql, Sql.Part.sql]

end Tables
end QueryTemplate
