/-
# Values that are read back

A value that is no SQL text becomes `NULL`, a truth value, a digit, a string of one character or
a column (`Simple`).  Written and read again as a condition, each of these comes back in
parentheses, with three exceptions (`expr_readBack_iff`):

| value | dialects | read as |
| --- | --- | --- |
| a backslash in quotes | `bigquery`, `snowflake` | a string that is not closed |
| a column in double quotes | `bigquery` | a string |
| a bare word with a meaning of its own | all | a query, a call, a construct |

The words of the last row are `SELECT`, `WITH` and those that `IsNameWord` leaves out.
-/

import QueryTemplate.Proofs.Clause.Echo
import QueryTemplate.Proofs.Grammar.Words
import QueryTemplate.Proofs.Token.Constants
import QueryTemplate.Proofs.Token.Doubled

namespace QueryTemplate
namespace Value

open Sql (Dialect Expr Ident Token parseCondition)
open Sql.Grammar (IsNameWord IsToken constantWords functionWords refusedWords)

variable {d : Dialect} {e : Expr} {raw text name : String} {c : Char}

/-! ## What values become -/

/-- Which of the readings of a value applies: the first one that finds something. -/
inductive SimpleRule (full : Bool) (text : String) : Expr → Prop
  | null (hnull : Text.foldsTo text.toList "null" = true) : SimpleRule full text (.literal .null)
  | boolean (hnull : Text.foldsTo text.toList "null" = false) (b : Bool)
      (hboolean : boolean? text.toList = some b) : SimpleRule full text (.boolean b)
  | number {digits : String} (hnull : Text.foldsTo text.toList "null" = false)
      (hboolean : boolean? text.toList = none) (hnumber : number? full text.toList = some digits) :
      SimpleRule full text (.number digits)
  | string {c : Char} (hnull : Text.foldsTo text.toList "null" = false)
      (hboolean : boolean? text.toList = none) (hnumber : number? full text.toList = none)
      (hquoted : quotedChar? text.toList = some c) : SimpleRule full text (.string c.toString)
  | name {i : Ident} (hnull : Text.foldsTo text.toList "null" = false)
      (hboolean : boolean? text.toList = none) (hnumber : number? full text.toList = none)
      (hquoted : quotedChar? text.toList = none) (hident : ident? text = some i) :
      SimpleRule full text (.identifier i)

/-- **A value that is not read as SQL is read in one of five ways.** -/
theorem simple?_eq_some_iff {full : Bool} :
    simple? full text = some e ↔ SimpleRule full text e := by
  constructor
  · intro h
    unfold simple? at h
    cases hnull : Text.foldsTo text.toList "null" with
    | true =>
      obtain rfl : Expr.literal .null = e := by simpa [hnull] using h
      exact .null hnull
    | false =>
    cases hboolean : boolean? text.toList with
    | some b =>
      obtain rfl : Expr.boolean b = e := by simpa [hnull, hboolean] using h
      exact .boolean hnull b hboolean
    | none =>
    cases hnumber : number? full text.toList with
    | some digits =>
      obtain rfl : Expr.number digits = e := by simpa [hnull, hboolean, hnumber] using h
      exact .number hnull hboolean hnumber
    | none =>
    cases hquoted : quotedChar? text.toList with
    | some c =>
      obtain rfl : Expr.string c.toString = e := by
        simpa [hnull, hboolean, hnumber, hquoted] using h
      exact .string hnull hboolean hnumber hquoted
    | none =>
    obtain ⟨i, hident, rfl⟩ : ∃ i, ident? text = some i ∧ Expr.identifier i = e := by
      simpa [hnull, hboolean, hnumber, hquoted] using h
    exact .name hnull hboolean hnumber hquoted hident
  · intro h
    cases h <;> simp [simple?, *]

/-- What a value becomes without being read as SQL, if only digits are numbers. -/
inductive Simple : Expr → Prop
  | null : Simple (.literal .null)
  | boolean (b : Bool) : Simple (.boolean b)
  | number (c : Char) (hc : c.isDigit = true) : Simple (.number c.toString)
  | string (c : Char) (hc : c ≠ '\'') : Simple (.string c.toString)
  | plain (name : String) (hname : isPlainName name.toList = true)
      (hconstant : Text.upper name ∉ constantWords) : Simple (.identifier (.plain name))
  | quoted (name : String) (hne : name ≠ "") (hquote : '"' ∉ name.toList) :
      Simple (.identifier (.quoted name))

/-- Upper case is one character for a word character, and lower case gets it back. -/
theorem upperChar_of_isWordChar (h : isWordChar c = true) :
    Text.upperChar c = [c.toUpper] ∧ c.toUpper.toLower = c.toLower := by
  have hall : ∀ k : Fin 123, Text.upperChar (Char.ofNat k) = [(Char.ofNat k).toUpper] ∧
      (Char.ofNat k).toUpper.toLower = (Char.ofNat k).toLower := by
    decide
  have hhigh := (toNat_of_isWordChar h).2
  have hc := hall ⟨c.toNat, by omega⟩
  rwa [Char.ofNat_toNat] at hc

/-- Upper case is forgotten in lower case. -/
theorem map_toLower_upper (h : ∀ c ∈ text.toList, isWordChar c = true) :
    (Text.upper text).toList.map Char.toLower = text.toList.map Char.toLower := by
  rw [Text.upper, String.toList_ofList,
    List.flatMap_congr fun c hc => (upperChar_of_isWordChar (h c hc)).1, ← List.map_eq_flatMap,
    List.map_map]
  exact List.map_congr_left fun c hc => (upperChar_of_isWordChar (h c hc)).2

/-- A word that is no constant in some letter case has no keyword of one. -/
theorem upper_notMem_constantWords (h : ∀ c ∈ text.toList, isWordChar c = true)
    (hnull : Text.foldsTo text.toList "null" = false) (hboolean : boolean? text.toList = none) :
    Text.upper text ∉ constantWords := by
  intro hmem
  have hlower := map_toLower_upper h
  have hfolds : Text.foldsTo text.toList "true" = false ∧
      Text.foldsTo text.toList "false" = false := by
    simpa [boolean?] using hboolean
  rw [foldsTo_eq h, beq_eq_false_iff_ne, ← hlower] at hnull
  rw [foldsTo_eq h, foldsTo_eq h, beq_eq_false_iff_ne, beq_eq_false_iff_ne, ← hlower] at hfolds
  simp only [constantWords, List.mem_cons, List.not_mem_nil, or_false] at hmem
  rcases hmem with hmem | hmem | hmem
  all_goals
    rw [hmem] at hnull hfolds
    revert hnull hfolds
    decide

/-- What classification finds without numbers is a simple value. -/
theorem simple_of_simple? (h : simple? false text = some e) : Simple e := by
  cases simple?_eq_some_iff.1 h with
  | null => exact .null
  | boolean _ b => exact .boolean b
  | number _ _ hnumber =>
    simp only [number?, Bool.false_eq_true, if_false] at hnumber
    split at hnumber
    · obtain ⟨hc, hdigits⟩ := Option.ite_none_right_eq_some.1 hnumber
      exact Option.some.inj hdigits ▸ .number _ hc
    · cases hnumber
  | string _ _ _ hquoted =>
    unfold quotedChar? at hquoted
    split at hquoted
    · refine .string _ fun hc => ?_
      split at hquoted <;> simp_all
    · cases hquoted
  | name hnull hboolean _ _ hident =>
    cases ident?_eq_some_iff.1 hident with
    | word hne hword =>
      unfold nameIdent
      split
      · rename_i hplain
        exact .plain text hplain (upper_notMem_constantWords hword hnull hboolean)
      · refine .quoted text hne fun hquote => ?_
        exact absurd (hword _ hquote) (by decide)
    | quoted hne hquote => exact .quoted _ hne hquote

/-! ## What they are read as -/

/-- Whether a constant or a column, written and read again, is something else. -/
def isMisread (d : Dialect) : Expr → Bool
  | .literal (.string _ text) => d.backslashEscapes && text == "\\"
  | .column _ ⟨_, some _⟩ => d.doubleQuotedStrings
  | .column _ ⟨name, none⟩ =>
    !decide (IsNameWord d (Text.upper name)) || ["SELECT", "WITH"].contains (Text.upper name)
  | _ => false

theorem sql_literal (l : Sql.Literal) : (Expr.literal l).sql = l.sql := by rw [Expr.sql]

/-- The words of the constants are read back. -/
theorem parseCondition_constantWord {l : Sql.Literal} (h : l = .null ∨ ∃ b, l = .boolean b) :
    parseCondition d l.sql = .ok (.nested (.literal l)) := by
  have hname : isPlainName l.sql.toList = true := by
    rcases h with rfl | ⟨_ | _, rfl⟩ <;> decide
  have htoken : IsToken d l.sql (.word l.sql none) :=
    ⟨rfl, Sql.Lexer.reads_word hname Sql.Lexer.breaks_close⟩
  refine Sql.Grammar.parseCondition_of_operand htoken (fun b p q => ?_)
    fun b b' p p' q q' => Sql.Grammar.operand_constantWord h
  rcases h with rfl | ⟨_ | _, rfl⟩ <;> rfl

/-- A constant of one token is read back. -/
theorem parseCondition_constant {l : Sql.Literal} {t : Token} (htoken : IsToken d l.sql t)
    (hconstant : Sql.Grammar.constantOperand? d t = some l) :
    parseCondition d l.sql = .ok (.nested (.literal l)) := by
  refine Sql.Grammar.parseCondition_of_operand htoken (fun b p q => ?_)
    fun b b' p p' q q' => Sql.Grammar.operand_constant hconstant
  cases t with
  | word => cases hconstant
  | _ => rfl

/-- A number is read back as it is written. -/
theorem parseCondition_number {digits : String} (h : Sql.Lexer.IsDecimal digits.toList) :
    parseCondition d (Expr.number digits).sql = .ok (.nested (.number digits)) := by
  have htoken : IsToken d (Sql.Literal.number digits false).sql (.number digits false) := by
    have hreads : Sql.Lexer.Reads d digits.toList [.number (String.ofList digits.toList) false]
        [')'] := Sql.Lexer.reads_decimal h (by simp [Sql.Lexer.EndsNumber])
    rw [String.ofList_toList] at hreads
    exact ⟨rfl, hreads⟩
  rw [Expr.number, sql_literal]
  exact parseCondition_constant htoken rfl

/-- One digit is a decimal number. -/
theorem isDecimal_digit (hc : c.isDigit = true) : Sql.Lexer.IsDecimal c.toString.toList :=
  ⟨[c], [], by simp, by simpa using hc, .inl ⟨by simp, rfl⟩⟩

/-- A string of one character is printed between two quotes. -/
theorem string_sql (hc : c ≠ '\'') : (Expr.string c.toString).sql.toList = ['\'', c, '\''] := by
  rw [Expr.string, sql_literal]
  simp [Sql.Literal.sql, Sql.Literal.content, Sql.Quoting.doubled, Sql.Quoting.doubledFrom, hc,
    Sql.StringKind.mark, Sql.StringKind.quote]

/-- A string of one character is read back, but for a backslash where it escapes the quote. -/
theorem parseCondition_string (hc : c ≠ '\'') :
    parseCondition d (Expr.string c.toString).sql = .ok (.nested (.string c.toString)) ↔
      ¬ (c = '\\' ∧ d.backslashEscapes = true) := by
  constructor
  · rintro hparse ⟨rfl, hd⟩
    have hnone : (parseCondition d (Expr.string "\\").sql).toOption.isNone = true := by
      cases d with
      | ansi | postgres => cases hd
      | bigquery | snowflake => decide +kernel
    rw [show (Char.toString '\\') = "\\" from rfl] at hparse
    simp [hparse, Except.toOption] at hnone
  · intro hescape
    have htoken : IsToken d (Expr.string c.toString).sql (.string .single c.toString) := by
      refine ⟨rfl, ?_⟩
      rw [string_sql hc]
      exact Sql.Lexer.reads_char hc hescape (by simp)
    exact parseCondition_constant htoken rfl

/-- Where double quotes open strings, a name in them is read as a string, if at all. -/
theorem parseCondition_doubleQuoted (hd : d.doubleQuotedStrings = true) (hne : name ≠ "")
    (hquote : '"' ∉ name.toList) :
    parseCondition d (Ident.quoted name).sql ≠ .ok (.nested (.identifier (.quoted name))) := by
  intro hparse
  have hsql : (Ident.quoted name).sql.toList = '"' :: (name.toList ++ ['"']) := by
    simp [Ident.sql, Ident.quoted, Sql.Quoting.inQuotes, Sql.Quoting.doubled,
      Sql.Quoting.doubledFrom_of_notMem hquote]
  rcases Sql.Lexer.lexeme_doubleQuoted hd (by simpa using hne) hquote with ⟨e, he⟩ | ⟨s, hs⟩
  · obtain ⟨ls, -, -, hlexemes, -⟩ := Sql.Grammar.parseCondition_eq_ok hparse
    have hopen : Sql.Lexer.Reads d ['('] [.symbol "("] ((Ident.quoted name).sql.toList ++ [')']) :=
      Sql.Lexer.reads_open
    have hreads := Sql.Lexer.reads_where.append hopen
    rw [hsql] at hreads
    refine hreads.lexemes_ne_ok ?_ (by simpa using he) ls hlexemes
    simp [Sql.Grammar.conditionSql_eq, hsql]
  · have htoken : IsToken d (Ident.quoted name).sql (.string .double s) := by
      refine ⟨rfl, ?_⟩
      rw [hsql]
      refine .one ?_
      simpa using hs
    have hliteral : parseCondition d (Ident.quoted name).sql =
        .ok (.nested (.literal (.string .double s))) :=
      Sql.Grammar.parseCondition_of_operand htoken (fun _ _ _ => rfl)
        fun b b' p p' q q' => Sql.Grammar.operand_constant rfl
    cases hliteral.symm.trans hparse

/-- A quoted name is read back, but for dialects that read double quotes as strings. -/
theorem parseCondition_quoted (hne : name ≠ "") (hquote : '"' ∉ name.toList) :
    parseCondition d (Expr.identifier (.quoted name)).sql =
        .ok (.nested (.identifier (.quoted name))) ↔ d.doubleQuotedStrings = false := by
  have hsql : (Expr.identifier (.quoted name)).sql = (Ident.quoted name).sql := by
    simp [Expr.identifier, Expr.sql, Sql.dotted]
  rw [hsql]
  by_cases hd : d.doubleQuotedStrings = true
  · exact iff_of_false (parseCondition_doubleQuoted hd hne hquote) (by simp [hd])
  · rw [Bool.not_eq_true] at hd
    refine iff_of_true ?_ hd
    have hopens : d.opensName '"' = true := by cases d <;> first | rfl | cases hd
    have hback := (Ident.readsBack_quoted_iff hopens name).2
      (Sql.Quoting.quotesApartFrom_of_notMem hquote)
    have htoken : IsToken d (Ident.quoted name).sql (.word name (some '"')) :=
      ⟨rfl, hback [')'] (by simp [Ident.quoted])⟩
    exact (Sql.Grammar.parseCondition_word (w := .quoted name) htoken (fun _ _ _ => rfl)
      (by decide)).2 ⟨by cases d <;> decide, by decide⟩

/-- **A constant or a column that a value becomes is read back**, unless it is misread: what is
written and read again as a condition is the same in parentheses. -/
theorem expr_readBack_iff (h : simple? false (Text.trim raw) = some e) :
    expr ⟨d, false⟩ raw = .ok e ∧
      (parseCondition d e.sql = .ok (.nested e) ↔ isMisread d e = false) := by
  refine ⟨by simp [expr, h], ?_⟩
  cases simple_of_simple? h with
  | null =>
    rw [sql_literal]
    exact iff_of_true (parseCondition_constantWord (.inl rfl)) rfl
  | boolean b =>
    rw [Expr.boolean, sql_literal]
    exact iff_of_true (parseCondition_constantWord (.inr ⟨b, rfl⟩)) rfl
  | number c hc => exact iff_of_true (parseCondition_number (isDecimal_digit hc)) rfl
  | string c hc =>
    rw [parseCondition_string hc]
    have hbackslash : c.toString = "\\" ↔ c = '\\' := by simp [← String.toList_inj]
    change _ ↔ (d.backslashEscapes && decide (c.toString = "\\")) = false
    rw [Bool.and_eq_false_iff, decide_eq_false_iff_not, hbackslash, not_and', or_comm]
    cases d.backslashEscapes <;> simp
  | plain name hname hconstant =>
    have hsql : (Expr.identifier (.plain name)).sql = name := by
      simp [Expr.identifier, Expr.sql, Sql.dotted, Ident.sql, Ident.plain]
    have htoken : IsToken d name (.word name none) :=
      ⟨rfl, Sql.Lexer.reads_word hname Sql.Lexer.breaks_close⟩
    rw [hsql, Sql.Grammar.parseCondition_word (w := .plain name) htoken (fun _ _ _ => rfl) hconstant]
    change _ ↔ (!decide (IsNameWord d (Text.upper name)) ||
      ["SELECT", "WITH"].contains (Text.upper name)) = false
    rw [Bool.or_eq_false_iff, Bool.not_eq_false', decide_eq_true_eq, List.contains_eq_mem,
      decide_eq_false_iff_not]
    rfl
  | quoted name hne hquote =>
    rw [parseCondition_quoted hne hquote]
    rfl

/-- `users` is a plain name, and read back in PostgreSQL. -/
theorem expr_readBack_users :
    simple? false (Text.trim "users") = some (.identifier (.plain "users")) ∧
      (expr ⟨.postgres, false⟩ "users" = .ok (.identifier (.plain "users")) ∧
        (parseCondition .postgres (Expr.identifier (.plain "users")).sql =
            .ok (.nested (.identifier (.plain "users"))) ↔
          isMisread .postgres (.identifier (.plain "users")) = false)) :=
  have h : simple? false (Text.trim "users") = some (.identifier (.plain "users")) := by
    rfl
  ⟨h, expr_readBack_iff h⟩

/-- A plain word becomes a column of that name although the word starts a query, and so cannot be
read back. -/
theorem expr_misreads_select :
    expr ⟨.ansi, false⟩ "select" = .ok (.identifier (.plain "select")) ∧
      (Expr.identifier (.plain "select")).sql = "select" ∧
      parseCondition .ansi "select" ≠ .ok (.nested (.identifier (.plain "select"))) := by
  refine ⟨rfl, ?_, fun hparse => ?_⟩
  · simp [Expr.identifier, Expr.sql, Sql.dotted, Ident.sql, Ident.plain]
  · have hnone : (parseCondition .ansi "select").toOption.isNone = true := by decide +kernel
    simp [hparse, Except.toOption] at hnone

end Value
end QueryTemplate
