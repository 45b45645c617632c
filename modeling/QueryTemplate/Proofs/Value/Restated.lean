/-
# Values that are written and answered again

What a value becomes without being read as SQL is written as a value that becomes the same:
`NULL`, a truth value, a digit, a string of one character, a column.  It need not be the value
that it came from.

| value | expression | written |
| --- | --- | --- |
| `FalSe` with a long s | false | `false` |
| `007` | the column `007` | `"007"` |
| `"total"` | the column `total`, in quotes | `"total"` |
| `' '` | a string of one blank | `' '` |

So a resolver that answers with what the engine wrote changes nothing (`expr_sql_stable`).
-/

import QueryTemplate.Proofs.Value.ReadBack

namespace QueryTemplate
namespace Value

open Sql (Dialect Expr Ident)

variable {e : Expr} {i : Ident} {text name : String} {c : Char}

/-! ## Names -/

/-- A quoted name without quotes inside is printed between quotes. -/
theorem quoted_sql (hquote : '"' ∉ name.toList) :
    (Ident.quoted name).sql = "\"" ++ name ++ "\"" := by
  rw [← String.toList_inj]
  simp [Ident.sql, Ident.quoted, Sql.Quoting.inQuotes, Sql.Quoting.doubled,
    Sql.Quoting.doubledFrom_of_notMem hquote]

theorem identifier_sql (i : Ident) : (Expr.identifier i).sql = i.sql := by
  simp [Expr.identifier, Expr.sql, Sql.dotted]

/-- A name without quotes is the value that it came from. -/
theorem Names.eq_text (h : Names text i) (hi : i.quote = none) : text = i.text := by
  cases h with
  | word => exact (nameIdent_text text).symm
  | quoted => cases hi

/-- **A name is written as a value that is the same name**, in quotes if it was so before. -/
theorem ident?_sql (h : ident? text = some i) : ident? i.sql = some i := by
  rw [ident?_eq_some_iff] at h ⊢
  cases h with
  | word hne hword =>
    unfold nameIdent
    split
    case isTrue hplain => exact names_plain hplain
    case isFalse =>
      have hquote : '"' ∉ text.toList := fun hmem => absurd (hword _ hmem) (by decide)
      rw [quoted_sql hquote]
      exact .quoted hne hquote
  | quoted hne hquote =>
    rw [quoted_sql hquote]
    exact .quoted hne hquote

/-! ## Constants and columns -/

/-- A text between two characters that are not blank has no blank ends. -/
theorem trim_between (hc : Text.isBlank c = false) (s : List Char) :
    Text.trim (String.ofList (c :: (s ++ [c]))) = String.ofList (c :: (s ++ [c])) := by
  simp [Text.trim, Text.trimList, hc]

/-- A column comes from a name. -/
theorem ident?_of_simple? (h : simple? false text = some (.identifier i)) :
    ident? text = some i := by
  generalize hname : Expr.identifier i = e at h
  cases simple?_eq_some_iff.1 h with
  | name _ _ _ _ hident =>
    cases hname
    exact hident
  | _ => cases hname

/-- One digit is a number. -/
theorem simple?_digit (hc : c.isDigit = true) :
    simple? false c.toString = some (.number c.toString) := by
  simp [simple?, Text.foldsTo, boolean?, number?, hc]

/-- One character between quotes is a string. -/
theorem simple?_char (hc : c ≠ '\'') :
    simple? false (String.ofList ['\'', c, '\'']) = some (.string c.toString) := by
  simp [simple?, Text.foldsTo, boolean?, number?, quotedChar?, hc]

/-- A name between double quotes is a quoted name. -/
theorem simple?_quoted (hne : name ≠ "") (hquote : '"' ∉ name.toList) :
    simple? false ("\"" ++ name ++ "\"") = some (.identifier (.quoted name)) := by
  have hident : ident? ("\"" ++ name ++ "\"") = some (.quoted name) :=
    ident?_eq_some_iff.2 (.quoted hne hquote)
  have hcs : ("\"" ++ name ++ "\"").toList = '"' :: (name.toList ++ ['"']) := by simp
  have hstart : Text.fold '"' ∉ ['n', 't', 'f'] := by decide
  have hnumber : number? false ('"' :: (name.toList ++ ['"'])) = none := by
    simp [number?]
  simp_all [simple?, Text.foldsTo, boolean?, quotedChar?]

/-- **What a value becomes is written as a value that becomes the same.** -/
theorem simple?_sql (h : simple? false (Text.trim text) = some e) :
    simple? false (Text.trim e.sql) = some e := by
  cases simple_of_simple? h with
  | null => rfl
  | boolean b => cases b <;> rfl
  | number c hc =>
    have hword : isWordChar c = true := by
      rw [isWordChar, Char.isAlphanum, hc, Bool.or_true, Bool.true_or]
    have hsql : (Expr.number c.toString).sql = c.toString := sql_literal _
    have htrim : Text.trim c.toString = c.toString :=
      trim_of_forall_not_isBlank fun x hx => by
        obtain rfl : x = c := by simpa using hx
        exact isBlank_of_isWordChar hword
    rw [hsql, htrim, simple?_digit hc]
  | string c hc =>
    have hsql : (Expr.string c.toString).sql = String.ofList ('\'' :: ([c] ++ ['\''])) := by
      rw [← String.toList_inj, string_sql hc, String.toList_ofList]
      rfl
    rw [hsql, trim_between (by decide)]
    exact simple?_char hc
  | plain name hname hconstant =>
    have htext : Text.trim text = name :=
      (ident?_eq_some_iff.1 (ident?_of_simple? h)).eq_text rfl
    have hsql : (Expr.identifier (.plain name)).sql = name := identifier_sql _
    rw [htext] at h
    rwa [hsql, trim_eq hname]
  | quoted name hne hquote =>
    have htext : "\"" ++ name ++ "\"" = String.ofList ('"' :: (name.toList ++ ['"'])) := by
      rw [← String.toList_inj]
      simp
    have htrim : Text.trim ("\"" ++ name ++ "\"") = "\"" ++ name ++ "\"" := by
      rw [htext]
      exact trim_between (by decide) _
    rw [identifier_sql, quoted_sql hquote, htrim]
    exact simple?_quoted hne hquote

/-- **What a value becomes is written as a value that becomes the same**, and so a resolver that
answers with what was written for its answers changes nothing. -/
theorem expr_sql_stable (d : Dialect) :
    (∀ raw e, simple? false (Text.trim raw) = some e →
      simple? false (Text.trim e.sql) = some e ∧
        expr ⟨d, false⟩ raw = .ok e ∧ expr ⟨d, false⟩ e.sql = .ok e) ∧
    (∀ text i, ident? text = some i → ident? i.sql = some i) ∧
    ∀ raws es, (∀ raw ∈ raws, (simple? false (Text.trim raw)).isSome = true) →
      exprs ⟨d, false⟩ raws = .ok es → exprs ⟨d, false⟩ (es.map Expr.sql) = .ok es := by
  have hstable {raw : String} {e : Expr} (h : simple? false (Text.trim raw) = some e) :
      expr ⟨d, false⟩ raw = .ok e ∧ expr ⟨d, false⟩ e.sql = .ok e := by
    simp [expr, h, simple?_sql h]
  refine ⟨fun raw e h => ⟨simple?_sql h, hstable h⟩, fun text i => ident?_sql, fun raws => ?_⟩
  induction raws with
  | nil =>
    intro es _ hes
    obtain rfl : [] = es := Except.ok.inj hes
    rfl
  | cons raw raws ih =>
    intro es hsimple hes
    obtain ⟨hraw, hraws⟩ := List.forall_mem_cons.1 hsimple
    obtain ⟨e, he⟩ := Option.isSome_iff_exists.1 hraw
    cases hrest : exprs ⟨d, false⟩ raws with
    | error fault => simp [exprs, hstable he, hrest, Except.map] at hes
    | ok more =>
      obtain rfl : e :: more = es := by simpa [exprs, hstable he, hrest, Except.map] using hes
      simp [exprs, hstable he, ih more hraws hrest, Except.map]

/-- Constants and names of every kind, with blanks and in other letters; `4x` gets quotes. -/
theorem expr_sql_stable_row :
    let raws := [" NULL ", "TRUE", "7", "'x'", "4x", "\"user id\""]
    let es : List Expr := [.literal .null, .boolean true, .number "7", .string "x",
      .identifier (.quoted "4x"), .identifier (.quoted "user id")]
    (∀ raw ∈ raws, (simple? false (Text.trim raw)).isSome = true) ∧
      exprs ⟨.ansi, false⟩ raws = .ok es ∧
      es.map Expr.sql = ["NULL", "true", "7", "'x'", "\"4x\"", "\"user id\""] ∧
      exprs ⟨.ansi, false⟩ (es.map Expr.sql) = .ok es ∧
      ident? "4x" = some (.quoted "4x") ∧ ident? "\"4x\"" = some (.quoted "4x") := by
  intro raws es
  have hsimple : ∀ raw ∈ raws, (simple? false (Text.trim raw)).isSome = true := by decide +kernel
  have hes : exprs ⟨.ansi, false⟩ raws = .ok es := rfl
  have hname : ident? "4x" = some (.quoted "4x") := by decide +kernel
  exact ⟨hsimple, hes, by decide +kernel, (expr_sql_stable .ansi).2.2 raws es hsimple hes, hname,
    (expr_sql_stable .ansi).2.1 _ _ hname⟩

end Value
end QueryTemplate
