/-
# Values as operands

What a value becomes without being read as SQL is one token, and so an operand in front of every
operator (`fits_of_simple?`), with four exceptions:

| value | dialects |
| --- | --- |
| a number with a sign, which is the sign and a number | all |
| a backslash in quotes | `bigquery`, `snowflake` |
| a column in double quotes | `bigquery` |
| a bare word with a meaning of its own | all |

Only numerals that are read in full have a sign.  A value that is read as SQL is put in parentheses,
and so it fits too if it is made of operators (`fits_tree`).
-/

import QueryTemplate.Proofs.Grammar.Grouping
import QueryTemplate.Proofs.Value.ReadBack

namespace QueryTemplate

/-! ## Written numerals -/

namespace Decimal

open Sql.Lexer (IsDecimal)

/-- Digits, at least one. -/
theorem isDecimal_of_digits {cs : List Char} (hne : cs ≠ []) (h : ∀ c ∈ cs, c.isDigit = true) :
    IsDecimal cs :=
  ⟨cs, [], hne, by simpa using h, .inl ⟨rfl, rfl⟩⟩

/-- **A scaled decimal is written with digits**, and maybe a point between them. -/
theorem isDecimal_plain (x : Scaled) : IsDecimal x.plain.toList := by
  have hdigits : ∀ c ∈ Nat.toDigits 10 x.digits, c.isDigit = true :=
    fun c hc => Nat.isDigit_of_mem_toDigits (by decide) (by decide) hc
  have hzeros (n : Nat) : ∀ c ∈ List.replicate n '0', c.isDigit = true := by
    intro c hc
    rw [List.eq_of_mem_replicate hc]
    rfl
  unfold Scaled.plain
  dsimp only
  split
  · rw [String.toList_ofList]
    refine isDecimal_of_digits (by simp [Nat.toDigits_ne_nil]) fun c hc => ?_
    rcases List.mem_append.1 hc with hc | hc
    · exact hdigits c hc
    · exact hzeros _ c hc
  · rw [String.toList_ofList]
    generalize hplaces : (-x.exponent).toNat = places
    generalize hpadded : List.replicate (places + 1 - (Nat.toDigits 10 x.digits).length) '0' ++
      Nat.toDigits 10 x.digits = padded
    have hall : ∀ c ∈ padded, c.isDigit = true := by
      subst hpadded
      intro c hc
      rcases List.mem_append.1 hc with hc | hc
      · exact hzeros _ c hc
      · exact hdigits c hc
    have hlong : places < padded.length := by
      rw [← hpadded, List.length_append, List.length_replicate]
      omega
    have hwhole : padded.take (padded.length - places) ≠ [] := by
      intro hnil
      have hlength := congrArg List.length hnil
      rw [List.length_take, List.length_nil] at hlength
      omega
    have hfirst : ∀ c ∈ padded.take (padded.length - places), c.isDigit = true :=
      fun c hc => hall c (List.mem_of_mem_take hc)
    split
    · exact isDecimal_of_digits hwhole hfirst
    · refine ⟨_, _, hwhole, fun c hc => ?_, .inr rfl⟩
      rcases List.mem_append.1 hc with hc | hc
      · exact hfirst c hc
      · rw [List.mem_reverse] at hc
        have hdropped := List.mem_reverse.1 ((List.dropWhile_suffix _).mem hc)
        exact hall c (List.mem_of_mem_drop hdropped)

/-- A numeral is written as such a decimal, with a sign in front if it is negative. -/
theorem text?_eq_some {x : Numeral} {text : String} (h : x.text? = some text) :
    ∃ digits : String, IsDecimal digits.toList ∧
      text = if x.negative then "-" ++ digits else digits := by
  obtain ⟨b, -, rfl⟩ := Option.map_eq_some_iff.1 h
  refine ⟨_, ?_, rfl⟩
  split
  · exact show IsDecimal ['0'] from
      isDecimal_of_digits (List.cons_ne_nil _ _) (List.forall_mem_singleton.2 rfl)
  · exact isDecimal_plain _

end Decimal

namespace Value

open Sql (Dialect Expr Tree)
open Sql.Grammar (IsTerm isTerm_plain isTerm_quoted isTerm_number isTerm_literalWord isTerm_char
  specialWords)
open Sql.Lexer (IsDecimal)

variable {d : Dialect} {e : Expr} {text name : String} {c : Char} {cs : List Char} {depth : Nat}

/-! ## Values that fit -/

/-- A number with a sign. -/
def IsNegative (e : Expr) : Prop :=
  ∃ digits : String, IsDecimal digits.toList ∧ e = .number ("-" ++ digits)

/-- What may stand for an operand: a term, or a number with a sign. -/
def Fits (d : Dialect) (depth : Nat) (e : Expr) : Prop := IsTerm d depth e ∨ IsNegative e

/-- **A numeral that is read in full is a number that fits.** -/
theorem fits_number {digits : String} (h : number? true cs = some digits) :
    Fits d 0 (.number digits) := by
  obtain ⟨x, -, hx⟩ := Option.bind_eq_some_iff.1
    (show (Decimal.Numeral.ofChars? cs).bind Decimal.Numeral.text? = some digits from h)
  obtain ⟨ds, hds, rfl⟩ := Decimal.text?_eq_some hx
  cases x.negative with
  | true => exact .inr ⟨ds, hds, rfl⟩
  | false => exact .inl (isTerm_number hds)

/-- Whether a value means something else in front of operators. -/
def isSpecial (d : Dialect) : Expr → Bool
  | .literal (.string _ text) => d.backslashEscapes && text == "\\"
  | .column _ ⟨_, some _⟩ => d.doubleQuotedStrings
  | .column _ ⟨name, none⟩ => specialWords.contains (Text.upper name)
  | _ => false

/-- A simple value fits, unless it means something else in front of operators. -/
theorem fits_of_simple (h : Simple e) (hspecial : isSpecial d e = false) : Fits d 0 e := by
  left
  cases h with
  | null => exact isTerm_literalWord (.inl rfl)
  | boolean b => exact isTerm_literalWord (.inr ⟨b, rfl⟩)
  | number c hc => exact isTerm_number (isDecimal_digit hc)
  | string c hc =>
    refine isTerm_char hc fun ⟨hbackslash, hd⟩ => ?_
    subst hbackslash
    have hspecial' : (d.backslashEscapes && Char.toString '\\' == "\\") = false := hspecial
    rw [hd] at hspecial'
    exact absurd hspecial' (by decide)
  | plain name hname hconstant =>
    exact isTerm_plain hname (by simpa [isSpecial, Expr.identifier, Sql.Ident.plain] using hspecial)
  | quoted name hne hquote =>
    have hd : d.doubleQuotedStrings = false := hspecial
    have hopens : d.opensName '"' = true := by cases d <;> first | rfl | cases hd
    exact isTerm_quoted ((Sql.Ident.readsBack_quoted_iff hopens name).2
      (Sql.Quoting.quotesApartFrom_of_notMem hquote))

/-- A digit is a numeral. -/
theorem number?_digit (hc : c.isDigit = true) : number? true [c] ≠ none := by
  have hall : ∀ k : Fin 58, 48 ≤ k.val → number? true [Char.ofNat k] ≠ none := by
    decide +kernel
  simp only [Char.isDigit, Bool.and_eq_true, decide_eq_true_eq] at hc
  have hk := hall ⟨c.toNat, Nat.lt_succ_of_le hc.2⟩ hc.1
  rwa [Char.ofNat_toNat] at hk

/-- What is no numeral is no digit. -/
theorem number?_of_full (h : number? true text.toList = none) :
    number? false text.toList = none := by
  simp only [number?, Bool.false_eq_true, if_false]
  split
  · rename_i c hc
    rw [if_neg]
    exact fun hdigit => number?_digit hdigit (hc ▸ h)
  · rfl

/-- Values are read alike, except that numerals may be read in full. -/
theorem simple?_full (h : simple? true text = some e) :
    (∃ digits, number? true text.toList = some digits ∧ e = .number digits) ∨
      simple? false text = some e := by
  simp only [simple?_eq_some_iff] at h ⊢
  cases h with
  | null hnull => exact .inr (.null hnull)
  | boolean hnull b hboolean => exact .inr (.boolean hnull b hboolean)
  | number _ _ hnumber => exact .inl ⟨_, hnumber, rfl⟩
  | string hnull hboolean hnumber hquoted =>
    exact .inr (.string hnull hboolean (number?_of_full hnumber) hquoted)
  | name hnull hboolean hnumber hquoted hident =>
    exact .inr (.name hnull hboolean (number?_of_full hnumber) hquoted hident)

/-- **A constant or a column that a value becomes fits**, unless it is special. -/
theorem fits_of_simple? {full : Bool} (h : simple? full text = some e)
    (hspecial : isSpecial d e = false) : Fits d 0 e := by
  cases full with
  | false => exact fits_of_simple (simple_of_simple? h) hspecial
  | true =>
    rcases simple?_full h with ⟨digits, hdigits, rfl⟩ | h
    · exact fits_number hdigits
    · exact fits_of_simple (simple_of_simple? h) hspecial

/-- **A value that is read as operators that group as they are written fits**, in parentheses. -/
theorem fits_tree {full : Bool} {raw : String} {t : Tree}
    (hsimple : simple? full (Text.trim raw) = none)
    (htext : escapeOperators (Text.trim raw) = t.expr.sql) (hknown : t.isKnown d = true)
    (hright : t.rightGrouped d = true) (hleft : t.leftGrouped d = true)
    (hsigns : t.signsApart = true) (hleaves : ∀ e ∈ t.leaves, IsTerm d depth e)
    (hdepth : t.depth depth ≤ 46) :
    expr ⟨d, full⟩ raw = .ok (.nested t.expr) ∧ Fits d (t.depth depth + 1) (.nested t.expr) := by
  refine ⟨?_, .inl (Sql.Grammar.isTerm_tree hknown hright hleft hsigns hleaves)⟩
  simp only [expr, hsimple, htext]
  exact Sql.Grammar.parseCondition_tree hknown hright hleft hsigns hleaves hdepth

end Value
end QueryTemplate
