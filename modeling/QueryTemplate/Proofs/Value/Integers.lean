/-
# Integers as values

Where numerals are read in full, a value of digits, maybe with a minus in front, is read as a binary
number of 64 bits and written back (`expr_integer`).

| the integer apart from its sign | expression |
| --- | --- |
| fewer than 54 bits, or at most fifteen digits in front of zeros | the same integer |
| below `2^1024 - 2^970` | the roundest integer that is read alike |
| larger | no number: a column in double quotes, or a minus and a number in parentheses |
-/

import QueryTemplate.Proofs.Decimal.Roundest
import QueryTemplate.Proofs.Value.Operands

namespace QueryTemplate

/-! ## Numerals of digits -/

namespace Decimal

variable {negative : Bool} {digits : String} {n : ℕ}

/-- Digits with a minus in front, or without. -/
def signed (negative : Bool) (digits : String) : String :=
  if negative then "-" ++ digits else digits

/-- The characters of a signed number are its digits, behind a minus if it is negative. -/
theorem toList_signed (negative : Bool) (digits : String) :
    (signed negative digits).toList =
      if negative then '-' :: digits.toList else digits.toList := by
  cases negative with
  | true => exact String.toList_append
  | false => rfl

/-- A signed run of digits is read as the numeral it writes. -/
theorem ofChars?_signed (negative : Bool) (hne : digits ≠ "")
    (hdigits : ∀ c ∈ digits.toList, c.isDigit = true) :
    Numeral.ofChars? (signed negative digits).toList =
      some ⟨negative, ofDigits digits.toList, 0⟩ := by
  have hcs : digits.toList ≠ [] := fun h => hne (String.toList_eq_nil_iff.1 h)
  rw [toList_signed]
  generalize digits.toList = cs at hdigits hcs ⊢
  have htake : cs.takeWhile Char.isDigit = cs := List.takeWhile_eq_self_iff.2 hdigits
  have hdrop : cs.dropWhile Char.isDigit = [] := List.dropWhile_eq_nil_iff.2 hdigits
  cases negative with
  | true => simp [Numeral.ofChars?, htake, hdrop, hcs, exponentOf?]
  | false =>
    obtain ⟨c, rest, rfl⟩ := List.exists_cons_of_ne_nil hcs
    have hminus : c ≠ '-' := by
      rintro rfl
      exact absurd (hdigits _ List.mem_cons_self) (by decide)
    simp [Numeral.ofChars?, hminus, htake, hdrop, exponentOf?]

/-- Digits are read as the number that is written with them. -/
theorem ofDigits_toString (n : ℕ) : ofDigits (toString n).toList = n := by
  rw [Nat.toString_eq_repr, Nat.toList_repr]
  exact Nat.ofDigitChars_eq_foldl.symm.trans
    (Nat.ofDigitChars_toDigits (by decide : 1 < 10) (by decide))

/-- Numbers of four hundred digits are infinite. -/
theorem firstInfinite_le : Binary64.firstInfinite ≤ 10 ^ 400 := by
  have hpow {k e : ℕ} (l : ℕ) (hk : k ≤ 3 * e) : 2 ^ k - 2 ^ l ≤ 10 ^ e :=
    calc 2 ^ k - 2 ^ l ≤ 2 ^ k := Nat.sub_le _ _
      _ ≤ 2 ^ (3 * e) := Nat.pow_le_pow_right (by decide) hk
      _ = (2 ^ 3) ^ e := Nat.pow_mul 2 3 e
      _ ≤ 10 ^ e := Nat.pow_le_pow_left (by decide) e
  exact hpow 970 (by decide)

/-- An integer is read as the nearest binary number, also where its length alone decides. -/
theorem binary?_natCast : (⟨negative, n, 0⟩ : Numeral).binary? = Binary64.nearest n 1 := by
  rcases eq_or_ne n 0 with rfl | hn
  · rfl
  have hpos : 0 < (Nat.toDigits 10 n).length := Nat.length_toDigits_pos
  unfold Numeral.binary?
  dsimp only
  rw [if_neg (by omega)]
  split
  · rename_i hlong
    refine (Binary64.nearest_eq_none_iff.2 (firstInfinite_le.trans (not_lt.1 fun hlt => ?_))).symm
    have hshort := (Nat.length_toDigits_le_iff (by decide : 1 < 10) (by decide)).2 hlt
    omega
  · simp [scaleDecimal]

/-- A whole number that is infinite in binary has no text. -/
theorem text?_natCast_eq_none (negative : Bool) (hn : Binary64.firstInfinite ≤ n) :
    (⟨negative, n, 0⟩ : Numeral).text? = none := by
  rw [Numeral.text?, binary?_natCast, Binary64.nearest_eq_none_iff.2 hn, Option.map_none]

/-- A whole number is printed as the roundest one in the cell of its binary number. -/
theorem text?_natCast (negative : Bool) {x : Binary64} (hn : Binary64.nearest n 1 = some x) :
    ∃ m, x.Roundest m ∧
      (⟨negative, n, 0⟩ : Numeral).text? = some (signed negative (toString m)) := by
  obtain ⟨m, hroundest, htext⟩ := Binary64.exists_roundest hn
  refine ⟨m, hroundest, ?_⟩
  rw [Numeral.text?, binary?_natCast, hn, Option.map_some]
  dsimp only
  rw [htext]
  rfl

end Decimal

/-- A text without the first character of the pair has no pair to replace. -/
theorem Text.replacePair_of_notMem {a b : Char} {new cs : List Char} (h : a ∉ cs) :
    Text.replacePair a b new cs = cs := by
  fun_induction Text.replacePair a b new cs with
  | case1 => rfl
  | case2 c => rfl
  | case3 c d rest hpair => exact absurd (hpair.1 ▸ List.mem_cons_self) h
  | case4 c d rest hpair ih => rw [ih fun hmem => h (List.mem_cons_of_mem _ hmem)]

namespace Value

open Decimal (Binary64 signed toList_signed)
open Sql (Dialect Expr Tree)

variable {d : Dialect} {negative : Bool} {c : Char} {text digits : String}

/-! ## Values of digits -/

/-- What an integer is made of. -/
def IsIntegerChar (c : Char) : Prop := c.isDigit = true ∨ c = '-'

/-- No blank, no quote, no operator of two characters, and no letter that a constant starts
with. -/
theorem IsIntegerChar.spec (h : IsIntegerChar c) :
    Text.isBlank c = false ∧ c ∉ ['<', '@', '\'', '"'] ∧ Text.fold c ∉ ['n', 't', 'f'] := by
  have hall : ∀ k : Fin 58, 45 ≤ k.val →
      Text.isBlank (Char.ofNat k) = false ∧ Char.ofNat k ∉ ['<', '@', '\'', '"'] ∧
        Text.fold (Char.ofNat k) ∉ ['n', 't', 'f'] := by
    decide
  have hrange : 45 ≤ c.toNat ∧ c.toNat < 58 := by
    rcases h with h | rfl
    · have hdigit : 48 ≤ c.toNat ∧ c.toNat ≤ 57 :=
        ((Bool.and_eq_true _ _).mp h).imp of_decide_eq_true of_decide_eq_true
      omega
    · decide
  have hc := hall ⟨c.toNat, hrange.2⟩ hrange.1
  rwa [Char.ofNat_toNat] at hc

/-- The characters of a signed number are a minus and digits. -/
theorem isIntegerChar_of_mem_signed (negative : Bool)
    (hdigits : ∀ c ∈ digits.toList, c.isDigit = true)
    (hc : c ∈ (signed negative digits).toList) : IsIntegerChar c := by
  rw [toList_signed] at hc
  split at hc
  · rcases List.mem_cons.1 hc with rfl | hc
    · exact .inr rfl
    · exact .inl (hdigits c hc)
  · exact .inl (hdigits c hc)

section IntegerChars

variable (htext : ∀ c ∈ text.toList, IsIntegerChar c)
include htext

/-- A signed number has no blanks to trim. -/
theorem trim_integer : Text.trim text = text :=
  trim_of_forall_not_isBlank fun c hc => (htext c hc).spec.1

/-- A signed number has no sign to escape. -/
theorem escapeOperators_integer : escapeOperators text = text := by
  have hless : '<' ∉ text.toList := fun h => (htext _ h).spec.2.1 (by decide)
  have hat : '@' ∉ text.toList := fun h => (htext _ h).spec.2.1 (by decide)
  rw [escapeOperators, Text.replacePair_of_notMem hless, Text.replacePair_of_notMem hat,
    String.ofList_toList]

/-- A signed number is none of the constants. -/
theorem foldsTo_integer {word : String} (hword : word ∈ ["null", "true", "false"]) :
    Text.foldsTo text.toList word = false := by
  obtain ⟨w, hw, hstart⟩ : ∃ w ∈ word.toList, w ∈ ['n', 't', 'f'] := by
    simp only [List.mem_cons, List.not_mem_nil, or_false] at hword
    rcases hword with rfl | rfl | rfl
    · exact ⟨'n', by decide, by decide⟩
    · exact ⟨'t', by decide, by decide⟩
    · exact ⟨'f', by decide, by decide⟩
  rw [Text.foldsTo, beq_eq_false_iff_ne]
  intro hfold
  rw [← hfold] at hw
  obtain ⟨c, hc, rfl⟩ := List.mem_map.1 hw
  exact (htext c hc).spec.2.2 hstart

/-- A signed number is no quoted character. -/
theorem quotedChar?_integer : quotedChar? text.toList = none := by
  have hquote : '\'' ∉ text.toList := fun h => (htext _ h).spec.2.1 (by decide)
  unfold quotedChar?
  split
  · rename_i hcs
    exact absurd (hcs ▸ List.mem_cons_self) hquote
  · rfl

/-- An integer is a number, or else a name or a text that is read as SQL. -/
theorem simple?_integer : simple? true text =
    ((number? true text.toList).map Expr.number <|> (ident? text).map Expr.identifier) := by
  have hboolean : boolean? text.toList = none := by
    simp [boolean?, foldsTo_integer htext]
  simp [simple?, foldsTo_integer htext, hboolean, quotedChar?_integer htext]

/-- A text that is a number with a text is that number. -/
theorem expr_of_number? {literal : String} (hnumber : number? true text.toList = some literal) :
    expr ⟨d, true⟩ text = .ok (.number literal) := by
  rw [expr, trim_integer htext, simple?_integer htext, hnumber]
  rfl

end IntegerChars

/-- A signed run of digits is a number if its numeral has a text. -/
theorem number?_signed (negative : Bool) (hne : digits ≠ "")
    (hdigits : ∀ c ∈ digits.toList, c.isDigit = true) :
    number? true (signed negative digits).toList =
      (⟨negative, Decimal.ofDigits digits.toList, 0⟩ : Decimal.Numeral).text? := by
  have hread := Decimal.ofChars?_signed negative hne hdigits
  simp only [number?, if_true, hread, Option.bind_some]

/-! ## Integers that are no number -/

/-- Digits are a name only between quotes. -/
theorem ident?_digits (hne : digits ≠ "") (hdigits : ∀ c ∈ digits.toList, c.isDigit = true) :
    ident? digits = some (.quoted digits) := by
  have hword : ∀ c ∈ digits.toList, isWordChar c = true := fun c hc => by
    rw [isWordChar, Char.isAlphanum, hdigits c hc, Bool.or_true, Bool.true_or]
  have hplain : isPlainName digits.toList = false := by
    obtain ⟨c, cs, hcs⟩ := List.exists_cons_of_ne_nil
      fun h : digits.toList = [] => hne (String.toList_eq_nil_iff.1 h)
    rw [hcs] at hdigits ⊢
    rw [isPlainName, hdigits c List.mem_cons_self, Bool.not_true, Bool.false_and]
  have hname := Names.word hne hword
  rw [nameIdent, hplain] at hname
  exact ident?_eq_some_iff.2 hname

/-- A minus makes no name. -/
theorem ident?_minus (digits : String) : ident? ("-" ++ digits) = none := by
  have hlist : ("-" ++ digits).toList = '-' :: digits.toList := String.toList_append
  have hminus : isWordChar '-' = false := by decide
  simp [ident?, hlist, hminus, unquoted?]

/-- **Digits that are no number are a column reference.** -/
theorem expr_digits (hne : digits ≠ "") (hdigits : ∀ c ∈ digits.toList, c.isDigit = true)
    (hnumber : number? true digits.toList = none) :
    expr ⟨d, true⟩ digits = .ok (.identifier (.quoted digits)) := by
  have htext : ∀ c ∈ digits.toList, IsIntegerChar c := fun c hc => .inl (hdigits c hc)
  rw [expr, trim_integer htext, simple?_integer htext, hnumber, ident?_digits hne hdigits]
  rfl

/-- **Digits with a minus that are no number are a minus in front of a number.** -/
theorem expr_minus (hne : digits ≠ "") (hdigits : ∀ c ∈ digits.toList, c.isDigit = true)
    (hnumber : number? true (signed true digits).toList = none) :
    expr ⟨d, true⟩ (signed true digits) = .ok (.nested (.unary .minus (.number digits))) := by
  have htext : ∀ c ∈ (signed true digits).toList, IsIntegerChar c :=
    fun _ => isIntegerChar_of_mem_signed _ hdigits
  have hsql : (Tree.prefixed .minus (.leaf (.number digits))).expr.sql = signed true digits := by
    simp [Tree.expr, Expr.sql, Expr.number, Sql.Literal.sql, Sql.PrefixOp.sql, signed]
  have hdecimal : Sql.Lexer.IsDecimal digits.toList :=
    Decimal.isDecimal_of_digits (fun h => hne (String.toList_eq_nil_iff.1 h)) hdigits
  have hleaves : ∀ e ∈ (Tree.prefixed .minus (.leaf (.number digits))).leaves,
      Sql.Grammar.IsTerm d 0 e := by
    intro e he
    obtain rfl := List.mem_singleton.1 he
    exact Sql.Grammar.isTerm_number hdecimal
  have hsimple : simple? true (Text.trim (signed true digits)) = none := by
    rw [trim_integer htext, simple?_integer htext, hnumber, signed, if_pos rfl, ident?_minus]
    rfl
  have hescaped : escapeOperators (Text.trim (signed true digits)) =
      (Tree.prefixed .minus (.leaf (.number digits))).expr.sql := by
    rw [trim_integer htext, escapeOperators_integer htext, hsql]
  exact (fits_tree hsimple hescaped rfl rfl rfl rfl hleaves (by simp [Tree.depth])).1

/-! ## Integers -/

/-- **Integers are kept up to the binary number that they are read as.** -/
theorem expr_integer (d : Dialect) (negative : Bool) (hne : digits ≠ "")
    (hdigits : ∀ c ∈ digits.toList, c.isDigit = true) :
    let n := Decimal.ofDigits digits.toList
    (n < Binary64.firstInfinite → ∃ x m literal,
        Binary64.nearest n 1 = some x ∧ x.Roundest m ∧ (∀ m', x.Roundest m' → m' = m) ∧
        (Binary64.IsShort n → m = n) ∧
        expr ⟨d, true⟩ (signed negative digits) = .ok (.number literal) ∧
        (Expr.number literal).sql = signed negative (toString m)) ∧
    (Binary64.firstInfinite ≤ n → expr ⟨d, true⟩ (signed negative digits) = .ok (
      if negative then .nested (.unary .minus (.number digits))
      else .identifier (.quoted digits))) := by
  intro n
  have htext : ∀ c ∈ (signed negative digits).toList, IsIntegerChar c :=
    fun _ => isIntegerChar_of_mem_signed _ hdigits
  have hnumber : number? true (signed negative digits).toList =
      (⟨negative, n, 0⟩ : Decimal.Numeral).text? := number?_signed negative hne hdigits
  constructor
  · intro hfinite
    obtain ⟨x, hx⟩ := Option.ne_none_iff_exists'.1
      (mt Binary64.nearest_eq_none_iff.1 (not_le.2 hfinite))
    obtain ⟨m, hroundest, hwritten⟩ := Decimal.text?_natCast negative hx
    refine ⟨x, m, signed negative (toString m), hx, hroundest, fun m' h => h.unique hroundest,
      hroundest.eq_of_isShort hx, ?_, rfl⟩
    exact expr_of_number? htext (hnumber.trans hwritten)
  · intro hinfinite
    rw [Decimal.text?_natCast_eq_none negative hinfinite] at hnumber
    cases negative with
    | true => exact expr_minus hne hdigits hnumber
    | false => exact expr_digits hne hdigits hnumber

/-- Two to the sixtieth is written with a number that ends in three zeros. -/
theorem expr_integer_two_pow_sixty : ∃ x,
    Binary64.nearest (2 ^ 60) 1 = some x ∧ x.Roundest 1152921504606847000 ∧
      expr ⟨.ansi, true⟩ "-1152921504606846976" = .ok (.number "-1152921504606847000") := by
  have hdigits : ∀ c ∈ "1152921504606846976".toList, c.isDigit = true :=
    List.all_eq_true.1 (by decide)
  have hvalue : Decimal.ofDigits "1152921504606846976".toList = 2 ^ 60 := by decide
  have hfinite : 2 ^ 60 < Binary64.firstInfinite :=
    not_le.1 (mt Binary64.nearest_eq_none_iff.2 (by decide))
  have hself : expr ⟨.ansi, true⟩ "-1152921504606846976" = .ok (.number "-1152921504606847000") :=
    expr_of_number? (fun _ => isIntegerChar_of_mem_signed true hdigits) rfl
  obtain ⟨x, m, literal, hx, hroundest, -, -, hexpr, hsql⟩ :=
    (expr_integer .ansi true (by decide) hdigits).1 (hvalue ▸ hfinite)
  have hliteral := Except.ok.inj (hself.symm.trans hexpr)
  have hm : toString m = "1152921504606847000" := by
    rw [← hliteral] at hsql
    have hlist := congrArg String.toList hsql
    rw [toList_signed, if_pos rfl] at hlist
    exact String.toList_inj.1 (List.cons.inj hlist).2.symm
  obtain rfl : m = 1152921504606847000 := by
    rw [← Decimal.ofDigits_toString m, hm]
    decide
  rw [hvalue] at hx
  exact ⟨x, hx, hroundest, hself⟩

/-- One more than two to the 53rd is not kept, and a one with 400 zeros is no number. -/
theorem expr_integer_rounds :
    (¬∃ literal, expr ⟨.ansi, true⟩ "9007199254740993" = .ok (.number literal) ∧
      Decimal.ofDigits (Expr.number literal).sql.toList =
        Decimal.ofDigits "9007199254740993".toList) ∧
    ¬∃ literal, expr ⟨.ansi, true⟩ (toString (10 ^ 400)) = .ok (.number literal) := by
  constructor
  · rintro ⟨literal, hexpr, hsame⟩
    have hdigits : ∀ c ∈ "9007199254740993".toList, c.isDigit = true :=
      List.all_eq_true.1 (by decide)
    have hnumber : number? true "9007199254740993".toList = some "9007199254740992" := rfl
    have hself := expr_of_number? (d := .ansi) (fun c hc => .inl (hdigits c hc)) hnumber
    rw [← Except.ok.inj (hself.symm.trans hexpr)] at hsame
    revert hsame
    decide
  · rintro ⟨literal, hexpr⟩
    have hne : toString (10 ^ 400) ≠ "" := Nat.repr_ne_empty
    have hdigits : ∀ c ∈ (toString (10 ^ 400)).toList, c.isDigit = true := by
      rw [Nat.toString_eq_repr, Nat.toList_repr]
      exact fun c hc => Nat.isDigit_of_mem_toDigits (by decide) (by decide) hc
    have hnumber := number?_signed false hne hdigits
    rw [Decimal.ofDigits_toString, Decimal.text?_natCast_eq_none false Decimal.firstInfinite_le]
      at hnumber
    have hself := expr_digits (d := .ansi) hne hdigits hnumber
    cases Except.ok.inj (hself.symm.trans hexpr)

end Value
end QueryTemplate
