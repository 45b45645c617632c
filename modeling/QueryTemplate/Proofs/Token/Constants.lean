/-
# Constants that are one token

Written digits, with a point among them or not, are one token wherever no character follows that
could belong to them (`reads_decimal`).  A character in single quotes is one token unless it is a
quote itself or, in two dialects, a backslash (`reads_char`).  In one dialect a name in double
quotes is a string (`lexeme_doubleQuoted`).
-/

import Mathlib.Data.List.Induction
import QueryTemplate.Proofs.Token.Closed
import QueryTemplate.Proofs.Token.Reads

namespace QueryTemplate
namespace Sql
namespace Lexer

variable {d : Dialect} {c : Char} {cs rest : List Char}

/-! ## Numbers -/

/-- Digits, and maybe a point and more digits. -/
def IsDecimal (cs : List Char) : Prop :=
  ∃ whole fraction : List Char, whole ≠ [] ∧ (∀ c ∈ whole ++ fraction, c.isDigit = true) ∧
    (cs = whole ∧ fraction = [] ∨ cs = whole ++ '.' :: fraction)

/-- A number ends where nothing follows that could belong to it. -/
def EndsNumber (rest : List Char) : Prop :=
  ∀ c ∈ rest.head?, c.isDigit = false ∧ c ∉ ['.', 'x', 'e', 'E', 'L', '\'', '"', '&']

/-- Digits are taken up to the first other character. -/
theorem takeWhile_isDigit (h : ∀ c ∈ cs, c.isDigit = true)
    (hrest : ∀ c ∈ rest.head?, c.isDigit = false) : (cs ++ rest).takeWhile Char.isDigit = cs := by
  rw [List.takeWhile_append_of_pos h]
  cases rest with
  | nil => simp
  | cons c rest => simp [hrest c (by simp)]

/-- A number that ends has no exponent. -/
theorem exponentOf_eq_nil (hrest : EndsNumber rest) : exponentOf rest = [] := by
  cases rest with
  | nil => rfl
  | cons c rest =>
    have hc := (hrest c (by simp)).2
    simp only [List.mem_cons, not_or] at hc
    simp [exponentOf, hc]

/-- A number that ends has no mark of a long one. -/
theorem head?_ne_of_endsNumber (hrest : EndsNumber rest) :
    (rest.head? == some 'L') = false := by
  cases rest with
  | nil => rfl
  | cons c rest =>
    have hc := (hrest c (by simp)).2
    simp only [List.mem_cons, not_or] at hc
    simp [hc]

/-- A decimal that ends is read as itself. -/
theorem number_eq (h : IsDecimal cs) (hrest : EndsNumber rest) :
    number (cs ++ rest) = (.number (String.ofList cs) false, cs.length - 1) := by
  have hexponent := exponentOf_eq_nil hrest
  have hlong := head?_ne_of_endsNumber hrest
  have hends : ∀ c ∈ rest.head?, c.isDigit = false := fun c hc => (hrest c hc).1
  obtain ⟨whole, fraction, hne, hdigits, hcs⟩ := h
  have hwhole : ∀ c ∈ whole, c.isDigit = true := fun c hc => hdigits c (by simp [hc])
  have hfraction : ∀ c ∈ fraction, c.isDigit = true := fun c hc => hdigits c (by simp [hc])
  have hplain : ∀ point, (whole ++ point ++ fraction == ['.']) = false := by
    intro point
    obtain ⟨c, whole, rfl⟩ := List.exists_cons_of_ne_nil hne
    have hc : c ≠ '.' := by
      rintro rfl
      exact absurd (hwhole _ List.mem_cons_self) (by decide)
    simp [hc]
  rcases hcs with ⟨rfl, rfl⟩ | rfl
  · have htake := takeWhile_isDigit hwhole hends
    have hpoint : ∀ tail, rest = '.' :: tail → False := by
      rintro tail rfl
      exact absurd (hrest '.' (by simp)).2 (by simp)
    have htail : rest.takeWhile Char.isDigit = [] := by
      simpa using takeWhile_isDigit (List.forall_mem_nil _) hends
    unfold number
    simp only [htake, List.drop_left]
    split
    · exact absurd (hrest 'x' (by simp)).2 (by simp)
    · have hplain' := hplain []
      simp only [List.append_nil] at hplain'
      simp [htail, hexponent, hlong, hplain']
  · have hdot : ∀ c ∈ (('.' :: fraction) ++ rest).head?, c.isDigit = false := by simp
    have htake := takeWhile_isDigit hwhole hdot
    have htail := takeWhile_isDigit hfraction hends
    unfold number
    rw [List.append_assoc]
    simp only [htake, List.drop_left]
    split
    · rename_i h
      cases h
    · have hplain' := hplain ['.']
      simp at hplain'
      simp [htail, hexponent, hlong, hplain']

/-- A digit starts a number. -/
theorem lexeme_digit (hc : c.isDigit = true)
    (hmark : ∀ x ∈ rest.head?, x ≠ '\'' ∧ x ≠ '"' ∧ x ≠ '&') :
    lexeme d c rest = .ok (number (c :: rest)) := by
  have hother : ∀ x ∈ [' ', '\t', '\n', '\r', '\'', '"', '\u0060'], c ≠ x := by
    have hnone : [' ', '\t', '\n', '\r', '\'', '"', '\u0060'].all (fun x => !x.isDigit) = true := by
      decide
    rintro x hx rfl
    simpa [hc] using List.all_eq_true.1 hnone c hx
  have hname : d.opensName c = false := by
    cases d <;> simp [Dialect.opensName, hother]
  unfold lexeme
  split
  all_goals try (simp at hother; done)
  simp [markedString?_eq_none hmark, hother, hc, hname]

/-- The characters of a decimal are digits and points. -/
theorem isDigit_or_point (h : IsDecimal cs) : ∀ c ∈ cs, c.isDigit = true ∨ c = '.' := by
  obtain ⟨whole, fraction, -, hdigits, ⟨rfl, rfl⟩ | rfl⟩ := h
  · exact fun c hc => .inl (hdigits c (by simpa using hc))
  · intro c hc
    rw [List.mem_append, List.mem_cons] at hc
    rcases hc with hc | rfl | hc
    · exact .inl (hdigits c (by simp [hc]))
    · exact .inr rfl
    · exact .inl (hdigits c (by simp [hc]))

/-- **A written number is one token** where it ends. -/
theorem reads_decimal (h : IsDecimal cs) (hrest : EndsNumber rest) :
    Reads d cs [.number (String.ofList cs) false] rest := by
  have hnumber := number_eq h hrest
  have hchars := isDigit_or_point h
  obtain ⟨whole, fraction, hne, hdigits, hcs⟩ := h
  obtain ⟨c, whole, rfl⟩ := List.exists_cons_of_ne_nil hne
  obtain ⟨tail, rfl⟩ : ∃ tail, cs = c :: tail := by
    rcases hcs with ⟨rfl, -⟩ | rfl
    · exact ⟨_, rfl⟩
    · exact ⟨_, rfl⟩
  refine .one ?_
  have hmark : ∀ x ∈ (tail ++ rest).head?, x ≠ '\'' ∧ x ≠ '"' ∧ x ≠ '&' := by
    intro x hx
    cases tail with
    | nil =>
      have hends := (hrest x hx).2
      simp only [List.mem_cons, not_or] at hends
      simp [hends]
    | cons y tail =>
      obtain rfl : y = x := by simpa using hx
      rcases hchars y (by simp) with hdigit | rfl
      · refine ⟨?_, ?_, ?_⟩ <;> rintro rfl <;> exact absurd hdigit (by decide)
      · decide
  rw [lexeme_digit (hdigits c (by simp)) hmark, ← List.cons_append, hnumber]
  simp

/-! ## Strings of one character -/

/-- **A character in single quotes is one token**, unless it escapes the quote. -/
theorem reads_char (hc : c ≠ '\'') (hescape : ¬ (c = '\\' ∧ d.backslashEscapes = true))
    (hrest : rest.head? ≠ some '\'') :
    Reads d ['\'', c, '\''] [.string .single c.toString] rest := by
  have hquoted : Quoted.quoted '\'' d.backslashEscapes (c :: '\'' :: rest) = some ([c], 2) := by
    have hend : Quoted.quoted '\'' d.backslashEscapes ('\'' :: rest) = some ([], 1) := by
      cases rest with
      | nil => rfl
      | cons x rest =>
        rw [Quoted.quoted, if_pos rfl, if_neg (by simpa using hrest)]
    rw [Quoted.quoted, if_neg hc, if_neg hescape, hend]
    rfl
  refine .one ?_
  have hat : lexeme d '\'' (c :: '\'' :: rest) =
      stringAt '\'' d.backslashEscapes d.tripleQuotes .single .tripleSingle 0 (c :: '\'' :: rest) := by
    cases d <;> rfl
  rw [List.cons_append, List.singleton_append, hat]
  cases d <;> simp [stringAt, hc, hquoted, stringToken, Dialect.tripleQuotes]

/-! ## Double quotes around strings -/

/-- A quote that no other follows ends what is read, whatever escapes there are before it. -/
theorem quoted_alone {quote : Char} {escapes : Bool} {s : List Char} {n : Nat}
    (hcs : quote ∉ cs) (hc : c ≠ quote)
    (h : Quoted.quoted quote escapes (cs ++ [quote, c]) = some (s, n)) : n = cs.length + 1 := by
  -- an escape takes two characters at once
  induction cs using List.twoStepInduction generalizing s n with
  | nil =>
    rw [List.nil_append, Quoted.quoted, if_pos rfl, if_neg hc, Option.some_inj] at h
    exact (congrArg Prod.snd h).symm
  | singleton x =>
    have hx : x ≠ quote := by simpa [eq_comm] using hcs
    rw [List.singleton_append, Quoted.quoted, if_neg hx] at h
    split at h
    · simp [Quoted.quoted, hc] at h
    · obtain ⟨-, rfl⟩ : _ ∧ 2 = n := by simpa [Quoted.quoted, hc, Quoted.Content.cons] using h
      rfl
  | cons_cons x y cs ih ih' =>
    simp only [List.mem_cons, not_or] at hcs
    rw [List.cons_append, List.cons_append, Quoted.quoted, if_neg (Ne.symm hcs.1)] at h
    split at h
    · rw [Quoted.map_cons_eq_some] at h
      obtain ⟨s, k, h, -, rfl⟩ := h
      rw [ih hcs.2.2 h]
      simp
    · rw [Quoted.map_cons_eq_some] at h
      obtain ⟨s, k, h, -, rfl⟩ := h
      rw [← List.cons_append] at h
      rw [ih' y (by simp [hcs]) h]
      simp

/-- Where double quotes open strings, a name in them is a string, or is not closed. -/
theorem lexeme_doubleQuoted (hd : d.doubleQuotedStrings = true) (hne : cs ≠ [])
    (hquote : '"' ∉ cs) :
    (∃ e, lexeme d '"' (cs ++ ['"', ')']) = .error e) ∨
      ∃ s, lexeme d '"' (cs ++ ['"', ')']) = .ok (.string .double s, cs.length + 1) := by
  have hlexeme : lexeme d '"' (cs ++ ['"', ')']) = stringToken .double 0 1
      (Quoted.quoted '"' d.backslashEscapes (cs ++ ['"', ')'])) := by
    obtain ⟨x, tail, rfl⟩ := List.exists_cons_of_ne_nil hne
    have hx : x ≠ '"' := by
      rintro rfl
      exact hquote List.mem_cons_self
    cases d with
    | bigquery =>
      cases tail <;>
        simp [lexeme, markedString?, Dialect.doubleQuotedStrings, Dialect.tripleQuotes, stringAt, hx]
    | _ => cases hd
  rw [hlexeme]
  cases hread : Quoted.quoted '"' d.backslashEscapes (cs ++ ['"', ')']) with
  | none => exact .inl ⟨_, rfl⟩
  | some found =>
    obtain ⟨s, n⟩ := found
    obtain rfl := quoted_alone hquote (by decide) hread
    exact .inr ⟨String.ofList s, by simp [stringToken]⟩

end Lexer
end Sql
end QueryTemplate
