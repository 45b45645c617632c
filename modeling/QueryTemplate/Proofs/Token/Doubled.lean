/-
# Doubled quotes read back

Text between quotes is written with `Quoting.doubled` and read with `Quoted.quoted`.  The
writer leaves two things as they are: a pair of quotes, which the reader takes for one quote,
and a quote behind a backslash, which the reader takes for the end.  So the text comes back just
if all of its quotes stand *apart*: none of them behind a backslash, and none before another one
(`Ident.readsBack_quoted_iff`).

The direction from reading to writing is by counting.  What was read has as many characters in
the text as its content has, one more for each quote in it, and the closing one
(`quoted_length`); the writer puts in that many just for quotes that stand apart
(`length_doubledFrom_eq_iff`).
-/

import QueryTemplate.Proofs.Token.Closed
import QueryTemplate.Proofs.Token.Reads
import QueryTemplate.Sql.Expr

namespace QueryTemplate
namespace Sql

namespace Quoting

variable {quote last c : Char} {s : List Char}

/-- Whether no quote stands behind a backslash or before another quote; `last` is the character
before. -/
def quotesApartFrom (quote last : Char) : List Char → Bool
  | [] => true
  | c :: rest =>
    (c != quote || last != '\\' && rest.head? != some quote) && quotesApartFrom quote c rest

/-- Whether no quote of a text stands behind a backslash or before another quote. -/
def quotesApart (quote : Char) (s : String) : Bool := quotesApartFrom quote '\x00' s.toList

/-- A text without quotes has them apart. -/
theorem quotesApartFrom_of_notMem (h : quote ∉ s) : quotesApartFrom quote last s = true := by
  induction s generalizing last with
  | nil => rfl
  | cons c rest ih =>
    rw [List.mem_cons, not_or] at h
    simp [quotesApartFrom, ih h.2, Ne.symm h.1]

/-- A text without quotes has none to double. -/
theorem doubledFrom_of_notMem (h : quote ∉ s) : doubledFrom quote last s = s := by
  induction s generalizing last with
  | nil => rfl
  | cons c rest ih =>
    rw [List.mem_cons, not_or] at h
    cases rest with
    | nil => simp [doubledFrom, Ne.symm h.1]
    | cons d rest => rw [doubledFrom, if_neg (Ne.symm h.1), ih h.2]

/-- Doubling quotes empties no text. -/
theorem doubledFrom_ne_nil : doubledFrom quote last (c :: s) ≠ [] := by
  cases s with
  | nil =>
    rw [doubledFrom]
    split <;> simp
  | cons d rest =>
    rw [doubledFrom]
    repeat' split
    all_goals simp

/-- The writer puts in at most one character for each quote. -/
theorem length_doubledFrom_le (quote last : Char) (s : List Char) :
    (doubledFrom quote last s).length ≤ s.length + s.count quote := by
  induction last, s using doubledFrom.induct quote with
  | case1 => simp [doubledFrom]
  | case2 last c h =>
    rw [doubledFrom, if_pos h]
    simp [h.1]
  | case3 last c h =>
    rw [doubledFrom, if_neg h]
    simp
  | case4 d rest ih =>
    rw [doubledFrom, if_pos rfl, if_pos rfl, List.count_cons_self]
    simp only [List.length_cons] at ih ⊢
    omega
  | case5 last rest hlast ih =>
    rw [doubledFrom, if_pos rfl, if_neg hlast, if_pos rfl, List.count_cons_self,
      List.count_cons_self]
    simp only [List.length_cons]
    omega
  | case6 last d rest hlast hd ih =>
    rw [doubledFrom, if_pos rfl, if_neg hlast, if_neg hd, List.count_cons_self]
    simp only [List.length_cons] at ih ⊢
    omega
  | case7 last c d rest hc ih =>
    rw [doubledFrom, if_neg hc, List.count_cons_of_ne hc]
    simp only [List.length_cons] at ih ⊢
    omega

/-- It puts in that many just if all quotes stand apart. -/
theorem length_doubledFrom_eq_iff (quote last : Char) (s : List Char) :
    (doubledFrom quote last s).length = s.length + s.count quote ↔
      quotesApartFrom quote last s = true := by
  induction last, s using doubledFrom.induct quote with
  | case1 => simp [doubledFrom, quotesApartFrom]
  | case2 last c h =>
    rw [doubledFrom, if_pos h]
    simp [quotesApartFrom, h.1, h.2]
  | case3 last c h =>
    rw [doubledFrom, if_neg h]
    by_cases hc : c = quote
    · simp_all [quotesApartFrom]
    · simp [quotesApartFrom, hc]
  | case4 d rest ih =>
    have hle := length_doubledFrom_le quote '\\' (d :: rest)
    rw [doubledFrom, if_pos rfl, if_pos rfl, List.count_cons_self]
    simp only [List.length_cons] at hle ⊢
    simp only [quotesApartFrom, bne_self_eq_false, Bool.false_and, Bool.or_self, Bool.false_eq_true,
      iff_false]
    omega
  | case5 last rest hlast ih =>
    have hle := length_doubledFrom_le quote quote rest
    rw [doubledFrom, if_pos rfl, if_neg hlast, if_pos rfl, List.count_cons_self,
      List.count_cons_self]
    simp only [List.length_cons, quotesApartFrom, List.head?_cons, bne_self_eq_false,
      Bool.and_false, Bool.or_self, Bool.false_and, Bool.false_eq_true, iff_false]
    omega
  | case6 last d rest hlast hd ih =>
    rw [doubledFrom, if_pos rfl, if_neg hlast, if_neg hd, List.count_cons_self,
      quotesApartFrom]
    simp only [List.head?_cons, bne_iff_ne, ne_eq, Option.some.injEq, hlast, hd,
      not_false_eq_true, bne_self_eq_false, Bool.false_or, Bool.and_eq_true, and_self, true_and,
      ← ih, List.length_cons]
    omega
  | case7 last c d rest hc ih =>
    rw [doubledFrom, if_neg hc, List.count_cons_of_ne hc, quotesApartFrom]
    simp only [bne_iff_ne.2 hc, Bool.true_or, Bool.true_and, ← ih, List.length_cons]
    omega

end Quoting

namespace Quoted

open Quoting (doubledFrom quotesApartFrom)

variable {quote last c : Char} {s rest cs : List Char} {n : Nat}

/-- A pair of quotes in a quoted text stands for one quote. -/
theorem quoted_pair : quoted quote false (quote :: quote :: s) =
    (quoted quote false s).map (Content.cons quote 2) := by
  rw [quoted, if_pos rfl, if_pos rfl]

/-- Every other character of a quoted text stands for itself. -/
theorem quoted_other (hc : c ≠ quote) (hs : s ≠ []) :
    quoted quote false (c :: s) = (quoted quote false s).map (Content.cons c 1) := by
  obtain ⟨d, rest, rfl⟩ := List.exists_cons_of_ne_nil hs
  rw [quoted, if_neg hc, if_neg (by simp)]

/-- A quote that no quote follows ends a quoted text. -/
theorem quoted_end (hs : s.head? ≠ some quote) :
    quoted quote false (quote :: s) = some ([], 1) := by
  cases s with
  | nil => simp [quoted]
  | cons d rest =>
    rw [quoted, if_pos rfl, if_neg (by simpa using hs)]

/-- The characters that were read: those of the content, one more for each quote, and the
closing quote. -/
theorem quoted_length (h : quoted quote false s = some (cs, n)) :
    n = cs.length + cs.count quote + 1 := by
  induction s using quoted.induct quote false generalizing cs n with
  | case1 => cases h
  | case2 =>
    obtain ⟨rfl, rfl⟩ : cs = [] ∧ 1 = n := by simpa [quoted] using h
    rfl
  | case3 c hc => simp [quoted, hc] at h
  | case4 rest ih =>
    rw [quoted_pair, map_cons_eq_some] at h
    obtain ⟨cs, k, h', rfl, rfl⟩ := h
    rw [ih h', List.count_cons_self, List.length_cons]
    omega
  | case5 d rest hd =>
    obtain ⟨rfl, rfl⟩ : cs = [] ∧ 1 = n := by simpa [quoted, hd] using h
    rfl
  | case6 c d rest hc hesc => cases hesc.2
  | case7 c d rest hc hesc ih =>
    rw [quoted_other hc (by simp), map_cons_eq_some] at h
    obtain ⟨cs, k, h', rfl, rfl⟩ := h
    rw [ih h', List.count_cons_of_ne hc, List.length_cons]
    omega

/-- **A text whose quotes stand apart is read back.** -/
theorem quoted_doubledFrom (h : quotesApartFrom quote last s = true)
    (hrest : rest.head? ≠ some quote) :
    quoted quote false (doubledFrom quote last s ++ quote :: rest) =
      some (s, (doubledFrom quote last s).length + 1) := by
  induction last, s using Quoting.doubledFrom.induct quote with
  | case1 => simpa [doubledFrom] using quoted_end hrest
  | case2 last c hc =>
    obtain ⟨rfl, -⟩ := hc
    simp [quotesApartFrom] at h
    simp [doubledFrom, h, quoted_pair, quoted_end hrest, Content.cons]
  | case3 last c hc =>
    have hne : c ≠ quote := by
      rintro rfl
      simp_all [quotesApartFrom]
    rw [doubledFrom, if_neg hc, List.singleton_append, quoted_other hne (by simp),
      quoted_end hrest]
    rfl
  | case4 d rest' ih => simp [quotesApartFrom] at h
  | case5 last rest' hlast ih => simp [quotesApartFrom] at h
  | case6 last d rest' hlast hd ih =>
    rw [quotesApartFrom, Bool.and_eq_true] at h
    rw [doubledFrom, if_pos rfl, if_neg hlast, if_neg hd, List.cons_append, List.cons_append,
      quoted_pair, ih h.2]
    simp [Content.cons]
  | case7 last c d rest' hc ih =>
    rw [quotesApartFrom, Bool.and_eq_true] at h
    rw [doubledFrom, if_neg hc, List.cons_append,
      quoted_other hc (by simp [Quoting.doubledFrom_ne_nil]), ih h.2]
    simp [Content.cons]

/-- **What is read between quotes is the text just if its quotes stand apart.** -/
theorem quoted_doubledFrom_iff :
    (∃ n, quoted quote false (doubledFrom quote last s ++ [quote]) = some (s, n)) ↔
      quotesApartFrom quote last s = true := by
  refine ⟨fun ⟨n, hn⟩ => ?_, fun h => ⟨_, quoted_doubledFrom h (by simp)⟩⟩
  have hlength := quoted_length hn
  have hread := (quoted_closes hn).le_length
  have hle := Quoting.length_doubledFrom_le quote last s
  rw [List.length_append, List.length_singleton] at hread
  rw [← Quoting.length_doubledFrom_eq_iff]
  omega

end Quoted

namespace Lexer

open Quoting (doubledFrom quotesApart)

variable {d : Dialect} {c : Char} {t : Token}

/-- A double quote starts a name where names are quoted so. -/
theorem lexeme_name (hd : d.opensName '"' = true) (rest : List Char) :
    lexeme d '"' rest =
      match Quoted.quoted '"' false rest with
      | some (cs, n) => .ok (.word (String.ofList cs) (some '"'), n)
      | none => .error (.unclosedName '"', 0) := by
  cases d with
  | bigquery => cases hd
  | ansi | postgres | snowflake => rfl

/-- The first token of a text that is read to its end. -/
theorem Reads.head {cs : List Char} {ts : List Token} (h : Reads d (c :: cs) (t :: ts) []) :
    ∃ n, lexeme d c cs = .ok (t, n) := by
  obtain ⟨ls, p, hls, hscan⟩ := h .start
  have hnil : scan d p [] = .ok [] := by rw [scan]
  have hall : scan d .start (c :: cs) = .ok ls := by simpa [hnil, Except.map] using hscan
  obtain ⟨t', n, ls', hlexeme, -, rfl⟩ := scan_cons_eq_ok hall
  obtain ⟨rfl, -⟩ : t' = t ∧ _ := by simpa using hls
  exact ⟨n, hlexeme⟩

/-- A text with a fault behind what is read has no lexemes. -/
theorem Reads.lexemes_ne_ok {cs rest : List Char} {ts : List Token} {e : LexCause × Nat}
    {text : String} (h : Reads d cs ts (c :: rest)) (htext : text.toList = cs ++ c :: rest)
    (hlexeme : lexeme d c rest = .error e) (ls : List Lexeme) : Sql.lexemes d text ≠ .ok ls := by
  obtain ⟨ls', p, -, hscan⟩ := h .start
  simp [Sql.lexemes, htext, hscan, scan, hlexeme, Except.map]

end Lexer

/-- The written name is read as this name wherever no further quote follows. -/
def Ident.ReadsBack (d : Dialect) (i : Ident) : Prop :=
  ∀ rest : List Char, rest.head? ≠ i.quote → Lexer.Reads d i.sql.toList [.word i.text i.quote] rest

open Lexer Quoting in
/-- **A name in double quotes is read back just if its quotes stand apart.** -/
theorem Ident.readsBack_quoted_iff {d : Dialect} (hd : d.opensName '"' = true) (text : String) :
    (Ident.quoted text).ReadsBack d ↔ quotesApart '"' text = true := by
  have hsql : (Ident.quoted text).sql.toList =
      '"' :: (doubledFrom '"' '\x00' text.toList ++ ['"']) := by
    simp [Ident.sql, Ident.quoted, Quoting.inQuotes, Quoting.doubled]
  change (∀ rest : List Char, rest.head? ≠ some '"' →
    Reads d (Ident.quoted text).sql.toList [.word text (some '"')] rest) ↔ _
  rw [hsql]
  constructor
  · intro h
    obtain ⟨n, hlexeme⟩ := (h [] (by simp)).head
    rw [lexeme_name hd] at hlexeme
    refine Quoted.quoted_doubledFrom_iff.1 ⟨n, ?_⟩
    split at hlexeme
    · rename_i cs m hread
      obtain ⟨hcs, rfl⟩ : String.ofList cs = text ∧ m = n := by simpa using hlexeme
      rw [hread, ← hcs, String.toList_ofList]
    · cases hlexeme
  · intro h rest hrest
    refine .one ?_
    rw [lexeme_name hd, List.append_assoc, List.singleton_append,
      Quoted.quoted_doubledFrom h hrest]
    simp

end Sql
end QueryTemplate
