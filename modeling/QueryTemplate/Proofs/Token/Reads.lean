/-
# Text read piece by piece

A piece of text is read as certain tokens *before* some rest when the scanner, from any
place, finds these tokens first and then goes on with the rest (`Reads`).  Pieces that are
read one before the other are read together (`Reads.append`).  What follows a piece matters:
`AND` is one word before a blank, but not before a letter.
-/

import QueryTemplate.Sql.Token.Lexer
import QueryTemplate.Value.Name

namespace QueryTemplate
namespace Sql
namespace Lexer

variable {d : Dialect} {p : Text.Position} {c : Char} {cs cs' rest : List Char} {t : Token}
  {ts ts' : List Token}

/-- One lexeme is taken off, and the scan goes on behind it. -/
theorem scan_cons {n : Nat} (h : lexeme d c cs = .ok (t, n)) :
    scan d p (c :: cs) =
      (scan d (p.after (c :: cs.take n)) (cs.drop n)).map
        (⟨t, p, p.after (c :: cs.take n)⟩ :: ·) := by
  rw [scan, h]

/-- A text that has lexemes begins with one, and what is behind it has the others. -/
theorem scan_cons_eq_ok {ls : List Lexeme} (h : scan d p (c :: cs) = .ok ls) :
    ∃ t n ls', lexeme d c cs = .ok (t, n) ∧
      scan d (p.after (c :: cs.take n)) (cs.drop n) = .ok ls' ∧
      ls = ⟨t, p, p.after (c :: cs.take n)⟩ :: ls' := by
  rw [scan] at h
  split at h
  case h_1 => cases h
  case h_2 t n hlexeme =>
    cases hrest : scan d (p.after (c :: cs.take n)) (cs.drop n) with
    | error e => simp [hrest, Except.map] at h
    | ok ls' =>
      simp only [hrest, Except.map, Except.ok.injEq] at h
      exact ⟨t, n, ls', hlexeme, hrest, h.symm⟩

/-- From any place, `cs` is read as `tokens` when `rest` follows. -/
def Reads (d : Dialect) (cs : List Char) (tokens : List Token) (rest : List Char) : Prop :=
  ∀ p, ∃ ls p', ls.map Lexeme.token = tokens ∧
    scan d p (cs ++ rest) = (scan d p' rest).map (ls ++ ·)

namespace Reads

/-- No text is read as no tokens. -/
theorem nil (d : Dialect) (rest : List Char) : Reads d [] [] rest := by
  refine fun p => ⟨[], p, rfl, ?_⟩
  rw [List.nil_append]
  cases scan d p rest <;> rfl

/-- One lexeme. -/
theorem one (h : lexeme d c (cs ++ rest) = .ok (t, cs.length)) : Reads d (c :: cs) [t] rest := by
  intro p
  refine ⟨[⟨t, p, p.after (c :: cs)⟩], p.after (c :: cs), rfl, ?_⟩
  rw [List.cons_append, scan_cons h, List.take_left, List.drop_left]
  rfl

/-- **Pieces are read one after the other.** -/
theorem append (h : Reads d cs ts (cs' ++ rest)) (h' : Reads d cs' ts' rest) :
    Reads d (cs ++ cs') (ts ++ ts') rest := by
  intro p
  obtain ⟨ls, q, hls, hscan⟩ := h p
  obtain ⟨ls', q', hls', hscan'⟩ := h' q
  refine ⟨ls ++ ls', q', by rw [List.map_append, hls, hls'], ?_⟩
  rw [List.append_assoc, hscan, hscan']
  cases scan d q' rest with
  | error e => rfl
  | ok found => simp [Except.map]

/-- A text that is read to its end has lexemes. -/
theorem lexemes {text : String} (h : Reads d text.toList ts []) :
    ∃ ls, ls.map Lexeme.token = ts ∧ Sql.lexemes d text = .ok ls := by
  obtain ⟨ls, q, hls, hscan⟩ := h .start
  refine ⟨ls, hls, ?_⟩
  rw [List.append_nil] at hscan
  simpa [Sql.lexemes, scan, Except.map] using hscan

end Reads

/-! ## Words -/

open Value (isWordChar isPlainName)

/-- A word character that is no digit starts a word. -/
theorem startsWord_of_isWordChar (hc : isWordChar c = true) (hd : c.isDigit = false) :
    d.startsWord c = true := by
  rw [isWordChar, Char.isAlphanum, hd, Bool.or_false, Bool.or_eq_true] at hc
  rcases hc with h | h <;> cases d <;> simp [Dialect.startsWord, Text.isAlphabetic, h]

/-- A word character continues a word. -/
theorem continuesWord_of_isWordChar (hc : isWordChar c = true) : d.continuesWord c = true := by
  rw [isWordChar, Char.isAlphanum, Bool.or_eq_true, Bool.or_eq_true] at hc
  rcases hc with (h | h) | h <;> cases d <;> simp [Dialect.continuesWord, Text.isAlphabetic, h]

/-- No symbol starts with a word character. -/
theorem longestSymbol?_of_isWordChar (hc : isWordChar c = true) :
    longestSymbol? d (c :: rest) = none := by
  have hall : symbols.all (fun s => s.toList.head?.all fun x => !isWordChar x) = true := by decide
  have hne : ∀ s ∈ symbols, s.toList ≠ [] := by decide
  rw [longestSymbol?, List.find?_eq_none]
  intro s hs hfound
  rw [Bool.and_eq_true] at hfound
  cases hchars : s.toList with
  | nil => exact hne s hs hchars
  | cons x xs =>
    rw [hchars, List.isPrefixOf_cons_cons, Bool.and_eq_true, beq_iff_eq] at hfound
    have hx : isWordChar x = false := by
      simpa [hchars] using List.all_eq_true.1 hall s hs
    rw [hfound.2.1, hc] at hx
    cases hx

/-- Without a quote or an ampersand behind it, a character marks no string. -/
theorem markedString?_eq_none (h : ∀ x ∈ rest.head?, x ≠ '\'' ∧ x ≠ '"' ∧ x ≠ '&') :
    markedString? d c rest = none := by
  unfold markedString?
  split <;> simp_all

/-- No comment starts with a word character. -/
theorem comment?_eq_none (hc : isWordChar c = true) : comment? d (c :: rest) = none := by
  unfold comment?
  split <;> simp_all [isWordChar]

/-- A word character is no sign. -/
theorem signWord?_eq_none (hc : isWordChar c = true) : signWord? d (c :: rest) = none := by
  unfold signWord?
  split <;> simp_all [isWordChar]

/-- A word is read up to the first character that does not continue it. -/
theorem word_eq (hcs : cs.all isWordChar = true)
    (hrest : ∀ x ∈ rest.head?, d.continuesWord x = false) :
    word d [c] (cs ++ rest) = (.word (String.ofList (c :: cs)) none, cs.length) := by
  have htake : (cs ++ rest).takeWhile d.continuesWord = cs := by
    rw [List.takeWhile_append_of_pos]
    · cases rest with
      | nil => simp
      | cons x rest => simp [hrest x (by simp)]
    · intro x hx
      exact continuesWord_of_isWordChar (List.all_eq_true.1 hcs x hx)
  simp [word, htake]

/-- **A plain name is one lexeme** where neither a mark nor a longer word can be meant. -/
theorem lexeme_word (h : isPlainName (c :: cs) = true)
    (hrest : ∀ x ∈ rest.head?, d.continuesWord x = false)
    (hmark : ∀ x ∈ (cs ++ rest).head?, x ≠ '\'' ∧ x ≠ '"' ∧ x ≠ '&') :
    lexeme d c (cs ++ rest) = .ok (.word (String.ofList (c :: cs)) none, cs.length) := by
  rw [isPlainName, List.all_cons, Bool.and_eq_true, Bool.and_eq_true, Bool.not_eq_true'] at h
  obtain ⟨hdigit, hc, hcs⟩ := h
  have hother : ∀ x ∈ [' ', '\t', '\n', '\r', '\'', '"', '\u0060', '.', '?'], c ≠ x := by
    have hplain : [' ', '\t', '\n', '\r', '\'', '"', '\u0060', '.', '?'].all
        (fun x => !isWordChar x) = true := by
      decide
    rintro x hx rfl
    simpa [hc] using List.all_eq_true.1 hplain c hx
  have hname : d.opensName c = false := by
    cases d <;> simp [Dialect.opensName, hother]
  unfold lexeme
  split
  all_goals try (simp at hother; done)
  simp [markedString?_eq_none hmark, hother, hdigit, hname, comment?_eq_none hc,
    signWord?_eq_none hc, longestSymbol?_of_isWordChar hc, startsWord_of_isWordChar hc hdigit,
    word_eq hcs hrest]

/-- A piece ends where nothing follows, or a blank, a comma or a closing parenthesis does. -/
def Breaks (rest : List Char) : Prop := ∀ x ∈ rest.head?, x = ' ' ∨ x = ',' ∨ x = ')'

/-- The end of the text breaks off a word. -/
@[simp] theorem breaks_nil : Breaks [] := by simp [Breaks]

/-- A blank breaks off a word. -/
@[simp] theorem breaks_blank : Breaks (' ' :: rest) := by simp [Breaks]

/-- A comma breaks off a word. -/
@[simp] theorem breaks_comma : Breaks (',' :: rest) := by simp [Breaks]

/-- A closing parenthesis breaks off a word. -/
@[simp] theorem breaks_close : Breaks (')' :: rest) := by simp [Breaks]

/-- A plain name is read as one word where what follows can neither go on with it nor be
marked by it. -/
theorem reads_word_of {name : String} (h : isPlainName name.toList = true)
    (hrest : ∀ x ∈ rest.head?, d.continuesWord x = false ∧ x ≠ '\'' ∧ x ≠ '"' ∧ x ≠ '&') :
    Reads d name.toList [.word name none] rest := by
  have hname : name = String.ofList name.toList := by simp
  generalize name.toList = cs at h hname
  subst hname
  have hplain : ∀ x, isWordChar x = true → x ≠ '\'' ∧ x ≠ '"' ∧ x ≠ '&' := by
    refine fun x hx => ⟨?_, ?_, ?_⟩ <;> rintro rfl <;> simp [isWordChar] at hx
  cases cs with
  | nil => simp [isPlainName] at h
  | cons c cs =>
    refine .one (lexeme_word h (fun x hx => (hrest x hx).1) ?_)
    rw [isPlainName, List.all_cons, Bool.and_eq_true, Bool.and_eq_true] at h
    cases cs with
    | nil => exact fun x hx => (hrest x hx).2
    | cons x cs => simpa using hplain x (List.all_eq_true.1 h.2.2 x (by simp))

/-- **A plain name is read as one word** where it ends. -/
theorem reads_word {name : String} (h : isPlainName name.toList = true) (hrest : Breaks rest) :
    Reads d name.toList [.word name none] rest := by
  refine reads_word_of h fun x hx => ?_
  rcases hrest x hx with rfl | rfl | rfl <;> cases d <;> decide

/-! ## Fixed pieces -/

/-- A blank is read as one. -/
theorem reads_blank : Reads d [' '] [.space] rest := .one rfl

/-- Symbols that no character behind them belongs to. -/
theorem lexeme_delimiter {s : String}
    (hc : (c, s) ∈ [('(', "("), (')', ")"), (',', ","), ('+', "+")]) :
    lexeme d c rest = .ok (.symbol s, 0) := by
  simp only [List.mem_cons, List.not_mem_nil, or_false, Prod.mk.injEq] at hc
  have hsymbol : longestSymbol? d (c :: rest) = some s := by
    rcases hc with ⟨rfl, rfl⟩ | ⟨rfl, rfl⟩ | ⟨rfl, rfl⟩ | ⟨rfl, rfl⟩ <;> cases d <;> rfl
  have hname : d.opensName c = false := by
    rcases hc with ⟨rfl, -⟩ | ⟨rfl, -⟩ | ⟨rfl, -⟩ | ⟨rfl, -⟩ <;> cases d <;> rfl
  rcases hc with ⟨rfl, rfl⟩ | ⟨rfl, rfl⟩ | ⟨rfl, rfl⟩ | ⟨rfl, rfl⟩
  all_goals
    simp [lexeme, markedString?, hname, comment?, signWord?, hsymbol, symbol, extensible,
      symbolToken]

/-- An opening parenthesis is read as one. -/
theorem reads_open : Reads d ['('] [.symbol "("] rest := .one (lexeme_delimiter (by simp))

/-- A closing parenthesis is read as one. -/
theorem reads_close : Reads d [')'] [.symbol ")"] rest := .one (lexeme_delimiter (by simp))

/-- A comma is read as one. -/
theorem reads_comma : Reads d [','] [.symbol ","] rest := .one (lexeme_delimiter (by simp))

/-- A word between two blanks. -/
theorem reads_between {name : String} (h : isPlainName name.toList = true) :
    Reads d (" " ++ name ++ " ").toList [.space, .word name none, .space] rest := by
  rw [String.toList_append, String.toList_append, List.append_assoc]
  exact reads_blank.append ((reads_word h breaks_blank).append reads_blank)

/-- What stands before tables that are read on their own. -/
theorem reads_from : Reads d "SELECT * FROM ".toList
    [.word "SELECT" none, .space, .symbol "*", .space, .word "FROM" none, .space] rest := by
  have hselect : ∀ rest, Reads d "SELECT".toList [.word "SELECT" none] (' ' :: rest) :=
    fun _ => reads_word rfl breaks_blank
  have hstar : ∀ rest, Reads d ['*'] [.symbol "*"] (' ' :: rest) :=
    fun _ => .one (by cases d <;> rfl)
  have hfrom : Reads d " FROM ".toList [.space, .word "FROM" none, .space] rest :=
    reads_between rfl
  exact (hselect _).append <| reads_blank.append <| (hstar _).append hfrom

/-- What stands before a condition that is read on its own. -/
theorem reads_where : Reads d "SELECT * FROM T WHERE ".toList
    [.word "SELECT" none, .space, .symbol "*", .space, .word "FROM" none, .space, .word "T" none,
      .space, .word "WHERE" none, .space] rest := by
  have htable : ∀ rest, Reads d "T".toList [.word "T" none] (' ' :: rest) :=
    fun _ => reads_word rfl breaks_blank
  have hwhere : Reads d " WHERE ".toList [.space, .word "WHERE" none, .space] rest :=
    reads_between rfl
  exact reads_from.append <| (htable _).append hwhere

end Lexer
end Sql
end QueryTemplate
