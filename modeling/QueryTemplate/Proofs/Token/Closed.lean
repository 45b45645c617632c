/-
# What a quote closes

The readers of quoted text stop right behind a closing quote.  What they find depends on the
characters up to there, and on whether one more quote follows: `Closes` says this of a text and
of the number of characters that were read.

| reader | closed by | looks one character further |
| --- | --- | --- |
| `quoted`, `escapedFrom`, `codePointsFrom` | a quote that stands alone | yes |
| `tripleQuotedFrom` | three quotes | no |
| `dollarQuoted`, `tagQuotedFrom` | the mark that opened it | no |

Each reader has one equation for each way to go on, and one theorem by induction on the text.
-/

import QueryTemplate.Sql.Token.Quoted

namespace QueryTemplate
namespace Sql
namespace Quoted

variable {quote c : Char} {escapes : Bool} {s s' cs read tag : List Char}
  {n m k run count fuel : Nat}

/-- `s'` starts with the same `n` characters as `s`, and a quote follows only if it does in
`s`. -/
structure Agrees (quote : Char) (n : Nat) (s s' : List Char) : Prop where
  take : s'.take n = s.take n
  next : s'[n]? = some quote → s[n]? = some quote

/-- A text that agrees on one more place starts with the same character and agrees on the rest. -/
theorem agrees_cons (h : Agrees quote (n + 1) (c :: s) s') :
    ∃ t, s' = c :: t ∧ Agrees quote n s t := by
  obtain ⟨htake, hnext⟩ := h
  cases s' with
  | nil => simp at htake
  | cons c' t =>
    rw [List.take_succ_cons, List.take_succ_cons, List.cons.injEq] at htake
    obtain ⟨rfl, htake⟩ := htake
    exact ⟨t, rfl, htake, hnext⟩

/-- A text that agrees past a word starts with that word and agrees on what follows it. -/
theorem agrees_append {w : List Char} (h : Agrees quote (n + w.length) (w ++ s) s') :
    ∃ t, s' = w ++ t ∧ Agrees quote n s t := by
  induction w generalizing s' with
  | nil => exact ⟨s', rfl, h⟩
  | cons c w ih =>
    obtain ⟨s', rfl, h'⟩ := agrees_cons h
    obtain ⟨t, rfl, ht⟩ := ih h'
    exact ⟨t, rfl, ht⟩

/-- Agreement on one place is agreement on the first character. -/
theorem Agrees.head (h : Agrees quote (n + 1) s s') : s'.head? = s.head? := by
  simpa [List.head?_take] using congrArg List.head? h.take

/-- The `n` characters that were read end in a quote, and the same is found in every text that
starts with them. -/
structure Closes (quote : Char) (s : List Char) (n : Nat) (found : List Char → Prop) : Prop where
  ends : ∃ m, n = m + 1 ∧ s[m]? = some quote
  found : ∀ {s'}, Agrees quote n s s' → found s'

namespace Closes

variable {found found' : List Char → Prop}

/-- A quote that ends the text whatever follows. -/
theorem stop (h : ∀ t, found (quote :: t)) : Closes quote (quote :: s) 1 found where
  ends := ⟨0, rfl, rfl⟩
  found hs' := by
    obtain ⟨t, rfl, -⟩ := agrees_cons hs'
    exact h t

/-- A quote that ends the text if no other one follows. -/
theorem alone (hs : s.head? ≠ some quote) (h : ∀ t, t.head? ≠ some quote → found (quote :: t)) :
    Closes quote (quote :: s) 1 found where
  ends := ⟨0, rfl, rfl⟩
  found hs' := by
    obtain ⟨t, rfl, -, hnext⟩ := agrees_cons hs'
    refine h t fun ht => hs ?_
    rw [List.head?_eq_getElem?] at ht ⊢
    exact hnext ht

/-- A word written in front of a closed reading is closed with it, by as many places more. -/
theorem append (h : Closes quote s n found) (w : List Char)
    (hstep : ∀ t, t.head? = s.head? → found t → found' (w ++ t)) :
    Closes quote (w ++ s) (n + w.length) found' := by
  obtain ⟨m, rfl, hm⟩ := h.ends
  refine ⟨⟨m + w.length, by omega, ?_⟩, fun {s'} hs' => ?_⟩
  · rw [List.getElem?_append_right (by omega), Nat.add_sub_cancel, hm]
  · obtain ⟨t, rfl, ht⟩ := agrees_append hs'
    exact hstep t ht.head (h.found ht)

/-- One character written in front of a closed reading is closed with it. -/
theorem cons (h : Closes quote s n found) (c : Char)
    (hstep : ∀ t, t.head? = s.head? → found t → found' (c :: t)) :
    Closes quote (c :: s) (n + 1) found' :=
  h.append [c] hstep

/-- Text in front of what was left after `m` characters. -/
theorem of_drop (h : Closes quote (s.drop m) n found)
    (hstep : ∀ t, t.head? = (s.drop m).head? → (s.take m).length = m → found t →
      found' (s.take m ++ t)) : Closes quote s (n + m) found' := by
  obtain ⟨j, -, hj⟩ := h.ends
  have hm : (s.take m).length = m := by
    have hlt := (List.getElem?_eq_some_iff.1 hj).1
    rw [List.length_drop] at hlt
    rw [List.length_take]
    omega
  have happend := h.append (s.take m) fun t hhead => hstep t hhead hm
  rwa [List.take_append_drop, hm] at happend

/-- A closed reading takes no more than the text has. -/
theorem le_length (h : Closes quote s n found) : n ≤ s.length := by
  obtain ⟨m, rfl, hm⟩ := h.ends
  exact (List.getElem?_eq_some_iff.1 hm).1

/-- Enough fuel is one more than there are characters. -/
theorem of_fuel {found : Nat → List Char → Prop}
    (h : Closes quote s n fun t => ∀ fuel, n ≤ fuel → found fuel t) :
    Closes quote s n fun t => found (t.length + 1) t where
  ends := h.ends
  found {s'} hs' := by
    have hlength := congrArg List.length hs'.take
    rw [List.length_take, List.length_take] at hlength
    have hle := h.le_length
    exact h.found hs' _ (by omega)

end Closes

/-- What reading one character before a content gives: the content is one character longer. -/
theorem map_cons_eq_some {o : Option Content} {c : Char} {k : Nat} :
    o.map (Content.cons c k) = some (cs, n) ↔
      ∃ cs' m, o = some (cs', m) ∧ c :: cs' = cs ∧ m + k = n := by
  rcases o with _ | ⟨cs', m⟩ <;> simp [Content.cons, and_assoc]

/-- A quoted text is closed by its quote: what stands after it changes nothing. -/
theorem quoted_closes (h : quoted quote escapes s = some (cs, n)) :
    Closes quote s n fun t => quoted quote escapes t = some (cs, n) := by
  induction s using quoted.induct quote escapes generalizing cs n with
  | case1 => cases h
  | case2 =>
    obtain ⟨rfl, rfl⟩ : cs = [] ∧ 1 = n := by simpa [quoted] using h
    refine .alone (by simp) fun t ht => ?_
    cases t <;> simp_all [quoted]
  | case3 c hc => simp [quoted, hc] at h
  | case4 rest ih =>
    rw [quoted, if_pos rfl, if_pos rfl, map_cons_eq_some] at h
    obtain ⟨cs', k, h', rfl, rfl⟩ := h
    exact (ih h').append [quote, quote] fun t _ ht => by simp [quoted, ht, Content.cons]
  | case5 d rest hd =>
    obtain ⟨rfl, rfl⟩ : cs = [] ∧ 1 = n := by simpa [quoted, hd] using h
    refine .alone (by simpa using hd) fun t ht => ?_
    cases t <;> simp_all [quoted]
  | case6 c d rest hc hesc ih =>
    rw [quoted, if_neg hc, if_pos hesc, map_cons_eq_some] at h
    obtain ⟨cs', k, h', rfl, rfl⟩ := h
    refine (ih h').append [c, d] fun t _ ht => ?_
    rw [List.cons_append, List.singleton_append, quoted, if_neg hc, if_pos hesc, ht]
    rfl
  | case7 c d rest hc hesc ih =>
    rw [quoted, if_neg hc, if_neg hesc, map_cons_eq_some] at h
    obtain ⟨cs', k, h', rfl, rfl⟩ := h
    refine (ih h').cons c fun t _ ht => ?_
    cases t with
    | nil => cases ht
    | cons d t => rw [quoted, if_neg hc, if_neg hesc, ht]; rfl

/-- From any place inside it, a text in three quotes is closed by its last quote. -/
theorem tripleQuotedFrom_closes
    (h : tripleQuotedFrom quote escapes read run count s = some (cs, n)) :
    ∃ k, n = count + k ∧ Closes quote s k fun t =>
      tripleQuotedFrom quote escapes read run count t = some (cs, n) := by
  induction read, run, count, s using tripleQuotedFrom.induct quote escapes generalizing cs n with
  | case1 => cases h
  | case2 read run count c hc =>
    obtain ⟨rfl, rfl⟩ := hc
    rw [tripleQuotedFrom, if_pos ⟨rfl, rfl⟩, Option.some.injEq] at h
    refine ⟨1, (congrArg Prod.snd h).symm, .stop fun t => ?_⟩
    cases t <;> simp [tripleQuotedFrom, h]
  | case3 read run count c hc => simp [tripleQuotedFrom, hc] at h
  | case4 read count d rest =>
    rw [tripleQuotedFrom, if_pos rfl, if_pos rfl, Option.some.injEq] at h
    refine ⟨1, (congrArg Prod.snd h).symm, .stop fun t => ?_⟩
    cases t <;> simp [tripleQuotedFrom, h]
  | case5 read run count d rest hrun ih =>
    rw [tripleQuotedFrom, if_pos rfl, if_neg hrun] at h
    obtain ⟨k, rfl, hk⟩ := ih h
    refine ⟨k + 1, by omega, hk.cons quote fun t _ ht => ?_⟩
    cases t with
    | nil => cases ht
    | cons d t => rw [tripleQuotedFrom, if_pos rfl, if_neg hrun, ht]
  | case6 read run count c d rest hc hesc ih =>
    rw [tripleQuotedFrom, if_neg hc, if_pos hesc] at h
    obtain ⟨k, rfl, hk⟩ := ih h
    refine ⟨k + 2, by omega, hk.append [c, d] fun t _ ht => ?_⟩
    rw [List.cons_append, List.singleton_append, tripleQuotedFrom, if_neg hc, if_pos hesc, ht]
  | case7 read run count c d rest hc hesc ih =>
    rw [tripleQuotedFrom, if_neg hc, if_neg hesc] at h
    obtain ⟨k, rfl, hk⟩ := ih h
    refine ⟨k + 1, by omega, hk.cons c fun t _ ht => ?_⟩
    cases t with
    | nil => cases ht
    | cons d t => rw [tripleQuotedFrom, if_neg hc, if_neg hesc, ht]

/-- A text in three quotes is closed. -/
theorem tripleQuoted_closes (h : tripleQuoted quote escapes s = some (cs, n)) :
    Closes quote s n fun t => tripleQuoted quote escapes t = some (cs, n) := by
  obtain ⟨k, rfl, hk⟩ := tripleQuotedFrom_closes h
  rwa [Nat.zero_add] at hk ⊢

/-- A text between `$$` and `$$` is closed. -/
theorem dollarQuoted_closes (h : dollarQuoted s = some (cs, n)) :
    Closes '$' s n fun t => dollarQuoted t = some (cs, n) := by
  induction s using dollarQuoted.induct generalizing cs n with
  | case1 => cases h
  | case2 => cases h
  | case3 rest =>
    rw [dollarQuoted, if_pos rfl, if_pos rfl, Option.some.injEq] at h
    cases h
    have hstop : Closes '$' ('$' :: rest) 1 fun t => t.head? = some '$' := .stop fun _ => rfl
    refine hstop.cons '$' fun t _ ht => ?_
    cases t with
    | nil => cases ht
    | cons d t => cases ht; rfl
  | case4 d rest hd ih =>
    rw [dollarQuoted, if_pos rfl, if_neg hd] at h
    obtain ⟨⟨cs', k⟩, h', heq⟩ := Option.map_eq_some_iff.1 h
    cases heq
    refine (ih h').append ['$', d] fun t _ ht => ?_
    simp [dollarQuoted, hd, ht]
  | case5 c d rest hc ih =>
    rw [dollarQuoted, if_neg hc, map_cons_eq_some] at h
    obtain ⟨cs', k, h', rfl, rfl⟩ := h
    refine (ih h').cons c fun t _ ht => ?_
    cases t with
    | nil => cases ht
    | cons d t => rw [dollarQuoted, if_neg hc, ht]; rfl

/-! ## Escaped strings -/

/-- A run of characters that ends inside a word does not see the text after it, only its first
character. -/
theorem take_takeWhile_append {P : Char → Bool} {w u t : List Char}
    (h : (((w ++ u).take k).takeWhile P).length = w.length) (ht : t.head? = u.head?) :
    ((w ++ t).take k).takeWhile P = ((w ++ u).take k).takeWhile P := by
  induction w generalizing k with
  | nil =>
    cases k with
    | zero => rfl
    | succ k =>
      cases t <;> cases u <;> simp_all [List.takeWhile_cons]
  | cons c w ih =>
    cases k with
    | zero => rfl
    | succ k =>
      simp only [List.cons_append, List.take_succ_cons, List.takeWhile_cons] at h ⊢
      split at h
      · rw [ih (by simpa using h)]
      · simp at h

/-- An escape takes at least one character. -/
theorem escape?_pos {e : Char} (h : escape? s = some (e, n)) : 0 < n := by
  cases s with
  | nil => cases h
  | cons c s =>
    simp only [escape?] at h
    split at h <;> try split at h
    all_goals simp [Prod.ext_iff] at h
    all_goals omega

theorem map_pair_eq_some {o : Option Char} {e : Char} :
    o.map (·, k) = some (e, n) ↔ o = some e ∧ k = n := by
  cases o <;> simp

/-- A code point of `k` digits is read from those digits alone. -/
theorem codePoint?_append {w u t : List Char} (h : k = w.length) :
    codePoint? k (w ++ t) = codePoint? k (w ++ u) := by
  simp [codePoint?, h]

/-- An escape is read from the characters it takes and the first one after them. -/
theorem escape?_append {w u t : List Char} {e : Char} (h : escape? (w ++ u) = some (e, m))
    (hm : w.length = m) (ht : t.head? = u.head?) : escape? (w ++ t) = some (e, m) := by
  subst hm
  cases w with
  | nil => exact absurd (escape?_pos h) (Nat.lt_irrefl 0)
  | cons c w =>
    simp only [List.cons_append, escape?] at h ⊢
    split at h
    case h_6 | h_7 =>
      have hlength := (map_pair_eq_some.1 h).2
      rwa [codePoint?_append (Nat.succ.inj hlength)]
    case h_8 =>
      have hlength : (((w ++ u).take 2).takeWhile isHexDigit).length = w.length := by
        split at h
        · simp_all
        · exact Nat.succ.inj (map_pair_eq_some.1 h).2
      rwa [take_takeWhile_append hlength ht]
    case h_9 =>
      split at h
      case isTrue hc =>
        rw [if_pos hc, take_takeWhile_append (Nat.succ.inj (map_pair_eq_some.1 h).2) ht, h]
      case isFalse hc => rwa [if_neg hc]
    all_goals exact h

/-- A pair of quotes in an escaped text stands for one quote. -/
theorem escapedFrom_quote_quote (fuel : Nat) (s : List Char) :
    escapedFrom (fuel + 1) ('\'' :: '\'' :: s) =
      (escapedFrom fuel s).map (Content.cons '\'' 2) :=
  rfl

/-- A quote that no quote follows ends an escaped text. -/
theorem escapedFrom_quote (fuel : Nat) (hs : s.head? ≠ some '\'') :
    escapedFrom (fuel + 1) ('\'' :: s) = some ([], 1) := by
  cases s <;> simp_all [escapedFrom]

/-- A backslash in an escaped text starts an escape, which may not stand for the null character. -/
theorem escapedFrom_backslash (fuel : Nat) (s : List Char) :
    escapedFrom (fuel + 1) ('\\' :: s) = (escape? s).bind fun (e, n) =>
      if e = '\x00' then none
      else (escapedFrom fuel (s.drop n)).map (Content.cons e (n + 1)) :=
  rfl

/-- Every other character of an escaped text stands for itself. -/
theorem escapedFrom_plain (fuel : Nat) (s : List Char) (hquote : c ≠ '\'') (hc : c ≠ '\\') :
    escapedFrom (fuel + 1) (c :: s) = (escapedFrom fuel s).map (Content.cons c 1) :=
  (if_neg hquote).trans (if_neg hc)

/-- From any place inside it, an escaped text is closed by its quote, with enough fuel. -/
theorem escapedFrom_closes (h : escapedFrom fuel s = some (cs, n)) :
    Closes '\'' s n fun t => ∀ fuel, n ≤ fuel → escapedFrom fuel t = some (cs, n) := by
  induction fuel, s using escapedFrom.induct generalizing cs n with
  | case1 => cases h
  | case2 fuel hfuel => cases fuel <;> cases h
  | case3 fuel rest ih =>
    rw [escapedFrom_quote_quote, map_cons_eq_some] at h
    obtain ⟨cs', k, h', rfl, rfl⟩ := h
    refine (ih h').append ['\'', '\''] fun t _ ht fuel hfuel => ?_
    obtain _ | fuel := fuel
    · omega
    · refine (escapedFrom_quote_quote fuel t).trans (map_cons_eq_some.2 ⟨cs', k, ?_, rfl, rfl⟩)
      exact ht fuel (by omega)
  | case4 fuel rest hrest =>
    have hhead : rest.head? ≠ some '\'' := by
      intro h
      obtain ⟨t, rfl⟩ := List.head?_eq_some_iff.1 h
      exact hrest t rfl
    rw [escapedFrom_quote fuel hhead] at h
    cases h
    refine .alone hhead fun t ht fuel hfuel => ?_
    obtain _ | fuel := fuel
    · omega
    · exact escapedFrom_quote fuel ht
  | case5 fuel rest _ ih =>
    rw [escapedFrom_backslash, Option.bind_eq_some_iff] at h
    obtain ⟨⟨e, m⟩, hescape, h⟩ := h
    obtain ⟨he, h⟩ := Option.ite_none_left_eq_some.1 h
    obtain ⟨cs', k, h', rfl, rfl⟩ := map_cons_eq_some.1 h
    refine ((ih m h').of_drop fun t hhead hm ht => ?_).cons '\\' fun _ _ ht => ht
    rintro (_ | fuel) hfuel
    · omega
    · have hescape' : escape? (rest.take m ++ t) = some (e, m) :=
        escape?_append (by rwa [List.take_append_drop]) hm hhead
      rw [escapedFrom_backslash, hescape', Option.bind_some]
      simp only [he, if_false]
      rw [List.drop_left' hm, ht fuel (by omega)]
      rfl
  | case6 fuel c rest hquote hbackslash ih =>
    rw [escapedFrom_plain _ _ hquote hbackslash, map_cons_eq_some] at h
    obtain ⟨cs', k, h', rfl, rfl⟩ := h
    refine (ih h').cons c fun t _ ht fuel hfuel => ?_
    obtain _ | fuel := fuel
    · omega
    · rw [escapedFrom_plain _ _ hquote hbackslash, ht fuel (by omega)]
      rfl

/-- An escaped text `E'…'` is closed. -/
theorem escaped_closes (h : escaped s = some (cs, n)) :
    Closes '\'' s n fun t => escaped t = some (cs, n) :=
  (escapedFrom_closes h).of_fuel

/-! ## Strings with code points -/

/-- A number of `w.length` hexadecimal digits is read from `w` alone. -/
theorem hexDigits_append (w t u : List Char) (count value : Nat) :
    hexDigits count value w.length (w ++ t) = hexDigits count value w.length (w ++ u) := by
  induction w generalizing count value with
  | nil => rfl
  | cons c w ih =>
    simp only [List.length_cons, List.cons_append, hexDigits]
    cases hexDigit? c with
    | none => rfl
    | some v => exact ih _ _

/-- A character of `k` hexadecimal digits is read from those digits alone. -/
theorem hexChar_append {w t u : List Char} (hk : w.length = k) :
    hexChar k (w ++ t) = hexChar k (w ++ u) := by
  rw [← hk, hexChar, hexChar, hexDigits_append w t u]

/-- What reading one code point before a content gives, with its fault places shifted. -/
theorem after_map_eq_ok {o : Except (CodePointFault × Nat) Content} :
    after m (o.map (Content.cons c k)) = .ok (cs, n) ↔
      ∃ cs' j, o = .ok (cs', j) ∧ c :: cs' = cs ∧ j + k = n := by
  rcases o with _ | ⟨cs', j⟩ <;> simp [after, Except.map, Content.cons, and_assoc]

/-- A pair of quotes among code points stands for one quote. -/
theorem codePointsFrom_quote_quote (fuel : Nat) (s : List Char) :
    codePointsFrom (fuel + 1) ('\'' :: '\'' :: s) =
      after 2 ((codePointsFrom fuel s).map (Content.cons '\'' 2)) :=
  rfl

/-- A quote that no quote follows ends a text of code points. -/
theorem codePointsFrom_quote (fuel : Nat) (hs : s.head? ≠ some '\'') :
    codePointsFrom (fuel + 1) ('\'' :: s) = .ok ([], 1) := by
  cases s <;> simp_all [codePointsFrom]

/-- A pair of backslashes among code points stands for one backslash. -/
theorem codePointsFrom_backslash (fuel : Nat) (s : List Char) :
    codePointsFrom (fuel + 1) ('\\' :: '\\' :: s) =
      after 2 ((codePointsFrom fuel s).map (Content.cons '\\' 2)) :=
  rfl

/-- A backslash and a plus start a code point of six digits. -/
theorem codePointsFrom_long {e : Char} (fuel : Nat) (h : hexChar 6 s = .ok e) :
    codePointsFrom (fuel + 1) ('\\' :: '+' :: s) =
      after 8 ((codePointsFrom fuel (s.drop 6)).map (Content.cons e 8)) := by
  rw [codePointsFrom.eq_def]
  simp [h]

/-- A backslash and neither of these starts a code point of four digits. -/
theorem codePointsFrom_short {e : Char} (fuel : Nat) (h : hexChar 4 s = .ok e) :
    codePointsFrom (fuel + 1) ('\\' :: s) =
      after 5 ((codePointsFrom fuel (s.drop 4)).map (Content.cons e 5)) := by
  cases s with
  | nil => cases h
  | cons c s =>
    have hc : ∀ x ∈ ['\\', '+'], c ≠ x := by
      rintro x hx rfl
      simp at hx
      rcases hx with rfl | rfl <;> cases h
    simp [codePointsFrom, h, hc]

/-- Every other character among code points stands for itself. -/
theorem codePointsFrom_plain (fuel : Nat) (s : List Char) (hquote : c ≠ '\'') (hc : c ≠ '\\') :
    codePointsFrom (fuel + 1) (c :: s) =
      after 1 ((codePointsFrom fuel s).map (Content.cons c 1)) :=
  (if_neg hquote).trans (if_neg hc)

/-- From any place inside it, a text of code points is closed by its quote, with enough fuel. -/
theorem codePointsFrom_closes (h : codePointsFrom fuel s = .ok (cs, n)) :
    Closes '\'' s n fun t => ∀ fuel, n ≤ fuel → codePointsFrom fuel t = .ok (cs, n) := by
  induction fuel, s using codePointsFrom.induct generalizing cs n with
  | case1 => cases h
  | case2 fuel hfuel => cases fuel <;> cases h
  | case3 fuel rest ih =>
    rw [codePointsFrom_quote_quote, after_map_eq_ok] at h
    obtain ⟨cs', k, h', rfl, rfl⟩ := h
    refine (ih 2 h').append ['\'', '\''] ?_
    rintro t - ht (_ | fuel) hfuel
    · omega
    · exact (codePointsFrom_quote_quote fuel t).trans
        (after_map_eq_ok.2 ⟨_, _, ht fuel (by omega), rfl, rfl⟩)
  | case4 fuel rest hrest =>
    have hhead : rest.head? ≠ some '\'' := by
      intro h
      obtain ⟨t, rfl⟩ := List.head?_eq_some_iff.1 h
      exact hrest t rfl
    rw [codePointsFrom_quote fuel hhead] at h
    cases h
    refine .alone hhead ?_
    rintro t ht (_ | fuel) hfuel
    · omega
    · exact codePointsFrom_quote fuel ht
  | case5 fuel rest _ ih =>
    rw [codePointsFrom_backslash, after_map_eq_ok] at h
    obtain ⟨cs', k, h', rfl, rfl⟩ := h
    refine (ih 2 h').append ['\\', '\\'] ?_
    rintro t - ht (_ | fuel) hfuel
    · omega
    · exact (codePointsFrom_backslash fuel t).trans
        (after_map_eq_ok.2 ⟨_, _, ht fuel (by omega), rfl, rfl⟩)
  | case6 fuel digits e hhex _ ih =>
    rw [codePointsFrom_long fuel hhex, after_map_eq_ok] at h
    obtain ⟨cs', k, h', rfl, rfl⟩ := h
    refine ((ih 8 h').of_drop (m := 6) fun t _ hm ht => ?_).append ['\\', '+'] fun _ _ ht => ht
    rintro (_ | fuel) hfuel
    · omega
    · have hhex' : hexChar 6 (digits.take 6 ++ t) = .ok e := by
        rwa [hexChar_append hm (u := digits.drop 6), List.take_append_drop]
      refine (codePointsFrom_long fuel hhex').trans ?_
      rw [List.drop_left' hm, ht fuel (by omega)]
      rfl
  | case7 fuel digits e m hhex _ ih => simp [codePointsFrom, hhex] at h
  | case8 fuel digits _ _ e hhex _ ih =>
    rw [codePointsFrom_short fuel hhex, after_map_eq_ok] at h
    obtain ⟨cs', k, h', rfl, rfl⟩ := h
    refine ((ih 5 h').of_drop (m := 4) fun t _ hm ht => ?_).cons '\\' fun _ _ ht => ht
    rintro (_ | fuel) hfuel
    · omega
    · have hhex' : hexChar 4 (digits.take 4 ++ t) = .ok e := by
        rwa [hexChar_append hm (u := digits.drop 4), List.take_append_drop]
      refine (codePointsFrom_short fuel hhex').trans ?_
      rw [List.drop_left' hm, ht fuel (by omega)]
      rfl
  | case9 fuel digits hbackslash hplus e m hhex _ ih =>
    rcases digits with _ | ⟨c, digits⟩ <;> simp_all [codePointsFrom]
  | case10 fuel c rest hquote hbackslash ih =>
    rw [codePointsFrom_plain _ _ hquote hbackslash, after_map_eq_ok] at h
    obtain ⟨cs', k, h', rfl, rfl⟩ := h
    refine (ih 1 h').cons c ?_
    rintro t - ht (_ | fuel) hfuel
    · omega
    · rw [codePointsFrom_plain _ _ hquote hbackslash, ht fuel (by omega)]
      rfl

/-- A text of code points `U&'…'` is closed. -/
theorem codePoints_closes (h : codePoints s = .ok (cs, n)) :
    Closes '\'' s n fun t => codePoints t = .ok (cs, n) :=
  (codePointsFrom_closes h).of_fuel

/-! ## Dollar-quoted strings with a tag -/

/-- What a text shares with a tag is no longer than either. -/
theorem agreement_le (tag s : List Char) :
    agreement tag s ≤ tag.length ∧ agreement tag s ≤ s.length := by
  induction tag generalizing s with
  | nil => simp [agreement]
  | cons x tag ih =>
    cases s with
    | nil => simp [agreement]
    | cons c s =>
      have := ih s
      rw [agreement]
      split <;> simp_all

/-- Where text and tag differ, or the tag ends, does not depend on what follows. -/
theorem agreement_append {w u : List Char} (t : List Char)
    (h : agreement tag (w ++ u) < w.length ∨ w.length = tag.length) :
    agreement tag (w ++ t) = agreement tag (w ++ u) := by
  induction w generalizing tag with
  | nil => cases tag <;> simp_all [agreement]
  | cons c w ih =>
    cases tag with
    | nil => rfl
    | cons x tag =>
      simp only [List.cons_append, agreement] at h ⊢
      by_cases hx : x = c
      · rw [if_pos hx, if_pos hx, ih (by simpa [hx] using h)]
      · rw [if_neg hx, if_neg hx]

/-- What a text shares with a tag is settled by the first `k` characters once they differ or the tag
ends. -/
theorem agreement_take (t : List Char) (hk : k ≤ s.length)
    (h : agreement tag s < k ∨ k = tag.length) :
    agreement tag (s.take k ++ t) = agreement tag s := by
  have hw : (s.take k).length = k := List.length_take_of_le hk
  have hs := List.take_append_drop k s
  refine (agreement_append (u := s.drop k) t ?_).trans (by rw [hs])
  rwa [hs, hw]

/-- Behind a dollar sign, the text is compared with the tag. -/
theorem tagQuotedFrom_dollar (fuel : Nat) (s : List Char) :
    tagQuotedFrom tag (fuel + 1) ('$' :: s) =
      let keep (m : Nat) : Option Content :=
        (tagQuotedFrom tag fuel (s.drop m)).map fun r => ('$' :: s.take m ++ r.1, r.2 + m + 1)
      if agreement tag s < tag.length then
        if s.length ≤ agreement tag s then none else keep (agreement tag s + 1)
      else if s[agreement tag s]? = some '$' then some ([], agreement tag s + 2)
      else keep (agreement tag s) :=
  rfl

/-- What was compared with the tag is content if it differs. -/
theorem tagQuotedFrom_differs {w t : List Char} (fuel : Nat)
    (hw : agreement tag (w ++ t) + 1 = w.length) (htag : w.length ≤ tag.length) :
    tagQuotedFrom tag (fuel + 1) ('$' :: (w ++ t)) =
      (tagQuotedFrom tag fuel t).map fun r => ('$' :: w ++ r.1, r.2 + w.length + 1) := by
  have hlt : agreement tag (w ++ t) < tag.length := by omega
  have hlength : ¬(w ++ t).length ≤ agreement tag (w ++ t) := by
    rw [List.length_append]
    omega
  simp only [tagQuotedFrom_dollar, if_pos hlt, if_neg hlength, hw, List.drop_left, List.take_left]

/-- A tag is content if no dollar sign follows. -/
theorem tagQuotedFrom_open {w t : List Char} (fuel : Nat)
    (hw : agreement tag (w ++ t) = w.length) (htag : w.length = tag.length)
    (ht : t.head? ≠ some '$') :
    tagQuotedFrom tag (fuel + 1) ('$' :: (w ++ t)) =
      (tagQuotedFrom tag fuel t).map fun r => ('$' :: w ++ r.1, r.2 + w.length + 1) := by
  have hlt : ¬w.length < tag.length := by omega
  have hnext : (w ++ t)[w.length]? ≠ some '$' := by
    rwa [List.getElem?_append_right (Nat.le_refl _), Nat.sub_self, ← List.head?_eq_getElem?]
  simp only [tagQuotedFrom_dollar, hw, if_neg hlt, if_neg hnext, List.drop_left, List.take_left]

/-- A tag ends the text if a dollar sign follows. -/
theorem tagQuotedFrom_end {w t : List Char} (fuel : Nat)
    (hw : agreement tag (w ++ '$' :: t) = w.length) (htag : w.length = tag.length) :
    tagQuotedFrom tag (fuel + 1) ('$' :: (w ++ '$' :: t)) = some ([], w.length + 2) := by
  have hlt : ¬w.length < tag.length := by omega
  simp [tagQuotedFrom_dollar, hw, hlt]

/-- The tag between two dollar signs ends a text in tags, and is closed by its second dollar sign.
-/
theorem tagQuotedFrom_end_closes {w : List Char} (u : List Char)
    (hw : ∀ t, agreement tag (w ++ '$' :: t) = w.length) (htag : w.length = tag.length) :
    Closes '$' ('$' :: (w ++ '$' :: u)) (w.length + 2) fun t =>
      ∀ fuel, w.length + 2 ≤ fuel → tagQuotedFrom tag fuel t = some ([], w.length + 2) := by
  have hstop : Closes '$' ('$' :: u) 1 fun t => ∃ u, t = '$' :: u := .stop fun t => ⟨t, rfl⟩
  have hcount : w.length + 2 = 1 + ('$' :: w).length := by
    rw [List.length_cons]
    omega
  rw [hcount]
  refine hstop.append ('$' :: w) ?_
  rintro _ - ⟨t, rfl⟩ (_ | fuel) hfuel
  · omega
  · exact (tagQuotedFrom_end fuel (hw t) htag).trans (by rw [hcount])

/-- A character that is no dollar sign stands for itself in a text in tags. -/
theorem tagQuotedFrom_plain (fuel : Nat) (s : List Char) (hc : c ≠ '$') :
    tagQuotedFrom tag (fuel + 1) (c :: s) = (tagQuotedFrom tag fuel s).map (Content.cons c 1) :=
  if_pos hc

/-- From any place inside it, a text in tags is closed by its last dollar sign, with enough fuel. -/
theorem tagQuotedFrom_closes (h : tagQuotedFrom tag fuel s = some (cs, n)) :
    Closes '$' s n fun t => ∀ fuel, n ≤ fuel → tagQuotedFrom tag fuel t = some (cs, n) := by
  induction fuel generalizing s cs n with
  | zero => cases h
  | succ fuel ih =>
    rcases s with _ | ⟨c, s⟩
    · cases h
    by_cases hc : c = '$'
    case neg =>
      rw [tagQuotedFrom_plain _ _ hc, map_cons_eq_some] at h
      obtain ⟨cs', k, h', rfl, rfl⟩ := h
      refine (ih h').cons c ?_
      rintro t - ht (_ | fuel) hfuel
      · omega
      · rw [tagQuotedFrom_plain _ _ hc, ht fuel (by omega)]
        rfl
    subst hc
    -- What is kept after a dollar sign, up to a place that the tag decides.
    have hkeep (w u : List Char) (hs : w ++ u = s)
        (hstep : ∀ fuel t, t.head? = u.head? → tagQuotedFrom tag (fuel + 1) ('$' :: (w ++ t)) =
          (tagQuotedFrom tag fuel t).map fun r => ('$' :: w ++ r.1, r.2 + w.length + 1)) :
        Closes '$' ('$' :: s) n fun t =>
          ∀ fuel, n ≤ fuel → tagQuotedFrom tag fuel t = some (cs, n) := by
      subst hs
      rw [hstep fuel u rfl, Option.map_eq_some_iff] at h
      obtain ⟨⟨cs', k⟩, h', heq⟩ := h
      cases heq
      refine (ih h').append ('$' :: w) ?_
      rintro t hhead ht (_ | fuel) hfuel
      · omega
      · exact (hstep fuel t hhead).trans (by rw [ht fuel (by omega)]; rfl)
    obtain ⟨htag, hlength⟩ := agreement_le tag s
    rcases Nat.lt_or_ge (agreement tag s) tag.length with hlt | hge
    · rcases Nat.lt_or_ge (agreement tag s) s.length with hlt' | hge'
      · have hw : (s.take (agreement tag s + 1)).length = agreement tag s + 1 :=
          List.length_take_of_le hlt'
        refine hkeep _ _ (List.take_append_drop (agreement tag s + 1) s) fun fuel t _ => ?_
        refine tagQuotedFrom_differs fuel ?_ (by omega)
        rw [agreement_take t hlt' (.inl (Nat.lt_succ_self _)), hw]
      · simp [tagQuotedFrom_dollar, hlt, hge'] at h
    · have heq : agreement tag s = tag.length := Nat.le_antisymm htag hge
      have hw := List.length_take_of_le hlength
      have hs := List.take_append_drop (agreement tag s) s
      by_cases hnext : s[agreement tag s]? = some '$'
      · obtain ⟨u, hu⟩ : ∃ u, s.drop (agreement tag s) = '$' :: u := by
          rw [← List.head?_eq_some_iff, List.head?_drop, hnext]
        rw [hu] at hs
        have hagree (t : List Char) : agreement tag (s.take (agreement tag s) ++ '$' :: t) =
            (s.take (agreement tag s)).length := by
          rw [agreement_take _ hlength (.inr heq), hw]
        rw [← hs, tagQuotedFrom_end fuel (hagree u) (hw.trans heq)] at h
        cases h
        have hclose := tagQuotedFrom_end_closes u hagree (hw.trans heq)
        rwa [hs] at hclose
      · refine hkeep _ _ hs fun fuel t ht => ?_
        refine tagQuotedFrom_open fuel ?_ (hw.trans heq) ?_
        · rw [agreement_take t hlength (.inr heq), hw]
        · rwa [ht, List.head?_drop]

/-- A text between `$tag$` and `$tag$` is closed. -/
theorem tagQuoted_closes (h : tagQuoted tag s = some (cs, n)) :
    Closes '$' s n fun t => tagQuoted tag t = some (cs, n) :=
  (tagQuotedFrom_closes h).of_fuel

end Quoted
end Sql
end QueryTemplate
