/-
# Text with its operators respelled

`escapeOperators` replaces two pairs of characters, one after the other.  That is the same as
respelling both at once, from left to right (`escapeOperators_eq`).

| pair | respelled |
| --- | --- |
| `<>` | `!=` |
| `@@` | `<>` |

A lexeme looks at what stands behind it.  Where that is respelled the lexeme is read as before
(`lexeme_respelled`), unless it is an exclamation mark before `<>` or an at-sign before another.
-/

import QueryTemplate.Proofs.Token.Form
import QueryTemplate.Value

namespace QueryTemplate

/-- A text with both pairs respelled, in one pass. -/
def respelled : List Char → List Char
  | '<' :: '>' :: rest => '!' :: '=' :: respelled rest
  | '@' :: '@' :: rest => '<' :: '>' :: respelled rest
  | c :: rest => c :: respelled rest
  | [] => []

open Sql.Quoted (Alike Turns NoSign signs)

variable {a b c x : Char} {new cs s u w : List Char}

/-- Where no pair stands, the character is kept. -/
theorem respelled_cons (h : ¬['<', '>'] <+: c :: s) (h' : ¬['@', '@'] <+: c :: s) :
    respelled (c :: s) = c :: respelled s := by
  rw [respelled.eq_def]
  split
  case h_1 rest heq => exact absurd ⟨rest, heq.symm⟩ h
  case h_2 rest heq => exact absurd ⟨rest, heq.symm⟩ h'
  case h_3 heq => rw [(List.cons.inj heq).1, (List.cons.inj heq).2]
  case h_4 heq => cases heq

/-- A text begins with one of the pairs, with another character, or is empty. -/
@[elab_as_elim]
theorem respelled_induction {motive : List Char → Prop} (s : List Char)
    (notEqual : ∀ rest, motive rest → motive ('<' :: '>' :: rest))
    (atSigns : ∀ rest, motive rest → motive ('@' :: '@' :: rest))
    (other : ∀ c rest, ¬['<', '>'] <+: c :: rest → ¬['@', '@'] <+: c :: rest → motive rest →
      motive (c :: rest))
    (nil : motive []) : motive s := by
  induction s using respelled.induct with
  | case1 rest ih => exact notEqual rest ih
  | case2 rest ih => exact atSigns rest ih
  | case3 c rest h h' ih =>
    refine other c rest ?_ ?_ ih
    · rintro ⟨r, hr⟩
      cases hr
      exact h r rfl rfl
    · rintro ⟨r, hr⟩
      cases hr
      exact h' r rfl rfl
  | case4 => exact nil

/-! ## Two passes -/

namespace Text

/-- Where the pair does not stand, the character is kept. -/
theorem replacePair_cons (h : ¬[a, b] <+: c :: s) :
    replacePair a b new (c :: s) = c :: replacePair a b new s := by
  cases s with
  | nil => rfl
  | cons d rest =>
    rw [replacePair, if_neg]
    rintro ⟨rfl, rfl⟩
    exact h ⟨rest, rfl⟩

/-- Where the pair stands, it is replaced. -/
theorem replacePair_pair (s : List Char) :
    replacePair a b new (a :: b :: s) = new ++ replacePair a b new s := by
  rw [replacePair, if_pos ⟨rfl, rfl⟩]

/-- At-signs are where they were after the first pass. -/
theorem head?_replacePair (s : List Char) :
    (replacePair '<' '>' ['!', '='] s).head? = some '@' ↔ s.head? = some '@' := by
  cases s with
  | nil => rfl
  | cons c s =>
    by_cases h : ['<', '>'] <+: c :: s
    · obtain ⟨rest, hrest⟩ := h
      rw [← hrest]
      simp [replacePair]
    · rw [replacePair_cons h]
      rfl

end Text

open Text (replacePair replacePair_cons replacePair_pair)

/-- Replacing one pair and then the other is one pass over the text. -/
theorem replacePair_replacePair (s : List Char) :
    replacePair '@' '@' ['<', '>'] (replacePair '<' '>' ['!', '='] s) = respelled s := by
  induction s using respelled_induction with
  | notEqual rest ih =>
    rw [replacePair_pair, List.cons_append, List.singleton_append, replacePair_cons (by simp),
      replacePair_cons (by simp), ih, respelled]
  | atSigns rest ih =>
    have hfirst : replacePair '<' '>' ['!', '='] ('@' :: '@' :: rest) =
        '@' :: '@' :: replacePair '<' '>' ['!', '='] rest := by
      rw [replacePair_cons (by simp), replacePair_cons (by simp)]
    rw [hfirst, replacePair_pair, ih, respelled]
    rfl
  | other c rest hpair hsigns ih =>
    rw [replacePair_cons hpair, replacePair_cons ?_, ih, respelled_cons hpair hsigns]
    intro h
    obtain ⟨rfl, r, hr⟩ := List.cons_prefix_cons.1 h
    have hhead := (Text.head?_replacePair rest).1 (by rw [← hr]; rfl)
    obtain ⟨r, rfl⟩ := List.head?_eq_some_iff.1 hhead
    exact hsigns ⟨r, rfl⟩
  | nil => rfl

/-- **The two passes are one.** -/
theorem escapeOperators_eq (text : String) :
    escapeOperators text = String.ofList (respelled text.toList) :=
  congrArg String.ofList (replacePair_replacePair text.toList)

/-! ## Signs for signs -/

/-- A respelled text differs in signs only. -/
theorem alike_respelled (s : List Char) : Alike s (respelled s) := by
  induction s using respelled_induction with
  | notEqual rest ih => exact .cons (.inr (by decide)) (.cons (.inr (by decide)) ih)
  | atSigns rest ih => exact .cons (.inr (by decide)) (.cons (.inr (by decide)) ih)
  | other c rest h h' ih =>
    rw [respelled_cons h h']
    exact .cons (.refl c) ih
  | nil => exact .nil

/-- A text that begins with another character begins with a pair. -/
theorem head?_respelled (h : (respelled s).head? = some x) :
    s.head? = some x ∨ (x = '!' ∧ ['<', '>'] <+: s) ∨ x = '<' ∧ ['@', '@'] <+: s := by
  by_cases hpair : ['<', '>'] <+: s
  · obtain ⟨r, rfl⟩ := hpair
    obtain rfl : '!' = x := Option.some.inj h
    exact .inr (.inl ⟨rfl, r, rfl⟩)
  by_cases hat : ['@', '@'] <+: s
  · obtain ⟨r, rfl⟩ := hat
    obtain rfl : '<' = x := Option.some.inj h
    exact .inr (.inr ⟨rfl, r, rfl⟩)
  cases s with
  | nil => cases h
  | cons c s =>
    rw [respelled_cons hpair hat] at h
    exact .inl h

/-- A front part that no pair was respelled to. -/
theorem front_of_respelled (hw : w <+: respelled s) (hbang : '!' ∉ w) (hless : '<' ∉ w) :
    w <+: s := by
  induction s using respelled_induction generalizing w with
  | notEqual rest ih =>
    cases w with
    | nil => exact List.nil_prefix
    | cons c w =>
      obtain ⟨rfl, -⟩ := List.cons_prefix_cons.1 hw
      exact absurd List.mem_cons_self hbang
  | atSigns rest ih =>
    cases w with
    | nil => exact List.nil_prefix
    | cons c w =>
      obtain ⟨rfl, -⟩ := List.cons_prefix_cons.1 hw
      exact absurd List.mem_cons_self hless
  | other c rest h h' ih =>
    rw [respelled_cons h h'] at hw
    cases w with
    | nil => exact List.nil_prefix
    | cons x w =>
      rw [List.mem_cons, not_or] at hbang hless
      obtain ⟨hx, hw⟩ := List.cons_prefix_cons.1 hw
      exact List.cons_prefix_cons.2 ⟨hx, ih hw hbang.2 hless.2⟩
  | nil => exact hw

/-! ## Lexemes before respelled text -/

namespace Sql
namespace Lexer

variable {d : Dialect} {t : Token} {n : Nat} {P : Char → Bool}

/-- Characters taken from the front end where they did, before text that none can be taken
from. -/
theorem takeWhile_before {v : List Char} (h : ((cs ++ u).takeWhile P).length ≤ cs.length)
    (hhead : ∀ x ∈ v.head?, P x = true → ∃ y ∈ u.head?, P y = true) :
    (cs ++ v).takeWhile P = (cs ++ u).takeWhile P := by
  induction cs with
  | nil =>
    have hu : u.takeWhile P = [] := List.eq_nil_of_length_eq_zero (Nat.le_zero.1 h)
    rw [List.nil_append, List.nil_append, hu]
    cases v with
    | nil => rfl
    | cons x v =>
      refine List.takeWhile_cons_of_neg fun hx => ?_
      obtain ⟨y, hy, hP⟩ := hhead x rfl hx
      obtain ⟨r, rfl⟩ := List.head?_eq_some_iff.1 hy
      simp [hP] at hu
  | cons c cs ih =>
    cases hc : P c with
    | false => simp [hc]
    | true =>
      simp only [List.cons_append, List.takeWhile_cons, hc, if_true] at h ⊢
      rw [ih (Nat.le_of_succ_le_succ h)]

/-- A word is read the same in front of respelled text. -/
theorem word_respelled {start : List Char} (h : word d start (cs ++ u) = (t, n))
    (hn : n = start.length - 1 + cs.length) : word d start (cs ++ respelled u) = (t, n) := by
  have hbang : d.continuesWord '!' = false := by cases d <;> rfl
  have hless : d.continuesWord '<' = false := by cases d <;> rfl
  rw [word, Prod.mk.injEq] at h
  have hlength : ((cs ++ u).takeWhile d.continuesWord).length ≤ cs.length := by omega
  rw [word, takeWhile_before hlength, h.1, h.2]
  intro x hx hword
  rcases head?_respelled hx with hu | ⟨rfl, -⟩ | ⟨rfl, -⟩
  · exact ⟨x, hu, hword⟩
  · simp [hbang] at hword
  · simp [hless] at hword

/-- Signs extend operators, or none does. -/
theorem extendsOperator_turns (h : Turns a b) : d.extendsOperator b = d.extendsOperator a := by
  have hsigns : ∀ x ∈ signs, d.extendsOperator x = (d == .postgres) :=
    Quoted.forall_mem_signs.2 (by cases d <;> decide)
  rcases h with rfl | ⟨ha, hb⟩
  · rfl
  · rw [hsigns a ha, hsigns b hb]

/-- A character that extends an operator stands before respelled text only if one did before. -/
theorem head?_extendsOperator (h : (respelled u).head? = some x) :
    ∃ y, u.head? = some y ∧ d.extendsOperator y = d.extendsOperator x := by
  obtain ⟨v, hv⟩ := List.head?_eq_some_iff.1 h
  have halike := (alike_respelled u).symm
  rw [hv] at halike
  obtain ⟨y, u, rfl, hturn, -⟩ := halike.exists_cons
  exact ⟨y, rfl, extendsOperator_turns hturn⟩

/-- A symbol is read the same in front of respelled text. -/
theorem symbol_respelled {s : String} (h : symbol d s (cs ++ u) = (t, n)) (hs : s.toList <+: cs)
    (hn : n + 1 = cs.length) : symbol d s (cs ++ respelled u) = (t, n) := by
  by_cases hext : extensible.contains s = true
  case neg =>
    rw [Bool.not_eq_true] at hext
    simpa only [symbol, hext, Bool.not_false, Bool.or_true, if_true] using h
  obtain ⟨q, rfl⟩ := hs
  suffices hmore : (q ++ respelled u).takeWhile d.extendsOperator =
      (q ++ u).takeWhile d.extendsOperator by
    simp only [symbol, List.append_assoc, List.drop_left] at h ⊢
    rwa [hmore]
  refine takeWhile_before ?_ fun x hx hextends => ?_
  · simp only [symbol, hext, List.append_assoc, List.drop_left, Bool.not_true, Bool.or_false] at h
    rw [List.length_append] at hn
    split at h
    case isTrue hnil =>
      rw [List.isEmpty_iff.1 hnil]
      exact Nat.zero_le _
    case isFalse =>
      rw [Prod.mk.injEq] at h
      omega
  · obtain ⟨y, hy, heq⟩ := head?_extendsOperator (d := d) hx
    exact ⟨y, hy, heq.trans hextends⟩

/-- The symbols that go on with a sign which a pair can be respelled to. -/
theorem eq_of_mem_symbols : ∀ s ∈ symbols,
    '!' ∈ s.toList.tail ∨ '<' ∈ s.toList.tail → s.toList = ['!', '!'] ∨ s.toList = ['<', '<'] := by
  decide

/-- A text begins with the first sign of its respelling, or with a pair. -/
theorem head_front (h : [x] <+: respelled u) :
    [x] <+: u ∨ (x = '!' ∧ ['<', '>'] <+: u) ∨ x = '<' ∧ ['@', '@'] <+: u := by
  obtain ⟨r, hr⟩ := h
  refine (head?_respelled (by rw [← hr]; rfl)).imp_left fun hu => ?_
  obtain ⟨r, rfl⟩ := List.head?_eq_some_iff.1 hu
  exact ⟨r, rfl⟩

/-- **No symbol is made** where the rest is respelled, but by `!` before `<>` and `<` before
`@@`. -/
theorem symbol_front {s : String} (hs : s ∈ symbols) (hfront : s.toList <+: c :: cs ++ respelled u)
    (hbang : ¬(c :: cs = ['!'] ∧ ['<', '>'] <+: u))
    (hless : ¬(c :: cs = ['<'] ∧ ['@', '@'] <+: u)) :
    s.toList <+: c :: cs ++ u := by
  rcases Nat.le_total s.toList.length (c :: cs).length with hle | hle
  · exact (List.prefix_of_prefix_length_le hfront (List.prefix_append _ _) hle).trans
      (List.prefix_append _ _)
  obtain ⟨v, hv⟩ := List.prefix_of_prefix_length_le (List.prefix_append _ _) hfront hle
  rw [← hv] at hfront ⊢
  rw [List.prefix_append_right_inj] at hfront ⊢
  by_cases hsign : '!' ∈ v ∨ '<' ∈ v
  case neg =>
    rw [not_or] at hsign
    exact front_of_respelled hfront hsign.1 hsign.2
  -- The symbol is a sign twice over, and the second one stands behind the lexeme.
  have htwice (y : Char) (h : s.toList = [y, y]) : c :: cs = [y] ∧ v = [y] := by
    rw [← hv] at h
    rcases cs with _ | ⟨z, cs⟩
    · simpa using h
    · have hlength := congrArg List.length h
      simp only [List.length_append, List.length_cons, List.length_nil] at hlength
      rw [List.eq_nil_of_length_eq_zero (l := v) (by omega)] at hsign
      simp at hsign
  have htail : '!' ∈ s.toList.tail ∨ '<' ∈ s.toList.tail := by
    rw [← hv]
    exact hsign.imp (List.mem_append_right cs) (List.mem_append_right cs)
  rcases eq_of_mem_symbols s hs htail with h | h
  · obtain ⟨hc, rfl⟩ := htwice '!' h
    rcases head_front hfront with hu | ⟨-, hu⟩ | ⟨h, -⟩
    · exact hu
    · exact absurd ⟨hc, hu⟩ hbang
    · cases h
  · obtain ⟨hc, rfl⟩ := htwice '<' h
    rcases head_front hfront with hu | ⟨h, -⟩ | ⟨-, hu⟩
    · exact hu
    · cases h
    · exact absurd ⟨hc, hu⟩ hless

/-- A sign that is a letter takes what it took. -/
theorem signWord?_respelled (h : signWord? d (c :: cs ++ u) = some (t, cs.length)) :
    signWord? d (c :: cs ++ respelled u) = some (t, cs.length) := by
  obtain ⟨w, x, rest, htakes, hs, hword⟩ := exists_signTakes h
  have hlength := word_length hword
  rw [List.length_append, List.length_singleton] at hlength
  have hw : w ++ [x] <+: c :: cs ++ u := ⟨rest, by rw [← hs, List.append_assoc]; rfl⟩
  obtain ⟨q, hq⟩ := List.prefix_of_prefix_length_le hw (List.prefix_append (c :: cs) u) (by
    rw [List.length_append, List.length_singleton, List.length_cons]
    omega)
  rw [← hq, List.append_assoc, List.append_assoc, List.singleton_append, htakes.signWord?]
  rw [← hq, List.append_assoc, List.append_assoc, List.singleton_append,
    List.append_cancel_left_eq, List.cons.injEq] at hs
  have hcount := congrArg List.length hq
  simp only [List.length_append, List.length_cons, List.length_nil] at hcount
  rw [word_respelled (hs.2 ▸ hword)]
  simp only [List.length_append, List.length_cons, List.length_nil]
  omega

/-- What stands at the start of a text with a respelled end. -/
theorem head_respelled_append (h : cs ++ respelled u = x :: s) :
    ∃ y r, cs ++ u = y :: r ∧ (y = x ∨ (y = '<' ∧ x = '!') ∨ y = '@' ∧ x = '<') := by
  cases cs with
  | cons y cs => exact ⟨y, cs ++ u, rfl, .inl (List.cons.inj h).1⟩
  | nil =>
    rw [List.nil_append] at h ⊢
    rcases head?_respelled (s := u) (by rw [h]; rfl) with hu | ⟨hx, r, rfl⟩ | ⟨hx, r, rfl⟩
    · obtain ⟨r, rfl⟩ := List.head?_eq_some_iff.1 hu
      exact ⟨x, r, rfl, .inl rfl⟩
    · exact ⟨'<', _, rfl, .inr (.inl ⟨rfl, hx⟩)⟩
    · exact ⟨'@', _, rfl, .inr (.inr ⟨rfl, hx⟩)⟩

/-- Where no sign starts a word, none does in front of respelled text. -/
theorem signWord?_none_respelled (h : signWord? d (c :: cs ++ u) = none)
    (hat : ¬['@', '@'] <+: c :: cs ++ u) : signWord? d (c :: cs ++ respelled u) = none := by
  cases hsign : signWord? d (c :: cs ++ respelled u) with
  | none => rfl
  | some r =>
    obtain ⟨w, x, rest, htakes, hs, -⟩ := exists_signTakes hsign
    -- A sign that takes a character behind it took one before.
    have hnone {w : List Char} {y : Char} (htakes : SignTakes d w y) (r : List Char) :
        c :: cs ++ u ≠ w ++ y :: r := by
      intro hs
      rw [hs, htakes.signWord?] at h
      cases h
    rw [List.cons_append] at hat hs hnone
    cases htakes with
    | hash hd hx =>
      obtain ⟨rfl, hs'⟩ := List.cons.inj hs
      obtain ⟨y, r, hy, hyx⟩ := head_respelled_append hs'.symm
      refine absurd (congrArg ('#' :: ·) hy) (hnone (.hash hd (x := y) ?_) r)
      rcases hyx with rfl | ⟨rfl, -⟩ | ⟨rfl, -⟩
      · exact hx
      · rfl
      · rfl
    | double =>
      obtain ⟨rfl, hs'⟩ := List.cons.inj hs
      obtain ⟨y, r, hy, rfl | ⟨-, hx⟩ | ⟨-, hx⟩⟩ := head_respelled_append hs'.symm
      · exact absurd ⟨r, by rw [hy]; rfl⟩ hat
      · cases hx
      · cases hx
    | single hd hx =>
      obtain ⟨rfl, hs'⟩ := List.cons.inj hs
      obtain ⟨y, r, hy, hyx⟩ := head_respelled_append hs'.symm
      refine absurd (congrArg ('@' :: ·) hy) (hnone (.single hd (x := y) ?_) r)
      rcases hyx with rfl | ⟨rfl, -⟩ | ⟨rfl, -⟩
      · exact hx
      · rfl
      · exact absurd ⟨r, by rw [hy]; rfl⟩ hat

/-- What is plain is read as before if the rest is respelled. -/
theorem startRule_respelled (h : StartRule d c (cs ++ u) t cs.length) :
    StartRule d c (cs ++ respelled u) t cs.length := by
  have halike : Alike (cs ++ u) (cs ++ respelled u) := (Alike.refl cs).append (alike_respelled u)
  cases h with
  | question hc hd ht hn => exact .question hc hd ht (by rwa [halike.length_eq])
  | parameter hc hd ht hn =>
    have hnumeric : NoSign Text.isNumeric := by decide +kernel
    have hsame := halike.takeWhile_eq hnumeric
    exact .parameter hc hd (by rw [hsame, ht]) (by rw [hsame, ← hn])
  | word hc h => exact .word hc (word_respelled h (by simp))
  | dollar hc h =>
    obtain ⟨t', hdollar, -, hiff⟩ := dollar_sameForm halike t cs.length h
    rw [List.take_left, List.take_left, iff_true_right rfl] at hiff
    exact .dollar hc (hiff ▸ hdollar)
  | single hquestion hstart hdollar ht hn => exact .single hquestion hstart hdollar ht hn

/-- Before two at-signs, `<` is not a symbol of its own. -/
theorem not_less_before_at (h : ∀ x, longestSymbol? d (c :: (cs ++ u)) = some x →
    symbol d x (c :: (cs ++ u)) = (t, cs.length)) : ¬(c :: cs = ['<'] ∧ ['@', '@'] <+: u) := by
  rintro ⟨hc, v, rfl⟩
  cases hc
  have hlongest : longestSymbol? d ('<' :: ([] ++ (['@', '@'] ++ v))) = some "<@" := by
    cases d <;> rfl
  exact absurd (symbol_length (h _ hlongest)) (by decide)

/-- Every lexeme is read the same in front of respelled text, unless its sign joins a pair there. -/
theorem plainLexeme_respelled (h : plainLexeme d c (cs ++ u) = .ok (t, cs.length))
    (hbang : ¬(c :: cs = ['!'] ∧ ['<', '>'] <+: u)) (hat : ¬['@', '@'] <+: c :: cs ++ u) :
    plainLexeme d c (cs ++ respelled u) = .ok (t, cs.length) := by
  have halike : Alike (cs ++ u) (cs ++ respelled u) := (Alike.refl cs).append (alike_respelled u)
  rw [plainLexeme_eq_ok_iff] at h ⊢
  cases h with
  | number hdigit h => exact .number hdigit (by rw [number_alike (.cons (.refl c) halike), h])
  | comment hdigit h =>
    obtain ⟨r', hcomment, hr⟩ := comment?_sameForm halike h
    obtain ⟨t', rfl, -, hiff⟩ := hr t cs.length rfl
    rw [List.take_left, List.take_left, iff_true_right rfl] at hiff
    exact .comment hdigit (hiff ▸ hcomment)
  | signWord hdigit hcomment h =>
    exact .signWord hdigit (comment?_none_alike halike hcomment) (signWord?_respelled h)
  | @symbol hdigit hcomment hsign x hsymbol h =>
    have hless : ¬(c :: cs = ['<'] ∧ ['@', '@'] <+: u) :=
      not_less_before_at fun y hy => Option.some.inj (hsymbol.symm.trans hy) ▸ h
    have htoken : symbol d x (c :: cs ++ u) = (t, cs.length) := h
    have hlength := symbol_length h
    have hx : x.toList <+: c :: cs := by
      refine List.prefix_of_prefix_length_le (prefix_of_longestSymbol? hsymbol)
        (List.prefix_append (c :: cs) u) ?_
      rw [List.length_cons]
      omega
    have hsymbol' : longestSymbol? d (c :: cs ++ respelled u) = some x :=
      longestSymbol?_of_front hsymbol (hx.trans (List.prefix_append _ _)) fun s' hs' hfront =>
        symbol_front hs' hfront hbang hless
    exact .symbol hdigit (comment?_none_alike halike hcomment)
      (signWord?_none_respelled hsign hat) hsymbol' (symbol_respelled htoken hx rfl)
  | start hdigit hcomment hsign hsymbol h =>
    have hless : ¬(c :: cs = ['<'] ∧ ['@', '@'] <+: u) :=
      not_less_before_at (t := t) fun y hy => absurd (hsymbol.symm.trans hy) nofun
    have hsymbol' : longestSymbol? d (c :: (cs ++ respelled u)) = none :=
      longestSymbol?_none_of_front hsymbol fun s hs hfront => symbol_front hs hfront hbang hless
    exact .start hdigit (comment?_none_alike halike hcomment) (signWord?_none_respelled hsign hat)
      hsymbol' (startRule_respelled h)

/-- **A lexeme is read as before if the text behind it is respelled.** -/
theorem lexeme_respelled (h : lexeme d c (cs ++ u) = .ok (t, cs.length))
    (hbang : ¬(c :: cs = ['!'] ∧ ['<', '>'] <+: u)) (hat : ¬['@', '@'] <+: c :: cs ++ u) :
    lexeme d c (cs ++ respelled u) = .ok (t, cs.length) := by
  have halike : Alike (cs ++ u) (cs ++ respelled u) := (Alike.refl cs).append (alike_respelled u)
  have htake : (cs ++ respelled u).take cs.length = (cs ++ u).take cs.length := by
    rw [List.take_left, List.take_left]
  obtain ⟨t', hlexeme, -, hiff⟩ := lexeme_sameForm_of_plain halike
    (fun hplain => ⟨t, plainLexeme_respelled hplain hbang hat, rfl, iff_of_true rfl htake⟩) h
  rw [hlexeme, hiff.2 htake]

/-! ## Operators of their own -/

/-- `!=` is read as "not equal". -/
theorem lexeme_bangEqual (s : List Char) : lexeme d '!' ('=' :: s) = .ok (.symbol "<>", 1) := by
  have hlongest : longestSymbol? d ('!' :: '=' :: s) = some "!=" := by cases d <;> rfl
  rw [lexeme_sign (by decide)]
  simp [plainLexeme, comment?, signWord?, hlongest, symbol, extensible, symbolToken]

/-- `<>` is read as "not equal", unless an operator goes on. -/
theorem lexeme_lessGreater (h : ∀ x ∈ s.head?, d.extendsOperator x = false) :
    lexeme d '<' ('>' :: s) = .ok (.symbol "<>", 1) := by
  have hlongest : longestSymbol? d ('<' :: '>' :: s) = some "<>" := by cases d <;> rfl
  have hmore : s.takeWhile d.extendsOperator = [] := by
    cases s with
    | nil => rfl
    | cons x s => exact List.takeWhile_cons_of_neg (by simp [h x rfl])
  rw [lexeme_sign (by decide)]
  simp [plainLexeme, comment?, signWord?, hlongest, symbol, symbolToken, hmore]

end Lexer
end Sql

end QueryTemplate
