/-
# How lexemes begin and end

A lexeme that is no blank begins with no blank.  It ends with none either, but for two kinds
that take the next character whatever it is (`Ends`).

| lexeme | where | takes | without a blank that it took |
| --- | --- | --- | --- |
| `?` | dialects with operators of that kind | one character | the same token |
| `#`, `@`, `@@` | where they are letters | one character that is no space | a symbol, no word |

So the last token of a text whose blank end is taken off is that of the text, but for a word
that ends in a blank (`Token.clipped`, `lexeme_clipped`).
-/

import Mathlib.Data.List.DropRight
import QueryTemplate.Proofs.Token.Locality
import QueryTemplate.Sql.Comment

namespace QueryTemplate
namespace Sql

/-- A word that ends in a blank. -/
def Token.endsBlank : Token → Bool
  | .word s none => s.toList.getLast?.any Text.isBlank
  | _ => false

/-- The last token of a text once the blanks at the end are cut off.  A word that ends in a
blank becomes a symbol. -/
def Token.clipped (t : Token) : Token :=
  if t.endsBlank then .symbol (String.ofList t.text.toList.dropLast) else t

/-- Comments count as blanks. -/
theorem Token.isBlank_of_isComment {t : Token} (h : t.isComment = true) : t.isBlank = true := by
  cases t <;> first | rfl | cases h

/-- A blank token is not one whose last character is cut. -/
theorem Token.endsBlank_of_isBlank {t : Token} (h : t.isBlank = true) : t.endsBlank = false := by
  cases t <;> first | rfl | cases h

/-- A token is clipped exactly if it ends in a blank. -/
theorem Token.clipped_eq_self_iff {t : Token} : t.clipped = t ↔ t.endsBlank = false := by
  rw [clipped]
  split
  case isTrue h =>
    rw [h]
    cases t <;> simp_all [endsBlank]
  case isFalse h => simpa using h

namespace Lexer

open Quoted (Closes)

variable {d : Dialect} {c quote : Char} {q s u v w : List Char} {t : Token} {n before : Nat}

/-- How a lexeme begins and ends. -/
inductive Ends (d : Dialect) (c : Char) (s : List Char) : Token → Nat → Prop
  /-- Blanks only. -/
  | blank {t : Token} {n : Nat} (ht : t.isBlank = true) (hc : Text.isBlank c = true)
      (hs : ∀ x ∈ s.take n, Text.isBlank x = true) (hn : n ≤ s.length) : Ends d c s t n
  | comment {t : Token} {n : Nat} (ht : t.isComment = true) (hn : n ≤ s.length) : Ends d c s t n
  /-- No blank at either end. -/
  | solid {t : Token} {n : Nat} (x : Char) (ht : t.isBlank = false) (hword : t.endsBlank = false)
      (hc : Text.isBlank c = false) (hx : Text.isBlank x = false) (hend : (c :: s)[n]? = some x) :
      Ends d c s t n
  /-- The operator `?` takes the next character. -/
  | question (hd : d.questionOperators = true) (hc : c = '?') (hs : s ≠ []) :
      Ends d c s (.symbol "?") 1
  /-- A sign takes the next character, here a blank. -/
  | sign (hd : d = .ansi) (w : List Char) (hw : w ∈ [['#'], ['@'], ['@', '@']]) (b : Char)
      (hb : Text.isBlank b = true) (hs : w ++ [b] <+: c :: s) :
      Ends d c s (.word (String.ofList (w ++ [b])) none) w.length

/-- A word without a blank at its end is not clipped. -/
theorem endsBlank_word (h : ∀ x ∈ w.getLast?, Text.isBlank x = false) :
    (Token.word (String.ofList w) none).endsBlank = false := by
  rw [Token.endsBlank, String.toList_ofList, Option.any_eq_false]
  intro x hx
  simp [h x hx]

/-- A sign that took a blank is clipped to the sign. -/
theorem clipped_sign {b : Char} (hb : Text.isBlank b = true) :
    (Token.word (String.ofList (w ++ [b])) none).clipped = .symbol (String.ofList w) := by
  rw [Token.clipped, if_pos (by rw [Token.endsBlank, String.toList_ofList, List.getLast?_concat,
    Option.any_some, hb])]
  rw [Token.text, String.toList_ofList, List.dropLast_concat]

/-- A quoted token ends with its quote, which is no blank. -/
theorem ends_of_closes {found : List Char → Prop} (h : Closes quote s n found)
    (hquote : Text.isBlank quote = false) (hc : Text.isBlank c = false) (ht : t.isBlank = false)
    (hword : t.endsBlank = false) : Ends d c s t n := by
  obtain ⟨m, rfl, hm⟩ := h.ends
  exact .solid quote ht hword hc hquote hm

/-- A run of characters without blanks. -/
theorem ends_of_front (hw : w <+: c :: s) (hn : w.length = n + 1)
    (hsolid : ∀ x ∈ w, Text.isBlank x = false) (ht : t.isBlank = false)
    (hword : t.endsBlank = false) : Ends d c s t n := by
  obtain ⟨x, hx, hblank⟩ := exists_getElem?_of_front hw hn hsolid
  refine .solid x ht hword (hsolid c ?_) hblank hx
  rcases w with _ | ⟨y, w⟩
  · simp at hn
  · rw [List.cons_prefix_cons] at hw
    simp [hw.1]

/-- A word has no blank at either end. -/
theorem word_ends (hc : d.startsWord c = true) (h : word d [c] s = (t, n)) : Ends d c s t n := by
  have htakes : Takes (List.takeWhile d.continuesWord) := .takeWhile (noBlank_continuesWord d)
  have hsolid : ∀ x ∈ c :: s.takeWhile d.continuesWord, Text.isBlank x = false := by
    rintro x (_ | ⟨_, hx⟩)
    · exact isBlank_of_startsWord hc
    · exact htakes.solid s x hx
  simp only [word, List.length_singleton, Nat.sub_self, Nat.zero_add, Prod.mk.injEq] at h
  obtain ⟨rfl, rfl⟩ := h
  refine ends_of_front (List.cons_prefix_cons.2 ⟨rfl, htakes.front s⟩) rfl hsolid rfl ?_
  exact endsBlank_word fun x hx => hsolid x (List.mem_of_getLast? hx)

/-- A string in quotes is a string token. -/
theorem stringAt_token {escapes triples : Bool} {one three : StringKind}
    (h : stringAt quote escapes triples one three before s = .ok (t, n)) :
    ∃ kind text, t = .string kind text := by
  have htoken {kind : StringKind} {skip place : Nat} {content : Option Quoted.Content}
      (h : stringToken kind skip place content = .ok (t, n)) :
      ∃ kind text, t = .string kind text := by
    obtain ⟨cs, k, -, rfl, -⟩ := stringToken_eq_ok_iff.1 h
    exact ⟨_, _, rfl⟩
  unfold stringAt at h
  split at h
  case isTrue => exact htoken h
  case isFalse =>
  split at h
  case h_1 =>
    split at h
    case isTrue =>
      split at h
      case isTrue => exact htoken h
      case isFalse => cases h; exact ⟨_, _, rfl⟩
    case isFalse => exact htoken h
  case h_2 =>
    split at h
    case isTrue => cases h; exact ⟨_, _, rfl⟩
    case isFalse => exact htoken h
  case h_3 => cases h

/-- A string has a quote at either end. -/
theorem stringAt_ends {escapes triples : Bool} {one three : StringKind}
    (hquote : Text.isBlank quote = false)
    (h : stringAt quote escapes triples one three 0 s = .ok (t, n)) : Ends d quote s t n := by
  obtain ⟨kind, text, rfl⟩ := stringAt_token h
  obtain ⟨k, rfl, hclose⟩ := stringAt_closes h
  rw [Nat.zero_add]
  exact ends_of_closes hclose hquote hquote rfl rfl

/-- A mark is a letter, and the token is a string. -/
theorem markedString?_token (h : markedString? d c s = some (.ok (t, n))) :
    (∃ kind text, t = .string kind text) ∧ Text.isBlank c = false := by
  have hletter : NoBlank fun c => c.toLower.isAlpha := by decide
  cases markedString?_cases h with
  | string hc _ _ _ hr => exact ⟨stringAt_token hr.symm, hletter.isBlank_eq_false hc⟩
  | escaped hc _ _ hr =>
    obtain ⟨cs, k, -, rfl, -⟩ := escapedString_eq_ok_iff.1 hr.symm
    exact ⟨⟨_, _, rfl⟩, hletter.isBlank_eq_false hc⟩
  | codePoints hc _ _ hr =>
    obtain ⟨cs, k, -, rfl, -⟩ := codePointString_eq_ok_iff.1 hr.symm
    exact ⟨⟨_, _, rfl⟩, hletter.isBlank_eq_false hc⟩

/-- The last character of a front is found at its place in the text. -/
theorem getElem?_of_front (hw : w <+: s) (hn : w.length = n + 1) : s[n]? = w.getLast? := by
  obtain ⟨rest, rfl⟩ := hw
  rw [List.getElem?_append_left (by omega), List.getLast?_eq_getElem?, hn, Nat.add_sub_cancel]

/-- A sign takes the next character in ANSI only. -/
theorem SignTakes.eq_ansi {x : Char} (h : SignTakes d w x) : d = .ansi := by
  cases h with
  | hash hd | double hd | single hd => cases d <;> first | rfl | cases hd

/-- The signs that take the next character. -/
theorem SignTakes.mem {x : Char} (h : SignTakes d w x) : w ∈ [['#'], ['@'], ['@', '@']] := by
  cases h <;> decide

/-- A sign, the character that it takes, and the rest of the word. -/
theorem signWord?_ends (h : signWord? d (c :: s) = some (t, n)) : Ends d c s t n := by
  obtain ⟨w, x, rest, hsign, hs, h⟩ := exists_signTakes h
  have htakes : Takes (List.takeWhile d.continuesWord) := .takeWhile (noBlank_continuesWord d)
  have hc : Text.isBlank c = false := by
    cases hsign <;> cases hs <;> rfl
  simp only [word, Prod.mk.injEq] at h
  obtain ⟨rfl, rfl⟩ := h
  have hfront : w ++ [x] ++ rest.takeWhile d.continuesWord <+: c :: s := by
    rw [← hs, ← List.singleton_append (l := rest), ← List.append_assoc]
    exact (List.prefix_append_right_inj _).2 (htakes.front rest)
  have hn : (w ++ [x] ++ rest.takeWhile d.continuesWord).length =
      (w ++ [x]).length - 1 + (rest.takeWhile d.continuesWord).length + 1 := by
    simp only [List.length_append, List.length_singleton]
    omega
  have hlast := getElem?_of_front hfront hn
  -- The last character is that of the word behind the sign, or else the one that the sign took.
  have hsolid (y : Char) (hy : Text.isBlank y = false)
      (h : (w ++ [x] ++ rest.takeWhile d.continuesWord).getLast? = some y) :
      Ends d c s (.word (String.ofList (w ++ [x] ++ rest.takeWhile d.continuesWord)) none)
        ((w ++ [x]).length - 1 + (rest.takeWhile d.continuesWord).length) :=
    .solid y rfl (endsBlank_word (by rw [h]; rintro _ ⟨⟩; exact hy)) hc hy (hlast.trans h)
  rcases List.eq_nil_or_concat (rest.takeWhile d.continuesWord) with hmore | ⟨more, y, hmore⟩
  · cases hx : Text.isBlank x with
    | false => exact hsolid x hx (by simp [hmore])
    | true =>
      have hblank : Ends d c s (.word (String.ofList (w ++ [x])) none) w.length :=
        .sign hsign.eq_ansi w hsign.mem x hx (by simpa [hmore] using hfront)
      simpa [hmore] using hblank
  · rw [List.concat_eq_append] at hmore
    refine hsolid y (htakes.solid rest y (by simp [hmore])) ?_
    rw [hmore, ← List.append_assoc, List.getLast?_concat]

/-- A number is no blank and is not clipped. -/
theorem number_token (h : number s = (t, n)) : t.isBlank = false ∧ t.endsBlank = false := by
  by_cases hhex : ['0', 'x'] <+: s
  · obtain ⟨rest, rfl⟩ := hhex
    cases (number_hex rest).symm.trans h
    exact ⟨rfl, rfl⟩
  · rw [number_plain hhex] at h
    split at h <;> cases h <;> exact ⟨rfl, rfl⟩

/-- A symbol has no blank at either end, unless it took one. -/
theorem symbol_ends {s' : String} (hsymbol : longestSymbol? d (c :: s) = some s')
    (h : symbol d s' (c :: s) = (t, n)) : Ends d c s t n := by
  have hmem := List.mem_of_find?_eq_some hsymbol
  have hfront := prefix_of_longestSymbol? hsymbol
  have htakes : Takes (List.takeWhile d.extendsOperator) :=
    .takeWhile (by cases d <;> decide)
  have hpos := List.length_pos_iff.2 (toList_ne_nil_of_mem_symbols s' hmem)
  simp only [symbol] at h
  split at h <;> cases h
  case isTrue =>
    exact ends_of_front hfront (by omega) (symbols_solid s' hmem) rfl rfl
  case isFalse =>
    refine ends_of_front (w := s'.toList ++
      ((c :: s).drop s'.toList.length).takeWhile d.extendsOperator) ?_ ?_ ?_ rfl rfl
    · have hmore := htakes.front ((c :: s).drop s'.toList.length)
      have happend := (List.prefix_append_right_inj s'.toList).2 hmore
      rwa [List.prefix_iff_eq_append.1 hfront] at happend
    · rw [List.length_append]
      omega
    · intro x hx
      rcases List.mem_append.1 hx with hx | hx
      · exact symbols_solid s' hmem x hx
      · exact htakes.solid _ x hx

/-- A comment ends inside the text. -/
theorem commentFrom_length {depth : Nat} {last : Char} {cs : List Char}
    (h : Quoted.commentFrom depth last s = some (cs, n)) : n ≤ s.length := by
  induction s generalizing depth last cs n with
  | nil => cases h
  | cons x s ih =>
    have hcons {o : Option Quoted.Content} (ho : ∀ {cs n}, o = some (cs, n) → n ≤ s.length)
        (h : o.map (Quoted.Content.cons x 1) = some (cs, n)) : n ≤ (x :: s).length := by
      obtain ⟨cs', k, h', -, rfl⟩ := Quoted.map_cons_eq_some.1 h
      exact Nat.succ_le_succ (ho h')
    rw [Quoted.commentFrom] at h
    split at h
    case isTrue => exact hcons ih h
    case isFalse =>
    split at h
    case isTrue =>
      split at h
      case isTrue => cases h; simp
      case isFalse => exact hcons ih h
    case isFalse => exact hcons ih h

/-- A line comment ends inside the text. -/
theorem lineComment_length {mark : String} {skip : Nat} (h : lineComment mark skip s = (t, n)) :
    n ≤ skip + s.length := by
  have hbody := (List.takeWhile_prefix (l := s) (· != '\n')).length_le
  simp only [lineComment, Prod.mk.injEq] at h
  obtain ⟨-, rfl⟩ := h
  simp only [List.length_take, List.length_drop]
  omega

/-- Every comment ends inside the text. -/
theorem comment?_length (h : comment? d (c :: s) = some (.ok (t, n))) : n ≤ s.length := by
  cases comment?_cases h with
  | line _ hs _ hr =>
    have hlength := lineComment_length (Except.ok.inj hr).symm
    rwa [hs, List.length_append]
  | block _ hs hr =>
    obtain ⟨cs, k, hcontent, -, rfl⟩ := markedComment_eq_ok_iff.1 hr.symm
    obtain ⟨⟨text, k⟩, htext, heq⟩ := Option.map_eq_some_iff.1 hcontent
    cases heq
    have hlength := commentFrom_length htext
    rw [hs, List.length_cons]
    omega

/-- What a dollar sign starts is no blank and is not clipped. -/
theorem dollar_token (h : dollar s = .ok (t, n)) : t.isBlank = false ∧ t.endsBlank = false := by
  unfold dollar at h
  split at h
  case h_1 body =>
    split at h <;> cases h
    exact ⟨rfl, rfl⟩
  case h_2 =>
    simp only at h
    split at h
    case h_1 =>
      split at h <;> cases h
      exact ⟨rfl, rfl⟩
    case h_2 =>
      cases h
      exact ⟨rfl, rfl⟩

/-- A token that starts in one of the special ways ends in one of the listed ways. -/
theorem StartRule.ends (h : StartRule d c s t n) : Ends d c s t n := by
  cases h with
  | question hc hd ht hn =>
    subst hc ht hn
    rcases s with _ | ⟨x, s⟩
    · exact .solid '?' rfl rfl rfl rfl rfl
    · rw [List.length_cons, Nat.min_eq_left (Nat.le_add_left _ _)]
      exact .question hd rfl (by simp)
  | parameter hc _ ht hn =>
    subst hc ht hn
    have htakes : Takes (List.takeWhile Text.isNumeric) := .takeWhile noBlank_isNumeric
    refine ends_of_front (List.cons_prefix_cons.2 ⟨rfl, htakes.front s⟩) rfl ?_ rfl rfl
    rintro x (_ | ⟨_, hx⟩)
    · rfl
    · exact htakes.solid s x hx
  | word hc h => exact word_ends hc h
  | dollar hc h =>
    subst hc
    rcases dollar_closes h with hclose | ⟨-, -, rfl, rfl⟩
    · exact ends_of_closes hclose rfl rfl (dollar_token h).1 (dollar_token h).2
    · refine ends_of_front (List.cons_prefix_cons.2 ⟨rfl, takes_tagOf.front s⟩) rfl ?_ rfl rfl
      rintro x (_ | ⟨_, hx⟩)
      · rfl
      · exact takes_tagOf.solid s x hx
  | single _ _ _ ht hn =>
    subst ht hn
    split
    case isTrue hblank => exact .blank rfl hblank (by simp) (Nat.zero_le _)
    case isFalse hblank =>
      rw [Bool.not_eq_true] at hblank
      exact .solid c rfl rfl hblank hblank rfl

/-- Every lexeme begins and ends in one of the listed ways. -/
theorem plainLexeme_ends (h : plainLexeme d c s = .ok (t, n)) : Ends d c s t n := by
  cases plainLexeme_eq_ok_iff.1 h with
  | number hdigit h =>
    obtain ⟨x, hx, hblank⟩ := number_ends hdigit h
    have hdigits : NoBlank fun c => c.isDigit || c == '.' := by decide
    have hc := hdigits.isBlank_eq_false hdigit
    exact .solid x (number_token h).1 (number_token h).2 hc hblank hx
  | comment _ h => exact .comment (isComment_of_comment? h) (comment?_length h)
  | signWord _ _ h => exact signWord?_ends h
  | symbol _ _ _ hsymbol h => exact symbol_ends hsymbol h
  | start _ _ _ _ h => exact h.ends

/-- **Every lexeme begins and ends without a blank, but for a few.** -/
theorem lexeme_ends (h : lexeme d c s = .ok (t, n)) : Ends d c s t n := by
  by_cases hspecial : c ∈ [' ', '\t', '\n', '\r']
  · simp only [List.mem_cons, List.not_mem_nil, or_false] at hspecial
    obtain rfl | rfl | rfl | rfl := hspecial
    · cases h; exact .blank rfl rfl (by simp) (Nat.zero_le _)
    · cases h; exact .blank rfl rfl (by simp) (Nat.zero_le _)
    · cases h; exact .blank rfl rfl (by simp) (Nat.zero_le _)
    cases h
    rcases s with _ | ⟨x, s⟩
    · exact .blank rfl rfl (by simp) (Nat.zero_le _)
    · by_cases hx : x = '\n'
      · subst hx
        exact .blank rfl rfl (by simp; rfl) (by simp)
      · exact .blank rfl rfl (by simp [hx]) (by simp [hx])
  rw [lexeme_eq hspecial] at h
  cases quotedLexeme_eq_ok_iff.1 h with
  | marked h =>
    obtain ⟨⟨kind, text, rfl⟩, hc⟩ := markedString?_token h
    obtain ⟨quote, hquote, hclose⟩ := markedString?_closes h
    refine ends_of_closes hclose ?_ hc rfl rfl
    rcases hquote with rfl | rfl <;> rfl
  | single _ hc hstring =>
    subst hc
    exact stringAt_ends rfl hstring
  | double _ hc _ hstring =>
    subst hc
    exact stringAt_ends rfl hstring
  | name _ _ _ hname hcontent ht =>
    subst ht
    have hquote : NoBlank d.opensName := by cases d <;> decide
    have hblank := hquote.isBlank_eq_false hname
    exact ends_of_closes (Quoted.quoted_closes hcontent) hblank hblank rfl rfl
  | plain _ _ _ _ h => exact plainLexeme_ends h

/-- A lexeme ends inside the text. -/
theorem Ends.le_length (h : Ends d c s t n) : n ≤ s.length := by
  cases h with
  | blank _ _ _ hn => exact hn
  | comment _ hn => exact hn
  | solid x _ _ _ _ hend => exact Nat.le_of_lt_succ (List.getElem?_eq_some_iff.1 hend).1
  | question _ _ hs => exact List.length_pos_iff.2 hs
  | sign _ w _ b _ hs =>
    have := hs.length_le
    simp at this
    omega

/-- A lexeme that is no blank begins with none. -/
theorem Ends.isBlank_eq_false (h : Ends d c s t n) (ht : t.isBlank = false) :
    Text.isBlank c = false := by
  cases h with
  | blank hblank => simp [hblank] at ht
  | comment hcomment => simp [Token.isBlank_of_isComment hcomment] at ht
  | solid _ _ _ hc => exact hc
  | question _ hc => exact hc ▸ rfl
  | sign _ w hw b _ hs =>
    simp only [List.mem_cons, List.not_mem_nil, or_false] at hw
    obtain rfl | rfl | rfl := hw <;> obtain ⟨rest, hs⟩ := hs <;> cases hs <;> rfl

/-- A blank holds only blanks. -/
theorem Ends.blanks (h : Ends d c s t n) (ht : t.isBlank = true) (hcomment : t.isComment = false) :
    ∀ x ∈ c :: s.take n, Text.isBlank x = true := by
  cases h with
  | blank _ hc hs => exact List.forall_mem_cons.2 ⟨hc, hs⟩
  | comment h => simp [h] at hcomment
  | solid _ h => simp [h] at ht
  | question => cases ht
  | sign => cases ht

/-- Only where signs are letters does a word end in a blank. -/
theorem Ends.eq_ansi (h : Ends d c s t n) (ht : t.endsBlank = true) : d = .ansi := by
  cases h with
  | blank hblank => simp [Token.endsBlank_of_isBlank hblank] at ht
  | comment hcomment =>
    simp [Token.endsBlank_of_isBlank (Token.isBlank_of_isComment hcomment)] at ht
  | solid _ _ hword => simp [hword] at ht
  | question => cases ht
  | sign hd => exact hd

/-- **The last lexeme of a text without its blank end.** -/
theorem lexeme_clipped (h : lexeme d c s = .ok (t, s.length)) (ht : t.isBlank = false) :
    ∃ s', (c :: s).rdropWhile Text.isBlank = c :: s' ∧
      lexeme d c s' = .ok (t.clipped, s'.length) := by
  have hkeep {x : Char} (hx : Text.isBlank x = false) (hlast : (c :: s).getLast? = some x) :
      (c :: s).rdropWhile Text.isBlank = c :: s := by
    obtain ⟨init, hinit⟩ := List.getLast?_eq_some_iff.1 hlast
    rw [hinit, List.rdropWhile_concat_neg _ _ _ (by simp [hx])]
  have hlast : (c :: s).getLast? = (c :: s)[s.length]? := by
    rw [List.getLast?_eq_getElem?, List.length_cons, Nat.add_sub_cancel]
  generalize hn : s.length = n at h
  cases lexeme_ends h with
  | blank hblank => simp [hblank] at ht
  | comment hcomment => simp [Token.isBlank_of_isComment hcomment] at ht
  | solid x _ hword _ hx hend =>
    rw [Token.clipped_eq_self_iff.2 hword]
    rw [← hn] at hend h
    exact ⟨s, hkeep hx (hlast.trans hend), h⟩
  | question hd hc hs =>
    obtain ⟨b, rfl⟩ := List.length_eq_one_iff.1 hn
    subst hc
    cases hb : Text.isBlank b with
    | false => exact ⟨[b], hkeep hb rfl, h⟩
    | true =>
      refine ⟨[], (List.rdropWhile_concat_pos _ ['?'] _ hb).trans rfl, ?_⟩
      cases d <;> first | rfl | cases hd
  | sign hd w hw b hb hs =>
    have htext : c :: s = w ++ [b] := (hs.eq_of_length (by simp [hn])).symm
    rw [htext, List.rdropWhile_concat_pos _ _ _ hb, clipped_sign hb]
    subst hd
    simp only [List.mem_cons, List.not_mem_nil, or_false] at hw
    obtain rfl | rfl | rfl := hw <;> cases htext
    · exact ⟨[], rfl, rfl⟩
    · exact ⟨[], rfl, rfl⟩
    · exact ⟨['@'], rfl, rfl⟩

end Lexer
end Sql
end QueryTemplate
