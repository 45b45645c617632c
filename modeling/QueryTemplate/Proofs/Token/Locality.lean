/-
# Lexemes and what follows them

A lexeme ends where it did before if the text behind it is cut off, or if a blank stands there
instead (`lexeme_cut`): this is so for strings, names, numbers, words, operators and parameters
of every dialect.  How far a reader looks ahead differs, but it never sees a difference between
a blank and what ended its lexeme.  Comments are the exception, since they may be cut short.
-/

import QueryTemplate.Proofs.Token.Reads
import QueryTemplate.Proofs.Token.Rules
import QueryTemplate.Proofs.Token.Taken

namespace QueryTemplate
namespace Sql
namespace Lexer

open Quoted (Agrees Closes)

variable {d : Dialect} {c quote : Char} {q s u v w : List Char} {t : Token} {n before : Nat}

/-- Text that was closed is found again where what follows it is cut. -/
theorem Cuts.found {found : List Char → Prop} (hcut : Cuts u v)
    (h : Closes quote (q ++ u) n found) (hquote : quote ≠ ' ') (hn : n ≤ q.length) :
    found (q ++ v) :=
  h.found (hcut.agrees hquote hn)

/-- A character that is found with the cut was there before. -/
theorem Cuts.eq_cons (hcut : Cuts u v) (h : q ++ v = c :: s) (hc : c ≠ ' ') :
    ∃ q', q = c :: q' ∧ q' ++ v = s := by
  rcases q with _ | ⟨x, q⟩
  · have hv : v = c :: s := h
    exact absurd (hcut.head c (by simp [hv])) hc
  · rw [List.cons_append, List.cons.injEq] at h
    exact ⟨q, by rw [h.1], h.2⟩

/-- A character that does not follow a word does not follow it where the text is cut, unless it is
the blank. -/
theorem Cuts.head?_ne (hcut : Cuts u v) (hc : c ≠ ' ') (h : (q ++ u).head? ≠ some c) :
    (q ++ v).head? ≠ some c := by
  intro hhead
  obtain ⟨s, hs⟩ := List.head?_eq_some_iff.1 hhead
  obtain ⟨q, rfl, -⟩ := hcut.eq_cons hs hc
  exact h rfl

/-- A front part without spaces ends before the cut. -/
theorem Cuts.front (hcut : Cuts u v) (hw : w <+: q ++ v) (hspace : ' ' ∉ w) : w <+: q := by
  rcases Nat.le_total w.length q.length with hle | hle
  · exact List.prefix_of_prefix_length_le hw (List.prefix_append q v) hle
  · obtain ⟨r, rfl⟩ := List.prefix_of_prefix_length_le (List.prefix_append q v) hw hle
    rw [List.prefix_append_right_inj] at hw
    rcases r with _ | ⟨x, r⟩
    · simp
    · obtain ⟨rest, rfl⟩ := hw
      obtain rfl := hcut.head x rfl
      exact absurd (by simp) hspace

/-! ## Strings -/

/-- A string token is its content, with the marks before it counted. -/
theorem stringToken_eq_ok_iff {kind : StringKind} {skip place : Nat}
    {content : Option Quoted.Content} :
    stringToken kind skip place content = .ok (t, n) ↔
      ∃ cs k, content = some (cs, k) ∧ .string kind (String.ofList cs) = t ∧ skip + k = n := by
  rcases content with _ | ⟨cs, k⟩ <;> simp [stringToken]

section StringAt

variable {escapes : Bool} {one three : StringKind}

/-- Three quotes start a text in three quotes. -/
theorem stringAt_three (s : List Char) :
    stringAt quote escapes true one three before (quote :: quote :: s) =
      stringToken three (before + 2) (before + 3) (Quoted.tripleQuoted quote escapes s) := by
  simp [stringAt]

/-- Two quotes that no quote follows are the empty string. -/
theorem stringAt_empty (hs : s.head? ≠ some quote) :
    stringAt quote escapes true one three before (quote :: s) =
      .ok (.string one "", before + 1) := by
  cases s <;> simp_all [stringAt]

/-- One quote before another character starts a quoted text. -/
theorem stringAt_one (s : List Char) (hc : c ≠ quote) :
    stringAt quote escapes true one three before (c :: s) =
      stringToken one before (before + 1) (Quoted.quoted quote escapes (c :: s)) := by
  cases s <;> simp [stringAt, hc]

/-- A string in quotes is closed by its quote, in one quote or in three. -/
theorem stringAt_closes {triples : Bool}
    (h : stringAt quote escapes triples one three before s = .ok (t, n)) :
    ∃ k, before + k = n ∧ Closes quote s k fun s' =>
      stringAt quote escapes triples one three before s' = .ok (t, n) := by
  cases triples with
  | false =>
    obtain ⟨cs, k, h', rfl, rfl⟩ := stringToken_eq_ok_iff.1 h
    refine ⟨k, rfl, (Quoted.quoted_closes h').append [] fun t _ ht => ?_⟩
    exact stringToken_eq_ok_iff.2 ⟨_, _, ht, rfl, rfl⟩
  | true =>
    rcases s with _ | ⟨c, s⟩
    · simp [stringAt] at h
    by_cases hc : c = quote
    case neg =>
      rw [stringAt_one s hc] at h
      obtain ⟨cs, k, h', rfl, rfl⟩ := stringToken_eq_ok_iff.1 h
      refine ⟨k, rfl, (Quoted.quoted_closes h').append [] fun t hhead ht => ?_⟩
      obtain ⟨t, rfl⟩ := List.head?_eq_some_iff.1 hhead
      exact (stringAt_one t hc).trans (stringToken_eq_ok_iff.2 ⟨_, _, ht, rfl, rfl⟩)
    subst hc
    by_cases hs : s.head? = some c
    · obtain ⟨s, rfl⟩ := List.head?_eq_some_iff.1 hs
      rw [stringAt_three] at h
      obtain ⟨cs, k, h', rfl, rfl⟩ := stringToken_eq_ok_iff.1 h
      refine ⟨k + 2, by omega, (Quoted.tripleQuoted_closes h').append [c, c] fun t _ ht => ?_⟩
      exact (stringAt_three t).trans (stringToken_eq_ok_iff.2 ⟨_, _, ht, rfl, rfl⟩)
    · rw [stringAt_empty hs] at h
      cases h
      exact ⟨1, rfl, .alone hs fun t ht => stringAt_empty ht⟩

end StringAt

/-- A mark in front of a string. -/
theorem closes_of_mark {escapes triples : Bool} {one three : StringKind}
    (hquote : quote = '\'' ∨ quote = '"')
    (hr : ∀ s, markedString? d c (quote :: s) =
      some (stringAt quote escapes triples one three 1 s))
    (h : stringAt quote escapes triples one three 1 s = .ok (t, n)) :
    ∃ q, (q = '\'' ∨ q = '"') ∧
      Closes q (quote :: s) n fun s' => markedString? d c s' = some (.ok (t, n)) := by
  obtain ⟨k, rfl, hk⟩ := stringAt_closes h
  refine ⟨quote, hquote, ?_⟩
  rw [Nat.add_comm]
  exact hk.cons quote fun s' _ hs' => by rw [hr, Nat.add_comm, hs']

/-- A string with a mark in front of it is closed by one of the two quotes. -/
theorem markedString?_closes (h : markedString? d c s = some (.ok (t, n))) :
    ∃ q, (q = '\'' ∨ q = '"') ∧
      Closes q s n fun s' => markedString? d c s' = some (.ok (t, n)) := by
  cases markedString?_cases h with
  | string _ hquote hs hmark hr =>
    subst hs
    exact closes_of_mark hquote hmark hr.symm
  | escaped _ hs hmark hr =>
    subst hs
    obtain ⟨cs, k, hcontent, rfl, rfl⟩ := escapedString_eq_ok_iff.1 hr.symm
    refine ⟨'\'', .inl rfl, ?_⟩
    rw [Nat.add_comm]
    refine (Quoted.escaped_closes hcontent).cons '\'' fun s' _ hs' => ?_
    rw [hmark, escapedString_eq_ok_iff.2 ⟨cs, k, hs', rfl, Nat.add_comm 1 k⟩]
  | codePoints _ hs hmark hr =>
    subst hs
    obtain ⟨cs, k, hcontent, rfl, rfl⟩ := codePointString_eq_ok_iff.1 hr.symm
    refine ⟨'\'', .inl rfl, ?_⟩
    rw [Nat.add_comm]
    refine (Quoted.codePoints_closes hcontent).append ['&', '\''] fun s' _ hs' => ?_
    have hstring := codePointString_eq_ok_iff.2 ⟨cs, k, hs', rfl, Nat.add_comm 2 k⟩
    exact (hmark s').trans (by rw [hstring])

/-- Where a mark is none, it stays none if what follows is cut. -/
theorem markedString?_none_cut (h : markedString? d c (q ++ u) = none) (hcut : Cuts u v) :
    markedString? d c (q ++ v) = none := by
  cases hmarked : markedString? d c (q ++ v) with
  | none => rfl
  | some r =>
    cases markedString?_cases hmarked with
    | string _ hquote hs hmark =>
      obtain ⟨q, rfl, -⟩ := hcut.eq_cons hs (by rcases hquote with rfl | rfl <;> decide)
      rw [List.cons_append, hmark] at h
      cases h
    | escaped _ hs hmark =>
      obtain ⟨q, rfl, -⟩ := hcut.eq_cons hs (by decide)
      rw [List.cons_append, hmark] at h
      cases h
    | codePoints _ hs hmark =>
      obtain ⟨q, rfl, hs'⟩ := hcut.eq_cons hs (by decide)
      obtain ⟨q, rfl, -⟩ := hcut.eq_cons hs' (by decide)
      rw [List.cons_append, List.cons_append, hmark] at h
      cases h

/-! ## Comments, words and symbols -/

/-- Where no comment starts, none starts after the text is cut. -/
theorem comment?_none_cut (h : comment? d (c :: (q ++ u)) = none) (hcut : Cuts u v) :
    comment? d (c :: (q ++ v)) = none := by
  cases hcomment : comment? d (c :: (q ++ v)) with
  | none => rfl
  | some r =>
    cases comment?_cases hcomment with
    | @line mark w body hw hs hmark =>
      have hspace : ' ' ∉ w := fun hspace => absurd (hw ' ' hspace) (by decide)
      obtain ⟨q, rfl⟩ := hcut.front ⟨_, hs.symm⟩ hspace
      rw [List.append_assoc, hmark] at h
      cases h
    | block hc hs =>
      subst hc
      obtain ⟨q, rfl, -⟩ := hcut.eq_cons hs (by decide)
      cases h

/-- A word that ends before the cut is read as before. -/
theorem word_cut {start : List Char} (h : word d start (q ++ u) = (t, n))
    (hn : n ≤ start.length - 1 + q.length) (hcut : Cuts u v) : word d start (q ++ v) = (t, n) := by
  have htakes : Takes (List.takeWhile d.continuesWord) := .takeWhile (noBlank_continuesWord d)
  rw [word, Prod.mk.injEq] at h
  have hlength : ((q ++ u).takeWhile d.continuesWord).length ≤ q.length := by omega
  rw [word, htakes.cut hlength hcut]
  exact Prod.ext h.1 h.2

/-- The symbols hold no blank. -/
theorem symbols_solid : ∀ s ∈ symbols, ∀ x ∈ s.toList, Text.isBlank x = false := by
  have hall : symbols.all (fun s => s.toList.all fun x => !Text.isBlank x) = true := by
    decide
  intro s hs x hx
  simpa using List.all_eq_true.1 (List.all_eq_true.1 hall s hs) x hx

/-- No symbol holds a blank. -/
theorem space_notMem_symbols {s : String} (hs : s ∈ symbols) : ' ' ∉ s.toList := by
  intro hspace
  cases symbols_solid s hs ' ' hspace

/-- A text has no symbol in front if another has none and every symbol in front of the first is in
front of the other. -/
theorem longestSymbol?_none_of_front (h : longestSymbol? d s = none)
    (hfront : ∀ s' ∈ symbols, s'.toList <+: w → s'.toList <+: s) : longestSymbol? d w = none := by
  rw [longestSymbol?, List.find?_eq_none] at h ⊢
  intro s' hs' hfound
  refine h s' hs' ?_
  rw [Bool.and_eq_true, List.isPrefixOf_iff_prefix] at hfound ⊢
  exact ⟨hfound.1, hfront s' hs' hfound.2⟩

/-- The longest symbol stays where it is the front of a text that begins with no other one. -/
theorem longestSymbol?_of_front {symbol : String} (h : longestSymbol? d s = some symbol)
    (hsymbol : symbol.toList <+: w) (hfront : ∀ s' ∈ symbols, s'.toList <+: w → s'.toList <+: s) :
    longestSymbol? d w = some symbol := by
  rw [longestSymbol?, List.find?_eq_some_iff_append] at h ⊢
  obtain ⟨hfound, longer, shorter, hsplit, hnone⟩ := h
  rw [Bool.and_eq_true, List.isPrefixOf_iff_prefix] at hfound ⊢
  refine ⟨⟨hfound.1, hsymbol⟩, longer, shorter, hsplit, ?_⟩
  intro s' hs'
  have hmem : s' ∈ symbols := hsplit ▸ List.mem_append_left _ hs'
  have hnone' := hnone s' hs'
  rw [Bool.not_eq_true', ← Bool.not_eq_true, Bool.and_eq_true,
    List.isPrefixOf_iff_prefix] at hnone' ⊢
  exact fun h => hnone' ⟨h.1, hfront s' hmem h.2⟩

/-- The symbol that is read stands in front of the text. -/
theorem prefix_of_longestSymbol? {symbol : String} (h : longestSymbol? d s = some symbol) :
    symbol.toList <+: s := by
  have hfound := List.find?_some h
  rw [Bool.and_eq_true, List.isPrefixOf_iff_prefix] at hfound
  exact hfound.2

/-- A symbol before the cut was there before. -/
theorem Cuts.symbol_front (hcut : Cuts u v) :
    ∀ s ∈ symbols, s.toList <+: q ++ v → s.toList <+: q ++ u := fun _ hs hfront =>
  (hcut.front hfront (space_notMem_symbols hs)).trans (List.prefix_append q u)

/-- Where no symbol starts, none starts after the text is cut. -/
theorem longestSymbol?_none_cut (h : longestSymbol? d (q ++ u) = none) (hcut : Cuts u v) :
    longestSymbol? d (q ++ v) = none :=
  longestSymbol?_none_of_front h hcut.symbol_front

/-- A symbol that ends before the cut is read as before, since a blank continues none. -/
theorem longestSymbol?_cut {s : String} (h : longestSymbol? d (q ++ u) = some s)
    (hs : s.toList.length ≤ q.length) (hcut : Cuts u v) :
    longestSymbol? d (q ++ v) = some s := by
  have hfront := List.prefix_of_prefix_length_le (prefix_of_longestSymbol? h)
    (List.prefix_append q u) hs
  exact longestSymbol?_of_front h (hfront.trans (List.prefix_append q v)) hcut.symbol_front

/-- The token of a symbol that ends before the cut is read as before. -/
theorem symbol_cut {s : String} (h : symbol d s (q ++ u) = (t, n)) (hs : s.toList ≠ [])
    (hn : n < q.length) (hcut : Cuts u v) : symbol d s (q ++ v) = (t, n) := by
  have hpos := List.length_pos_iff.2 hs
  by_cases hext : extensible.contains s = true
  case neg =>
    rw [Bool.not_eq_true] at hext
    simpa only [symbol, hext, Bool.not_false, Bool.or_true, if_true] using h
  have hmore : ((q ++ v).drop s.toList.length).takeWhile d.extendsOperator =
      ((q ++ u).drop s.toList.length).takeWhile d.extendsOperator := by
    have hle : s.toList.length ≤ q.length ∧
        s.toList.length + (((q ++ u).drop s.toList.length).takeWhile d.extendsOperator).length ≤
          q.length := by
      simp only [symbol, hext, Bool.not_true, Bool.or_false] at h
      split at h <;> cases h
      case isTrue hnil =>
        rw [List.isEmpty_iff.1 hnil, List.length_nil]
        omega
      case isFalse => omega
    have htakes : Takes (List.takeWhile d.extendsOperator) :=
      .takeWhile (by cases d <;> decide)
    rw [List.drop_append_of_le_length hle.1, List.drop_append_of_le_length hle.1]
    rw [List.drop_append_of_le_length hle.1] at hle
    refine htakes.cut ?_ hcut
    rw [List.length_drop]
    omega
  rwa [symbol, hmore]

/-- A sign that is a letter, and the character that it takes. -/
inductive SignTakes (d : Dialect) : List Char → Char → Prop
  | hash {x : Char} (hd : d.startsWord '#' = true) (hx : ['-', '>', ' '].contains x = false) :
      SignTakes d ['#'] x
  | double {x : Char} (hd : d.startsWord '@' = true) (hx : x ≠ ' ') : SignTakes d ['@', '@'] x
  | single {x : Char} (hd : d.startsWord '@' = true)
      (hx : ['>', '?', '@', ' '].contains x = false) : SignTakes d ['@'] x

/-- A sign that starts a word does so without a blank. -/
theorem SignTakes.space_notMem {x : Char} (h : SignTakes d w x) : ' ' ∉ w ++ [x] := by
  intro hspace
  cases h <;> simp at hspace <;> subst hspace <;> simp_all

/-- What a sign takes is read as a word. -/
theorem SignTakes.signWord? {x : Char} (h : SignTakes d w x) (rest : List Char) :
    signWord? d (w ++ x :: rest) = some (word d (w ++ [x]) rest) := by
  cases h with
  | hash hd hx => simp only [List.singleton_append, Lexer.signWord?, hd, hx]; rfl
  | double hd hx => simp [Lexer.signWord?, hd, hx]
  | single hd hx =>
    have hsecond : x ≠ '@' := by
      rintro rfl
      simp at hx
    simpa [Lexer.signWord?, hsecond, hd] using hx

/-- Whatever is read as a word after a sign is what the sign takes. -/
theorem exists_signTakes {r : Token × Nat} (h : signWord? d s = some r) :
    ∃ w x rest, SignTakes d w x ∧ w ++ x :: rest = s ∧ word d (w ++ [x]) rest = r := by
  unfold signWord? at h
  split at h
  case h_1 x rest =>
    obtain ⟨hx, h⟩ := Option.ite_none_right_eq_some.1 h
    rw [Bool.and_eq_true, Bool.not_eq_true'] at hx
    exact ⟨['#'], x, rest, .hash hx.1 hx.2, rfl, Option.some.inj h⟩
  case h_2 x rest =>
    obtain ⟨hx, h⟩ := Option.ite_none_right_eq_some.1 h
    rw [Bool.and_eq_true, bne_iff_ne] at hx
    exact ⟨['@', '@'], x, rest, .double hx.1 hx.2, rfl, Option.some.inj h⟩
  case h_3 x rest _ =>
    obtain ⟨hx, h⟩ := Option.ite_none_right_eq_some.1 h
    rw [Bool.and_eq_true, Bool.not_eq_true'] at hx
    exact ⟨['@'], x, rest, .single hx.1 hx.2, rfl, Option.some.inj h⟩
  case h_4 => cases h

/-- Where no sign starts a word, none does after the text is cut. -/
theorem signWord?_none_cut (h : signWord? d (q ++ u) = none) (hcut : Cuts u v) :
    signWord? d (q ++ v) = none := by
  cases hsign : signWord? d (q ++ v) with
  | none => rfl
  | some r =>
    obtain ⟨w, x, rest, htakes, hs, -⟩ := exists_signTakes hsign
    have hw : w ++ [x] <+: q ++ v := ⟨rest, by rw [← hs, List.append_assoc]; rfl⟩
    obtain ⟨q, rfl⟩ := hcut.front hw htakes.space_notMem
    rw [List.append_assoc, List.append_assoc, List.singleton_append, htakes.signWord?] at h
    cases h

/-- A word takes at least what it starts with. -/
theorem word_length {start : List Char} (h : word d start s = (t, n)) : start.length - 1 ≤ n := by
  rw [word, Prod.mk.injEq] at h
  omega

/-- A word after a sign that ends before the cut is read as before. -/
theorem signWord?_cut (h : signWord? d (q ++ u) = some (t, n)) (hn : n < q.length)
    (hcut : Cuts u v) : signWord? d (q ++ v) = some (t, n) := by
  obtain ⟨w, x, rest, htakes, hs, hword⟩ := exists_signTakes h
  have hlength := word_length hword
  rw [List.length_append, List.length_singleton] at hlength
  have hw : w ++ [x] <+: q ++ u := ⟨rest, by rw [← hs, List.append_assoc]; rfl⟩
  obtain ⟨q, rfl⟩ := List.prefix_of_prefix_length_le hw (List.prefix_append q u) (by
    rw [List.length_append, List.length_singleton]
    omega)
  rw [List.append_assoc, List.append_assoc, List.singleton_append, List.append_cancel_left_eq,
    List.cons.injEq] at hs
  rw [hs.2] at hword
  rw [List.append_assoc, List.append_assoc, List.singleton_append, htakes.signWord?,
    word_cut hword ?_ hcut]
  simp at hn ⊢
  omega

/-! ## After a dollar sign -/

/-- A character of a tag. -/
def isTagChar (c : Char) : Bool := Text.isAlphabetic c || Text.isNumeric c || c == '_'

/-- A tag between dollar signs, or the name of a parameter. -/
def tagOf : List Char → List Char := List.takeWhile isTagChar

/-- The tag of a dollar string is a run of characters of one class. -/
theorem takes_tagOf : Takes tagOf :=
  .takeWhile ((noBlank_isAlphabetic.or noBlank_isNumeric).or (by decide))

/-- Two dollar signs start a text between double dollar signs. -/
theorem dollar_double {cs : List Char} (h : Quoted.dollarQuoted s = some (cs, n)) :
    dollar ('$' :: s) = .ok (.dollarString none (String.ofList cs), n + 1) := by
  simp [dollar, h]

/-- What a single dollar sign starts depends on what follows its tag. -/
theorem dollar_of_head (hs : s.head? ≠ some '$') : dollar s =
    match s.drop (tagOf s).length with
    | '$' :: body =>
      match Quoted.tagQuoted (tagOf s) body with
      | some (cs, n) =>
        .ok (.dollarString (some (String.ofList (tagOf s))) (String.ofList cs),
          (tagOf s).length + n + 1)
      | none => .error (.unterminatedTag, s.length + 1)
    | _ => .ok (.parameter (String.ofList ('$' :: tagOf s)), (tagOf s).length) := by
  unfold dollar
  split
  case h_1 => exact absurd rfl hs
  case h_2 => rfl

/-- A tag between dollar signs starts a text in tags. -/
theorem dollar_tag {cs : List Char} (hw : w ≠ []) (htag : ∀ s, tagOf (w ++ '$' :: s) = w)
    (h : Quoted.tagQuoted w s = some (cs, n)) :
    dollar (w ++ '$' :: s) =
      .ok (.dollarString (some (String.ofList w)) (String.ofList cs), w.length + n + 1) := by
  have hhead : (w ++ '$' :: s).head? ≠ some '$' := by
    rcases w with _ | ⟨x, w⟩
    · exact absurd rfl hw
    · rintro hx
      obtain rfl : x = '$' := by simpa using hx
      cases htag []
  simp [dollar_of_head hhead, htag, h]

/-- A dollar sign whose tag no dollar sign follows is a parameter. -/
theorem dollar_parameter (hs : s.head? ≠ some '$')
    (h : (s.drop (tagOf s).length).head? ≠ some '$') :
    dollar s = .ok (.parameter (String.ofList ('$' :: tagOf s)), (tagOf s).length) := by
  rw [dollar_of_head hs]
  split
  case h_1 hbody => exact absurd (by rw [hbody]; rfl) h
  case h_2 => rfl

/-- A dollar string with its tag is closed by its last dollar sign. -/
theorem dollar_tag_closes {cs : List Char} (hw : w ≠ [])
    (htag : ∀ s, tagOf (w ++ '$' :: s) = w) (h : Quoted.tagQuoted w s = some (cs, n)) :
    Closes '$' (w ++ '$' :: s) (w.length + n + 1) fun s' => dollar s' =
      .ok (.dollarString (some (String.ofList w)) (String.ofList cs), w.length + n + 1) := by
  have hopen : Closes '$' ('$' :: s) (n + 1) fun s' =>
      ∃ r, s' = '$' :: r ∧ Quoted.tagQuoted w r = some (cs, n) :=
    (Quoted.tagQuoted_closes h).cons '$' fun r _ hr => ⟨r, rfl, hr⟩
  have hcount : w.length + n + 1 = n + 1 + w.length := by omega
  rw [hcount]
  refine hopen.append w ?_
  rintro _ - ⟨r, rfl, hr⟩
  rw [← hcount]
  exact dollar_tag hw htag hr

/-- After a dollar sign there is closed text or the name of a parameter. -/
theorem dollar_closes (h : dollar s = .ok (t, n)) :
    Closes '$' s n (fun s' => dollar s' = .ok (t, n)) ∨
      s.head? ≠ some '$' ∧ (s.drop (tagOf s).length).head? ≠ some '$' ∧
        .parameter (String.ofList ('$' :: tagOf s)) = t ∧ (tagOf s).length = n := by
  by_cases hs : s.head? = some '$'
  · obtain ⟨body, rfl⟩ := List.head?_eq_some_iff.1 hs
    rcases hcontent : Quoted.dollarQuoted body with _ | ⟨cs, k⟩
    · simp [dollar, hcontent] at h
    · rw [dollar_double hcontent] at h
      cases h
      refine .inl ((Quoted.dollarQuoted_closes hcontent).cons '$' fun s' _ hs' => ?_)
      exact dollar_double hs'
  by_cases hnext : (s.drop (tagOf s).length).head? = some '$'
  · obtain ⟨body, hbody⟩ := List.head?_eq_some_iff.1 hnext
    have hsplit := List.prefix_iff_eq_append.1 (takes_tagOf.front s)
    rw [hbody] at hsplit
    have hw : tagOf s ≠ [] := by
      intro hnil
      rw [hnil] at hsplit
      exact hs (by rw [← hsplit]; rfl)
    have htag (s' : List Char) : tagOf (tagOf s ++ '$' :: s') = tagOf s := by
      have hend : tagOf ('$' :: s') = [] := rfl
      rw [tagOf, List.takeWhile_append_of_pos fun x => List.mem_takeWhile_imp]
      exact (congrArg (tagOf s ++ ·) hend).trans (List.append_nil _)
    rcases hcontent : Quoted.tagQuoted (tagOf s) body with _ | ⟨cs, k⟩
    · simp [dollar_of_head hs, hbody, hcontent] at h
    · have hclose := dollar_tag_closes hw htag hcontent
      rw [hsplit] at hclose
      rw [← hsplit, dollar_tag hw htag hcontent] at h
      cases h
      exact .inl hclose
  · rw [dollar_parameter hs hnext] at h
    cases h
    exact .inr ⟨hs, hnext, rfl, rfl⟩

/-- What a dollar sign starts and ends before the cut is read as before. -/
theorem dollar_cut (h : dollar (q ++ u) = .ok (t, n)) (hn : n ≤ q.length) (hcut : Cuts u v) :
    dollar (q ++ v) = .ok (t, n) := by
  rcases dollar_closes h with hclose | ⟨hs, hnext, rfl, rfl⟩
  · exact hcut.found hclose (by decide) hn
  · have htag : tagOf (q ++ v) = tagOf (q ++ u) := takes_tagOf.cut hn hcut
    have hnext' : ((q ++ v).drop (tagOf (q ++ v)).length).head? ≠ some '$' := by
      rw [List.drop_append_of_le_length hn] at hnext
      rw [htag, List.drop_append_of_le_length hn]
      exact hcut.head?_ne (by decide) hnext
    rw [dollar_parameter (hcut.head?_ne (by decide) hs) hnext', htag]

/-! ## Lexemes -/

/-- A string that ends before the cut is read as before. -/
theorem stringAt_cut {escapes triples : Bool} {one three : StringKind}
    (h : stringAt quote escapes triples one three 0 (q ++ u) = .ok (t, n)) (hquote : quote ≠ ' ')
    (hn : n ≤ q.length) (hcut : Cuts u v) :
    stringAt quote escapes triples one three 0 (q ++ v) = .ok (t, n) := by
  obtain ⟨k, rfl, hk⟩ := stringAt_closes h
  exact hcut.found hk hquote (by omega)

/-- A symbol's token takes all of the symbol but the character already read. -/
theorem symbol_length {s' : String} (h : symbol d s' s = (t, n)) : s'.toList.length - 1 ≤ n := by
  simp only [symbol] at h
  split at h <;> cases h <;> omega

/-- Every symbol has a character. -/
theorem toList_ne_nil_of_mem_symbols : ∀ s ∈ symbols, s.toList ≠ [] := by decide

/-- A token that starts in one of the special ways and ends before the cut is read as before. -/
theorem StartRule.cut (h : StartRule d c (q ++ u) t n) (hn : n ≤ q.length) (hcut : Cuts u v) :
    StartRule d c (q ++ v) t n := by
  cases h with
  | question hc hd ht hmin =>
    refine .question hc hd ht ?_
    rcases q with _ | ⟨x, q⟩
    · rw [List.nil_append] at hmin ⊢
      have hu : u = [] := List.eq_nil_of_length_eq_zero (by rw [List.length_nil] at hn; omega)
      rwa [hcut.nil hu, ← hu]
    · simpa using hmin
  | parameter hc hd ht hlength =>
    have htakes : Takes (List.takeWhile Text.isNumeric) := .takeWhile noBlank_isNumeric
    have hsame := htakes.cut (q := q) (hlength ▸ hn) hcut
    exact .parameter hc hd (by rw [hsame, ht]) (by rw [hsame, hlength])
  | word hc h => exact .word hc (word_cut h (by simpa using hn) hcut)
  | dollar hc h => exact .dollar hc (dollar_cut h hn hcut)
  | single hquestion hstart hdollar ht hn => exact .single hquestion hstart hdollar ht hn

/-- Every lexeme but a comment that ends before the cut is read as before. -/
theorem plainLexeme_cut (h : plainLexeme d c (q ++ u) = .ok (t, n)) (ht : t.isComment = false)
    (hn : n ≤ q.length) (hcut : Cuts u v) : plainLexeme d c (q ++ v) = .ok (t, n) := by
  have hlt : n < (c :: q).length := Nat.lt_succ_of_le hn
  rw [plainLexeme_eq_ok_iff] at h ⊢
  cases h with
  | number hdigit h => exact .number hdigit (number_cut (q := c :: q) h hlt hcut)
  | comment _ h => simp [isComment_of_comment? h] at ht
  | signWord hdigit hcomment h =>
    exact .signWord hdigit (comment?_none_cut hcomment hcut)
      (signWord?_cut (q := c :: q) h hlt hcut)
  | @symbol hdigit hcomment hsign x hsymbol h =>
    have hnil := toList_ne_nil_of_mem_symbols x (List.mem_of_find?_eq_some hsymbol)
    have hlength := symbol_length h
    exact .symbol hdigit (comment?_none_cut hcomment hcut)
      (signWord?_none_cut (q := c :: q) hsign hcut)
      (longestSymbol?_cut (q := c :: q) hsymbol (by omega) hcut)
      (symbol_cut (q := c :: q) h hnil hlt hcut)
  | start hdigit hcomment hsign hsymbol h =>
    exact .start hdigit (comment?_none_cut hcomment hcut)
      (signWord?_none_cut (q := c :: q) hsign hcut)
      (longestSymbol?_none_cut (q := c :: q) hsymbol hcut) (h.cut hn hcut)

/-- **A lexeme is read again where the text behind it is cut.** -/
theorem lexeme_cut (h : lexeme d c (q ++ u) = .ok (t, n)) (ht : t.isComment = false)
    (hn : n ≤ q.length) (hcut : Cuts u v) : lexeme d c (q ++ v) = .ok (t, n) := by
  by_cases hspecial : c ∈ [' ', '\t', '\n', '\r']
  · simp only [List.mem_cons, List.not_mem_nil, or_false] at hspecial
    obtain rfl | rfl | rfl | rfl := hspecial
    · exact h
    · exact h
    · exact h
    rcases q with _ | ⟨x, q⟩
    · have hu : u.head? ≠ some '\n' := by
        intro hu
        simp [lexeme, hu] at h
        simp at hn
        omega
      have hv : v.head? ≠ some '\n' := hcut.head?_ne (q := []) (by decide) hu
      simpa [lexeme, hu, hv] using h
    · exact h
  rw [lexeme_eq hspecial, quotedLexeme_eq_ok_iff] at h ⊢
  cases h with
  | marked h =>
    obtain ⟨quote, hquote, hclose⟩ := markedString?_closes h
    have hblank : quote ≠ ' ' := by rcases hquote with rfl | rfl <;> decide
    exact .marked (hcut.found hclose hblank hn)
  | single hmarked hc h =>
    exact .single (markedString?_none_cut hmarked hcut) hc (stringAt_cut h (by decide) hn hcut)
  | double hmarked hc hd h =>
    exact .double (markedString?_none_cut hmarked hcut) hc hd (stringAt_cut h (by decide) hn hcut)
  | name hmarked hsingle hdouble hname hcontent ht =>
    have hblank : c ≠ ' ' := by
      rintro rfl
      simp at hspecial
    exact .name (markedString?_none_cut hmarked hcut) hsingle hdouble hname
      (hcut.found (Quoted.quoted_closes hcontent) hblank hn) ht
  | plain hmarked hsingle hdouble hname h =>
    exact .plain (markedString?_none_cut hmarked hcut) hsingle hdouble hname
      (plainLexeme_cut h ht hn hcut)

end Lexer
end Sql
end QueryTemplate
