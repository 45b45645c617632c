/-
# The tokens of a text without comments

`sanitize` writes text, and what it writes is read again later.  The new text has the tokens of
the old one (`sanitize_keeps_tokens`), with one blank for every comment, without the semicolon
at the end and without blanks at the ends.  One token may change, the last: where a sign took
the blank behind it as a letter, that blank is cut off and the sign is left alone.
-/

import Mathlib.Data.List.ModifyLast
import QueryTemplate.Proofs.Token.Tiling

namespace QueryTemplate

namespace Text

section Drop

variable {α : Type*} {P : α → Bool} {s back : List α}

/-- A back part that is all dropped leaves the front to be dropped from. -/
theorem rdropWhile_append_of_pos (hback : ∀ x ∈ back, P x = true) :
    (s ++ back).rdropWhile P = s.rdropWhile P := by
  have hreverse : ∀ x ∈ back.reverse, P x = true := by simpa using hback
  rw [List.rdropWhile, List.reverse_append, List.dropWhile_append_of_pos hreverse, List.rdropWhile]

/-- A back part that is not all dropped keeps the front. -/
theorem rdropWhile_append_of_ne_nil (hback : back.rdropWhile P ≠ []) :
    (s ++ back).rdropWhile P = s ++ back.rdropWhile P := by
  have hreverse : back.reverse.dropWhile P ≠ [] := by simpa [List.rdropWhile] using hback
  rw [List.rdropWhile, List.reverse_append, List.dropWhile_append, if_neg (by simpa using hreverse),
    List.reverse_append, List.reverse_reverse, List.rdropWhile]

/-- Where not all elements have a property, there is a last one that does not. -/
theorem forall_or_exists_last (P : α → Bool) (s : List α) :
    (∀ x ∈ s, P x = true) ∨
      ∃ init x back, s = init ++ x :: back ∧ P x = false ∧ ∀ y ∈ back, P y = true := by
  induction s using List.reverseRecOn with
  | nil => exact .inl (by simp)
  | append_singleton s x ih =>
    cases hx : P x with
    | false => exact .inr ⟨s, x, [], rfl, hx, by simp⟩
    | true =>
      rcases ih with hall | ⟨init, y, back, rfl, hy, hback⟩
      · exact .inl (List.forall_mem_append.2 ⟨hall, by simpa using hx⟩)
      · refine .inr ⟨init, y, back ++ [x], by simp, hy, ?_⟩
        exact List.forall_mem_append.2 ⟨hback, by simpa using hx⟩

/-- A list without its ends that have a property. -/
theorem exists_ends (P : α → Bool) (s : List α) :
    ∃ front mid back, s = front ++ (mid ++ back) ∧ (s.rdropWhile P).dropWhile P = mid ∧
      (∀ x ∈ front, P x = true) ∧ (∀ x ∈ back, P x = true) ∧
      (∀ x ∈ mid.head?, P x = false) ∧ ∀ x ∈ mid.getLast?, P x = false := by
  have hlast : ∀ x ∈ (s.rdropWhile P).getLast?, P x = false := by
    intro x hx
    rw [List.rdropWhile, List.getLast?_reverse] at hx
    have hhead := List.head?_dropWhile_not P s.reverse
    rw [hx] at hhead
    simpa using hhead
  have hsplit := List.takeWhile_append_dropWhile (p := P) (l := s.rdropWhile P)
  refine ⟨(s.rdropWhile P).takeWhile P, _, s.rtakeWhile P, ?_, rfl, ?_, ?_, ?_, ?_⟩
  · rw [← List.append_assoc, hsplit, List.rdropWhile_append_rtakeWhile]
  · exact fun x hx => List.mem_takeWhile_imp hx
  · exact fun x hx => List.mem_rtakeWhile_imp hx
  · intro x hx
    have hhead := List.head?_dropWhile_not P (s.rdropWhile P)
    rw [hx] at hhead
    simpa using hhead
  · intro x hx
    refine hlast x ?_
    rw [← hsplit, List.getLast?_append, hx, Option.some_or, Option.mem_some]

end Drop

variable {front s back : List Char} {c : Char}

/-- Trimming takes the blanks around a text that starts with another character. -/
theorem trimList_append (hfront : ∀ x ∈ front, isBlank x = true) (hc : isBlank c = false)
    (hback : ∀ x ∈ back, isBlank x = true) :
    trimList (front ++ (c :: s ++ back)) = (c :: s).rdropWhile isBlank := by
  rw [trimList, List.dropWhile_append_of_pos hfront, List.cons_append,
    List.dropWhile_cons_of_neg (by simp [hc]), ← List.cons_append]
  exact rdropWhile_append_of_pos hback

/-- Blanks are trimmed to nothing. -/
theorem trimList_eq_nil (h : ∀ x ∈ s, isBlank x = true) : trimList s = [] := by
  rw [trimList, List.dropWhile_eq_nil_iff.2 h]
  rfl

end Text

namespace Sql

open Lexer
open Text (rdropWhile_append_of_pos rdropWhile_append_of_ne_nil forall_or_exists_last)

/-- A token, or a blank for a comment. -/
def Token.uncommented (t : Token) : Token := if t.isComment then .space else t

/-- Tokens without the last one that is no blank if it is a semicolon. -/
def withoutSemicolon (ts : List Token) : List Token :=
  let body := ts.rdropWhile Token.isBlank
  if body.getLast? = some (.symbol ";") then body.dropLast ++ ts.drop body.length else ts

/-- Tokens without the blanks at both ends. -/
def stripped (ts : List Token) : List Token :=
  (ts.rdropWhile Token.isBlank).dropWhile Token.isBlank

/-- Tokens of which the last one is clipped. -/
def clipLast (ts : List Token) : List Token := ts.modifyLast Token.clipped

/-- A piece that is a blank or a comment. -/
def Piece.isBlank (p : Piece) : Bool := p.token.isBlank

/-- The tokens that a text keeps: no comments, no semicolon at the end and no blank ends. -/
def keptTokens (ts : List Token) : List Token :=
  stripped (withoutSemicolon (ts.map Token.uncommented))

variable {d : Dialect} {ps front back : List Piece} {p : Piece} {ts bs : List Token} {t : Token}
  {ls : List Lexeme} {sql : String}

/-! ## The semicolon at the end -/

/-- Among blanks there is no semicolon to drop. -/
theorem withoutSemicolon_of_blank (h : ∀ t ∈ ts, t.isBlank = true) : withoutSemicolon ts = ts := by
  simp [withoutSemicolon, List.rdropWhile_eq_nil_iff.2 h]

/-- The last token that is no blank is dropped if it is a semicolon. -/
theorem withoutSemicolon_append (ht : t.isBlank = false) (hbs : ∀ t ∈ bs, t.isBlank = true) :
    withoutSemicolon (ts ++ t :: bs) =
      if t = .symbol ";" then ts ++ bs else ts ++ t :: bs := by
  have hbody : (ts ++ t :: bs).rdropWhile Token.isBlank = ts ++ [t] := by
    rw [← List.singleton_append, ← List.append_assoc, rdropWhile_append_of_pos hbs,
      List.rdropWhile_concat_neg _ _ _ (by simp [ht])]
  simp [withoutSemicolon, hbody]

/-- Pieces that are blank do not hide the last semicolon. -/
theorem dropSemicolon_append (hback : ∀ p ∈ back, p.isBlank = true) :
    dropSemicolon (back ++ ps) = back ++ dropSemicolon ps := by
  induction back with
  | nil => rfl
  | cons p back ih =>
    have hp : p.token.isBlank = true := hback p List.mem_cons_self
    rw [List.cons_append, dropSemicolon, if_pos hp,
      ih fun q hq => hback q (List.mem_cons_of_mem _ hq), List.cons_append]

/-- A piece that is no blank is dropped if it is a semicolon. -/
theorem dropSemicolon_cons (hp : p.isBlank = false) :
    dropSemicolon (p :: ps) = if p.token = .symbol ";" then ps else p :: ps := by
  rw [dropSemicolon, if_neg (by simpa [Piece.isBlank] using hp)]
  simp only [beq_iff_eq]

/-- Pieces end in blanks, and before these they lose at most a semicolon. -/
theorem exists_dropSemicolon (ps : List Piece) :
    ∃ body back, (dropSemicolon ps.reverse).reverse = body ++ back ∧ body <+: ps ∧
      (∀ p ∈ back, p ∈ ps ∧ p.isBlank = true) ∧
      withoutSemicolon (ps.map Piece.token) = (body ++ back).map Piece.token := by
  rcases forall_or_exists_last Piece.isBlank ps with hblank |
    ⟨init, p, back, rfl, hp, hback⟩
  · refine ⟨[], ps, ?_, List.nil_prefix, fun p hp => ⟨hp, hblank p hp⟩, ?_⟩
    · have hreverse : ∀ p ∈ ps.reverse, p.isBlank = true := by simpa using hblank
      rw [← List.append_nil ps.reverse, dropSemicolon_append hreverse, dropSemicolon,
        List.append_nil, List.reverse_reverse, List.nil_append]
    · exact withoutSemicolon_of_blank (List.forall_mem_map.2 hblank)
  · have hdrop : dropSemicolon (init ++ p :: back).reverse =
        back.reverse ++ if p.token = .symbol ";" then init.reverse else p :: init.reverse := by
      rw [List.reverse_append, List.reverse_cons, List.append_assoc, dropSemicolon_append,
        List.singleton_append, dropSemicolon_cons hp]
      exact fun q hq => hback q (List.mem_reverse.1 hq)
    have hmem : ∀ q ∈ back, q ∈ init ++ p :: back ∧ q.isBlank = true :=
      fun q hq => ⟨by simp [hq], hback q hq⟩
    rw [hdrop, List.map_append, List.map_cons,
      withoutSemicolon_append hp (List.forall_mem_map.2 hback)]
    by_cases hsemicolon : p.token = .symbol ";"
    · refine ⟨init, back, ?_, List.prefix_append _ _, hmem, ?_⟩ <;> simp [hsemicolon]
    · refine ⟨init ++ [p], back, ?_, ⟨back, by simp⟩, hmem, ?_⟩ <;> simp [hsemicolon]

/-- Stripping the tokens of blanks is stripping the pieces. -/
theorem stripped_map (ps : List Piece) :
    stripped (ps.map Piece.token) =
      ((ps.rdropWhile Piece.isBlank).dropWhile Piece.isBlank).map Piece.token := by
  rw [stripped, List.rdropWhile, ← List.map_reverse, List.dropWhile_map, ← List.map_reverse,
    List.dropWhile_map]
  rfl

/-! ## Blank ends -/

namespace Tiled

/-- Every piece of a row is read as a lexeme where it stands. -/
theorem exists_lexeme (h : Tiled d ps) (hp : p ∈ ps) :
    ∃ c cs rest, p.text = c :: cs ∧ lexeme d c (cs ++ rest) = .ok (p.token, cs.length) := by
  induction h with
  | nil => cases hp
  | cons h _ ih =>
    rcases List.mem_cons.1 hp with rfl | hp
    · exact ⟨_, _, _, rfl, h⟩
    · exact ih hp

/-- Where the first piece is no blank, the text begins with none. -/
theorem exists_joinPieces_cons (h : Tiled d ps) (hne : ps ≠ [])
    (hfirst : ∀ p ∈ ps.head?, p.isBlank = false) :
    ∃ c cs, joinPieces ps = c :: cs ∧ Text.isBlank c = false := by
  cases h with
  | nil => exact absurd rfl hne
  | cons hlexeme => exact ⟨_, _, rfl, (lexeme_ends hlexeme).isBlank_eq_false (hfirst _ rfl)⟩

/-- Blank pieces make up blank text. -/
theorem joinPieces_blank (h : Tiled d ps) (hps : ∀ p ∈ ps, p.token.isComment = false)
    {qs : List Piece} (hqs : ∀ p ∈ qs, p ∈ ps ∧ p.isBlank = true) :
    ∀ x ∈ joinPieces qs, Text.isBlank x = true := by
  intro x hx
  obtain ⟨p, hp, hx⟩ := List.mem_flatMap.1 hx
  obtain ⟨c, cs, rest, htext, hlexeme⟩ := h.exists_lexeme (hqs p hp).1
  have hblank := (lexeme_ends hlexeme).blanks (hqs p hp).2 (hps p (hqs p hp).1)
  rw [List.take_left, ← htext] at hblank
  exact hblank x hx

/-- **Trimming reaches one token**, the last: what stands before it is read as before. -/
theorem exists_trimmed {front back : List Char} (h : Tiled d ps)
    (hps : ∀ p ∈ ps, p.token.isComment = false)
    (hfirst : ∀ p ∈ ps.head?, p.isBlank = false)
    (hlast : ∀ p ∈ ps.getLast?, p.isBlank = false)
    (hfront : ∀ x ∈ front, Text.isBlank x = true) (hback : ∀ x ∈ back, Text.isBlank x = true) :
    ∃ ps', Tiled d ps' ∧ joinPieces ps' = Text.trimList (front ++ (joinPieces ps ++ back)) ∧
      ps'.map Piece.token = clipLast (ps.map Piece.token) := by
  rcases List.eq_nil_or_concat ps with rfl | ⟨init, last, rfl⟩
  · refine ⟨[], .nil, (Text.trimList_eq_nil ?_).symm, rfl⟩
    simpa using fun x => Or.rec (hfront x) (hback x)
  rw [List.concat_eq_append] at *
  obtain ⟨t, text⟩ := last
  have ht : t.isBlank = false := hlast ⟨t, text⟩ (by simp)
  -- The last piece is read again without its blank end.
  obtain ⟨c, cs, rfl, hlexeme⟩ : ∃ c cs, text = c :: cs ∧ lexeme d c cs = .ok (t, cs.length) := by
    cases h.of_append with
    | cons hlexeme => exact ⟨_, _, rfl, by simpa using hlexeme⟩
  obtain ⟨cs', hclip, hclipped⟩ := lexeme_clipped hlexeme ht
  have hclippedRow : Tiled d [⟨t.clipped, c :: cs'⟩] := .cons (by simpa using hclipped) .nil
  refine ⟨init ++ [⟨t.clipped, c :: cs'⟩], h.replace ?_ (.of_front ?_) hclippedRow, ?_, ?_⟩
  · exact fun p hp => hps p (List.mem_append_left _ hp)
  · simpa [← hclip] using List.rdropWhile_prefix _ _
  · obtain ⟨x, xs, htext, hx⟩ := h.exists_joinPieces_cons (by simp) hfirst
    rw [htext, Text.trimList_append hfront hx hback, ← htext, joinPieces_append, joinPieces_append,
      rdropWhile_append_of_ne_nil] <;> simp [hclip]
  · simp [clipLast, List.modifyLast_concat]

end Tiled

/-- **Stripped pieces have stripped tokens**, and together they are the trimmed text. -/
theorem exists_cleaned (h : Tiled d ps) (hps : ∀ p ∈ ps, p.token.isComment = false) :
    ∃ ps', Tiled d ps' ∧
      joinPieces ps' = Text.trimList (joinPieces (dropSemicolon ps.reverse).reverse) ∧
      ps'.map Piece.token = clipLast (stripped (withoutSemicolon (ps.map Piece.token))) := by
  obtain ⟨body, back, hdrop, hbody, hback, htokens⟩ := exists_dropSemicolon ps
  obtain ⟨front, kept, tail, rfl, hkept, hfront, htail, hfirst, hlast⟩ :=
    Text.exists_ends Piece.isBlank body
  have hsub : ∀ p ∈ front ++ (kept ++ tail), p ∈ ps := hbody.subset
  have hrow : Tiled d (front ++ kept) :=
    h.of_front hps (.trans ⟨tail, List.append_assoc ..⟩ hbody)
  have hfrontText : ∀ x ∈ joinPieces front, Text.isBlank x = true :=
    h.joinPieces_blank hps fun p hp => ⟨hsub p (by simp [hp]), hfront p hp⟩
  have hbackText : ∀ x ∈ joinPieces (tail ++ back), Text.isBlank x = true := by
    refine h.joinPieces_blank hps (List.forall_mem_append.2 ⟨fun p hp => ?_, hback⟩)
    exact ⟨hsub p (by simp [hp]), htail p hp⟩
  have hstripped : stripped (withoutSemicolon (ps.map Piece.token)) = kept.map Piece.token := by
    rw [htokens, stripped_map, rdropWhile_append_of_pos fun p hp => (hback p hp).2, hkept]
  have htext : joinPieces (front ++ (kept ++ tail) ++ back) =
      joinPieces front ++ (joinPieces kept ++ joinPieces (tail ++ back)) := by
    simp only [joinPieces_append, List.append_assoc]
  rw [hdrop, hstripped, htext]
  exact hrow.of_append.exists_trimmed (fun p hp => hps p (hsub p (by simp [hp]))) hfirst hlast
    hfrontText hbackText

/-! ## Tokens that are kept -/

/-- A token whose comments are taken out is no comment. -/
theorem isComment_uncommented (t : Token) : t.uncommented.isComment = false := by
  rw [Token.uncommented]
  split
  case isTrue => rfl
  case isFalse h => simpa using h

/-- Dropping a semicolon adds no token. -/
theorem withoutSemicolon_subset (ts : List Token) : withoutSemicolon ts ⊆ ts := by
  rcases forall_or_exists_last Token.isBlank ts with hblank | ⟨init, t, back, rfl, ht, hback⟩
  · rw [withoutSemicolon_of_blank hblank]
    exact List.Subset.refl ts
  · rw [withoutSemicolon_append ht hback]
    split <;> simp

/-- Every token that is kept was there, comments apart. -/
theorem keptTokens_subset (ts : List Token) : keptTokens ts ⊆ ts.map Token.uncommented :=
  List.Subset.trans (List.dropWhile_suffix _).subset <|
    List.Subset.trans (List.rdropWhile_prefix _ _).subset (withoutSemicolon_subset _)

/-- No comment is kept. -/
theorem isComment_keptTokens (ht : t ∈ keptTokens ts) : t.isComment = false := by
  obtain ⟨t', -, rfl⟩ := List.mem_map.1 (keptTokens_subset ts ht)
  exact isComment_uncommented t'

/-- All semicolons are kept, but for the one at the end. -/
theorem count_keptTokens (ts : List Token) :
    ts.count (.symbol ";") ≤ (keptTokens ts).count (.symbol ";") + 1 := by
  have hblanks {bs : List Token} (hbs : ∀ t ∈ bs, t.isBlank = true) :
      bs.count (.symbol ";") = 0 := by
    rw [List.count_eq_zero]
    intro hmem
    cases hbs _ hmem
  have huncommented : (ts.map Token.uncommented).count (.symbol ";") = ts.count (.symbol ";") := by
    rw [List.count_eq_countP, List.countP_map, List.count_eq_countP]
    refine List.countP_congr fun t _ => ?_
    cases t <;> simp [Token.uncommented, Token.isComment]
  have hstripped (ts : List Token) :
      (stripped ts).count (.symbol ";") = ts.count (.symbol ";") := by
    obtain ⟨front, mid, back, hsplit, rfl, hfront, hback, -⟩ := Text.exists_ends Token.isBlank ts
    conv_rhs => rw [hsplit]
    rw [List.count_append, List.count_append, hblanks hfront, hblanks hback, stripped]
    omega
  rw [keptTokens, hstripped, ← huncommented]
  generalize ts.map Token.uncommented = ts
  rcases forall_or_exists_last Token.isBlank ts with hblank | ⟨init, t, back, rfl, ht, hback⟩
  · rw [withoutSemicolon_of_blank hblank]
    omega
  · rw [withoutSemicolon_append ht hback]
    split <;> simp only [List.count_append, List.count_cons] <;> split <;> omega

/-- The last token is clipped exactly if it ends in a blank. -/
theorem clipLast_eq_self_iff : clipLast ts = ts ↔ ∀ t ∈ ts.getLast?, t.endsBlank = false := by
  rcases List.eq_nil_or_concat ts with rfl | ⟨init, t, rfl⟩
  · exact ⟨by simp, fun _ => rfl⟩
  · rw [List.concat_eq_append, clipLast, List.modifyLast_concat, List.getLast?_concat]
    simp [Token.clipped_eq_self_iff]

/-- Clipping loses no semicolon. -/
theorem count_clipLast (ts : List Token) :
    ts.count (.symbol ";") ≤ (clipLast ts).count (.symbol ";") := by
  rcases List.eq_nil_or_concat ts with rfl | ⟨init, t, rfl⟩
  · exact Nat.zero_le _
  · rw [List.concat_eq_append, clipLast, List.modifyLast_concat, List.count_append,
      List.count_append]
    refine Nat.add_le_add_left ?_ _
    by_cases ht : t = .symbol ";"
    · rw [ht]
      rfl
    · simp [List.count_singleton, ht]

/-- Clipping makes no comment of a token. -/
theorem isComment_clipped (t : Token) : t.clipped.isComment = t.isComment := by
  rw [Token.clipped]
  split
  case isTrue h => cases t <;> first | rfl | cases h
  case isFalse => rfl

/-- Clipping brings no comment back. -/
theorem isComment_clipLast (hts : ∀ t ∈ ts, t.isComment = false) :
    ∀ t ∈ clipLast ts, t.isComment = false := by
  rcases List.eq_nil_or_concat ts with rfl | ⟨init, t, rfl⟩
  · exact hts
  · rw [List.concat_eq_append] at *
    rw [clipLast, List.modifyLast_concat]
    rw [List.forall_mem_append] at hts ⊢
    exact ⟨hts.1, by simpa [isComment_clipped] using hts.2⟩

/-- A text that has lexemes is cleaned to its pieces, without the last semicolon and trimmed. -/
theorem sanitize_eq (h : lexemes d sql = .ok ls) :
    sanitize d sql = .ok (String.ofList (Text.trimList
      (joinPieces (dropSemicolon (pieces .start sql.toList ls).reverse).reverse))) := by
  rw [sanitize, h]
  rfl

/-- Taking out the comment of a piece takes it out of its token. -/
theorem Piece.token_uncommented (p : Piece) : p.uncommented.token = p.token.uncommented := by
  rw [Piece.uncommented, Token.uncommented]
  split <;> rfl

/-- The pieces of a text that is read are a row, with a blank for each comment. -/
theorem pieces_of_lexemes (h : lexemes d sql = .ok ls) :
    Tiled d (pieces .start sql.toList ls) ∧ (pieces .start sql.toList ls).map Piece.token =
      (ls.map Lexeme.token).map Token.uncommented := by
  obtain ⟨hps, -, htokens⟩ := tiled_sources h
  rw [pieces_eq_map, ← htokens, List.map_map, List.map_map]
  exact ⟨hps.uncommented, List.map_congr_left fun p _ => p.token_uncommented⟩

/-- **A text without comments has the tokens of the text.**  The last one is clipped if it is a
word that ends in a blank, as only a sign with the blank that it took does. -/
theorem sanitize_keeps_tokens (h : lexemes d sql = .ok ls) :
    let kept := keptTokens (ls.map Lexeme.token)
    ∃ out ls', sanitize d sql = .ok out ∧ lexemes d out = .ok ls' ∧
      ls'.map Lexeme.token = clipLast kept ∧
      (ls'.map Lexeme.token = kept ↔ ∀ t ∈ kept.getLast?, t.endsBlank = false) ∧
      (d ≠ .ansi → ls'.map Lexeme.token = kept) ∧
      (∀ l ∈ ls', l.token.isComment = false) ∧
      (ls.map Lexeme.token).count (.symbol ";") ≤
        (ls'.map Lexeme.token).count (.symbol ";") + 1 := by
  intro kept
  obtain ⟨hrow, htokens⟩ := pieces_of_lexemes h
  have hmem {p : Piece} (hp : p ∈ pieces .start sql.toList ls) :
      p.token ∈ (ls.map Lexeme.token).map Token.uncommented :=
    htokens ▸ List.mem_map_of_mem hp
  obtain ⟨ps', hps', htext, htokens'⟩ := exists_cleaned hrow fun p hp => by
    obtain ⟨t, -, ht⟩ := List.mem_map.1 (hmem hp)
    exact ht ▸ isComment_uncommented t
  obtain ⟨ls', hls', hread⟩ := hps'.lexemes
  have hkept : ls'.map Lexeme.token = clipLast kept := by
    rw [hls', htokens', htokens]
    rfl
  refine ⟨_, ls', sanitize_eq h, htext ▸ hread, hkept, ?_, ?_, ?_, ?_⟩
  · rw [hkept, clipLast_eq_self_iff]
  · intro hd
    rw [hkept, clipLast_eq_self_iff]
    intro t ht
    have hsub := keptTokens_subset _ (List.mem_of_getLast? ht)
    rw [← htokens] at hsub
    obtain ⟨p, hp, rfl⟩ := List.mem_map.1 hsub
    obtain ⟨c, cs, rest, -, hlexeme⟩ := hrow.exists_lexeme hp
    exact Bool.eq_false_iff.2 fun hblank => hd ((lexeme_ends hlexeme).eq_ansi hblank)
  · intro l hl
    have hclip := @isComment_clipLast kept fun t => isComment_keptTokens
    exact hclip _ (hkept ▸ List.mem_map_of_mem hl)
  · rw [hkept]
    exact (count_keptTokens _).trans (Nat.add_le_add_right (count_clipLast _) 1)

/-- Two comments, one in front of the semicolon. -/
theorem lexemes_commented :
    lexemes .postgres "a/**/b--\n;" =
      .ok [⟨.word "a" none, ⟨1, 1⟩, ⟨1, 2⟩⟩, ⟨.blockComment "", ⟨1, 2⟩, ⟨1, 6⟩⟩,
        ⟨.word "b" none, ⟨1, 6⟩, ⟨1, 7⟩⟩, ⟨.lineComment "--" "\n", ⟨1, 7⟩, ⟨2, 1⟩⟩,
        ⟨.symbol ";", ⟨2, 1⟩, ⟨2, 2⟩⟩] := by
  decide +kernel

/-- Two words with a comment between them stay two words. -/
theorem sanitize_keeps_tokens_commented :
    ∃ out ls', sanitize .postgres "a/**/b--\n;" = .ok out ∧ lexemes .postgres out = .ok ls' ∧
      ls'.map Lexeme.token = [.word "a" none, .space, .word "b" none] := by
  obtain ⟨out, ls', hout, hread, htokens, -⟩ := sanitize_keeps_tokens lexemes_commented
  exact ⟨out, ls', hout, hread, htokens.trans (by decide +kernel)⟩

/-- **The end of a word is cut off** where a sign took a line feed as a letter. -/
theorem sanitize_cuts_word :
    ∃ ls ls', lexemes .ansi "SELECT @\n" = .ok ls ∧ sanitize .ansi "SELECT @\n" = .ok "SELECT @" ∧
      lexemes .ansi "SELECT @" = .ok ls' ∧
      keptTokens (ls.map Lexeme.token) = [.word "SELECT" none, .space, .word "@\n" none] ∧
      ls'.map Lexeme.token = [.word "SELECT" none, .space, .symbol "@"] ∧
      stripped (ls'.map Lexeme.token) ≠ keptTokens (ls.map Lexeme.token) := by
  refine ⟨[⟨.word "SELECT" none, ⟨1, 1⟩, ⟨1, 7⟩⟩, ⟨.space, ⟨1, 7⟩, ⟨1, 8⟩⟩,
    ⟨.word "@\n" none, ⟨1, 8⟩, ⟨2, 1⟩⟩], [⟨.word "SELECT" none, ⟨1, 1⟩, ⟨1, 7⟩⟩,
    ⟨.space, ⟨1, 7⟩, ⟨1, 8⟩⟩, ⟨.symbol "@", ⟨1, 8⟩, ⟨1, 9⟩⟩], ?_⟩
  decide +kernel

end Sql
end QueryTemplate
