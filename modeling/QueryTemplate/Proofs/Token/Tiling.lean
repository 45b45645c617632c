/-
# Text as a row of lexemes

The pieces of a text, put one behind the other, are that text again, and each of them is read
as its token before what follows it (`Tiled`).  A row of pieces stays one when what stands
behind it is cut, or a blank stands there instead (`Tiled.replace`), so comments may become
blanks, and the pieces at either end may be left out.
-/

import QueryTemplate.Proofs.Token.Ends

namespace QueryTemplate

namespace Text.Position

/-- One character further is later. -/
theorem before_advance (p : Position) (c : Char) : p.before (p.advance c) = true := by
  unfold before advance
  split <;> simp

/-- What is later than something later is later. -/
theorem before_trans {p q r : Position} (h : p.before q = true) (h' : q.before r = true) :
    p.before r = true := by
  simp only [before, Bool.or_eq_true, Bool.and_eq_true, decide_eq_true_eq, beq_iff_eq] at *
  omega

/-- No place is before itself. -/
theorem before_irrefl (p : Position) : p.before p = false := by simp [before]

/-- Every text that is not empty ends later than it starts. -/
theorem before_after (p : Position) (c : Char) (cs : List Char) :
    p.before (p.after (c :: cs)) = true := by
  induction cs generalizing p c with
  | nil => exact before_advance p c
  | cons c' cs ih => exact before_trans (before_advance p c) (ih (p.advance c) c')

end Text.Position

namespace Sql

open Lexer

variable {d : Dialect} {p : Text.Position} {c : Char} {cs s s' u v w : List Char} {t : Token}
  {ls : List Lexeme} {ps qs qs' : List Piece}

/-- The characters before the place where a run ends are the run. -/
theorem charsBefore_after (p : Text.Position) (w rest : List Char) :
    charsBefore (p.after w) p (w ++ rest) = w := by
  induction w generalizing p with
  | nil => cases rest <;> simp [charsBefore, Text.Position.after, Text.Position.before_irrefl]
  | cons c w ih =>
    rw [List.cons_append, charsBefore, if_pos (Text.Position.before_after p c w)]
    exact congrArg (c :: ·) (ih (p.advance c))

/-! ## Rows of pieces -/

@[simp] theorem joinPieces_nil : joinPieces [] = [] := rfl

/-- Joined pieces begin with the first one's text. -/
@[simp] theorem joinPieces_cons (p : Piece) (ps : List Piece) :
    joinPieces (p :: ps) = p.text ++ joinPieces ps := rfl

/-- Two rows of pieces are joined one after the other. -/
@[simp] theorem joinPieces_append (ps qs : List Piece) :
    joinPieces (ps ++ qs) = joinPieces ps ++ joinPieces qs := List.flatMap_append

/-- Each piece is read as its token before those that follow it. -/
inductive Tiled (d : Dialect) : List Piece → Prop
  | nil : Tiled d []
  | cons {c : Char} {cs : List Char} {t : Token} {ps : List Piece}
      (h : lexeme d c (cs ++ joinPieces ps) = .ok (t, cs.length)) (hps : Tiled d ps) :
      Tiled d (⟨t, c :: cs⟩ :: ps)

/-- A piece with a comment becomes one blank. -/
def Piece.uncommented (p : Piece) : Piece := if p.token.isComment then ⟨.space, [' ']⟩ else p

/-- The tokens of a text that starts at `p`, each with the characters that it covers. -/
def sources (p : Text.Position) (cs : List Char) : List Lexeme → List Piece
  | [] => []
  | l :: rest =>
    let text := charsBefore l.stop p cs
    ⟨l.token, text⟩ :: sources (p.after text) (cs.drop text.length) rest

/-- The pieces of a text are its parts without their comments. -/
theorem pieces_eq_map (p : Text.Position) (cs : List Char) (ls : List Lexeme) :
    pieces p cs ls = (sources p cs ls).map Piece.uncommented := by
  induction ls generalizing p cs with
  | nil => rfl
  | cons l ls ih => rw [pieces, sources, List.map_cons, ih, Piece.uncommented]

/-- The first part is what the first lexeme took. -/
theorem sources_cons (t : Token) (p : Text.Position) (w cs : List Char) (ls : List Lexeme) :
    sources p (w ++ cs) (⟨t, p, p.after w⟩ :: ls) = ⟨t, w⟩ :: sources (p.after w) cs ls := by
  rw [sources]
  simp only [charsBefore_after, List.drop_left]

/-- **The lexemes of a text are a row of pieces.** -/
theorem tiled_sources (h : scan d p cs = .ok ls) :
    Tiled d (sources p cs ls) ∧ joinPieces (sources p cs ls) = cs ∧
      (sources p cs ls).map Piece.token = ls.map Lexeme.token := by
  induction hlength : cs.length using Nat.strong_induction_on generalizing p cs ls with
  | _ k ih =>
    cases cs with
    | nil =>
      rw [scan] at h
      cases h
      exact ⟨.nil, rfl, rfl⟩
    | cons c rest =>
      obtain ⟨t, n, ls', hlexeme, hscan, rfl⟩ := scan_cons_eq_ok h
      have hn := (lexeme_ends hlexeme).le_length
      obtain ⟨hps, hjoin, htokens⟩ := ih _ (by
        rw [← hlength, List.length_drop, List.length_cons]
        omega) hscan rfl
      have hsources := sources_cons t p (c :: rest.take n) (rest.drop n) ls'
      rw [List.cons_append, List.take_append_drop] at hsources
      rw [hsources]
      refine ⟨.cons ?_ hps, ?_, ?_⟩
      · rw [hjoin, List.take_append_drop, List.length_take, Nat.min_eq_left hn, hlexeme]
      · rw [joinPieces_cons, hjoin, List.cons_append, List.take_append_drop]
      · rw [List.map_cons, List.map_cons, htokens]

namespace Tiled

/-- **A row of pieces is what its text is read as**, from any place. -/
theorem scan (h : Tiled d ps) (p : Text.Position) :
    ∃ ls, Lexer.scan d p (joinPieces ps) = .ok ls ∧ sources p (joinPieces ps) ls = ps := by
  induction h generalizing p with
  | nil => exact ⟨[], by rw [joinPieces_nil, Lexer.scan], rfl⟩
  | @cons c cs t ps h _ ih =>
    obtain ⟨ls, hscan, hsources⟩ := ih (p.after (c :: cs))
    refine ⟨⟨t, p, p.after (c :: cs)⟩ :: ls, ?_, ?_⟩
    · rw [joinPieces_cons, List.cons_append, scan_cons h, List.take_left, List.drop_left, hscan]
      rfl
    · rw [joinPieces_cons, sources_cons, hsources]

/-- A row of pieces is read as their tokens. -/
theorem lexemes (h : Tiled d ps) :
    ∃ ls, ls.map Lexeme.token = ps.map Piece.token ∧
      lexemes d (String.ofList (joinPieces ps)) = .ok ls := by
  obtain ⟨ls, hscan, hsources⟩ := h.scan .start
  refine ⟨ls, ?_, by rwa [Sql.lexemes, String.toList_ofList]⟩
  rw [← (tiled_sources hscan).2.2, hsources]

/-- The end of a row of pieces is a row. -/
theorem of_append (h : Tiled d (ps ++ qs)) : Tiled d qs := by
  induction ps with
  | nil => exact h
  | cons p ps ih =>
    cases h with
    | cons _ h => exact ih h

end Tiled

/-! ## Other text behind a row -/

/-- Two texts that begin alike, and where they part the second one stops or goes on with a
blank. -/
def Parts (s s' : List Char) : Prop := ∃ w u v, s = w ++ u ∧ s' = w ++ v ∧ Cuts u v

namespace Parts

/-- Texts that are cut part at once. -/
theorem cut (hcut : Cuts u v) : Parts u v := ⟨[], u, v, rfl, rfl, hcut⟩

/-- Texts that part do so behind the same word too. -/
theorem append (w : List Char) (h : Parts s s') : Parts (w ++ s) (w ++ s') := by
  obtain ⟨w', u, v, rfl, rfl, hcut⟩ := h
  exact ⟨w ++ w', u, v, (List.append_assoc ..).symm, (List.append_assoc ..).symm, hcut⟩

/-- A text and a front of it part where the front ends. -/
theorem of_front (h : s' <+: s) : Parts s s' := by
  obtain ⟨u, rfl⟩ := h
  exact ⟨s', u, [], rfl, (List.append_nil s').symm, ⟨by simp, fun _ => rfl⟩⟩

/-- A lexeme that is no comment is read in both texts. -/
theorem lexeme (h : Parts s s') (hlexeme : lexeme d c (cs ++ s) = .ok (t, cs.length))
    (ht : t.isComment = false) : Lexer.lexeme d c (cs ++ s') = .ok (t, cs.length) := by
  obtain ⟨w, u, v, rfl, rfl, hcut⟩ := h
  rw [← List.append_assoc] at hlexeme ⊢
  exact lexeme_cut hlexeme ht (by simp) hcut

end Parts

namespace Tiled

/-- **Other pieces may stand behind a row** if the texts part at a cut. -/
theorem replace (h : Tiled d (ps ++ qs)) (hps : ∀ p ∈ ps, p.token.isComment = false)
    (hparts : Parts (joinPieces qs) (joinPieces qs')) (hqs' : Tiled d qs') :
    Tiled d (ps ++ qs') := by
  induction ps with
  | nil => exact hqs'
  | cons p ps ih =>
    rw [List.cons_append] at h ⊢
    cases h with
    | cons h hrest =>
      refine .cons ?_ (ih hrest fun p hp => hps p (List.mem_cons_of_mem _ hp))
      rw [joinPieces_append] at h ⊢
      exact (hparts.append _).lexeme h (hps _ List.mem_cons_self)

/-- The pieces at the end may be left out. -/
theorem of_front (h : Tiled d ps) (hps : ∀ p ∈ ps, p.token.isComment = false)
    (hqs : qs <+: ps) : Tiled d qs := by
  obtain ⟨back, rfl⟩ := hqs
  have hparts : Parts (joinPieces back) (joinPieces []) := .of_front List.nil_prefix
  simpa using h.replace (fun p hp => hps p (List.mem_append_left _ hp)) hparts .nil

/-- A row and the row without comments part only where a blank stands. -/
theorem parts_uncommented (h : Tiled d ps) :
    Parts (joinPieces ps) (joinPieces (ps.map Piece.uncommented)) := by
  induction h with
  | nil => exact .of_front List.prefix_rfl
  | @cons c cs t ps h hps ih =>
    rw [List.map_cons, Piece.uncommented]
    split
    · exact .cut ⟨by simp, by simp⟩
    · exact ih.append (c :: cs)

/-- **The comments of a row may become blanks.** -/
theorem uncommented (h : Tiled d ps) : Tiled d (ps.map Piece.uncommented) := by
  induction h with
  | nil => exact .nil
  | @cons c cs t ps h hps ih =>
    rw [List.map_cons, Piece.uncommented]
    split
    case isTrue => exact @Tiled.cons d ' ' [] .space _ rfl ih
    case isFalse ht => exact .cons (hps.parts_uncommented.lexeme h (by simpa using ht)) ih

end Tiled

end Sql
end QueryTemplate
