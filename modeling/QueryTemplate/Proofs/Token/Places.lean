/-
# The characters of a token by their places

Later characters of a text stand at later places, so two places cut a stretch out of it
(`between`).  Lexemes that follow one another from the first place to the end (`Covers`) cut all
of it: each piece has just the characters between the two places of its lexeme, and the pieces
together are the text (`pieces_between`).

What a text is read as covers it.  Other lexemes may cover it too: a stretch may be empty, split
a word, or stop at a column that its line does not have.

A place is counted from the text in front of it (`Position.behind`): the line by its line feeds,
the column by the characters since the last of them.  To go along a text character by character
comes to the same (`Position.start_after`).
-/

import Mathlib.Data.List.DropRight
import QueryTemplate.Proofs.Token.Tiling

namespace QueryTemplate

namespace Text

namespace Position

variable {p q r : Position}

/-- Of two places at most one is before the other. -/
theorem not_before_of_before (h : p.before q = true) : q.before p = false := by
  rw [← Bool.not_eq_true]
  intro h'
  exact absurd (before_trans h h') (by simp [before_irrefl])

/-- A place that lies before `r`, but not before `p`, shows that `p` does. -/
theorem before_of_not_before (h : q.before p = false) (h' : q.before r = true) :
    p.before r = true := by
  simp only [before, Bool.or_eq_true, Bool.and_eq_true, decide_eq_true_eq, beq_iff_eq,
    ← Bool.not_eq_true] at *
  omega

/-- The place behind a text. -/
def behind (s : List Char) : Position :=
  ⟨s.count '\n' + 1, (s.rtakeWhile (· != '\n')).length + 1⟩

/-- **The place that a text ends at is counted from it.** -/
theorem start_after (s : List Char) : start.after s = behind s := by
  induction s using List.reverseRecOn with
  | nil => rfl
  | append_singleton s c ih =>
    have hlast : (behind s).after [c] = (behind s).advance c := rfl
    rw [after_append, ih, hlast, behind, behind, advance, List.count_append, List.rtakeWhile_concat]
    split
    case isTrue h => simp [h]
    case isFalse h => simp [h]

end Position

/-! ## Characters at their places -/

/-- The characters of a text that starts at `p`, each with the place that it stands at. -/
def located (p : Position) : List Char → List (Position × Char)
  | [] => []
  | c :: cs => (p, c) :: located (p.advance c) cs

variable {p stop : Position} {cs : List Char} {x : Position × Char}

/-- The characters of a text that stand at `start` or later, and before `stop`. -/
def between (start stop : Position) (s : List Char) : List Char :=
  (s.zipIdx.filter fun x =>
    let place := Position.behind (s.take x.2)
    !place.before start && place.before stop).map Prod.fst

/-- The characters of a text stand behind what was read before them. -/
theorem located_behind (u cs : List Char) :
    located (.behind u) cs =
      (cs.zipIdx u.length).map fun x => (.behind ((u ++ cs).take x.2), x.1) := by
  induction cs generalizing u with
  | nil => rfl
  | cons c cs ih =>
    have hnext : (Position.behind u).advance c = .behind (u ++ [c]) := by
      rw [← Position.start_after, ← Position.start_after, Position.after_append]
      rfl
    rw [located, hnext, ih, List.zipIdx_cons, List.map_cons, List.take_left, List.append_assoc,
      List.length_append]
    rfl

/-- The text between two places is that of the characters that stand between them. -/
theorem between_eq (start stop : Position) (s : List Char) :
    between start stop s =
      ((located .start s).filter fun x => !x.1.before start && x.1.before stop).map Prod.snd := by
  have hstart : located .start s = s.zipIdx.map fun x => (.behind (s.take x.2), x.1) :=
    located_behind [] s
  rw [hstart, List.filter_map, List.map_map]
  rfl

/-- Characters at their places are the text. -/
theorem map_located (p : Position) (cs : List Char) : (located p cs).map Prod.snd = cs := by
  induction cs generalizing p with
  | nil => rfl
  | cons c cs ih => rw [located, List.map_cons, ih]

/-- No character of a text stands before the text starts. -/
theorem not_before_of_mem_located (hx : x ∈ located p cs) : x.1.before p = false := by
  induction cs generalizing p with
  | nil => cases hx
  | cons c cs ih =>
    rcases List.mem_cons.1 hx with rfl | hx
    · exact p.before_irrefl
    · rw [← Bool.not_eq_true]
      intro hbefore
      have hadvance := Position.before_trans hbefore (p.before_advance c)
      simp [ih hx] at hadvance

/-- Every character of a text stands before the text ends. -/
theorem before_of_mem_located (hx : x ∈ located p cs) : x.1.before (p.after cs) = true := by
  induction cs generalizing p with
  | nil => cases hx
  | cons c cs ih =>
    rcases List.mem_cons.1 hx with rfl | hx
    · exact p.before_after c cs
    · exact ih hx

/-- Of a text that does not start before `stop`, no character stands before it. -/
theorem before_eq_false_of_mem_located (h : p.before stop = false) (hx : x ∈ located p cs) :
    x.1.before stop = false := by
  rw [← Bool.not_eq_true] at h ⊢
  exact fun hbefore => h (Position.before_of_not_before (not_before_of_mem_located hx) hbefore)

end Text

namespace Sql

open Text (located between Position)

variable {d : Dialect} {p q a stop : Position} {cs s : List Char} {ls : List Lexeme}
  {ps : List Piece}

/-! ## One token -/

/-- What one token takes: of the characters that are left, those before its end. -/
theorem located_charsBefore (stop p : Position) (cs : List Char) :
    located p (charsBefore stop p cs) = (located p cs).filter fun x => x.1.before stop := by
  induction cs generalizing p with
  | nil => rfl
  | cons c cs ih =>
    rw [charsBefore]
    split
    case isTrue h => rw [located, located, List.filter_cons, if_pos h, ih]
    case isFalse h =>
      symm
      rw [located, List.filter_eq_nil_iff]
      intro x hx
      rw [Bool.not_eq_true] at h ⊢
      exact Text.before_eq_false_of_mem_located h hx

/-- What one token leaves: the other characters, at the places where they were. -/
theorem located_drop_charsBefore (stop p : Position) (cs : List Char) :
    located (p.after (charsBefore stop p cs)) (cs.drop (charsBefore stop p cs).length) =
      (located p cs).filter fun x => !x.1.before stop := by
  induction cs generalizing p with
  | nil => rfl
  | cons c cs ih =>
    rw [charsBefore]
    split
    case isTrue h =>
      rw [located, List.filter_cons_of_neg (by simp [h])]
      exact ih (p.advance c)
    case isFalse h =>
      symm
      rw [List.length_nil, List.drop_zero, Position.after, List.foldl_nil, List.filter_eq_self]
      intro x hx
      rw [Bool.not_eq_true] at h
      rw [Text.before_eq_false_of_mem_located h hx, Bool.not_false]

/-- The characters before a place and the others are the text. -/
theorem charsBefore_append_drop (stop p : Position) (cs : List Char) :
    charsBefore stop p cs ++ cs.drop (charsBefore stop p cs).length = cs := by
  induction cs generalizing p with
  | nil => rfl
  | cons c cs ih =>
    rw [charsBefore]
    split
    case isTrue => exact congrArg (c :: ·) (ih (p.advance c))
    case isFalse => rfl

/-- The characters `cs` at `p` are what is left of the text `s` from the place `a` on.  `p` lies
behind `a` where the line ends before that column. -/
def Remains (s : List Char) (a p : Position) (cs : List Char) : Prop :=
  located p cs = (located .start s).filter fun x => !x.1.before a

/-- At the start all of the text remains. -/
theorem remains_all (s : List Char) : Remains s .start .start s := by
  refine Eq.symm (List.filter_eq_self.2 fun x hx => ?_)
  rw [Text.not_before_of_mem_located hx, Bool.not_false]

namespace Remains

/-- Behind the text nothing remains. -/
theorem eq_nil (h : Remains s (.behind s) p cs) : cs = [] := by
  rw [← Text.map_located p cs, h, List.map_eq_nil_iff, List.filter_eq_nil_iff]
  intro x hx
  rw [← Position.start_after, Text.before_of_mem_located hx]
  simp

/-- **One token takes the characters up to its end**, from where the one before it ended. -/
theorem charsBefore_eq (h : Remains s a p cs) : charsBefore stop p cs = between a stop s := by
  rw [← Text.map_located p (charsBefore stop p cs), located_charsBefore, h, List.filter_filter,
    Text.between_eq]
  simp only [Bool.and_comm]

/-- **One token leaves what stands behind its end.** -/
theorem step (h : Remains s a p cs) (hstop : stop.before a = false) :
    Remains s stop (p.after (charsBefore stop p cs))
      (cs.drop (charsBefore stop p cs).length) := by
  rw [Remains, located_drop_charsBefore, h, List.filter_filter]
  refine List.filter_congr fun x _ => ?_
  cases hx : x.1.before a with
  | false => rw [Bool.not_false, Bool.and_true]
  | true =>
    -- What stood before the old end stands before the new one.
    cases hx' : x.1.before stop with
    | true => rfl
    | false => rw [Position.before_of_not_before hx' hx] at hstop; cases hstop

end Remains

/-! ## All tokens -/

/-- Lexemes that cover the stretch from one place to another: the first one starts there, each
other one where the one before it stops, none of them goes back, and the last one stops at the
end. -/
def Covers : Position → Position → List Lexeme → Prop
  | p, q, [] => p = q
  | p, q, l :: ls => l.start = p ∧ l.stop.before l.start = false ∧ Covers l.stop q ls

/-- The lexemes of a row of pieces cover its text. -/
theorem Tiled.covers (h : Tiled d ps) (hscan : Lexer.scan d p (joinPieces ps) = .ok ls) :
    Covers p (p.after (joinPieces ps)) ls := by
  induction h generalizing p ls with
  | nil =>
    rw [joinPieces_nil, Lexer.scan] at hscan
    cases hscan
    rfl
  | @cons c cs t ps hlexeme _ ih =>
    rw [joinPieces_cons, List.cons_append] at hscan
    obtain ⟨t', n, ls', hfound, hrest, rfl⟩ := Lexer.scan_cons_eq_ok hscan
    obtain ⟨-, rfl⟩ : t = t' ∧ cs.length = n := by simpa [hlexeme] using hfound
    rw [List.take_left, List.drop_left] at hrest
    rw [List.take_left, joinPieces_cons, Position.after_append]
    exact ⟨rfl, Position.not_before_of_before (p.before_after c cs), ih hrest⟩

/-- **What a text is read as covers it.** -/
theorem covers_of_lexemes {text : String} (h : lexemes d text = .ok ls) :
    Covers .start (.behind text.toList) ls := by
  obtain ⟨htiled, hjoin, -⟩ := tiled_sources h
  have hscan : Lexer.scan d .start (joinPieces (sources .start text.toList ls)) = .ok ls := by
    rwa [hjoin]
  have hcovers := htiled.covers hscan
  rwa [hjoin, Position.start_after] at hcovers

/-- **Each token takes its stretch of the text**, whatever was taken before. -/
theorem Remains.sources_eq (h : Remains s a p cs) (hls : Covers a q ls) :
    sources p cs ls = ls.map fun l => ⟨l.token, between l.start l.stop s⟩ := by
  induction ls generalizing a p cs with
  | nil => rfl
  | cons l ls ih =>
    obtain ⟨rfl, hstop, hls⟩ := hls
    rw [sources, List.map_cons, ← h.charsBefore_eq]
    exact congrArg _ (ih (h.step hstop) hls)

/-- **Nothing is lost**: tokens up to the end of the text take all that is left of it. -/
theorem Remains.joinPieces_eq (h : Remains s a p cs)
    (hls : Covers a (.behind s) ls) : joinPieces (sources p cs ls) = cs := by
  induction ls generalizing a p cs with
  | nil =>
    rw [Covers] at hls
    subst hls
    exact h.eq_nil.symm
  | cons l ls ih =>
    obtain ⟨rfl, hstop, hls⟩ := hls
    rw [sources, joinPieces_cons, ih (h.step hstop) hls, charsBefore_append_drop]

/-- **A text is cut at the places of its tokens.**  Lexemes that cover a text, as those do that it
is read as, have one piece each, in their order: a comment is one blank, and any other token has
just the characters between its two places.  What the tokens take, comments too, is these
stretches, and together they are the text. -/
theorem pieces_between (text : String) :
    (∀ d ls, lexemes d text = .ok ls → Covers .start (.behind text.toList) ls) ∧
      ∀ ls, Covers .start (.behind text.toList) ls →
        pieces .start text.toList ls = ls.map (fun l =>
          if l.token.isComment then ⟨.space, [' ']⟩
          else ⟨l.token, between l.start l.stop text.toList⟩) ∧
        sources .start text.toList ls =
          ls.map (fun l => ⟨l.token, between l.start l.stop text.toList⟩) ∧
        joinPieces (sources .start text.toList ls) = text.toList := by
  refine ⟨fun d ls h => covers_of_lexemes h, fun ls hls => ?_⟩
  have hremains := remains_all text.toList
  have hsources := hremains.sources_eq hls
  refine ⟨?_, hsources, hremains.joinPieces_eq hls⟩
  rw [pieces_eq_map, hsources, List.map_map]
  rfl

/-- A comment over two lines, and one that takes its line break along. -/
theorem pieces_between_lines :
    ∃ ls, lexemes .ansi "é /* ß\n */--x\n'\n'" = .ok ls ∧
      Covers .start (.behind "é /* ß\n */--x\n'\n'".toList) ls ∧
      pieces .start "é /* ß\n */--x\n'\n'".toList ls =
        [⟨.word "é" none, ['é']⟩, ⟨.space, [' ']⟩, ⟨.space, [' ']⟩, ⟨.space, [' ']⟩,
          ⟨.string .single "\n", ['\'', '\n', '\'']⟩] := by
  have hread : lexemes .ansi "é /* ß\n */--x\n'\n'" =
      .ok [⟨.word "é" none, ⟨1, 1⟩, ⟨1, 2⟩⟩, ⟨.space, ⟨1, 2⟩, ⟨1, 3⟩⟩,
        ⟨.blockComment " ß\n ", ⟨1, 3⟩, ⟨2, 4⟩⟩, ⟨.lineComment "--" "x\n", ⟨2, 4⟩, ⟨3, 1⟩⟩,
        ⟨.string .single "\n", ⟨3, 1⟩, ⟨4, 2⟩⟩] := by
    decide +kernel
  have hcovers := (pieces_between _).1 _ _ hread
  refine ⟨_, hread, hcovers, ((pieces_between _).2 _ hcovers).1.trans ?_⟩
  decide +kernel

end Sql
end QueryTemplate
