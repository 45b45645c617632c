/-
# What the escape of operators keeps

Text that is read as SQL is respelled first, character by character and without regard to
tokens.  So it is respelled inside of quotes too, and the tokens themselves may be others
afterwards (`escape_reaches_quotes`).

| text | dialect | quoted before | quoted after |
| --- | --- | --- | --- |
| `'a<>b'` | all | `a<>b` | `a!=b` |
| `a@@e'\n'` | `ansi` | `\n` | a line feed |
| `a@@--'x'` | `postgres` | | `x` |

Where every pair outside of quotes and comments is an operator of its own, and stays one when it
is respelled (`PairsApart`), the tokens are the same one by one, but for these operators and for
the text inside of quotes and comments (`escape_keeps_quoted`).
-/

import QueryTemplate.Proofs.Token.Tiling
import QueryTemplate.Proofs.Value.Respelled

namespace QueryTemplate
namespace Value

open Sql
open Sql.Lexer
open Sql.Quoted (Alike)

variable {d : Dialect} {c : Char} {cs s rest : List Char} {t : Token} {p p' : Piece}
  {ps ps' : List Piece} {ls : List Lexeme} {text : String}

/-! ## Pairs -/

/-- One of the pairs that are respelled. -/
def HoldsPair (s : List Char) : Prop := ['<', '>'] <:+: s ∨ ['@', '@'] <:+: s

instance : Decidable (HoldsPair s) := inferInstanceAs (Decidable (_ ∨ _))

/-- A text is kept exactly if it holds no pair. -/
theorem respelled_eq_self_iff : respelled s = s ↔ ¬HoldsPair s := by
  induction s using respelled_induction with
  | notEqual rest =>
    refine iff_of_false (by simp [respelled]) (not_not.2 (.inl ?_))
    exact (List.prefix_append _ rest).isInfix
  | atSigns rest =>
    refine iff_of_false (by simp [respelled]) (not_not.2 (.inr ?_))
    exact (List.prefix_append _ rest).isInfix
  | other c rest h h' ih =>
    rw [respelled_cons h h', List.cons.injEq, ih, HoldsPair, HoldsPair, List.infix_cons_iff,
      List.infix_cons_iff]
    simp [h, h']
  | nil => decide

/-- How a piece that `rest` follows meets the pairs.  None lies across its end.  One inside it is
in quotes or in a comment, or it is the piece, as an operator that does not grow when it is
respelled; and no exclamation mark takes the sign of the next operator. -/
def Apart (d : Dialect) (rest : List Char) (p : Piece) : Prop :=
  respelled (p.text ++ rest) = respelled p.text ++ respelled rest ∧
    (p.token.isQuoted = true ∨ p.token.isComment = true ∨
      p = ⟨.symbol "<>", ['<', '>']⟩ ∨
      (p = ⟨.symbol "@@", ['@', '@']⟩ ∧ rest.head?.all (fun x => !d.extendsOperator x) = true) ∨
      (¬HoldsPair p.text ∧ ¬(p.text = ['!'] ∧ ['<', '>'] <+: rest)))

instance : Decidable (Apart d rest p) := inferInstanceAs (Decidable (_ ∧ _))

/-- Every pair outside of quotes and comments is an operator of its own. -/
def PairsApart (d : Dialect) : List Piece → Prop
  | [] => True
  | p :: ps => Apart d (joinPieces ps) p ∧ PairsApart d ps

instance decidablePairsApart (d : Dialect) : (ps : List Piece) → Decidable (PairsApart d ps)
  | [] => .isTrue trivial
  | _ :: ps =>
    have : Decidable (PairsApart d ps) := decidablePairsApart d ps
    inferInstanceAs (Decidable (_ ∧ _))

/-! ## What is escaped -/

/-- What is quoted or a comment, before and after: in the same form, with its characters respelled,
and another token just if they hold a pair. -/
structure Respells (p p' : Piece) : Prop where
  form : p'.token.form = p.token.form
  text : p'.text = respelled p.text
  token : p'.token = p.token ↔ ¬HoldsPair p.text

/-- A piece of a text, and that of the escaped text in its place. -/
inductive Escaped : Piece → Piece → Prop
  | kept {p : Piece} (h : ¬HoldsPair p.text) : Escaped p p
  | notEqual : Escaped ⟨.symbol "<>", ['<', '>']⟩ ⟨.symbol "<>", ['!', '=']⟩
  | atSigns : Escaped ⟨.symbol "@@", ['@', '@']⟩ ⟨.symbol "<>", ['<', '>']⟩
  | within {p p' : Piece} (h : p.token.isQuoted = true ∨ p.token.isComment = true)
      (hp : Respells p p') : Escaped p p'

namespace Escaped

/-- An escaped token is quoted exactly if it was. -/
theorem isQuoted_eq (h : Escaped p p') : p'.token.isQuoted = p.token.isQuoted := by
  cases h with
  | kept | notEqual | atSigns => rfl
  | within _ hp => rw [← Token.isQuoted_form, hp.form, Token.isQuoted_form]

/-- A quoted token is respelled. -/
theorem respells (h : Escaped p p') (hp : p.token.isQuoted = true) : Respells p p' := by
  cases h with
  | kept h => exact ⟨rfl, (respelled_eq_self_iff.2 h).symm, iff_of_true rfl h⟩
  | notEqual | atSigns => cases hp
  | within _ h => exact h

/-- The quoted tokens are respelled one by one. -/
theorem filter_isQuoted (h : List.Forall₂ Escaped ps ps') :
    List.Forall₂ Respells (ps.filter fun p => p.token.isQuoted)
      (ps'.filter fun p => p.token.isQuoted) := by
  induction h with
  | nil => exact .nil
  | cons hp _ ih =>
    rw [List.filter_cons, List.filter_cons, hp.isQuoted_eq]
    split
    case isTrue hquoted => exact .cons (hp.respells hquoted) ih
    case isFalse => exact ih

end Escaped

/-- **One piece is escaped to one piece**, in front of what is respelled. -/
theorem exists_escaped (hlexeme : lexeme d c (cs ++ rest) = .ok (t, cs.length))
    (h : Apart d rest ⟨t, c :: cs⟩) :
    ∃ c' cs' t', lexeme d c' (cs' ++ respelled rest) = .ok (t', cs'.length) ∧
      c' :: cs' = respelled (c :: cs) ∧ Escaped ⟨t, c :: cs⟩ ⟨t', c' :: cs'⟩ := by
  obtain ⟨hseam, hpiece⟩ := h
  have hwithin (ht : t.isQuoted = true ∨ t.isComment = true) :
      ∃ c' cs' t', lexeme d c' (cs' ++ respelled rest) = .ok (t', cs'.length) ∧
        c' :: cs' = respelled (c :: cs) ∧ Escaped ⟨t, c :: cs⟩ ⟨t', c' :: cs'⟩ := by
    obtain ⟨cs', htext, halike⟩ :=
      (alike_respelled (c :: cs)).exists_of_notMem (notMem_signs ht hlexeme)
    obtain ⟨t', hlexeme', hform, hiff⟩ :=
      lexeme_sameForm (halike.append (alike_respelled rest)) ht hlexeme
    refine ⟨c, cs', t', by rw [hlexeme', halike.length_eq], htext.symm, .within ht ?_⟩
    refine ⟨hform, htext.symm, hiff.trans ?_⟩
    rw [List.take_left' halike.length_eq, List.take_left, ← respelled_eq_self_iff, htext,
      List.cons.injEq, and_iff_right rfl]
  rcases hpiece with ht | ht | hp | ⟨hp, hextends⟩ | ⟨hpair, hbang⟩
  · exact hwithin (.inl ht)
  · exact hwithin (.inr ht)
  · cases hp
    exact ⟨'!', ['='], _, lexeme_bangEqual _, rfl, .notEqual⟩
  · cases hp
    refine ⟨'<', ['>'], _, lexeme_lessGreater fun x hx => ?_, rfl, .atSigns⟩
    obtain ⟨y, hy, heq⟩ := head?_extendsOperator (d := d) hx
    rw [← heq]
    simpa [hy] using hextends
  · have hself := respelled_eq_self_iff.2 hpair
    refine ⟨c, cs, t, lexeme_respelled hlexeme hbang ?_, hself.symm, .kept hpair⟩
    -- The doubled at-sign would be respelled, but the piece begins as it did.
    rintro ⟨r, hr⟩
    rw [hself, ← hr] at hseam
    exact absurd ((List.cons.inj hr).1.trans (List.cons.inj hseam).1.symm) (by decide)

/-- A row of pieces is escaped piece by piece. -/
theorem exists_tiled_escaped (h : Tiled d ps) (hps : PairsApart d ps) :
    ∃ ps', Tiled d ps' ∧ joinPieces ps' = respelled (joinPieces ps) ∧
      List.Forall₂ Escaped ps ps' := by
  induction h with
  | nil => exact ⟨[], .nil, rfl, .nil⟩
  | @cons c cs t ps hlexeme _ ih =>
    obtain ⟨hp, hps⟩ := hps
    obtain ⟨ps', htiled, hjoin, hescaped⟩ := ih hps
    obtain ⟨c', cs', t', hlexeme', htext, hp'⟩ := exists_escaped hlexeme hp
    refine ⟨⟨t', c' :: cs'⟩ :: ps', .cons (hjoin ▸ hlexeme') htiled, ?_, .cons hp' hescaped⟩
    rw [joinPieces_cons, joinPieces_cons, hjoin, hp.1, htext]

/-- **The escape changes operators, and what is quoted only inside.**  Where every pair outside of
quotes and comments is an operator of its own, the escaped text has a token for each token of the
text.  What is quoted comes in the same order and in the same form; its characters are respelled,
and it is the same token just if they hold no pair. -/
theorem escape_keeps_quoted (h : lexemes d text = .ok ls)
    (hpairs : PairsApart d (sources .start text.toList ls)) :
    ∃ ls', lexemes d (escapeOperators text) = .ok ls' ∧
      List.Forall₂ Escaped (sources .start text.toList ls)
        (sources .start (escapeOperators text).toList ls') ∧
      List.Forall₂ Respells ((sources .start text.toList ls).filter fun p => p.token.isQuoted)
        ((sources .start (escapeOperators text).toList ls').filter fun p => p.token.isQuoted) := by
  obtain ⟨htiled, hjoin, -⟩ := tiled_sources h
  obtain ⟨ps', htiled', hjoin', hescaped⟩ := exists_tiled_escaped htiled hpairs
  obtain ⟨ls', hscan, hsources⟩ := htiled'.scan .start
  have htext : (escapeOperators text).toList = joinPieces ps' := by
    rw [escapeOperators_eq, String.toList_ofList, hjoin', hjoin]
  refine ⟨ls', by rwa [lexemes, htext], ?_, ?_⟩
  · rwa [htext, hsources]
  · rw [htext, hsources]
    exact Escaped.filter_isQuoted hescaped

/-- A string that holds a pair behind one that is an operator. -/
theorem escape_keeps_quoted_both :
    ∃ ls ls', lexemes .postgres "a@@'<>'||\"b\"" = .ok ls ∧
      lexemes .postgres (escapeOperators "a@@'<>'||\"b\"") = .ok ls' ∧
      List.Forall₂ Respells
        ((sources .start "a@@'<>'||\"b\"".toList ls).filter fun p => p.token.isQuoted)
        ((sources .start (escapeOperators "a@@'<>'||\"b\"").toList ls').filter fun p =>
          p.token.isQuoted) := by
  have hread : lexemes .postgres "a@@'<>'||\"b\"" =
      .ok [⟨.word "a" none, ⟨1, 1⟩, ⟨1, 2⟩⟩, ⟨.symbol "@@", ⟨1, 2⟩, ⟨1, 4⟩⟩,
        ⟨.string .single "<>", ⟨1, 4⟩, ⟨1, 8⟩⟩, ⟨.symbol "||", ⟨1, 8⟩, ⟨1, 10⟩⟩,
        ⟨.word "b" (some '"'), ⟨1, 10⟩, ⟨1, 13⟩⟩] := by
    decide +kernel
  obtain ⟨ls', hescaped, -, hquoted⟩ := escape_keeps_quoted hread (by decide +kernel)
  exact ⟨_, ls', hread, hescaped, hquoted⟩

/-! ## Where quotes are reached -/

/-- The strings and quoted names of a text. -/
def quotedTokens (d : Dialect) (text : String) : Except LexError (List Token) :=
  (lexemes d text).map fun ls => (ls.map Lexeme.token).filter Token.isQuoted

/-- **The escape reaches into quotes**: a string is another one afterwards, and where a pair is no
operator of its own, the text behind it may be quoted in another way, or only then. -/
theorem escape_reaches_quotes :
    (simple? false "'a<>b'" = none ∧
      quotedTokens .ansi "'a<>b'" = .ok [.string .single "a<>b"] ∧
      quotedTokens .ansi (escapeOperators "'a<>b'") = .ok [.string .single "a!=b"]) ∧
    (simple? false "a@@e'\\n'" = none ∧
      quotedTokens .ansi "a@@e'\\n'" = .ok [.string .single "\\n"] ∧
      quotedTokens .ansi (escapeOperators "a@@e'\\n'") = .ok [.string .escaped "\n"]) ∧
    simple? false "a@@--'x'" = none ∧
      quotedTokens .postgres "a@@--'x'" = .ok [] ∧
      quotedTokens .postgres (escapeOperators "a@@--'x'") = .ok [.string .single "x"] := by
  decide +kernel

end Value
end QueryTemplate
