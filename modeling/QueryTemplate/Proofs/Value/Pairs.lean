/-
# Pairs before and after they are respelled

Two replacements that follow one another could meet: what the first one writes might join with
its neighbours to a pair for the second, and what the second one writes to a pair that the first
one should have found.  They do not (`escape_in_one_pass`).  Both write two characters for two,
so that every character keeps its place, and places tell which pair became which.

| text | in one pass |
| --- | --- |
| `<@@>` | `<<>>` |
| `@<>@` | `@!=@` |
| `@@@` | `<>@` |
-/

import QueryTemplate.Proofs.Value.Respelled

namespace QueryTemplate

/-! ## Places of pairs -/

namespace Text

/-- Two characters at place `i` are a pair `ab`: pairs are found from left to right and do not
overlap, so that the first one is not the end of a pair itself. -/
def PairAt (a b : Char) (s : List Char) : Nat → Prop
  | 0 => [a, b] <+: s
  | i + 1 => [a, b] <+: s.drop (i + 1) ∧ ¬PairAt a b s i

variable {a b c : Char} {s : List Char} {i : Nat}

theorem pairAt_zero : PairAt a b s 0 ↔ [a, b] <+: s := Iff.rfl

theorem pairAt_succ : PairAt a b s (i + 1) ↔ [a, b] <+: s.drop (i + 1) ∧ ¬PairAt a b s i := Iff.rfl

/-- A character that begins no pair may be left out. -/
theorem pairAt_cons (h : ¬[a, b] <+: c :: s) (i : Nat) :
    PairAt a b (c :: s) (i + 1) ↔ PairAt a b s i := by
  induction i with
  | zero =>
    rw [pairAt_succ, pairAt_zero, pairAt_zero, List.drop_succ_cons, List.drop_zero, and_iff_left h]
  | succ i ih => rw [pairAt_succ, List.drop_succ_cons, ih, pairAt_succ]

/-- No pair begins with the second character of the first one. -/
theorem not_pairAt_one (h : [a, b] <+: s) : ¬PairAt a b s 1 := fun hone => hone.2 h

/-- A pair may be left out. -/
theorem pairAt_pair (s : List Char) (i : Nat) :
    PairAt a b (a :: b :: s) (i + 2) ↔ PairAt a b s i := by
  induction i with
  | zero =>
    have hone : ¬PairAt a b (a :: b :: s) 1 := not_pairAt_one (List.prefix_append [a, b] s)
    rw [pairAt_succ, pairAt_zero, and_iff_left hone]
    rfl
  | succ i ih =>
    rw [pairAt_succ, List.drop_succ_cons, List.drop_succ_cons, pairAt_succ]
    exact and_congr_right fun _ => not_congr ih

end Text

open Text (PairAt pairAt_cons pairAt_pair not_pairAt_one)

variable {a b c : Char} {s : List Char}

/-! ## One pass -/

/-- A character in front of what was respelled makes no new pair with it, if no pair is respelled
to the second character. -/
theorem prefix_cons_respelled (hbang : b ≠ '!') (hless : b ≠ '<')
    (h : [a, b] <+: c :: respelled s) : [a, b] <+: c :: s := by
  obtain ⟨rfl, hb⟩ := List.cons_prefix_cons.1 h
  have hs := front_of_respelled hb (by simpa using hbang.symm) (by simpa using hless.symm)
  exact List.cons_prefix_cons.2 ⟨rfl, hs⟩

/-- **Two at-signs in a row are a pair**, and respelled. -/
theorem not_infix_respelled (s : List Char) : ¬['@', '@'] <:+: respelled s := by
  induction s using respelled_induction with
  | notEqual rest ih => simpa [respelled, List.infix_cons_iff] using ih
  | atSigns rest ih => simpa [respelled, List.infix_cons_iff] using ih
  | other c rest hpair hsigns ih =>
    rw [respelled_cons hpair hsigns, List.infix_cons_iff, not_or]
    exact ⟨fun h => hsigns (prefix_cons_respelled (by decide) (by decide) h), ih⟩
  | nil => decide

/-- **Where `<>` stands in the respelled text, a pair of at-signs was**, and the other way round. -/
theorem prefix_drop_respelled_iff (s : List Char) (i : Nat) :
    ['<', '>'] <+: (respelled s).drop i ↔ PairAt '@' '@' s i := by
  induction s using respelled_induction generalizing i with
  | notEqual rest ih =>
    rw [respelled]
    rcases i with _ | _ | i
    · simp [PairAt]
    · simp [PairAt]
    · rw [pairAt_cons (by simp), pairAt_cons (by simp), List.drop_succ_cons, List.drop_succ_cons]
      exact ih i
  | atSigns rest ih =>
    rw [respelled]
    rcases i with _ | _ | i
    · simp [PairAt]
    · exact iff_of_false (by simp) (not_pairAt_one (List.prefix_append ['@', '@'] rest))
    · rw [pairAt_pair, List.drop_succ_cons, List.drop_succ_cons]
      exact ih i
  | other c rest hpair hsigns ih =>
    rw [respelled_cons hpair hsigns]
    cases i with
    | zero =>
      have hpair' : ¬['<', '>'] <+: c :: respelled rest := fun h =>
        hpair (prefix_cons_respelled (by decide) (by decide) h)
      exact iff_of_false hpair' hsigns
    | succ i =>
      rw [pairAt_cons hsigns, List.drop_succ_cons]
      exact ih i
  | nil =>
    rw [respelled, List.drop_nil]
    cases i <;> simp [PairAt]

example : respelled "<@@>@<>@@@".toList = "<<>>@!=<>@".toList := by decide

/-- **The two replacements do not meet.**  One after the other they are one pass from left to
right.  No two at-signs in a row are left, and `<>` stands in the result just where a pair of
at-signs stood in the text. -/
theorem escape_in_one_pass (text : String) :
    (escapeOperators text).toList = respelled text.toList ∧
      ¬['@', '@'] <:+: (escapeOperators text).toList ∧
      ∀ i, ['<', '>'] <+: (escapeOperators text).toList.drop i ↔
        PairAt '@' '@' text.toList i := by
  have hpass : (escapeOperators text).toList = respelled text.toList := by
    rw [escapeOperators_eq, String.toList_ofList]
  rw [hpass]
  exact ⟨rfl, not_infix_respelled _, prefix_drop_respelled_iff _⟩

end QueryTemplate
