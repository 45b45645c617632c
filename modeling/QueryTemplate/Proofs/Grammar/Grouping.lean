/-
# Trees that are read back

A tree of operators is read from its text just if everything groups as it is written, on both
sides of each operator (`parseCondition_tree`).  The induction is on the tree.  It says where
reading the text has got to when the text is over (`ReadUpTo`), and not what is read there:
the operators that follow may still take the tree for their left operand.
-/

import QueryTemplate.Proofs.Grammar.Trees

namespace QueryTemplate
namespace Sql
namespace Grammar

open Item (Spells)
open Lexer (Reads Stops)

variable {d : Dialect} {m depth k precedence n : Nat} {t l r : Tree} {e : Expr} {u s : List Item}
  {ts : List Token} {op : PrefixOp} {link : Link} {suffix : Suffix}

/-- Where the tree is over, reading has found it, whatever operators follow that it allows, and
goes on with them. -/
def ReadUpTo (d : Dialect) (depth : Nat) (t : Tree) : Prop :=
  ∃ tok ts, opensTerm tok = true ∧ .symbol "[" ∉ ts ∧
    (t.startsWithSign = false → ∃ c cs, t.expr.sql.toList = c :: cs ∧ Lexer.endsSign d c = true) ∧
    (∀ rest, Stops rest → Reads d t.expr.sql.toList (tok :: ts) rest) ∧
    ∀ n u s k precedence, depth ≤ n → Spells (tok :: ts) u → Follows d s k →
      t.allows d k = true → t.isAbove d precedence = true →
        ∃ fuel, s.length < fuel ∧ expression precedence (nested d n) (u ++ s) =
          iterateUpTo (step precedence) fuel t.expr (nested d n) s

/-- Where nothing tighter follows, the expression ends. -/
theorem iterate_stop {fuel : Nat} (hs : Follows d s k) (hk : k ≤ precedence)
    (hfuel : s.length < fuel) :
    iterateUpTo (step precedence) fuel e (nested d n) s = .ok (e, s) := by
  obtain ⟨fuel, rfl⟩ := Nat.exists_eq_add_of_le' (Nat.zero_lt_of_lt hfuel)
  exact iterate_none (hs.precedence n) hk

/-- What is read as an operand is a tree that is read. -/
theorem readUpTo_of_operand (tok : Token) (ts : List Token) (htok : opensTerm tok = true)
    (hts : .symbol "[" ∉ ts)
    (hsign : t.startsWithSign = false →
      ∃ c cs, t.expr.sql.toList = c :: cs ∧ Lexer.endsSign d c = true)
    (hreads : ∀ rest, Stops rest → Reads d t.expr.sql.toList (tok :: ts) rest)
    (hoperand : ∀ n u s k, depth ≤ n → Spells (tok :: ts) u → Follows d s k →
      t.allows d k = true → operand (nested d n) (u ++ s) = .ok (t.expr, s)) :
    ReadUpTo d depth t := by
  refine ⟨tok, ts, htok, hts, hsign, hreads, fun n u s k precedence hn hu hs hallows _ => ?_⟩
  exact ⟨s.length + 1, Nat.lt_succ_self _, expression_eq (hoperand n u s k hn hu hs hallows)⟩

/-- **A tree that is a term is read**, whatever it is made of. -/
theorem readUpTo_of_isTerm (h : IsTerm d depth t.expr) : ReadUpTo d depth t := by
  obtain ⟨c, cs, tok, ts, hsql, hc, htok, hts, hreads, hoperand⟩ := h
  exact readUpTo_of_operand tok ts htok hts (fun _ => ⟨c, cs, hsql, hc⟩) hreads
    fun n u s k hn hu hs _ => hoperand n u s k hn hu hs

/-- A tree that is read with some nesting left is read with more. -/
theorem ReadUpTo.mono {depth' : Nat} (h : ReadUpTo d depth t) (hle : depth ≤ depth') :
    ReadUpTo d depth' t := by
  obtain ⟨tok, ts, htok, hts, hsign, hreads, hread⟩ := h
  exact ⟨tok, ts, htok, hts, hsign, hreads, fun n u s k precedence hn =>
    hread n u s k precedence (Nat.le_trans hle hn)⟩

/-- A term does not open with a bracket. -/
theorem ne_bracket_of_opensTerm {tok : Token} (h : opensTerm tok = true) : .symbol "[" ≠ tok := by
  rintro rfl
  cases h

/-- Tokens behind what opens a term have no bracket if the rest has none. -/
theorem bracket_notMem_cons {tok : Token} (htok : opensTerm tok = true)
    (hts : .symbol "[" ∉ ts) : .symbol "[" ∉ tok :: ts := by
  simp [hts, ne_bracket_of_opensTerm htok]

/-- A term does not open with `EXISTS`. -/
theorem keyword_of_opensTerm {b : Option Lexeme} {p q : Text.Position} {tok : Token}
    (h : opensTerm tok = true) : (Item.ofLexeme b ⟨tok, p, q⟩).keyword ≠ "EXISTS" := by
  cases tok with
  | word s quote =>
    cases quote with
    | none =>
      rw [opensTerm, Bool.not_eq_true', List.contains_eq_mem, decide_eq_false_iff_not,
        List.mem_cons, not_or] at h
      exact h.1
    | some c => exact show "" ≠ "EXISTS" by decide
  | _ => exact show "" ≠ "EXISTS" by decide

/-- Where nothing tighter than `precedence` follows, the tree is all that is read. -/
theorem expression_stop {fuel : Nat} (hs : Follows d s k) (hk : k ≤ precedence)
    (hfuel : s.length < fuel)
    (h : expression precedence (nested d n) u =
      iterateUpTo (step precedence) fuel e (nested d n) s) :
    expression precedence (nested d n) u = .ok (e, s) :=
  h.trans (iterate_stop hs hk hfuel)

/-! ## Operands -/

/-- Nothing binds at a closing parenthesis. -/
theorem follows_close {b : Option Lexeme} {p q : Text.Position} (hs : NoBracket s) :
    Follows d (.ofLexeme b ⟨.symbol ")", p, q⟩ :: s) 0 := by
  have hfollows := follows_symbol (d := d) (b := b) (p := p) (q := q) (x := ")") (by decide) hs
  cases d <;> exact hfollows

/-- Every tree may stand where nothing binds. -/
theorem allows_zero (d : Dialect) (t : Tree) : t.allows d 0 = true := by
  induction t <;> simp_all [Tree.allows]

/-- **In parentheses a tree is a term.** -/
theorem isTerm_nested (h : ReadUpTo d depth t) (habove : t.isAbove d 0 = true) :
    IsTerm d (depth + 1) (.nested t.expr) := by
  obtain ⟨tok, ts, htok, hts, -, hreads, hread⟩ := h
  have hsql : (Expr.nested t.expr).sql.toList = '(' :: (t.expr.sql.toList ++ [')']) := by
    simp [Expr.sql]
  refine ⟨'(', _, .symbol "(", tok :: ts ++ [.symbol ")"], hsql, by cases d <;> decide, rfl, ?_, ?_,
    ?_⟩
  · simpa using bracket_notMem_cons htok hts
  · intro rest _
    rw [hsql]
    exact Lexer.reads_open.append ((hreads _ (by simp)).append Lexer.reads_close)
  · intro n u s k hn hu hs
    obtain ⟨n, rfl⟩ := Nat.exists_eq_add_of_le' hn
    obtain ⟨b, p, q, u', rfl, hu'⟩ := hu.item rfl
    obtain ⟨v, w, rfl, hv, hw⟩ := hu'.split
    obtain ⟨b', p', q', w', rfl, hw'⟩ := hw.item rfl
    obtain rfl := Spells.nil_iff.1 hw'
    have hclose : Follows d (.ofLexeme b' ⟨.symbol ")", p', q'⟩ :: s) 0 :=
      follows_close hs.noBracket
    obtain ⟨fuel, hfuel, hexpr⟩ := hread (n + depth) v _ 0 0 (Nat.le_add_left _ _) hv hclose
      (allows_zero d t) habove
    have hinner := expression_stop hclose (Nat.le_refl 0) hfuel hexpr
    obtain ⟨b'', p'', q'', v', rfl, -⟩ := hv.item (isBlank_of_opensTerm htok)
    rw [List.cons_append, List.append_assoc]
    exact operand_parenthesized (peekQuery_eq (opensOperand_of_opensTerm htok)) hs.separate hinner

/-- The prefix operators that are read back. -/
theorem prefixOp_cases (h : [PrefixOp.not, .plus, .minus].contains op = true) :
    op = .not ∨ op = .plus ∨ op = .minus := by
  simpa using h

/-- Behind a prefix operator, all of the tree is read one level deeper. -/
theorem ReadUpTo.behind (h : ReadUpTo d depth t)
    (habove : t.isAbove d (op.precedence d) = true) :
    ∃ tok ts, opensTerm tok = true ∧ .symbol "[" ∉ tok :: ts ∧
      (t.startsWithSign = false →
        ∃ c cs, t.expr.sql.toList = c :: cs ∧ Lexer.endsSign d c = true) ∧
      (∀ rest, Stops rest → Reads d t.expr.sql.toList (tok :: ts) rest) ∧
      ∀ n u s k, depth ≤ n → Spells (tok :: ts) u → Follows d s k →
        (Tree.prefixed op t).allows d k = true →
          (nested d (n + 1)).expr (op.precedence d) (u ++ s) = .ok (t.expr, s) := by
  obtain ⟨tok, ts, htok, hts, hsign, hreads, hread⟩ := h
  refine ⟨tok, ts, htok, bracket_notMem_cons htok hts, hsign, hreads,
    fun n u s k hn hu hs hallows => ?_⟩
  rw [Tree.allows, Bool.and_eq_true, decide_eq_true_eq] at hallows
  obtain ⟨fuel, hfuel, hexpr⟩ := hread n u s k _ hn hu hs hallows.2 habove
  exact expression_stop hs hallows.1 hfuel hexpr

/-- A prefix operator is printed in front of its operand. -/
theorem sql_prefixed :
    (Tree.prefixed op t).expr.sql.toList = op.sql.toList ++ t.expr.sql.toList := by
  simp [Tree.expr, Expr.sql]

/-- `NOT` takes the tree behind it, a sign in front or not. -/
theorem readUpTo_not (h : ReadUpTo d depth t)
    (habove : t.isAbove d (PrefixOp.not.precedence d) = true) :
    ReadUpTo d (depth + 1) (.prefixed .not t) := by
  obtain ⟨tok, ts, htok, hbracket, -, hreads, hbehind⟩ := h.behind habove
  refine readUpTo_of_operand (.keyword "NOT") (.space :: tok :: ts) (by decide) ?_
    (fun _ => ⟨'N', _, sql_prefixed, by cases d <;> decide⟩) ?_ ?_
  · simpa using hbracket
  · intro rest hrest
    have hnot : Reads d "NOT".toList [.keyword "NOT"] (' ' :: (t.expr.sql.toList ++ rest)) :=
      Lexer.reads_word (by decide) Lexer.breaks_blank
    rw [sql_prefixed]
    exact hnot.append (Lexer.reads_blank.append (hreads rest hrest))
  · intro n u s k hn hu hs hallows
    obtain ⟨n, rfl⟩ := Nat.exists_eq_add_of_le' hn
    obtain ⟨b, p, q, v, rfl, hv⟩ := hu.item rfl
    have hv' := hv.blank rfl
    have hexpr := hbehind (n + depth) v s k (Nat.le_add_left _ _) hv' hs hallows
    have htyped : ∀ interval, attempt (typedString interval) (nested d (n + depth + 1))
        (.ofLexeme b ⟨.keyword "NOT", p, q⟩ :: (v ++ s)) =
          .ok (none, .ofLexeme b ⟨.keyword "NOT", p, q⟩ :: (v ++ s)) :=
      fun _ => typedString_name rfl (show "NOT" ∉ typeWords by decide)
        (noBracket_append.2 ⟨noBracket_of_spells hbracket hv', hs.noBracket⟩)
    have hexists : keyword "EXISTS" (nested d (n + depth + 1)) (v ++ s) =
        .ok (false, v ++ s) := by
      obtain ⟨b', p', q', v', rfl, -⟩ := hv'.item (isBlank_of_opensTerm htok)
      exact keyword_eq_false (keyword_of_opensTerm htok)
    have hnegation : negation (nested d (n + depth + 1)) (v ++ s) =
        .ok (.unary .not t.expr, s) := by
      refine bind_eq hexists (bind_eq (bind_eq rfl ?_) rfl)
      rw [dialect_nested]
      exact hexpr
    have hword : ∀ interval, wordOperand interval "NOT" ⟨"NOT", none⟩ (some p)
        (nested d (n + depth + 1)) (v ++ s) = .ok (.unary .not t.expr, s) :=
      fun _ => bind_eq (outcome_ok (bind_eq rfl (bind_eq hnegation rfl)))
        (collated_eq hs.separate)
    exact bind_eq rfl (bind_eq (htyped _) (bind_eq rfl (hword _)))

/-- A sign takes the tree behind it, if no other sign stands there. -/
theorem readUpTo_sign (h : ReadUpTo d depth t) (hop : op = .plus ∨ op = .minus)
    (hsign : t.startsWithSign = false) (habove : t.isAbove d (op.precedence d) = true) :
    ReadUpTo d (depth + 1) (.prefixed op t) := by
  obtain ⟨tok, ts, htok, hbracket, hends, hreads, hbehind⟩ := h.behind habove
  obtain ⟨c, cs, hchars, hc⟩ := hends hsign
  have hsymbol : op.sql = "-" ∨ op.sql = "+" := by
    rcases hop with rfl | rfl
    · exact .inr rfl
    · exact .inl rfl
  refine readUpTo_of_operand (.symbol op.sql) (tok :: ts) ?_ hbracket ?_ ?_ ?_
  · rcases hop with rfl | rfl <;> decide
  · rcases hop with rfl | rfl <;> simp [Tree.startsWithSign]
  · intro rest hrest
    have hfront : Reads d op.sql.toList [.symbol op.sql] (t.expr.sql.toList ++ rest) := by
      rw [hchars]
      exact Lexer.reads_sign hsymbol hc
    rw [sql_prefixed]
    exact hfront.append (hreads rest hrest)
  · intro n u s k hn hu hs hallows
    obtain ⟨n, rfl⟩ := Nat.exists_eq_add_of_le' hn
    obtain ⟨b, p, q, v, rfl, hv⟩ := hu.item rfl
    have hexpr := hbehind (n + depth) v s k (Nat.le_add_left _ _) hv hs hallows
    have htyped : ∀ interval, attempt (typedString interval) (nested d (n + depth + 1))
        (.ofLexeme b ⟨.symbol op.sql, p, q⟩ :: (v ++ s)) =
          .ok (none, .ofLexeme b ⟨.symbol op.sql, p, q⟩ :: (v ++ s)) :=
      fun _ => rfl
    have hunary : ∀ interval, symbolOperand interval (.ofLexeme b ⟨.symbol op.sql, p, q⟩) op.sql
        (nested d (n + depth + 1)) (v ++ s) = .ok (.unary op t.expr, s) := by
      intro interval
      rcases hop with rfl | rfl
      all_goals
        refine bind_eq rfl (bind_eq (bind_eq rfl ?_) rfl)
        rw [dialect_nested]
        exact hexpr
    exact bind_eq rfl (bind_eq (htyped _) (bind_eq rfl
      (bind_eq (hunary _) (collated_eq hs.separate))))

/-- **A prefix operator takes the tree behind it.** -/
theorem readUpTo_prefixed (h : ReadUpTo d depth t)
    (hop : [PrefixOp.not, .plus, .minus].contains op = true)
    (hsign : op = .not ∨ t.startsWithSign = false)
    (habove : t.isAbove d (op.precedence d) = true) :
    ReadUpTo d (depth + 1) (.prefixed op t) := by
  rcases prefixOp_cases hop with rfl | hplus
  · exact readUpTo_not h habove
  · refine readUpTo_sign h hplus (hsign.resolve_left ?_) habove
    rintro rfl
    simp at hplus

/-! ## Operators behind an operand -/

/-- What stands behind a tree is read as an operator that binds like `k'` and makes the tree `t`
of it. -/
structure Continues (d : Dialect) (depth : Nat) (l t : Tree) (k' : Nat) (ts : List Token)
    (w : String) : Prop where
  sql : t.expr.sql = l.expr.sql ++ w
  stops (rest : List Char) : Stops (w.toList ++ rest)
  noBracket : .symbol "[" ∉ ts
  reads {rest : List Char} (h : Stops rest) : Reads d w.toList ts rest
  follows {u s : List Item} (hu : Spells ts u) (hs : NoBracket s) : Follows d (u ++ s) k'
  length {u : List Item} (hu : Spells ts u) : 0 < u.length
  applies {n : Nat} {u s : List Item} {k : Nat} (hn : depth ≤ n) (hu : Spells ts u)
    (hs : Follows d s k) (hallows : t.allows d k = true) :
    applyOperator l.expr k' (nested d n) (u ++ s) = .ok (t.expr, s)

/-- **A tree that goes on is read on.** -/
theorem ReadUpTo.continued {k' : Nat} {w : String} (h : ReadUpTo d depth l)
    (hc : Continues d depth l t k' ts w) (hsign : t.startsWithSign = l.startsWithSign)
    (hallows : l.allows d k' = true)
    (habove : ∀ precedence, t.isAbove d precedence =
      (decide (precedence < k') && l.isAbove d precedence)) : ReadUpTo d depth t := by
  obtain ⟨tok, tl, htok, htl, hsign', hreads, hread⟩ := h
  have hsql : t.expr.sql.toList = l.expr.sql.toList ++ w.toList := by
    rw [hc.sql, String.toList_append]
  refine ⟨tok, tl ++ ts, htok, ?_, ?_, ?_, ?_⟩
  · simp [htl, hc.noBracket]
  · intro hplain
    obtain ⟨c, cs, hchars, hends⟩ := hsign' (hsign ▸ hplain)
    exact ⟨c, cs ++ w.toList, by rw [hsql, hchars]; rfl, hends⟩
  · intro rest hrest
    rw [hsql]
    exact (hreads _ (hc.stops rest)).append (hc.reads hrest)
  · intro n u s k precedence hn hu hs hk hp
    have happend : Spells ((tok :: tl) ++ ts) u := hu
    obtain ⟨v, v', rfl, hv, hv'⟩ := happend.split
    rw [habove, Bool.and_eq_true, decide_eq_true_eq] at hp
    have hfollows := hc.follows hv' hs.noBracket
    obtain ⟨fuel, hfuel, hexpr⟩ := hread n v (v' ++ s) k' precedence hn hv hfollows hallows hp.2
    obtain ⟨fuel, rfl⟩ := Nat.exists_eq_add_of_le' (Nat.zero_lt_of_lt hfuel)
    have hlength := hc.length hv'
    rw [List.length_append] at hfuel
    refine ⟨fuel, by omega, ?_⟩
    rw [List.append_assoc, hexpr]
    exact iterate_some (step_apply (hfollows.precedence n) hp.1 (hc.applies hn hv' hs hk))

/-- Blanks around tokens bring no bracket. -/
theorem bracket_notMem_spaced (h : .symbol "[" ∉ ts) : .symbol "[" ∉ spaced ts := by
  induction ts with
  | nil => decide
  | cons t ts ih =>
    rw [List.mem_cons, not_or] at h
    simp [spaced, h.1, ih h.2]

/-- No known link is written with a bracket. -/
theorem bracket_notMem_link (h : link.isKnown d = true) : .symbol "[" ∉ spaced link.tokens := by
  refine bracket_notMem_spaced ?_
  cases knownLink h with
  | and | or | zone => decide
  | spelled op hop =>
    obtain ⟨htokens, hsymbol, -, -⟩ := spelled hop
    have hne : "[" ∉ Lexer.operatorSymbols := by decide
    rw [htokens, List.mem_singleton, Token.symbol.injEq]
    exact fun h => hne (h ▸ hsymbol)
  | matching negated kind => cases negated <;> cases kind <;> decide

/-- What is printed with blanks around it stops the word before it. -/
theorem stops_spacedSql (ts : List Token) (rest : List Char) :
    Stops ((spacedSql ts).toList ++ rest) := by
  cases ts <;> simp [spacedSql]

/-- A tree of two operands is read if both are, the left one may stand before the link and the right
one binds tighter. -/
theorem readUpTo_linked (hl : ReadUpTo d depth l) (hr : ReadUpTo d m r)
    (hlink : link.isKnown d = true) (hallows : l.allows d (link.precedence d) = true)
    (habove : r.isAbove d (link.precedence d) = true) :
    ReadUpTo d (max depth (m + 1)) (.linked l link r) := by
  obtain ⟨tok, tr, htok, htr, -, hreads, hread⟩ := hr
  have hcontinues : Continues d (max depth (m + 1)) l (.linked l link r) (link.precedence d)
      (spaced link.tokens ++ tok :: tr) (spacedSql link.tokens ++ r.expr.sql) :=
    { sql := by rw [Tree.expr, Link.sql_join, String.append_assoc]
      stops := fun rest => by
        rw [String.toList_append, List.append_assoc]
        exact stops_spacedSql _ _
      noBracket := by
        rw [List.mem_append, not_or]
        exact ⟨bracket_notMem_link hlink, bracket_notMem_cons htok htr⟩
      reads := fun hrest => by
        rw [String.toList_append]
        exact (reads_link hlink).append (hreads _ hrest)
      follows := fun hu hs => by
        obtain ⟨u, v, rfl, hu, hv⟩ := hu.split
        rw [List.append_assoc]
        exact follows_link hlink hu (noBracket_append.2
          ⟨noBracket_of_spells (bracket_notMem_cons htok htr) hv, hs⟩)
      length := fun hu => by
        obtain ⟨u, v, rfl, -, hv⟩ := hu.split
        obtain ⟨b, p, q, v, rfl, -⟩ := hv.item (isBlank_of_opensTerm htok)
        rw [List.length_append, List.length_cons]
        omega
      applies := fun {n u s k} hn hu hs hk => by
        obtain ⟨n, rfl⟩ := Nat.exists_eq_add_of_le' (Nat.le_trans (Nat.le_max_right _ _) hn)
        obtain ⟨u, v, rfl, hlinked, hv⟩ := hu.split
        rw [Tree.allows, Bool.and_eq_true, decide_eq_true_eq] at hk
        obtain ⟨fuel, hfuel, hexpr⟩ := hread (n + m) v s k _ (Nat.le_add_left _ _) hv hs hk.2 habove
        have hright := expression_stop hs hk.1 hfuel hexpr
        obtain ⟨b, p, q, v, rfl, -⟩ := hv.item (isBlank_of_opensTerm htok)
        rw [List.append_assoc]
        exact apply_link hlink hlinked htok hs.separate hright }
  exact (hl.mono (Nat.le_max_left _ _)).continued hcontinues rfl hallows fun _ => rfl

/-- A tree with a suffix is read if its operand is and may stand before the suffix. -/
theorem readUpTo_suffixed (h : ReadUpTo d depth t) (hsuffix : suffix.isKnown = true)
    (hallows : t.allows d (suffix.precedence d) = true) :
    ReadUpTo d depth (.suffixed t suffix) := by
  have hcontinues : Continues d depth t (.suffixed t suffix) (suffix.precedence d)
      (suffixTokens suffix) suffix.sql :=
    { sql := by simp [Tree.expr, Expr.sql, Part.allSql, Part.sql]
      stops := fun rest => by cases suffix <;> simp [Suffix.sql]
      noBracket := by cases suffix <;> simp [suffixTokens, Token.keyword]
      reads := fun hrest => reads_suffix hsuffix hrest
      follows := fun hu hs => follows_suffix hu hs
      length := fun hu => by
        cases suffix with
        | cast type =>
          obtain ⟨b, p, q, b', p', q', rfl⟩ := spells_cast hu
          simp
        | test words =>
          obtain _ | ⟨_, b, p, q, _⟩ : Says ("IS" :: words) _ := says_of_words hu
          simp
      applies := fun _ hu hs _ => apply_suffix hsuffix hu hs }
  exact h.continued hcontinues rfl hallows fun _ => rfl

/-- A range is read if its operand and both bounds are and each may stand where it does. -/
theorem readUpTo_ranged {negated : Bool} {low high : Tree} {i j : Nat} (ht : ReadUpTo d depth t)
    (hlow : ReadUpTo d i low) (hhigh : ReadUpTo d j high)
    (hallows : t.allows d (Tier.between.precedence d) = true)
    (hand : low.allows d (Tier.and.precedence d) = true)
    (habove : low.isAbove d (Tier.between.precedence d) = true)
    (habove' : high.isAbove d (Tier.between.precedence d) = true) :
    ReadUpTo d (max depth (max i j + 1)) (.ranged t negated low high) := by
  obtain ⟨tok, tl, htok, htl, -, hreads, hread⟩ := hlow
  obtain ⟨tok', tl', htok', htl', -, hreads', hread'⟩ := hhigh
  have hlowBracket : .symbol "[" ∉ tok :: tl := bracket_notMem_cons htok htl
  have hhighBracket : .symbol "[" ∉ spaced [.keyword "AND"] ++ tok' :: tl' := by
    simp [spaced, Token.keyword, bracket_notMem_cons htok' htl']
  have hrangeBracket : .symbol "[" ∉ spaced (rangeTokens negated) :=
    bracket_notMem_spaced (by cases negated <;> decide)
  have hword : ∀ rest, Reads d (spacedSql [.keyword "AND"]).toList (spaced [.keyword "AND"]) rest :=
    fun _ => reads_keywords (show ∀ w ∈ ["AND"], _ by decide)
  have hle : Tier.and.precedence d ≤ Tier.between.precedence d := by cases d <;> decide
  have hcontinues : Continues d (max depth (max i j + 1)) t (.ranged t negated low high)
      (Tier.between.precedence d)
      (spaced (rangeTokens negated) ++ (tok :: tl ++ (spaced [.keyword "AND"] ++ tok' :: tl')))
      (spacedSql (rangeTokens negated) ++ (low.expr.sql ++ (spacedSql [.keyword "AND"] ++
        high.expr.sql))) :=
    { sql := by simp [Tree.expr, Expr.sql, Part.allSql, Part.sql, spacedSql, Token.keyword,
        Token.text, String.append_assoc]
      stops := fun rest => by
        rw [String.toList_append, List.append_assoc]
        exact stops_spacedSql _ _
      noBracket := by
        rw [List.mem_append, List.mem_append, not_or, not_or]
        exact ⟨hrangeBracket, hlowBracket, hhighBracket⟩
      reads := fun hrest => by
        simp only [String.toList_append]
        refine (reads_range negated).append ((hreads _ ?_).append
          ((hword _).append (hreads' _ hrest)))
        rw [List.append_assoc]
        exact stops_spacedSql _ _
      follows := fun hu hs => by
        obtain ⟨u, v, rfl, hu, hv⟩ := hu.split
        rw [List.append_assoc]
        refine follows_range hu (noBracket_append.2 ⟨noBracket_of_spells ?_ hv, hs⟩)
        rw [List.mem_append, not_or]
        exact ⟨hlowBracket, hhighBracket⟩
      length := fun hu => by
        obtain ⟨u, v, rfl, -, hv⟩ := hu.split
        obtain ⟨b, p, q, v, rfl, -⟩ := hv.item (isBlank_of_opensTerm htok)
        rw [List.length_append, List.length_cons]
        omega
      applies := fun {n u s k} hn hu hs hk => by
        obtain ⟨n, rfl⟩ := Nat.exists_eq_add_of_le' (Nat.le_trans (Nat.le_max_right _ _) hn)
        obtain ⟨u, v, rfl, hrange, hv⟩ := hu.split
        obtain ⟨vlow, v, rfl, hvlow, hv⟩ := hv.split
        obtain ⟨vand, vhigh, rfl, hvand, hvhigh⟩ := hv.split
        obtain ⟨b, p, q, vrest, rfl, hvrest⟩ := (hvand.blank rfl).item rfl
        obtain rfl := Spells.nil_iff.1 (hvrest.blank rfl)
        have hnone : NoBracket (vhigh ++ s) := noBracket_append.2
          ⟨noBracket_of_spells (bracket_notMem_cons htok' htl') hvhigh, hs.noBracket⟩
        have hstop : Follows d (.ofLexeme b ⟨.keyword "AND", p, q⟩ :: (vhigh ++ s))
            (Tier.and.precedence d) := follows_word (by decide) hnone
        rw [Tree.allows, Bool.and_eq_true, decide_eq_true_eq] at hk
        obtain ⟨fuel, hfuel, hexpr⟩ := hread (n + max i j) vlow _ _ _ (by omega) hvlow hstop hand
          habove
        obtain ⟨fuel', hfuel', hexpr'⟩ := hread' (n + max i j) vhigh s k _ (by omega) hvhigh hs hk.2
          habove'
        have happly := apply_range (e := t.expr) hrange (expression_stop hstop hle hfuel hexpr)
          (expression_stop hs hk.1 hfuel' hexpr')
        simp only [List.append_assoc, List.cons_append, List.nil_append]
        exact happly }
  exact (ht.mono (Nat.le_max_left _ _)).continued hcontinues rfl hallows fun _ => rfl

/-! ## Whole trees -/

/-- Every known link binds. -/
theorem precedence_pos (h : link.isKnown d = true) : 0 < link.precedence d := by
  cases knownLink h with
  | and | or | zone => cases d <;> decide
  | matching => exact show 0 < Tier.like.precedence d by cases d <;> decide
  | spelled op hop =>
    have hall : ∀ op ∈ spelledOperators d, 0 < op.precedence d := by cases d <;> decide
    exact hall op hop

/-- Nothing binds less tight than what ends an expression. -/
theorem isAbove_zero (h : t.isKnown d = true) : t.isAbove d 0 = true := by
  induction t with
  | leaf | nested | prefixed => rfl
  | linked l link r ihl _ =>
    rw [Tree.isKnown, Bool.and_eq_true, Bool.and_eq_true] at h
    simp [Tree.isAbove, precedence_pos h.2, ihl h.1.1]
  | suffixed t suffix ih =>
    rw [Tree.isKnown, Bool.and_eq_true] at h
    have hpos : 0 < suffix.precedence d := by
      cases suffix with
      | cast => exact show 0 < symbolPrecedence d "::" by cases d <;> decide
      | test => exact show 0 < Tier.is.precedence d by cases d <;> decide
    simp [Tree.isAbove, hpos, ih h.1]
  | ranged t negated low high ih =>
    rw [Tree.isKnown, Bool.and_eq_true, Bool.and_eq_true] at h
    have hpos : 0 < Tier.between.precedence d := by cases d <;> decide
    simp [Tree.isAbove, hpos, ih h.1.1]

/-- Where only operators tighter than `precedence` are applied, no operator is open for one that
does not bind tighter, and that binds less tight than any sign. -/
theorem allows_of_isAbove (hknown : t.isKnown d = true) (hright : t.rightGrouped d = true)
    (habove : t.isAbove d precedence = true) (hk : k ≤ precedence)
    (hnot : k ≤ Tier.not.precedence d) : t.allows d k = true := by
  induction t generalizing precedence with
  | leaf | nested | suffixed => rfl
  | prefixed op t ih =>
    simp only [Tree.isKnown, Tree.rightGrouped, Bool.and_eq_true] at hknown hright
    have hop : k ≤ op.precedence d := by
      refine Nat.le_trans hnot ?_
      rcases prefixOp_cases hknown.1 with rfl | rfl | rfl <;> cases d <;> decide
    simp [Tree.allows, hop, ih hknown.2 hright.1 hright.2 hop]
  | linked l link r _ ihr =>
    simp only [Tree.isKnown, Tree.rightGrouped, Tree.isAbove, Bool.and_eq_true,
      decide_eq_true_eq] at hknown hright habove
    have hlink : k ≤ link.precedence d := Nat.le_trans hk (Nat.le_of_lt habove.1)
    simp [Tree.allows, hlink, ihr hknown.1.2 hright.1.2 hright.2 hlink]
  | ranged t negated low high _ _ ihhigh =>
    simp only [Tree.isKnown, Tree.rightGrouped, Tree.isAbove, Bool.and_eq_true,
      decide_eq_true_eq] at hknown hright habove
    have hrange : k ≤ Tier.between.precedence d := Nat.le_trans hk (Nat.le_of_lt habove.1)
    simp [Tree.allows, hrange, ihhigh hknown.2 hright.1.1.2 hright.2 hrange]

/-- **What groups as it is written is read as it is written.** -/
theorem readUpTo_tree (hknown : t.isKnown d = true) (hright : t.rightGrouped d = true)
    (hleft : t.leftGrouped d = true) (hsigns : t.signsApart = true)
    (hleaves : ∀ e ∈ t.leaves, IsTerm d m e) : ReadUpTo d (t.depth m) t := by
  induction t with
  | leaf e => exact readUpTo_of_isTerm (hleaves e (by simp [Tree.leaves]))
  | nested t ih =>
    have hinner := ih hknown hright hleft hsigns hleaves
    exact readUpTo_of_isTerm (isTerm_nested hinner (isAbove_zero hknown))
  | prefixed op t ih =>
    simp only [Tree.isKnown, Tree.rightGrouped, Tree.signsApart, Bool.and_eq_true,
      Bool.or_eq_true, beq_iff_eq, Bool.not_eq_true'] at hknown hright hsigns
    exact readUpTo_prefixed (ih hknown.2 hright.1 hleft hsigns.1 hleaves) hknown.1 hsigns.2
      hright.2
  | linked l link r ihl ihr =>
    simp only [Tree.isKnown, Tree.rightGrouped, Tree.leftGrouped, Tree.signsApart,
      Bool.and_eq_true] at hknown hright hleft hsigns
    simp only [Tree.leaves, List.mem_append, or_imp, forall_and] at hleaves
    exact readUpTo_linked (ihl hknown.1.1 hright.1.1 hleft.1.1 hsigns.1 hleaves.1)
      (ihr hknown.1.2 hright.1.2 hleft.1.2 hsigns.2 hleaves.2) hknown.2 hleft.2 hright.2
  | suffixed t suffix ih =>
    simp only [Tree.isKnown, Tree.leftGrouped, Bool.and_eq_true] at hknown hleft
    exact readUpTo_suffixed (ih hknown.1 hright hleft.1 hsigns hleaves) hknown.2 hleft.2
  | ranged t negated low high iht ihlow ihhigh =>
    simp only [Tree.isKnown, Tree.rightGrouped, Tree.leftGrouped, Tree.signsApart,
      Bool.and_eq_true] at hknown hright hleft hsigns
    simp only [Tree.leaves, List.mem_append, or_imp, forall_and] at hleaves
    have hand : low.allows d (Tier.and.precedence d) = true :=
      allows_of_isAbove hknown.1.2 hright.1.1.1.2 hright.1.2 (by cases d <;> decide)
        (by cases d <;> decide)
    exact readUpTo_ranged (iht hknown.1.1 hright.1.1.1.1 hleft.1.1.1 hsigns.1.1 hleaves.1.1)
      (ihlow hknown.1.2 hright.1.1.1.2 hleft.1.1.2 hsigns.1.2 hleaves.1.2)
      (ihhigh hknown.2 hright.1.1.2 hleft.1.2 hsigns.2 hleaves.2) hleft.2 hand hright.1.2 hright.2

/-- In parentheses, it is a term. -/
theorem isTerm_tree (hknown : t.isKnown d = true) (hright : t.rightGrouped d = true)
    (hleft : t.leftGrouped d = true) (hsigns : t.signsApart = true)
    (hleaves : ∀ e ∈ t.leaves, IsTerm d m e) : IsTerm d (t.depth m + 1) (.nested t.expr) :=
  isTerm_nested (readUpTo_tree hknown hright hleft hsigns hleaves) (isAbove_zero hknown)

/-- **A tree that groups as it is written is read back as a condition.** -/
theorem parseCondition_tree (hknown : t.isKnown d = true) (hright : t.rightGrouped d = true)
    (hleft : t.leftGrouped d = true) (hsigns : t.signsApart = true)
    (hleaves : ∀ e ∈ t.leaves, IsTerm d m e) (hdepth : t.depth m ≤ 46) :
    parseCondition d t.expr.sql = .ok (.nested t.expr) := by
  have hnested : ReadUpTo d (t.depth m + 1) (.nested t) :=
    readUpTo_of_isTerm (isTerm_tree hknown hright hleft hsigns hleaves)
  obtain ⟨tok, ts, htok, -, -, hreads, hread⟩ := hnested
  have hsql : "(" ++ t.expr.sql ++ ")" = (Tree.nested t).expr.sql := by
    rw [Tree.expr, Expr.sql]
  obtain ⟨query, found, hparse, hfound⟩ := parseSelect_where (hreads [] Lexer.stops_nil)
    fun s hs => by
      obtain ⟨fuel, hfuel, hexpr⟩ :=
        hread 47 s [] 0 0 (by omega) hs follows_nil (allows_zero d _) rfl
      rw [List.append_nil] at hexpr
      refine ⟨?_, expression_stop follows_nil (Nat.le_refl 0) hfuel hexpr⟩
      obtain ⟨b, p, q, v, rfl, -⟩ := hs.item (isBlank_of_opensTerm htok)
      exact List.cons_ne_nil _ _
  rw [parseCondition, conditionSql_eq, hsql, hparse]
  simp [hfound, Tree.expr]

end Grammar
end Sql
end QueryTemplate
