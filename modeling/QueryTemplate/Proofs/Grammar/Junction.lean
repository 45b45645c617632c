/-
# Operands of `AND` and `OR`

A text is an operand when it is read as a certain expression wherever an operand of `AND` or
`OR` may stand: behind it comes `AND`, `OR`, a closing parenthesis or nothing (`Ends`), and the
reader stops just there (`ReadAs`).  Operands with `AND` or `OR` in between are read as the
operators group: `OR` to the left (`readInside_or`), and `AND` before `OR`
(`readAs_junction`).
-/

import QueryTemplate.Proofs.Grammar.Where

namespace QueryTemplate
namespace Sql
namespace Grammar

open Item (Spells)
open Lexer (Breaks Reads)

variable {d : Dialect} {depth : Nat} {text : String} {e : Expr}

/-! ## Where operands start and end -/

theorem Tier.or_pos (d : Dialect) : 0 < Tier.or.precedence d := by cases d <;> decide

theorem Tier.and_pos (d : Dialect) : 0 < Tier.and.precedence d := by cases d <;> decide

/-- `AND` binds at least as tightly as `OR`. -/
theorem Tier.or_le_and (d : Dialect) : Tier.or.precedence d ≤ Tier.and.precedence d := by
  cases d <;> decide

/-- Where an operand ends, and how tight the operator there binds. -/
inductive Ends (d : Dialect) : List Item → Nat → Prop
  | nothing : Ends d [] 0
  | close (b : Option Lexeme) (p q : Text.Position) (s : List Item) :
      Ends d (.ofLexeme b ⟨.symbol ")", p, q⟩ :: s) 0
  | and (b : Option Lexeme) (p q : Text.Position) (s : List Item) :
      Ends d (.ofLexeme b ⟨.word "AND" none, p, q⟩ :: s) (Tier.and.precedence d)
  | or (b : Option Lexeme) (p q : Text.Position) (s : List Item) :
      Ends d (.ofLexeme b ⟨.word "OR" none, p, q⟩ :: s) (Tier.or.precedence d)

/-- The operator where an operand ends binds as tightly as the ending says. -/
theorem Ends.nextPrecedence {s : List Item} {k : Nat} (h : Ends d s k) (n : Nat) :
    nextPrecedence (nested d n) s = .ok (k, s) := by
  have hd : (nested d n).dialect = d := by cases n <;> rfl
  cases h <;> (refine bind_eq (bind_eq rfl rfl) ?_; rw [hd]; cases d <;> rfl)

/-- Whether a token cannot belong to an operand in front of it. -/
def Item.isSeparate (i : Item) : Bool :=
  !i.isSymbol "(" && !i.isSymbol "." &&
    !(["COLLATE", "ESCAPE", "UNSIGNED"].contains i.keyword) &&
    match i.token with
    | .string .. => false
    | _ => true

/-- What ends an operand does not belong to it. -/
theorem Ends.isSeparate {s : List Item} {k : Nat} (h : Ends d s k) :
    (s.getD 0 .ending).isSeparate = true := by
  cases h <;> rfl

/-- The keywords that mean something else behind an opening parenthesis or an operator. -/
def quantifying : List String := ["SELECT", "WITH", "ANY", "ALL", "SOME"]

/-- Whether an operand may start with a token, and with nothing but an operand then meant. -/
def opensOperand : Token → Bool
  | .word s none => !quantifying.contains (Text.upper s)
  | t => !t.isBlank

/-- An operand does not open with a blank. -/
theorem isBlank_of_opensOperand {t : Token} (h : opensOperand t = true) : t.isBlank = false := by
  cases t with
  | word s quote => rfl
  | _ => simpa [opensOperand] using h

/-- An operand does not open with a word that means something else there. -/
theorem keyword_of_opensOperand {b : Option Lexeme} {p q : Text.Position} {t : Token}
    (h : opensOperand t = true) : (Item.ofLexeme b ⟨t, p, q⟩).keyword ∉ quantifying := by
  have hempty : "" ∉ quantifying := by decide
  cases t with
  | word s quote =>
    cases quote with
    | none => simpa [opensOperand, Item.ofLexeme] using h
    | some c => exact hempty
  | _ => exact hempty

/-- What opens an operand does not start a query. -/
theorem peekQuery_eq {env : Nested} {b : Option Lexeme} {p q : Text.Position} {t : Token}
    {s : List Item} (h : opensOperand t = true) :
    peekQuery env (.ofLexeme b ⟨t, p, q⟩ :: s) = .ok (false, .ofLexeme b ⟨t, p, q⟩ :: s) := by
  have hk := keyword_of_opensOperand (b := b) (p := p) (q := q) h
  simp only [quantifying, List.mem_cons, not_or] at hk
  obtain ⟨hselect, hwith, -⟩ := hk
  have hother : ((Item.ofLexeme b ⟨t, p, q⟩).keyword == "SELECT" ||
      (Item.ofLexeme b ⟨t, p, q⟩).keyword == "WITH") = false := by
    simp [hselect, hwith]
  exact bind_eq rfl (congrArg (fun found => Except.ok (found, Item.ofLexeme b ⟨t, p, q⟩ :: s)) hother)

/-- What opens an operand is no quantifier. -/
theorem oneOf_eq {env : Nested} {b : Option Lexeme} {p q : Text.Position} {t : Token}
    {s : List Item} (h : opensOperand t = true) :
    oneOf ["ANY", "ALL", "SOME"] env (.ofLexeme b ⟨t, p, q⟩ :: s) =
      .ok (none, .ofLexeme b ⟨t, p, q⟩ :: s) := by
  have hk := keyword_of_opensOperand (b := b) (p := p) (q := q) h
  refine bind_eq rfl ?_
  rw [if_neg]
  · rfl
  · simp_all [quantifying]

/-- Wherever an operand may stand, the text is read as the expression, if `depth` levels of
nesting are left. -/
def ReadAs (d : Dialect) (depth : Nat) (text : String) (e : Expr) : Prop :=
  ∃ t ts, opensOperand t = true ∧ (∀ rest, Breaks rest → Reads d text.toList (t :: ts) rest) ∧
    ∀ n u s k, depth ≤ n → Spells (t :: ts) u → Ends d s k →
      operand (nested d n) (u ++ s) = .ok (e, s)

/-- Between parentheses, the text is read as the expression, if `depth` levels of nesting are
left. -/
def ReadInside (d : Dialect) (depth : Nat) (text : String) (e : Expr) : Prop :=
  ∃ t ts, opensOperand t = true ∧ (∀ rest, Reads d text.toList (t :: ts) (')' :: rest)) ∧
    ∀ n u b p q s, depth ≤ n → Spells (t :: ts) u →
      expression 0 (nested d n) (u ++ .ofLexeme b ⟨.symbol ")", p, q⟩ :: s) =
        .ok (e, .ofLexeme b ⟨.symbol ")", p, q⟩ :: s)

/-- A text that is read with some nesting left is read with more. -/
theorem ReadAs.mono {depth' : Nat} (h : ReadAs d depth text e) (hle : depth ≤ depth') :
    ReadAs d depth' text e := by
  obtain ⟨t, ts, ht, hreads, hspells⟩ := h
  exact ⟨t, ts, ht, hreads, fun n u s k hn => hspells n u s k (Nat.le_trans hle hn)⟩

/-- `true` is read as the constant. -/
theorem readAs_true (d : Dialect) : ReadAs d 0 "true" (.boolean true) := by
  refine ⟨.word "true" none, [], rfl, fun rest h => Lexer.reads_word rfl h, ?_⟩
  intro n u s k _ hu hs
  obtain ⟨b, p, q, u', rfl, hu'⟩ := hu.item rfl
  obtain rfl := Spells.nil_iff.1 hu'
  have hd : (nested d n).dialect = d := by cases n <;> rfl
  generalize nested d n = env at hd ⊢
  obtain ⟨d', _, _, _, _⟩ := env
  obtain rfl : d' = d := hd
  cases hs with
  | nothing => cases d' <;> rfl
  | close _ _ _ s | and _ _ _ s | or _ _ _ s => cases s <;> cases d' <;> rfl

/-! ## Parentheses -/

section Parentheses

variable {env : Nested} {b' b'' : Option Lexeme} {p' q' p'' q'' : Text.Position}
  {u s : List Item} {k : Nat}

/-- What does not belong to the operand in front of it: no parenthesis, dot, further word or string.
-/
theorem isSeparate_iff {i : Item} :
    i.isSeparate = true ↔ i.isSymbol "(" = false ∧ i.isSymbol "." = false ∧
      i.keyword ∉ ["COLLATE", "ESCAPE", "UNSIGNED"] ∧
        ∀ kind text, i.token ≠ .string kind text := by
  obtain ⟨t, keyword, place, blank⟩ := i
  cases t <;> simp [Item.isSeparate, and_assoc]

/-- An operand with a separate token behind it has no collation. -/
theorem collated_eq (hs : (s.getD 0 .ending).isSeparate = true) :
    collated e env s = .ok (e, s) := by
  have hk := (isSeparate_iff.1 hs).2.2.1
  simp only [List.mem_cons, List.not_mem_nil, or_false, not_or] at hk
  exact bind_eq (keyword_eq_false hk.1) rfl

/-- An expression in parentheses is read as a nested one. -/
theorem parenthesized_eq (hquery : peekQuery env u = .ok (false, u))
    (hs : (s.getD 0 .ending).isSeparate = true)
    (h : env.expr 0 u = .ok (e, .ofLexeme b' ⟨.symbol ")", p', q'⟩ :: s)) :
    parenthesized env u = .ok (.nested e, s) := by
  have hlist : commaSeparated expr env u =
      .ok ([e], .ofLexeme b' ⟨.symbol ")", p', q'⟩ :: s) :=
    bind_eq h (bind_eq rfl rfl)
  have hdot : symbol "." env s = .ok (false, s) := symbol_eq_false (isSeparate_iff.1 hs).2.1
  exact bind_eq hquery (bind_eq hlist (bind_eq rfl (bind_eq rfl (bind_eq hdot rfl))))

/-- A parenthesis opens the operand it holds. -/
theorem operand_parenthesized (hquery : peekQuery env u = .ok (false, u))
    (hs : (s.getD 0 .ending).isSeparate = true)
    (h : env.expr 0 u = .ok (e, .ofLexeme b' ⟨.symbol ")", p', q'⟩ :: s)) :
    operand env (.ofLexeme b'' ⟨.symbol "(", p'', q''⟩ :: u) = .ok (.nested e, s) := by
  have hsymbol : ∀ interval, symbolOperand interval (.ofLexeme b'' ⟨.symbol "(", p'', q''⟩) "(" env
      u = .ok (.nested e, s) :=
    fun _ => bind_eq rfl (parenthesized_eq hquery hs h)
  have hcollated : collated (.nested e) env s = .ok (.nested e, s) := collated_eq hs
  have htyped : ∀ interval, attempt (typedString interval) env
      (.ofLexeme b'' ⟨.symbol "(", p'', q''⟩ :: u) =
        .ok (none, .ofLexeme b'' ⟨.symbol "(", p'', q''⟩ :: u) := by
    obtain ⟨d', _, _, _, _⟩ := env
    intro interval
    cases d' <;> rfl
  exact bind_eq rfl (bind_eq (htyped _) (bind_eq rfl (bind_eq (hsymbol _) hcollated)))

end Parentheses

/-- **In parentheses, an expression is an operand.** -/
theorem ReadInside.readAs (h : ReadInside d depth text e) :
    ReadAs d (depth + 1) ("(" ++ text ++ ")") (.nested e) := by
  obtain ⟨t, ts, ht, hreads, hspells⟩ := h
  refine ⟨.symbol "(", (t :: ts) ++ [.symbol ")"], rfl, ?_, ?_⟩
  · intro rest _
    simp only [String.toList_append, List.append_assoc]
    exact Lexer.reads_open.append ((hreads rest).append Lexer.reads_close)
  · intro n u s k hn hu hs
    obtain ⟨m, rfl⟩ := Nat.exists_eq_add_of_le' hn
    obtain ⟨b, p, q, u', rfl, hu'⟩ := hu.item rfl
    obtain ⟨v, v', rfl, hv, hv'⟩ := hu'.split
    obtain ⟨b', p', q', w, rfl, hw⟩ := hv'.item rfl
    obtain rfl := Spells.nil_iff.1 hw
    have hexpr := hspells (m + depth) v b' p' q' s (Nat.le_add_left _ _) hv
    obtain ⟨b'', p'', q'', v'', rfl, -⟩ := hv.item (isBlank_of_opensOperand ht)
    rw [List.cons_append, List.append_assoc]
    exact operand_parenthesized (peekQuery_eq ht) hs.isSeparate hexpr

/-! ## One operator after another -/

/-- The step from an operator to the next one. -/
def step (precedence : Nat) (e : Expr) : Rule (Option Expr) := do
  let p ← nextPrecedence
  if p ≤ precedence then return none else return some (← applyOperator e p)

section Step

variable {n k precedence : Nat} {s s' : List Item}

/-- An operator that binds no tighter than asked is left alone. -/
theorem step_none (hs : nextPrecedence (nested d n) s = .ok (k, s)) (hk : k ≤ precedence) :
    step precedence e (nested d n) s = .ok (none, s) := by
  refine bind_eq hs ?_
  rw [if_pos hk]
  rfl

/-- An operator that binds tighter than what is asked for is applied. -/
theorem step_apply {e' : Expr} (hs : nextPrecedence (nested d n) s = .ok (k, s))
    (hk : precedence < k) (happly : applyOperator e k (nested d n) s = .ok (e', s')) :
    step precedence e (nested d n) s = .ok (some e', s') := by
  refine bind_eq hs ?_
  rw [if_neg (Nat.not_le.2 hk)]
  exact bind_eq happly rfl

/-- `AND` or `OR` takes the expression behind it. -/
theorem step_some {r : Expr} {op : BinaryOp} {w : String} {b b' : Option Lexeme}
    {p q p' q' : Text.Position} {t : Token} (hop : w = "AND" ∧ op = .and ∨ w = "OR" ∧ op = .or)
    (ht : opensOperand t = true)
    (hs : Ends d (.ofLexeme b ⟨.word w none, p, q⟩ :: .ofLexeme b' ⟨t, p', q'⟩ :: s) k)
    (hk : precedence < k)
    (hr : expression k (nested d n) (.ofLexeme b' ⟨t, p', q'⟩ :: s) = .ok (r, s')) :
    step precedence e (nested d (n + 1))
        (.ofLexeme b ⟨.word w none, p, q⟩ :: .ofLexeme b' ⟨t, p', q'⟩ :: s) =
      .ok (some (.binary e op r), s') := by
  have hright : rightOperand e op (some p) k (nested d (n + 1)) (.ofLexeme b' ⟨t, p', q'⟩ :: s) =
      .ok (.binary e op r, s') :=
    bind_eq (oneOf_eq ht) (bind_eq hr rfl)
  have happly : applyOperator e k (nested d (n + 1))
      (.ofLexeme b ⟨.word w none, p, q⟩ :: .ofLexeme b' ⟨t, p', q'⟩ :: s) =
        .ok (.binary e op r, s') := by
    rcases hop with ⟨rfl, rfl⟩ | ⟨rfl, rfl⟩
    all_goals exact bind_eq rfl (bind_eq rfl (bind_eq rfl hright))
  exact step_apply (hs.nextPrecedence (n + 1)) hk happly

/-- Where the next operator is left alone, the expression ends. -/
theorem iterate_none {fuel : Nat} (hs : nextPrecedence (nested d n) s = .ok (k, s))
    (hk : k ≤ precedence) :
    iterateUpTo (step precedence) (fuel + 1) e (nested d n) s = .ok (e, s) :=
  bind_eq (step_none hs hk) rfl

/-- Where an operator is taken, reading goes on from what it makes. -/
theorem iterate_some {fuel : Nat} {e' : Expr}
    (h : step precedence e (nested d n) s = .ok (some e', s')) :
    iterateUpTo (step precedence) (fuel + 1) e (nested d n) s =
      iterateUpTo (step precedence) fuel e' (nested d n) s' :=
  bind_eq h rfl

/-- An expression is an operand, and then what the steps make of it. -/
theorem expression_eq (h : operand (nested d n) s = .ok (e, s')) :
    expression precedence (nested d n) s =
      iterateUpTo (step precedence) (s'.length + 1) e (nested d n) s' :=
  bind_eq h rfl

/-- An operand is the whole expression if no tighter operator follows. -/
theorem expression_ends (h : operand (nested d n) s = .ok (e, s')) (hs : Ends d s' k)
    (hk : k ≤ precedence) : expression precedence (nested d n) s = .ok (e, s') :=
  (expression_eq h).trans (iterate_none (hs.nextPrecedence n) hk)

end Step

/-! ## Operands behind `OR` -/

/-- Expressions, each behind `OR`. -/
def orSql : List Expr → String
  | [] => ""
  | e :: rest => " OR " ++ e.sql ++ orSql rest

/-- Expressions with `OR` in between, grouped to the left. -/
def orGroup (e : Expr) (rest : List Expr) : Expr := rest.foldl (fun l r => .binary l .or r) e

/-- A group of alternatives is printed as its first one with the others behind it. -/
theorem orGroup_sql (e : Expr) (rest : List Expr) : (orGroup e rest).sql = e.sql ++ orSql rest := by
  induction rest generalizing e with
  | nil => simp [orGroup, orSql]
  | cons r rest ih =>
    have := ih (.binary e .or r)
    simp only [orGroup, List.foldl_cons] at this ⊢
    simp [this, orSql, Expr.sql, BinaryOp.sql, String.append_assoc]

/-- What stands behind an alternative breaks off the word before it. -/
theorem breaks_orSql (es : List Expr) {rest : List Char} (h : Breaks rest) :
    Breaks ((orSql es).toList ++ rest) := by
  cases es with
  | nil => exact h
  | cons e es => simp [orSql]

/-- **Operands behind `OR` are read one after the other**, and group to the left. -/
theorem readAs_orSql {es : List Expr} (h : ∀ e ∈ es, ReadAs d depth e.sql e) :
    ∃ ts, (∀ rest, Breaks rest → Reads d (orSql es).toList ts rest) ∧
      ∀ n u s, depth ≤ n → Spells ts u → Ends d s 0 →
        (∃ k, Ends d (u ++ s) k ∧ k ≤ Tier.or.precedence d) ∧ es.length ≤ u.length ∧
        ∀ e fuel, es.length < fuel →
          iterateUpTo (step 0) fuel e (nested d (n + 1)) (u ++ s) = .ok (orGroup e es, s) := by
  induction es with
  | nil =>
    refine ⟨[], fun rest _ => .nil d rest, ?_⟩
    intro n u s hn hu hs
    obtain rfl := Spells.nil_iff.1 hu
    refine ⟨⟨0, hs, Nat.zero_le _⟩, Nat.zero_le _, ?_⟩
    rintro e (- | fuel) hfuel
    · cases hfuel
    · exact iterate_none (hs.nextPrecedence (n + 1)) (Nat.le_refl 0)
  | cons r es ih =>
    obtain ⟨ts, hreads, hspells⟩ := ih fun e he => h e (by simp [he])
    obtain ⟨t, tr, ht, hreadsr, hr⟩ := h r (by simp)
    refine ⟨[.space, .word "OR" none, .space] ++ ((t :: tr) ++ ts), ?_, ?_⟩
    · intro rest hrest
      have hor : Reads d " OR ".toList [.space, .word "OR" none, .space]
          (r.sql.toList ++ (orSql es).toList ++ rest) :=
        Lexer.reads_between rfl
      rw [orSql, String.toList_append, String.toList_append, List.append_assoc]
      exact hor.append ((hreadsr _ (breaks_orSql es hrest)).append (hreads rest hrest))
    · intro n u s hn hu hs
      obtain ⟨uo, u', rfl, huo, hu'⟩ := hu.split
      obtain ⟨ur, ut, rfl, hur, hut⟩ := hu'.split
      obtain ⟨b, p, q, rfl⟩ := huo.between rfl
      obtain ⟨⟨k, hk, hle⟩, hlen, hchain⟩ := hspells n ut s hn hut hs
      have hoperand := hr n ur (ut ++ s) k hn hur hk
      obtain ⟨b', p', q', ur', rfl, -⟩ := hur.item (isBlank_of_opensOperand ht)
      have hright : expression (Tier.or.precedence d) (nested d n)
          (.ofLexeme b' ⟨t, p', q'⟩ :: (ur' ++ (ut ++ s))) = .ok (r, ut ++ s) :=
        expression_ends hoperand hk hle
      have hwhole : [Item.ofLexeme b ⟨.word "OR" none, p, q⟩] ++
          (.ofLexeme b' ⟨t, p', q'⟩ :: ur' ++ ut) ++ s = .ofLexeme b ⟨.word "OR" none, p, q⟩ ::
            .ofLexeme b' ⟨t, p', q'⟩ :: (ur' ++ (ut ++ s)) := by
        simp
      refine ⟨⟨_, .or b p q _, Nat.le_refl _⟩, ?_, ?_⟩
      · simp only [List.length_cons, List.length_append, List.length_nil]
        omega
      · rintro e (- | fuel) hfuel
        · cases hfuel
        · have hstep := step_some (e := e) (.inr ⟨rfl, rfl⟩) ht (.or b p q _)
            (Tier.or_pos d) hright
          have hrest := hchain (.binary e .or r) fuel (Nat.lt_of_succ_lt_succ hfuel)
          rw [hwhole]
          exact (iterate_some hstep).trans hrest

/-- Operands with `OR` in between are an expression. -/
theorem readInside_or {es : List Expr} (he : ReadAs d depth e.sql e)
    (hes : ∀ e ∈ es, ReadAs d depth e.sql e) :
    ReadInside d (depth + 1) (orGroup e es).sql (orGroup e es) := by
  obtain ⟨t, te, ht, hreade, hspelle⟩ := he
  obtain ⟨ts, hreads, hspells⟩ := readAs_orSql hes
  refine ⟨t, te ++ ts, ht, ?_, ?_⟩
  · intro rest
    rw [orGroup_sql, String.toList_append]
    exact (hreade _ (breaks_orSql es Lexer.breaks_close)).append (hreads _ Lexer.breaks_close)
  · intro n u b p q s hn hu
    obtain ⟨m, rfl⟩ := Nat.exists_eq_add_of_le' hn
    rw [← List.cons_append] at hu
    obtain ⟨ue, uo, rfl, hue, huo⟩ := hu.split
    have hclose : Ends d (.ofLexeme b ⟨.symbol ")", p, q⟩ :: s) 0 := .close b p q s
    obtain ⟨⟨k, hk, -⟩, hlen, hchain⟩ :=
      hspells (m + depth) uo _ (Nat.le_add_left _ _) huo hclose
    have hfirst := hspelle (m + depth + 1) ue _ k (by omega) hue hk
    rw [List.append_assoc]
    exact (expression_eq hfirst).trans (hchain e _ (by simp; omega))

/-! ## Operands of `AND` -/

/-- **`AND` comes before `OR`.**  An operand, `AND` and further operands with `OR` in between are
read as an expression in which `AND` takes the first of the further ones only. -/
theorem readAs_junction {left : String} {a r : Expr} {es : List Expr} (ha : ReadAs d depth left a)
    (hr : ReadAs d depth r.sql r) (hes : ∀ e ∈ es, ReadAs d depth e.sql e) :
    ∃ ts, Reads d (left ++ " AND " ++ r.sql ++ orSql es).toList ts [] ∧
      ∀ n s, depth ≤ n → Spells ts s →
        s ≠ [] ∧ expression 0 (nested d (n + 1)) s = .ok (orGroup (.binary a .and r) es, []) := by
  obtain ⟨ta, tsa, hta, hreada, hspella⟩ := ha
  obtain ⟨tr, tsr, htr, hreadr, hspellr⟩ := hr
  obtain ⟨ts, hreads, hspells⟩ := readAs_orSql hes
  refine ⟨(ta :: tsa) ++ ([.space, .word "AND" none, .space] ++ ((tr :: tsr) ++ ts)), ?_, ?_⟩
  · have hand : ∀ {rest}, Reads d " AND ".toList [.space, .word "AND" none, .space] rest :=
      Lexer.reads_between rfl
    have hlast : Reads d (r.sql.toList ++ (orSql es).toList) ((tr :: tsr) ++ ts) [] :=
      (hreadr _ (breaks_orSql es Lexer.breaks_nil)).append (hreads [] Lexer.breaks_nil)
    simp only [String.toList_append, List.append_assoc]
    exact (hreada _ Lexer.breaks_blank).append (hand.append hlast)
  · intro n s hn hs
    obtain ⟨ua, u, rfl, hua, hu⟩ := hs.split
    obtain ⟨uo, v, rfl, huo, hv⟩ := hu.split
    obtain ⟨ur, w, rfl, hur, hw⟩ := hv.split
    obtain ⟨b, p, q, rfl⟩ := huo.between rfl
    obtain ⟨⟨k, hk, hle⟩, hlen, hchain⟩ := hspells n w [] hn hw .nothing
    rw [List.append_nil] at hk
    have hfirst := hspella (n + 1) ua _ _ (Nat.le_succ_of_le hn) hua (.and b p q (ur ++ w))
    have hsecond := hspellr n ur w k hn hur hk
    obtain ⟨b', p', q', ur', rfl, -⟩ := hur.item (isBlank_of_opensOperand htr)
    have hright : expression (Tier.and.precedence d) (nested d n)
        (.ofLexeme b' ⟨tr, p', q'⟩ :: (ur' ++ w)) = .ok (r, w) :=
      expression_ends hsecond hk (Nat.le_trans hle (Tier.or_le_and d))
    have hstep := step_some (e := a) (.inl ⟨rfl, rfl⟩) htr (.and b p q _) (Tier.and_pos d) hright
    refine ⟨?_, ?_⟩
    · obtain ⟨b'', p'', q'', ua', rfl, -⟩ := hua.item (isBlank_of_opensOperand hta)
      simp
    · have hrest := hchain (.binary a .and r) (ur'.length + w.length + 2) (by omega)
      rw [List.append_nil] at hrest
      refine (expression_eq hfirst).trans (Eq.trans ?_ ((iterate_some hstep).trans hrest))
      simp only [List.length_cons, List.length_append, List.cons_append]

end Grammar
end Sql
end QueryTemplate
