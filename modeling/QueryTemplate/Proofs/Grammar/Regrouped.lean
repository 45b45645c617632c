/-
# Trees that are read in another grouping

What stands behind a tree goes to the last operand of it that is open for it (`Tail.attach`).

| tree | behind it | read as |
| --- | --- | --- |
| `-a` | `::INT` | `-` in front of `a::INT` |
| `a * -b` | `^ c` | `a *` in front of `-`, in front of `b ^ c` |
| `-a` | `* c` | `-a`, times `c` |

If this is done everywhere, from the left to the right (`Tree.regroup`), the operators and their
operands stay in their order, so the text is the same (`Regroups`), and everything groups as it
is written.  So a tree is read as the regrouped one (`parseCondition_regroup`).  It is not the
tree itself, whatever parentheses are left out, as soon as one operator was not allowed
(`bare_regroup_iff`): something shorter stands in front of the operator then.
-/

import QueryTemplate.Proofs.Grammar.Grouping

namespace QueryTemplate
namespace Sql

open Grammar (Tier)

variable {d : Dialect} {t t' l l' r low high : Tree} {k m : Nat}

/-! ## What stands behind an operand -/

/-- An operator behind an operand, with its other operands. -/
inductive Tail where
  | link (link : Link) (right : Tree)
  | suffix (suffix : Suffix)
  | range (negated : Bool) (low high : Tree)

namespace Tail

/-- The tree with the whole of `t` in front. -/
def on (t : Tree) : Tail → Tree
  | link l r => .linked t l r
  | suffix s => .suffixed t s
  | range negated low high => .ranged t negated low high

variable (d : Dialect)

/-- How tight it binds. -/
def precedence : Tail → Nat
  | link l _ => l.precedence d
  | suffix s => s.precedence d
  | range .. => Tier.between.precedence d

/-- Whether its operands group as they are written. -/
def isGrouped : Tail → Bool
  | link l r => r.rightGrouped d && r.leftGrouped d && r.isAbove d (l.precedence d)
  | suffix _ => true
  | range _ low high => low.rightGrouped d && low.leftGrouped d && high.rightGrouped d &&
      high.leftGrouped d && low.isAbove d (Tier.between.precedence d) &&
      high.isAbove d (Tier.between.precedence d)

/-- The tree with the last operand of `t` in front that is open for it. -/
def attach (x : Tail) (t : Tree) : Tree :=
  if t.allows d (x.precedence d) then x.on t else
    match t with
    | .prefixed op t => .prefixed op (x.attach t)
    | .linked l link' r => .linked l link' (x.attach r)
    | .ranged t negated low high => .ranged t negated low (x.attach high)
    | t => x.on t
  termination_by structural t

end Tail

/-- The tree as its text is read. -/
def Tree.regroup (d : Dialect) : Tree → Tree
  | leaf e => leaf e
  | nested t => nested (t.regroup d)
  | prefixed op t => prefixed op (t.regroup d)
  | linked l link r => (Tail.link link (r.regroup d)).attach d (l.regroup d)
  | suffixed t suffix => (Tail.suffix suffix).attach d (t.regroup d)
  | ranged t negated low high =>
    (Tail.range negated (low.regroup d) (high.regroup d)).attach d (t.regroup d)

/-! ## The same text -/

/-- The operators and their operands are the same, in the same order, but may be grouped
otherwise. -/
inductive Regroups : Tree → Tree → Prop
  | refl (t : Tree) : Regroups t t
  | trans {t t' t'' : Tree} (h : Regroups t t') (h' : Regroups t' t'') : Regroups t t''
  | nested {t t' : Tree} (h : Regroups t t') : Regroups (.nested t) (.nested t')
  | prefixed (op : PrefixOp) {t t' : Tree} (h : Regroups t t') :
    Regroups (.prefixed op t) (.prefixed op t')
  | linked (link : Link) {l l' r r' : Tree} (hl : Regroups l l') (hr : Regroups r r') :
    Regroups (.linked l link r) (.linked l' link r')
  | suffixed (suffix : Suffix) {t t' : Tree} (h : Regroups t t') :
    Regroups (.suffixed t suffix) (.suffixed t' suffix)
  | ranged (negated : Bool) {t t' low low' high high' : Tree} (h : Regroups t t')
    (hlow : Regroups low low') (hhigh : Regroups high high') :
    Regroups (.ranged t negated low high) (.ranged t' negated low' high')
  | inPrefixed (x : Tail) (op : PrefixOp) (t : Tree) :
    Regroups (x.on (.prefixed op t)) (.prefixed op (x.on t))
  | inLinked (x : Tail) (l : Tree) (link : Link) (r : Tree) :
    Regroups (x.on (.linked l link r)) (.linked l link (x.on r))
  | inRanged (x : Tail) (t : Tree) (negated : Bool) (low high : Tree) :
    Regroups (x.on (.ranged t negated low high)) (.ranged t negated low (x.on high))

/-- A tail that is attached further inside is the same text. -/
theorem regroups_attach (d : Dialect) (x : Tail) (t : Tree) :
    Regroups (x.on t) (x.attach d t) := by
  fun_induction Tail.attach d x t with
  | case1 => exact .refl _
  | case2 op t _ ih => exact (Regroups.inPrefixed x op t).trans (.prefixed op ih)
  | case3 l link r _ ih => exact (Regroups.inLinked x l link r).trans (.linked link (.refl l) ih)
  | case4 t negated low high _ ih =>
    exact (Regroups.inRanged x t negated low high).trans (.ranged negated (.refl t) (.refl low) ih)
  | case5 => exact .refl _

/-- The tree as its text is read has the same operators and operands in the same order. -/
theorem regroups_regroup (d : Dialect) (t : Tree) : Regroups t (t.regroup d) := by
  induction t with
  | leaf e => exact .refl _
  | nested t ih => exact ih.nested
  | prefixed op t ih => exact ih.prefixed op
  | linked l link r ihl ihr =>
    exact (ihl.linked link ihr).trans (regroups_attach d (.link link _) _)
  | suffixed t suffix ih => exact (ih.suffixed suffix).trans (regroups_attach d (.suffix suffix) _)
  | ranged t negated low high iht ihlow ihhigh =>
    exact (iht.ranged negated ihlow ihhigh).trans (regroups_attach d (.range negated _ _) _)

namespace Regroups

/-- Grouping otherwise keeps the leaves. -/
theorem leaves (h : Regroups t t') : t'.leaves = t.leaves := by
  induction h with
  | inPrefixed x | inLinked x | inRanged x => cases x <;> simp [Tail.on, Tree.leaves]
  | _ => simp_all [Tree.leaves]

/-- Grouping otherwise keeps the operators known. -/
theorem isKnown (h : Regroups t t') : t'.isKnown d = t.isKnown d := by
  induction h with
  | inPrefixed x | inLinked x | inRanged x =>
    cases x <;> simp [Tail.on, Tree.isKnown, Bool.and_assoc, Bool.and_comm, Bool.and_left_comm]
  | _ => simp_all [Tree.isKnown]

/-- Grouping otherwise keeps the sign in front. -/
theorem startsWithSign (h : Regroups t t') : t'.startsWithSign = t.startsWithSign := by
  induction h with
  | inPrefixed x | inLinked x | inRanged x => cases x <;> simp [Tail.on, Tree.startsWithSign]
  | _ => simp_all [Tree.startsWithSign]

/-- Grouping otherwise keeps signs apart. -/
theorem signsApart (h : Regroups t t') : t'.signsApart = t.signsApart := by
  induction h with
  | inPrefixed x | inLinked x | inRanged x =>
    cases x <;>
      simp [Tail.on, Tree.signsApart, Tree.startsWithSign, Bool.and_assoc, Bool.and_comm,
        Bool.and_left_comm]
  | prefixed op h ih => simp [Tree.signsApart, ih, h.startsWithSign]
  | _ => simp_all [Tree.signsApart]

/-- **The grouping is not written.** -/
theorem sql (h : Regroups t t') : t'.expr.sql = t.expr.sql := by
  induction h with
  | inPrefixed x | inLinked x | inRanged x =>
    cases x <;>
      simp [Tail.on, Tree.expr, Link.sql_join, Expr.sql, Part.allSql, Part.sql, String.append_assoc]
  | _ => simp_all [Tree.expr, Link.sql_join, Expr.sql, Part.allSql, Part.sql]

end Regroups

/-! ## The other grouping -/

namespace Tail

variable {x : Tail}

/-- A tail whose operand may stand before it is not attached further inside. -/
theorem attach_eq (h : t.allows d (x.precedence d) = true) : x.attach d t = x.on t := by
  unfold attach
  rw [if_pos h]

/-- A tree with a tail is above what both are above. -/
theorem isAbove_on : (x.on t).isAbove d k = (decide (k < x.precedence d) && t.isAbove d k) := by
  cases x <;> rfl

/-- A grouped tail keeps right operands grouped. -/
theorem rightGrouped_on (hx : x.isGrouped d = true) (h : t.rightGrouped d = true) :
    (x.on t).rightGrouped d = true := by
  cases x <;> simp_all [isGrouped, on, Tree.rightGrouped]

/-- A tail whose operand may stand before it keeps left operands grouped. -/
theorem leftGrouped_on (hx : x.isGrouped d = true) (h : t.leftGrouped d = true)
    (hallows : t.allows d (x.precedence d) = true) : (x.on t).leftGrouped d = true := by
  cases x <;> simp_all [isGrouped, on, Tree.leftGrouped, precedence]

/-- Inside the tree, it does not matter how tight the operator binds. -/
theorem isAbove_attach_inside (h : t.allows d (x.precedence d) = false) :
    (x.attach d t).isAbove d k = t.isAbove d k := by
  cases t with
  | leaf | nested | suffixed => cases h
  | prefixed | linked | ranged =>
    unfold attach
    simp only [h, Bool.false_eq_true, if_false]
    rfl

/-- Attaching a tail further inside keeps what the tree is above. -/
theorem isAbove_attach (hk : k < x.precedence d) (h : t.isAbove d k = true) :
    (x.attach d t).isAbove d k = true := by
  cases hallows : t.allows d (x.precedence d) with
  | true => rw [attach_eq hallows, isAbove_on, h, decide_eq_true hk, Bool.and_self]
  | false => rw [isAbove_attach_inside hallows, h]

/-- **What goes to the last open operand leaves the rest grouped as it was.** -/
theorem attach_grouped (hx : x.isGrouped d = true) (hright : t.rightGrouped d = true)
    (hleft : t.leftGrouped d = true) :
    (x.attach d t).rightGrouped d = true ∧ (x.attach d t).leftGrouped d = true := by
  -- an operand that allows the operator is open for it only if it binds tighter
  have habove {r : Tree} {k : Nat} (hr : r.isAbove d k = true)
      (h : (decide (x.precedence d ≤ k) && r.allows d (x.precedence d)) = false) :
      (x.attach d r).isAbove d k = true := by
    cases hallows : r.allows d (x.precedence d) with
    | true => exact isAbove_attach (by simpa [hallows] using h) hr
    | false => rw [isAbove_attach_inside hallows, hr]
  fun_induction attach d x t with
  | case1 t h => exact ⟨rightGrouped_on hx hright, leftGrouped_on hx hleft h⟩
  | case2 op t h ih =>
    simp only [Tree.rightGrouped, Bool.and_eq_true] at hright ⊢
    obtain ⟨hr, hl⟩ := ih hright.1 hleft
    exact ⟨⟨hr, habove hright.2 (by simpa [Tree.allows] using h)⟩, hl⟩
  | case3 l link r h ih =>
    simp only [Tree.rightGrouped, Tree.leftGrouped, Bool.and_eq_true] at hright hleft ⊢
    obtain ⟨hr, hl⟩ := ih hright.1.2 hleft.1.2
    exact ⟨⟨⟨hright.1.1, hr⟩, habove hright.2 (by simpa [Tree.allows] using h)⟩,
      ⟨hleft.1.1, hl⟩, hleft.2⟩
  | case4 t negated low high h ih =>
    simp only [Tree.rightGrouped, Tree.leftGrouped, Bool.and_eq_true] at hright hleft ⊢
    obtain ⟨hr, hl⟩ := ih hright.1.1.2 hleft.1.2
    exact ⟨⟨⟨⟨hright.1.1.1, hr⟩, hright.1.2⟩, habove hright.2 (by simpa [Tree.allows] using h)⟩,
      ⟨hleft.1.1, hl⟩, hleft.2⟩
  | case5 t hprefixed hlinked hranged h =>
    cases t with
    | leaf | nested | suffixed => exact absurd rfl h
    | prefixed op t => exact (hprefixed op t rfl).elim
    | linked l link r => exact (hlinked l link r rfl).elim
    | ranged t negated low high => exact (hranged t negated low high rfl).elim

end Tail

namespace Tree

/-- Regrouping keeps what the tree is above. -/
theorem isAbove_regroup (h : t.isAbove d k = true) : (t.regroup d).isAbove d k = true := by
  induction t with
  | leaf | nested | prefixed => rfl
  | linked l link r ihl _ =>
    rw [isAbove, Bool.and_eq_true, decide_eq_true_eq] at h
    exact Tail.isAbove_attach h.1 (ihl h.2)
  | suffixed t suffix ih =>
    rw [isAbove, Bool.and_eq_true, decide_eq_true_eq] at h
    exact Tail.isAbove_attach h.1 (ih h.2)
  | ranged t negated low high ih =>
    rw [isAbove, Bool.and_eq_true, decide_eq_true_eq] at h
    exact Tail.isAbove_attach h.1 (ih h.2)

/-- **The regrouped tree groups as it is written.** -/
theorem regroup_grouped (h : t.rightGrouped d = true) :
    (t.regroup d).rightGrouped d = true ∧ (t.regroup d).leftGrouped d = true := by
  induction t with
  | leaf e => exact ⟨rfl, rfl⟩
  | nested t ih => exact ih h
  | prefixed op t ih =>
    simp only [rightGrouped, Bool.and_eq_true] at h
    simp [regroup, rightGrouped, leftGrouped, ih h.1, isAbove_regroup h.2]
  | linked l link r ihl ihr =>
    simp only [rightGrouped, Bool.and_eq_true] at h
    have hx : (Tail.link link (r.regroup d)).isGrouped d = true := by
      simp [Tail.isGrouped, ihr h.1.2, isAbove_regroup h.2]
    exact Tail.attach_grouped hx (ihl h.1.1).1 (ihl h.1.1).2
  | suffixed t suffix ih => exact Tail.attach_grouped rfl (ih h).1 (ih h).2
  | ranged t negated low high iht ihlow ihhigh =>
    simp only [rightGrouped, Bool.and_eq_true] at h
    have hx : (Tail.range negated (low.regroup d) (high.regroup d)).isGrouped d = true := by
      simp [Tail.isGrouped, ihlow h.1.1.1.2, ihhigh h.1.1.2, isAbove_regroup h.1.2,
        isAbove_regroup h.2]
    exact Tail.attach_grouped hx (iht h.1.1.1.1).1 (iht h.1.1.1.1).2

/-- What groups as it is written stays as it is. -/
theorem regroup_eq (h : t.leftGrouped d = true) : t.regroup d = t := by
  induction t with
  | leaf => rfl
  | nested t ih | prefixed op t ih => rw [regroup, ih h]
  | linked l link r ihl ihr =>
    simp only [leftGrouped, Bool.and_eq_true] at h
    rw [regroup, ihl h.1.1, ihr h.1.2, Tail.attach_eq h.2, Tail.on]
  | suffixed t suffix ih =>
    simp only [leftGrouped, Bool.and_eq_true] at h
    rw [regroup, ih h.1, Tail.attach_eq h.2, Tail.on]
  | ranged t negated low high iht ihlow ihhigh =>
    simp only [leftGrouped, Bool.and_eq_true] at h
    rw [regroup, iht h.1.1.1, ihlow h.1.1.2, ihhigh h.1.2, Tail.attach_eq h.2, Tail.on]

end Tree

namespace Grammar

/-- **A tree is read in the grouping of its operators.** -/
theorem parseCondition_regroup (hknown : t.isKnown d = true) (hright : t.rightGrouped d = true)
    (hsigns : t.signsApart = true) (hleaves : ∀ e ∈ t.leaves, IsTerm d m e)
    (hdepth : (t.regroup d).depth m ≤ 46) :
    parseCondition d t.expr.sql = .ok (.nested (t.regroup d).expr) := by
  have hregroups := regroups_regroup d t
  rw [← hregroups.sql]
  exact parseCondition_tree (hregroups.isKnown.trans hknown) (Tree.regroup_grouped hright).1
    (Tree.regroup_grouped hright).2 (hregroups.signsApart.trans hsigns)
    (hregroups.leaves ▸ hleaves) hdepth

end Grammar

/-! ## Expressions up to parentheses -/

/-- The digits of a number that is written with a sign. -/
def Literal.negated? : Literal → Option String
  | .number digits false =>
    match digits.toList with
    | '-' :: c :: cs => if c.isDigit then some (String.ofList (c :: cs)) else none
    | _ => none
  | _ => none

mutual

/-- The expression without parentheses.  The sign of a number stands in front of its digits. -/
def Expr.bare : Expr → Expr
  | .column qualifier name => .column qualifier name
  | .literal value =>
    match value.negated? with
    | some digits => .unary .minus (.number digits)
    | none => .literal value
  | .nested inner => inner.bare
  | .unary op operand => .unary op operand.bare
  | .binary left op right => .binary left.bare op right.bare
  | .phrase parts => .phrase (Part.allBare parts)
  termination_by structural e => e

/-- The piece without parentheses. -/
def Part.bare : Part → Part
  | .words text => .words text
  | .operand e => .operand e.bare
  | .deferred e => .deferred e.bare
  | .enclosed e => .enclosed e.bare
  termination_by structural p => p

/-- The pieces without parentheses. -/
def Part.allBare : List Part → List Part
  | [] => []
  | p :: rest => p.bare :: Part.allBare rest
  termination_by structural ps => ps

end

/-- What an expression starts with, if it is an operand in front of words or of an operator. -/
def Expr.first? : Expr → Option Expr
  | .binary left _ _ => some left
  | .phrase (.operand e :: _) => some e
  | _ => none

/-- Setting parentheses aside goes through a link. -/
theorem Link.bare_join (l r : Expr) (link : Link) :
    (link.join l r).bare = link.join l.bare r.bare := by
  cases link <;> rfl

/-- A link tells its operands apart. -/
theorem Link.join_inj {l l' r r' : Expr} {link : Link} (h : link.join l r = link.join l' r') :
    l = l' ∧ r = r' := by
  cases link <;> simp_all [Link.join]

/-- The first operand of a tree with a tail is the tree. -/
theorem Tail.first?_on (x : Tail) (t : Tree) : ((x.on t).expr.bare).first? = some t.expr.bare := by
  cases x with
  | link l r => cases l <;> rfl
  | suffix | range => rfl

/-- What stands in front of an operator is shorter than the whole. -/
theorem Tail.length_on (x : Tail) (t : Tree) :
    t.expr.bare.sql.length < (x.on t).expr.bare.sql.length := by
  have hspaced (ts : List Token) : 0 < (spacedSql ts).length := by
    cases ts with
    | nil => decide
    | cons t ts =>
      rw [spacedSql, List.map_cons, List.foldr_cons, String.length_append, String.length_append]
      exact Nat.add_pos_left (Nat.add_pos_left (by decide) _) _
  cases x with
  | link l r =>
    rw [on, Tree.expr, Link.bare_join, Link.sql_join, String.length_append, String.length_append]
    have hpos := hspaced l.tokens
    omega
  | suffix s =>
    have hpos : 0 < s.sql.length := by
      cases s <;> (rw [Suffix.sql, String.length_append]; exact Nat.add_pos_left (by decide) _)
    simpa [on, Tree.expr, Expr.bare, Part.allBare, Part.bare, Expr.sql, Part.allSql, Part.sql]
      using hpos
  | range negated low high =>
    have hpos := hspaced (rangeTokens negated)
    simp only [on, Tree.expr, Expr.bare, Part.allBare, Part.bare, Expr.sql, Part.allSql, Part.sql,
      String.length_append]
    omega

/-- Parentheses apart, the grouping is not written. -/
theorem Regroups.bareSql (h : Regroups t t') : t'.expr.bare.sql = t.expr.bare.sql := by
  induction h with
  | inPrefixed x | inLinked x | inRanged x =>
    cases x <;>
      simp [Tail.on, Tree.expr, Link.bare_join, Link.sql_join, Expr.bare, Part.allBare, Part.bare,
        Expr.sql, Part.allSql, Part.sql, String.append_assoc]
  | _ =>
    simp_all [Tree.expr, Link.bare_join, Link.sql_join, Expr.bare, Part.allBare, Part.bare,
      Expr.sql, Part.allSql, Part.sql]

/-- **Where an operator is not allowed, something shorter than the tree stands in front of it.** -/
theorem Tail.bare_attach_ne {x y : Tail} (h : t.allows d (x.precedence d) = false)
    (hlength : t.expr.bare.sql.length = t'.expr.bare.sql.length) :
    (x.attach d t).expr.bare ≠ (y.on t').expr.bare := by
  intro hbare
  have hfirst : ((x.attach d t).expr.bare).first? = some t'.expr.bare := by
    rw [hbare, first?_on]
  cases t with
  | leaf | nested | suffixed => cases h
  | prefixed op t =>
    rw [attach, if_neg (by simp [h])] at hfirst
    cases hfirst
  | linked l link r =>
    rw [attach, if_neg (by simp [h])] at hfirst
    have hl : some l.expr.bare = some t'.expr.bare :=
      ((Tail.link link (x.attach d r)).first?_on l).symm.trans hfirst
    have hlt := (Tail.link link r).length_on l
    rw [Option.some.inj hl, on, hlength] at hlt
    exact Nat.lt_irrefl _ hlt
  | ranged t negated low high =>
    rw [attach, if_neg (by simp [h])] at hfirst
    have ht : some t.expr.bare = some t'.expr.bare :=
      ((Tail.range negated low (x.attach d high)).first?_on t).symm.trans hfirst
    have hlt := (Tail.range negated low high).length_on t
    rw [Option.some.inj ht, on, hlength] at hlt
    exact Nat.lt_irrefl _ hlt

/-- If the whole is the same, parentheses apart, the operator was allowed, and what stands in front
of it is the same. -/
theorem Tail.allows_of_bare {x y : Tail}
    (h : (x.attach d (t.regroup d)).expr.bare = (y.on t).expr.bare) :
    (t.regroup d).allows d (x.precedence d) = true ∧
      (x.on (t.regroup d)).expr.bare = (y.on t).expr.bare ∧
        (t.regroup d).expr.bare = t.expr.bare := by
  have hallows : (t.regroup d).allows d (x.precedence d) = true := by
    rw [← Bool.not_eq_false]
    intro hnot
    exact bare_attach_ne hnot (congrArg String.length (regroups_regroup d t).bareSql) h
  rw [attach_eq hallows] at h
  refine ⟨hallows, h, Option.some.inj ?_⟩
  rw [← x.first?_on, h, first?_on]

/-- **A tree is the regrouped one, parentheses apart, just if it groups as it is written.** -/
theorem Tree.bare_regroup_iff :
    (t.regroup d).expr.bare = t.expr.bare ↔ t.leftGrouped d = true := by
  refine ⟨fun h => ?_, fun h => by rw [regroup_eq h]⟩
  induction t with
  | leaf e => rfl
  | nested t ih => exact ih h
  | prefixed op t ih => exact ih (Expr.unary.inj h).2
  | linked l link r ihl ihr =>
    obtain ⟨hallows, hbare, hl⟩ :=
      Tail.allows_of_bare (x := .link link (r.regroup d)) (y := .link link r) h
    rw [Tail.on, Tail.on, expr, expr, Link.bare_join, Link.bare_join] at hbare
    rw [leftGrouped, ihl hl, ihr (Link.join_inj hbare).2]
    rw [regroup_eq (ihl hl)] at hallows
    exact hallows
  | suffixed t suffix ih =>
    obtain ⟨hallows, -, ht⟩ :=
      Tail.allows_of_bare (x := .suffix suffix) (y := .suffix suffix) h
    rw [regroup_eq (ih ht)] at hallows
    rw [leftGrouped, ih ht]
    exact hallows
  | ranged t negated low high iht ihlow ihhigh =>
    obtain ⟨hallows, hbare, ht⟩ := Tail.allows_of_bare
      (x := .range negated (low.regroup d) (high.regroup d)) (y := .range negated low high) h
    rw [regroup_eq (iht ht)] at hallows
    simp only [Tail.on, expr, Expr.bare, Part.allBare, Part.bare, Expr.phrase.injEq,
      List.cons.injEq, Part.operand.injEq, true_and, and_true] at hbare
    rw [leftGrouped, iht ht, ihlow hbare.2.1, ihhigh hbare.2.2]
    exact hallows

end Sql
end QueryTemplate
