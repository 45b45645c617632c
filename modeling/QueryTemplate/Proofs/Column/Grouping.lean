/-
# Values between operators

A value stands where the column stood, and nothing is written around it.

| value | template | printed | read as |
| --- | --- | --- | --- |
| `-5` | `a * b` | `-5 * b` | `-5` times `b` |
| `-5` | `a::INT` | `-5::INT` | `-` in front of `5::INT` |
| `(x + 1)` | `a::INT` | `(x + 1)::INT` | `(x + 1)` as `INT` |

So what is printed groups as before, just if no number with a sign stands directly in front of an
operator that binds tighter than the sign (`substitute_grouping`).
-/

import QueryTemplate.Proofs.Clause.Agreement
import QueryTemplate.Proofs.Grammar.Regrouped
import QueryTemplate.Proofs.Value.Operands

namespace QueryTemplate
namespace Sql

open Grammar (IsTerm Tier)
open Value (Fits IsNegative)

variable {d : Dialect} {t : Tree} {e : Expr} {values : String → List Expr} {k m : Nat}

/-! ## Filled trees -/

/-- The digits of an expression that is a number with a sign. -/
def Expr.negated? : Expr → Option String
  | .literal value => value.negated?
  | _ => none

/-- The expression as a tree.  The sign of a number is in front of it. -/
def Expr.tree (e : Expr) : Tree :=
  match e.negated? with
  | some digits => .prefixed .minus (.leaf (.number digits))
  | none => .leaf e

namespace Tree

/-- The tree with each leaf replaced by the first values of its columns. -/
@[simp]
def filled (values : String → List Expr) : Tree → Tree
  | leaf e => (e.firstOnly values).tree
  | nested t => nested (t.filled values)
  | prefixed op t => prefixed op (t.filled values)
  | linked l link r => linked (l.filled values) link (r.filled values)
  | suffixed t suffix => suffixed (t.filled values) suffix
  | ranged t negated low high =>
    ranged (t.filled values) negated (low.filled values) (high.filled values)

/-- The leaf that the tree ends with, if it is open there. -/
def last? : Tree → Option Expr
  | leaf e => some e
  | nested _ | suffixed _ _ => none
  | prefixed _ t => t.last?
  | linked _ _ r => r.last?
  | ranged _ _ _ high => high.last?

/-- The leaves directly in front of an operator that binds tighter than a sign. -/
def exposed (d : Dialect) : Tree → List Expr
  | leaf _ => []
  | nested t | prefixed _ t => t.exposed d
  | linked l link r => l.exposed d ++ r.exposed d ++
      if PrefixOp.minus.precedence d < link.precedence d then l.last?.toList else []
  | suffixed t suffix => t.exposed d ++
      if PrefixOp.minus.precedence d < suffix.precedence d then t.last?.toList else []
  | ranged t _ low high => t.exposed d ++ low.exposed d ++ high.exposed d

end Tree

/-- A signed number is the digits with a minus in front, and the digits alone are unsigned. -/
theorem Literal.negated?_eq_some {value : Literal} {digits : String}
    (h : value.negated? = some digits) :
    value = .number ("-" ++ digits) false ∧ (Literal.number digits false).negated? = none := by
  unfold negated? at h
  split at h
  · rename_i text
    split at h
    · rename_i c cs htext
      split at h
      · rename_i hc
        obtain rfl := Option.some.inj h
        have hnumber : text = "-" ++ String.ofList (c :: cs) := by
          rw [← String.toList_inj, htext]
          simp
        have hne : c ≠ '-' := by
          rintro rfl
          cases hc
        refine ⟨by rw [hnumber], ?_⟩
        simp only [negated?, String.toList_ofList]
        split
        · rename_i heq
          exact absurd (List.cons.inj heq).1 hne
        · rfl
      · cases h
    · cases h
  · cases h

/-- A signed expression is the digits with a minus in front. -/
theorem Expr.negated?_eq_some {digits : String} (h : e.negated? = some digits) :
    e = .number ("-" ++ digits) ∧ (Literal.number digits false).negated? = none := by
  cases e with
  | literal value =>
    obtain ⟨rfl, hdigits⟩ := Literal.negated?_eq_some h
    exact ⟨rfl, hdigits⟩
  | _ => cases h

/-- An expression without a sign is a leaf. -/
theorem Expr.tree_of_none (h : e.negated? = none) : e.tree = .leaf e := by
  rw [tree, h]

/-- A signed number is read as a minus in front of its digits. -/
theorem Expr.tree_of_some {digits : String} (h : e.negated? = some digits) :
    e.tree = .prefixed .minus (.leaf (.number digits)) := by
  rw [tree, h]

/-- The tree of an expression is printed as the expression. -/
theorem Expr.sql_tree (e : Expr) : e.tree.expr.sql = e.sql := by
  cases h : e.negated? with
  | none => rw [tree_of_none h, Tree.expr]
  | some digits =>
    rw [tree_of_some h, (negated?_eq_some h).1]
    simp [Tree.expr, Expr.number, Expr.sql, PrefixOp.sql, Literal.sql]

/-- The tree of an expression has its structure, with parentheses and signs set aside. -/
theorem Expr.bare_tree (e : Expr) : e.tree.expr.bare = e.bare := by
  cases h : e.negated? with
  | none => rw [tree_of_none h, Tree.expr]
  | some digits =>
    obtain ⟨hnumber, hdigits⟩ := negated?_eq_some h
    have hsign : (Literal.number ("-" ++ digits) false).negated? = some digits := by
      rw [← h, hnumber]
      rfl
    rw [tree_of_some h, hnumber]
    simp only [Tree.expr, Expr.number, Expr.bare, hdigits, hsign]

namespace Tree

/-- A filled tree is printed as the filled expression. -/
theorem sql_filled (t : Tree) : (t.filled values).expr.sql = (t.expr.firstOnly values).sql := by
  induction t with
  | leaf e => exact e.firstOnly values |>.sql_tree
  | linked l link r ihl ihr =>
    have hjoin : (link.join l.expr r.expr).firstOnly values =
        link.join (l.expr.firstOnly values) (r.expr.firstOnly values) := by
      cases link <;> rfl
    rw [filled, expr, expr, hjoin, Link.sql_join, Link.sql_join, ihl, ihr]
  | _ =>
    simp_all [filled, expr, Expr.firstOnly, Expr.substitute, Part.substituteAll, Part.substitute,
      Expr.sql, Part.allSql, Part.sql]

/-- A filled tree has the structure of the filled expression. -/
theorem bare_filled (t : Tree) : (t.filled values).expr.bare = (t.expr.firstOnly values).bare := by
  induction t with
  | leaf e => exact e.firstOnly values |>.bare_tree
  | linked l link r ihl ihr =>
    have hjoin : (link.join l.expr r.expr).firstOnly values =
        link.join (l.expr.firstOnly values) (r.expr.firstOnly values) := by
      cases link <;> rfl
    rw [filled, expr, expr, hjoin, Link.bare_join, Link.bare_join, ihl, ihr]
  | _ =>
    simp_all [filled, expr, Expr.firstOnly, Expr.substitute, Part.substituteAll, Part.substitute,
      Expr.bare, Part.allBare, Part.bare]

/-- Filling a tree leaves its operators known. -/
theorem isKnown_filled (t : Tree) : (t.filled values).isKnown d = t.isKnown d := by
  induction t with
  | leaf e =>
    rw [filled, Expr.tree]
    split <;> rfl
  | _ => simp_all [filled, isKnown]

/-- Filling a tree leaves its operators above the same precedence. -/
theorem isAbove_filled (t : Tree) : (t.filled values).isAbove d k = t.isAbove d k := by
  induction t with
  | leaf e =>
    rw [filled, Expr.tree]
    split <;> rfl
  | _ => simp_all [filled, isAbove]

/-- Filling a tree keeps its right operands grouped. -/
theorem rightGrouped_filled (t : Tree) : (t.filled values).rightGrouped d = t.rightGrouped d := by
  induction t with
  | leaf e =>
    rw [filled, Expr.tree]
    split <;> rfl
  | _ => simp_all [filled, rightGrouped, isAbove_filled]

/-- A filled tree may stand before an operator if it could before, and no signed number was put
there. -/
theorem allows_filled (t : Tree) : (t.filled values).allows d k = true ↔ t.allows d k = true ∧
    (PrefixOp.minus.precedence d < k → ∀ e ∈ t.last?, (e.firstOnly values).negated? = none) := by
  induction t with
  | leaf e =>
    cases h : (e.firstOnly values).negated? with
    | none => simp [filled, Expr.tree_of_none h, allows, last?, h]
    | some digits => simp [filled, Expr.tree_of_some h, allows, last?, h]
  | nested | suffixed => simp [filled, allows, last?]
  | _ => simp_all [filled, allows, last?, and_assoc]

/-- **The grouping of a filled tree depends on the leaves in front of tighter operators.** -/
theorem leftGrouped_filled (t : Tree) : (t.filled values).leftGrouped d = true ↔
    t.leftGrouped d = true ∧ ∀ e ∈ t.exposed d, (e.firstOnly values).negated? = none := by
  have hbetween : ¬ PrefixOp.minus.precedence d < Tier.between.precedence d := by
    cases d <;> decide
  have hif {o : Option Expr} {n : Nat} {P : Expr → Prop} :
      (∀ e ∈ (if PrefixOp.minus.precedence d < n then o.toList else []), P e) ↔
        (PrefixOp.minus.precedence d < n → ∀ e ∈ o, P e) := by
    split <;> simp [*]
  induction t with
  | leaf e =>
    rw [filled, Expr.tree]
    split <;> simp [leftGrouped, exposed]
  | nested t ih | prefixed op t ih => simpa [filled, leftGrouped, exposed] using ih
  | linked l link r ihl ihr =>
    simp only [filled, leftGrouped, exposed, Bool.and_eq_true, ihl, ihr, allows_filled,
      List.mem_append, or_imp, forall_and, hif]
    tauto
  | suffixed t suffix ih =>
    simp only [filled, leftGrouped, exposed, Bool.and_eq_true, ih, allows_filled,
      List.mem_append, or_imp, forall_and, hif]
    tauto
  | ranged t negated low high iht ihlow ihhigh =>
    simp only [filled, leftGrouped, exposed, Bool.and_eq_true, iht, ihlow, ihhigh, allows_filled,
      List.mem_append, or_imp, forall_and, hbetween, false_imp_iff, and_true]
    tauto

end Tree

/-- A term does not start with a sign. -/
theorem Grammar.IsTerm.negated?_eq_none (h : IsTerm d m e) : e.negated? = none := by
  obtain ⟨c, cs, -, -, hsql, hc, -⟩ := h
  rw [← Option.not_isSome_iff_eq_none]
  intro hsome
  obtain ⟨digits, hdigits⟩ := Option.isSome_iff_exists.1 hsome
  have hsign : e.sql.toList = '-' :: digits.toList := by
    rw [(Expr.negated?_eq_some hdigits).1]
    simp [Expr.number, Expr.sql, Literal.sql]
  rw [← (List.cons.inj (hsign.symm.trans hsql)).1] at hc
  cases d <;> cases hc

/-- A negative value is a minus in front of decimal digits. -/
theorem Value.IsNegative.exists_negated? (h : IsNegative e) :
    ∃ digits : String, Lexer.IsDecimal digits.toList ∧ e.negated? = some digits := by
  obtain ⟨digits, hdigits, rfl⟩ := h
  refine ⟨digits, hdigits, ?_⟩
  obtain ⟨whole, fraction, hne, hall, hcs⟩ := hdigits
  obtain ⟨c, whole, rfl⟩ := List.exists_cons_of_ne_nil hne
  have hc : c.isDigit = true := hall c (by simp)
  obtain ⟨cs, hdigits⟩ : ∃ cs, digits.toList = c :: cs := by
    rcases hcs with ⟨hcs, -⟩ | hcs <;> exact ⟨_, hcs⟩
  have hsign : ("-" ++ digits).toList = '-' :: c :: cs := by simp [hdigits]
  simp only [Expr.number, Expr.negated?, Literal.negated?, hsign, hc, if_true]
  rw [← hdigits, String.ofList_toList]

/-- What fits is a tree whose leaf is a term. -/
theorem isTerm_of_mem_tree (h : Fits d m e) : ∀ x ∈ e.tree.leaves, IsTerm d m x := by
  rcases h with h | h
  · rw [Expr.tree_of_none h.negated?_eq_none]
    simpa [Tree.leaves] using h
  · obtain ⟨digits, hdigits, hnegated⟩ := Value.IsNegative.exists_negated? h
    rw [Expr.tree_of_some hnegated]
    simpa [Tree.leaves] using (Grammar.isTerm_number hdigits).mono (Nat.zero_le m)

namespace Tree

/-- The leaves of a filled tree are terms if what was put in fits. -/
theorem isTerm_of_mem_filled (t : Tree) (h : ∀ e ∈ t.leaves, Fits d m (e.firstOnly values)) :
    ∀ e ∈ (t.filled values).leaves, IsTerm d m e := by
  induction t with
  | leaf e => exact isTerm_of_mem_tree (h e (by simp [leaves]))
  | nested t ih | prefixed op t ih | suffixed t suffix ih => exact ih h
  | linked l link r ihl ihr =>
    simp only [leaves, filled, List.mem_append, or_imp, forall_and] at h ⊢
    exact ⟨ihl h.1, ihr h.2⟩
  | ranged t negated low high iht ihlow ihhigh =>
    simp only [leaves, filled, List.mem_append, or_imp, forall_and] at h ⊢
    exact ⟨⟨iht h.1.1, ihlow h.1.2⟩, ihhigh h.2⟩

end Tree

/-- The values can be put in: each leaf is an operand then, signs do not stand side by side, and the
nesting is not too deep to be read; the leaves take `m` levels. -/
structure Tree.Admits (d : Dialect) (m : Nat) (t : Tree) (values : String → List Expr) : Prop where
  fits : ∀ e ∈ t.leaves, Fits d m (e.firstOnly values)
  signsApart : (t.filled values).signsApart = true
  shallow : ((t.filled values).regroup d).depth m ≤ 46

/-- **The text of a filled template is read as its operators group**: as the expression itself,
parentheses apart, just if no number with a sign stands directly in front of an operator that
binds tighter than the sign. -/
theorem parseCondition_filled (hknown : t.isKnown d = true) (hright : t.rightGrouped d = true)
    (hleft : t.leftGrouped d = true) (h : t.Admits d m values) :
    ∃ y, parseCondition d (t.expr.firstOnly values).sql = .ok (.nested y) ∧
      (y.bare = (t.expr.firstOnly values).bare ↔
        ∀ e ∈ t.exposed d, (e.firstOnly values).negated? = none) := by
  refine ⟨((t.filled values).regroup d).expr, ?_, ?_⟩
  · rw [← t.sql_filled]
    exact Grammar.parseCondition_regroup (t.isKnown_filled.trans hknown)
      (t.rightGrouped_filled.trans hright) h.signsApart (t.isTerm_of_mem_filled h.fits) h.shallow
  · rw [← t.bare_filled, Tree.bare_regroup_iff, Tree.leftGrouped_filled, hleft]
    simp

end Sql

/-! ## Values that are looked up -/

/-- Requests that are answered whatever came before are all answered. -/
theorem exists_answers {ε γ : Type} {answer : List Request → Request → Except ε (List γ)}
    {rs : List Request} (h : ∀ before, ∀ r ∈ rs, ∃ values, answer before r = .ok values)
    (earlier : List Request) : ∃ answers, Answers answer earlier rs answers := by
  induction rs generalizing earlier with
  | nil => exact ⟨[], .nil earlier⟩
  | cons r rs ih =>
    obtain ⟨v, hv⟩ := h earlier r (by simp)
    obtain ⟨answers, hanswers⟩ := ih (fun before r' hr' => h before r' (by simp [hr'])) _
    exact ⟨v :: answers, .cons hv hanswers⟩

namespace Column

open Sql (Expr Tree)

variable {rules : ValueRules} {r : Resolver} {sources : List String} {m : Nat}

/-- The resolver may give these expressions for a name. -/
def MayGive (rules : ValueRules) (r : Resolver) (sources : List String) (name : String)
    (es : List Expr) : Prop :=
  Finds (fun request values => ∃ before, answer rules r before request = .ok values) sources name es

/-- What belongs to a name was found for it. -/
theorem lookup_zip {found : String → List Expr → Prop} {names : List String}
    {answers : List (List Expr)} (h : List.Forall₂ found names answers) {name : String}
    (hname : name ∈ names) : found name (((names.zip answers).lookup name).getD []) := by
  induction h with
  | nil => cases hname
  | @cons n es names answers hn _ ih =>
    by_cases heq : name = n
    · subst heq
      simpa using hn
    · have hne : (name == n) = false := by simpa using heq
      simpa [List.lookup_cons, hne] using ih ((List.mem_cons.1 hname).resolve_left heq)

/-- **A substitution whose names have answers succeeds**, and it puts the first values in. -/
theorem run_substitute (earlier : List Request) {e : Expr}
    (h : ∀ before, ∀ name ∈ e.references,
      ∃ es, answer rules r before (request sources name) = .ok es) :
    ∃ values, (∀ name ∈ e.references, MayGive rules r sources name (values name)) ∧
      (run rules r earlier (substitute sources e)).result = .ok (e.firstOnly values) := by
  have hrequests : ∀ before, ∀ request ∈ (substitute sources e).requests,
      ∃ es, answer rules r before request = .ok es := by
    intro before request hrequest
    rw [requests_substitute] at hrequest
    obtain ⟨name, hname, rfl⟩ := mem_insideRequests_iff.1 hrequest
    exact h before name hname
  obtain ⟨answers, hanswers⟩ := exists_answers hrequests earlier
  have hrun : (run rules r earlier (substitute sources e)).result =
      .ok ((substitute sources e).finish answers) := by
    rw [run, Plan.run, hanswers.askInOrder_eq]
    rfl
  have hyields : (substitute sources e).Yields
      (fun request values => ∃ before, answer rules r before request = .ok values)
      ((substitute sources e).finish answers) :=
    ⟨answers, hanswers.forall₂.imp (by
      rintro _ _ ⟨before, _, _, hvalues⟩
      exact ⟨before, hvalues⟩), rfl⟩
  obtain ⟨found, hfound, hfinish⟩ := Plan.yields_map_iff.1 hyields
  rw [Plan.yields_all_iff, List.forall₂_map_left_iff] at hfound
  have hgiven : List.Forall₂ (MayGive rules r sources) e.placeholders found :=
    hfound.imp fun _ _ => yields_lookup_iff.1
  refine ⟨fun name => ((e.placeholders.zip found).lookup name).getD [], fun name hname =>
    lookup_zip hgiven (Sql.mem_distinct.2 hname), ?_⟩
  rw [hrun, hfinish, Expr.firstOnly]
  congr 2
  funext name
  rw [firstOf]
  cases (e.placeholders.zip found).lookup name <;> rfl

/-- **A substitution keeps the grouping, unless a sign comes in front of a tighter operator.**  Let
the operators of a template group as they are written, let its names have answers, and let the
values that the resolver may give be such that they can be put in.  Then the substitution succeeds,
and its text is read as one condition.  What is read is the expression itself, parentheses and the
sign of numbers apart, just if no number with a sign stands directly in front of an operator that
binds tighter than the sign. -/
theorem substitute_grouping (earlier : List Request) {t : Tree}
    (hknown : t.isKnown rules.dialect = true) (hright : t.rightGrouped rules.dialect = true)
    (hleft : t.leftGrouped rules.dialect = true)
    (hanswers : ∀ before, ∀ name ∈ t.expr.references,
      ∃ es, answer rules r before (request sources name) = .ok es)
    (hadmits : ∀ values, (∀ name ∈ t.expr.references, MayGive rules r sources name (values name)) →
      t.Admits rules.dialect m values) :
    ∃ values x y, (∀ name ∈ t.expr.references, MayGive rules r sources name (values name)) ∧
      (run rules r earlier (substitute sources t.expr)).result = .ok x ∧
      x = t.expr.firstOnly values ∧ Sql.parseCondition rules.dialect x.sql = .ok (.nested y) ∧
      (y.bare = x.bare ↔
        ∀ e ∈ t.exposed rules.dialect, (e.firstOnly values).negated? = none) := by
  obtain ⟨values, hvalues, hrun⟩ := run_substitute earlier hanswers
  obtain ⟨y, hparse, hbare⟩ :=
    Sql.parseCondition_filled hknown hright hleft (hadmits values hvalues)
  exact ⟨values, _, y, hvalues, hrun, rfl, hparse, hbare⟩

/-- `a` is the number minus five, and `b` is the column `x`. -/
def signed (request : Request) : Answer :=
  .ok (if request.name = "a" then ["-5"] else ["x"])

/-- `-5` is a number. -/
theorem signed_a : Value.simple? true "-5" = some (.number "-5") := by
  have hnumber : Value.number? true "-5".toList = some "-5" := by decide +kernel
  rw [Value.simple?, hnumber]
  rfl

/-- `x` is a name. -/
theorem signed_b : Value.simple? true "x" = some (.identifier (.plain "x")) := by
  rfl

/-- A name that one value is answered for. -/
theorem mayGive_single {name raw : String} {e : Expr}
    (hhint : (Placeholder.parse name).hint = none)
    (hraw : ∀ before, r.answer before (request sources name) = .ok [raw])
    (hsimple : Value.simple? rules.fullNumerals (Text.trim raw) = some e) :
    (∀ before, answer rules r before (request sources name) = .ok [e]) ∧
      ∀ es, MayGive rules r sources name es → es = [e] := by
  have hexpr : Value.expr rules raw = .ok e := by simp [Value.expr, hsimple]
  have hanswer (before : List Request) :
      answer rules r before (request sources name) = .ok [e] := by
    simp [answer, hraw, Value.exprs, hexpr, Except.map, Except.mapError]
  refine ⟨hanswer, ?_⟩
  rintro es ⟨values, ⟨before, hvalues⟩, rfl⟩
  obtain rfl := Except.ok.inj ((hanswer before).symm.trans hvalues)
  rw [hhint]
  rfl

/-- A number with a sign in front of `*`, and a column in front of `::`. -/
theorem substitute_grouping_signed :
    let rules : ValueRules := ⟨.ansi, true⟩
    let r : Resolver := .ofFunction signed
    let t : Tree := .linked (.leaf (.identifier (.plain "a"))) (.operator .times)
      (.suffixed (.leaf (.identifier (.plain "b"))) (.cast "INT"))
    t.isKnown .ansi = true ∧ t.rightGrouped .ansi = true ∧ t.leftGrouped .ansi = true ∧
      (∀ before, ∀ name ∈ t.expr.references,
        ∃ es, answer rules r before (request [] name) = .ok es) ∧
      (∀ values, (∀ name ∈ t.expr.references, MayGive rules r [] name (values name)) →
        t.Admits .ansi 0 values) ∧
      ∃ values x y, (∀ name ∈ t.expr.references, MayGive rules r [] name (values name)) ∧
        (run rules r [] (substitute [] t.expr)).result = .ok x ∧ x = t.expr.firstOnly values ∧
        Sql.parseCondition .ansi x.sql = .ok (.nested y) ∧
        (y.bare = x.bare ↔ ∀ e ∈ t.exposed .ansi, (e.firstOnly values).negated? = none) := by
  intro rules r t
  obtain ⟨ha, hvaluesa⟩ : (∀ before, answer rules r before (request [] "a") = .ok _) ∧ _ :=
    mayGive_single rfl (fun _ => rfl) signed_a
  obtain ⟨hb, hvaluesb⟩ : (∀ before, answer rules r before (request [] "b") = .ok _) ∧ _ :=
    mayGive_single rfl (fun _ => rfl) signed_b
  have hreferences : t.expr.references = ["a", "b"] := by rfl
  have hanswers : ∀ before, ∀ name ∈ t.expr.references,
      ∃ es, answer rules r before (request [] name) = .ok es := by
    rw [hreferences]
    exact fun before =>
      List.forall_mem_cons.2 ⟨⟨_, ha before⟩, List.forall_mem_singleton.2 ⟨_, hb before⟩⟩
  have hadmits : ∀ values, (∀ name ∈ t.expr.references, MayGive rules r [] name (values name)) →
      t.Admits .ansi 0 values := by
    intro values hvalues
    rw [hreferences, List.forall_mem_cons, List.forall_mem_singleton] at hvalues
    have hfirsta : Expr.firstOnly values (.identifier (.plain "a")) = .number "-5" := by
      rw [Expr.identifier, Expr.firstOnly, Expr.substitute, Sql.Ident.plain, hvaluesa _ hvalues.1]
      rfl
    have hfirstb : Expr.firstOnly values (.identifier (.plain "b")) = .identifier (.plain "x") := by
      rw [Expr.identifier, Expr.firstOnly, Expr.substitute, Sql.Ident.plain, hvaluesb _ hvalues.2]
      rfl
    have hfilled : t.filled values = .linked (.prefixed .minus (.leaf (.number "5")))
        (.operator .times) (.suffixed (.leaf (.identifier (.plain "x"))) (.cast "INT")) := by
      simp only [t, Tree.filled, hfirsta, hfirstb]
      rfl
    refine ⟨List.forall_mem_cons.2 ⟨?_, List.forall_mem_singleton.2 ?_⟩, ?_, ?_⟩
    · rw [hfirsta]
      exact Value.fits_of_simple? signed_a rfl
    · rw [hfirstb]
      exact Value.fits_of_simple? signed_b rfl
    · rw [hfilled]
      decide
    · rw [hfilled]
      decide
  exact ⟨by decide, by decide, by decide, hanswers, hadmits,
    substitute_grouping [] (by decide) (by decide) (by decide) hanswers hadmits⟩

/-- A cast. -/
def castInt (e : Expr) : Expr := .phrase [.operand e, .words "::INT"]

/-- The cast of a column is read back, and so is minus five, as a sign in front of the number.  With
minus five for the column, the sign is not a part of what is cast. -/
theorem substitute_regroups_cast :
    let rules : ValueRules := ⟨.ansi, true⟩
    let a : Expr := .identifier (.plain "a")
    let x : Expr := .nested (castInt (.number "-5"))
    let y : Expr := .nested (.nested (.unary .minus (castInt (.number "5"))))
    Sql.parseCondition .ansi "a::INT" = .ok (.nested (castInt a)) ∧
      Value.expr rules "-5" = .ok (.number "-5") ∧
      Sql.parseCondition .ansi "-5" = .ok (.nested (.unary .minus (.number "5"))) ∧
      (run rules (.ofFunction signed) [] (substitute [] (.nested (castInt a)))).result = .ok x ∧
      x.sql = "(-5::INT)" ∧ Sql.parseCondition .ansi "(-5::INT)" = .ok y ∧ y.bare ≠ x.bare := by
  intro rules a x y
  have ha : Sql.Grammar.IsTerm .ansi 0 a := Sql.Grammar.isTerm_plain rfl (by decide)
  have hfive : Sql.Grammar.IsTerm .ansi 0 (.number "5") :=
    Sql.Grammar.isTerm_number (Value.isDecimal_digit (c := '5') rfl)
  have hparse (t : Tree) (ht : t.isKnown .ansi && t.rightGrouped .ansi && t.leftGrouped .ansi &&
      t.signsApart && decide (t.depth 0 ≤ 46) = true)
      (hleaves : ∀ e ∈ t.leaves, Sql.Grammar.IsTerm .ansi 0 e) :
      Sql.parseCondition .ansi t.expr.sql = .ok (.nested t.expr) := by
    simp only [Bool.and_eq_true, decide_eq_true_eq] at ht
    exact Sql.Grammar.parseCondition_tree ht.1.1.1.1 ht.1.1.1.2 ht.1.1.2 ht.1.2 hleaves ht.2
  have hrun : (run rules (.ofFunction signed) []
      (substitute [] (.nested (castInt a)))).result = .ok x := by
    obtain ⟨hanswer, honly⟩ : (∀ before, answer rules (.ofFunction signed) before
        (request [] "a") = .ok _) ∧ _ := mayGive_single rfl (fun _ => rfl) signed_a
    obtain ⟨values, hvalues, hrun⟩ := run_substitute (e := .nested (castInt a)) [] fun before name
      hname => by
        obtain rfl := List.mem_singleton.1 hname
        exact ⟨_, hanswer before⟩
    have hfirst : values "a" = [.number "-5"] := honly _ (hvalues "a" (List.mem_singleton.2 rfl))
    rw [hrun]
    simp [Expr.firstOnly, castInt, a, Expr.identifier, Sql.Ident.plain, Expr.substitute,
      Sql.Part.substituteAll, Sql.Part.substitute, hfirst, x]
  refine ⟨?_, ?_, ?_, hrun, ?_, ?_, ?_⟩
  · exact hparse (.suffixed (.leaf a) (.cast "INT")) rfl (by simpa [Tree.leaves] using ha)
  · rw [Value.expr, show Text.trim "-5" = "-5" from rfl]
    simp only [rules, signed_a]
  · exact hparse (.prefixed .minus (.leaf (.number "5"))) rfl (by simpa [Tree.leaves] using hfive)
  · rfl
  · exact hparse (.nested (.prefixed .minus (.suffixed (.leaf (.number "5")) (.cast "INT")))) rfl
      (by simpa [Tree.leaves] using hfive)
  · intro hbare
    cases hbare

end Column
end QueryTemplate
