/-
# The condition between its parentheses

A condition is read behind `SELECT * FROM T WHERE`, between two parentheses that are put around
its text.  What the one in front starts is a condition, several, or a query (`Opens`).  Which
parenthesis closes it need not be the one that is put behind the text:

| text | read as | left over |
| --- | --- | --- |
| `a = 1) OR (b = 2` | `(a = 1) OR (b = 2)` | |
| `a) LIMIT (1` | `(a)` | a limit |
| `a) -- ` | `(a)` | the parenthesis behind the text |
| `a, b` | `(a, b)`, a row | |

A condition that is read is the text in parentheses, as it should be (`IsEnclosed`), just when it
is a single one in parentheses, when the parenthesis that is put behind the text closes it, and
when nothing follows.  Parentheses are read in pairs, so that the one which closes it can be
told by counting, unless a word stands there behind which tokens are taken as they come
(`parseCondition_opens`).
-/

import QueryTemplate.Proofs.Grammar.Closing.Query
import QueryTemplate.Proofs.Grammar.Junction

namespace QueryTemplate
namespace Sql

/-- The tokens behind the parenthesis that is put in front of a condition. -/
def conditionItems (d : Dialect) (text : String) : List Grammar.Item :=
  match lexemes d (conditionSql text) with
  | .error _ => []
  | .ok ls => (Grammar.Item.ofLexemes none ls).drop 6

/-- The place of the parenthesis that is put behind a condition. -/
def behindCondition (text : String) : Text.Position :=
  Text.Position.start.after ("SELECT * FROM T WHERE (" ++ text).toList

/-- Whether the first of the tokens is a keyword that starts a query. -/
def startsQuery (s : List Grammar.Item) : Bool :=
  let k := (s.getD 0 .ending).keyword
  k == "SELECT" || k == "WITH"

/-- Whether an expression is in parentheses. -/
def Expr.isNested : Expr → Bool
  | .nested _ => true
  | _ => false

/-- A nested expression is another one in parentheses. -/
theorem Expr.isNested_iff {e : Expr} : e.isNested = true ↔ ∃ inner, e = .nested inner := by
  cases e <;> simp [isNested]

/-- The condition is the text in parentheses: all tokens between the two parentheses that are
put around it are read as one expression, and nothing follows the one behind it. -/
def IsEnclosed (d : Dialect) (text : String) (e : Expr) : Prop :=
  ∃ inner c, e = .nested inner ∧ c.isSymbol ")" = true ∧ c.place = some (behindCondition text) ∧
    startsQuery (conditionItems d text) = false ∧
    (Grammar.nested d 47).expr 0 (conditionItems d text) = .ok (inner, [c])

namespace Grammar

/-! ## What a run went through -/

section Run

variable {α : Type} {env : Nested}

/-- What rounds keep, repetition keeps. -/
theorem iterateUpTo_keeps {P : α → Prop} {round : α → Rule (Option α)}
    (hround : ∀ a s b s', round a env s = .ok (some b, s') → P b) {fuel : Nat}
    (ha : P a) {s s' : List Item} {b : α} (h : iterateUpTo round fuel a env s = .ok (b, s')) :
    P b := by
  induction fuel generalizing a s with
  | zero =>
    obtain ⟨rfl, -⟩ := Prod.mk.inj (Except.ok.inj h)
    exact ha
  | succ fuel ih =>
    obtain ⟨next, t, hnext, h⟩ := bind_eq_ok_iff.1 h
    cases next with
    | none =>
      obtain ⟨rfl, -⟩ := Prod.mk.inj (Except.ok.inj h)
      exact ha
    | some c => exact ih (hround _ _ _ _ hnext) h

end Run

section Condition

variable {d : Dialect} {s s' : List Item} {i : Item} {e : Expr} {found : Select} {q : Query}
  {relating : Bool} {f : Nat → List Item → Outcome Expr} {g : List Item → Outcome Query}
  {f' : List Item → Outcome Expr}

/-- The condition of a `SELECT` is what is read behind `WHERE`. -/
theorem selection_where {u : List Item} (hu : BeforeCondition u)
    (h : select ⟨d, relating, f, g, f'⟩ (u ++ i :: s) = .ok (found, s')) :
    ∃ e t, f 0 (i :: s) = .ok (e, t) ∧ found.selection = some e := by
  obtain ⟨_, _, _, _, _, _, _, _, _, _, _, _, _, _, _, rfl⟩ := hu
  unfold select at h
  cases d
  all_goals
    -- up to `WHERE` no nested rule is called
    iterate 10 replace h := eq_of_bind h rfl
    obtain ⟨selection, t, hwhere, h⟩ := bind_eq_ok_iff.1 h
    unfold optionalClause at hwhere
    replace hwhere := eq_of_bind hwhere rfl
    obtain ⟨e, t', he, hselection⟩ := bind_eq_ok_iff.1 hwhere
    obtain ⟨rfl, -⟩ := Prod.mk.inj (Except.ok.inj hselection)
    iterate 7 obtain ⟨_, _, -, h⟩ := bind_eq_ok_iff.1 h
    obtain ⟨rfl, -⟩ := Prod.mk.inj (Except.ok.inj h)
    exact ⟨e, t', he, rfl⟩

variable {b : Option Lexeme} {p p' : Text.Position}

/-- A `SELECT` that a query consists of was read by the rule for it. -/
theorem select_of_query {env : Nested}
    (h : queryRule env (.ofLexeme b ⟨.word "SELECT" none, p, p'⟩ :: s) = .ok (q, s'))
    (hq : q.body = .select found) :
    ∃ t, select env (.ofLexeme b ⟨.word "SELECT" none, p, p'⟩ :: s) = .ok (found, t) := by
  unfold queryRule at h
  iterate 3 replace h := eq_of_bind h rfl
  obtain ⟨body, t, hbody, h⟩ := bind_eq_ok_iff.1 h
  iterate 2 obtain ⟨_, _, -, h⟩ := bind_eq_ok_iff.1 h
  obtain ⟨rfl, -⟩ := Prod.mk.inj (Except.ok.inj h)
  obtain rfl : body = .select found := hq
  unfold Grammar.body at hbody
  replace hbody := eq_of_bind hbody rfl
  unfold bodyUpTo at hbody
  obtain ⟨first, t', hfirst, hbody⟩ := bind_eq_ok_iff.1 hbody
  unfold simpleBody at hfirst
  replace hfirst := eq_of_bind hfirst rfl
  obtain ⟨selected, t'', hselect, hpure⟩ := bind_eq_ok_iff.1 hfirst
  obtain ⟨rfl, rfl⟩ := Prod.mk.inj (Except.ok.inj hpure)
  -- a set operator would make something else of the body
  unfold iterated at hbody
  replace hbody := eq_of_bind hbody rfl
  have hbodies : Body.select found = .select selected ∨ ∃ ps, Body.select found = .other ps := by
    refine iterateUpTo_keeps (P := fun b => b = .select selected ∨ ∃ ps, b = .other ps)
      (fun left u right u' hround => .inr ?_) (.inl rfl) hbody
    obtain ⟨i, w, -, hround⟩ := bind_eq_ok_iff.1 hround
    split at hround
    · cases hround
    · iterate 3 obtain ⟨_, _, -, hround⟩ := bind_eq_ok_iff.1 hround
      obtain ⟨hright, -⟩ := Prod.mk.inj (Except.ok.inj hround)
      exact ⟨_, (Option.some.inj hright).symm⟩
  rcases hbodies with hsame | ⟨ps, hother⟩
  · obtain rfl := Body.select.inj hsame
    exact ⟨_, hselect⟩
  · cases hother

/-- A statement that is one query was read by the rule for `SELECT`. -/
theorem select_of_statements {d : Dialect}
    (h : statements d (.ofLexeme b ⟨.word "SELECT" none, p, p'⟩ :: s) = .ok [.query q])
    (hq : q.body = .select found) :
    ∃ t, select (nested d 48) (.ofLexeme b ⟨.word "SELECT" none, p, p'⟩ :: s) = .ok (found, t) := by
  rw [statements, statementsUpTo] at h
  cases hstatement : statementAt d maxDepth (.ofLexeme b ⟨.word "SELECT" none, p, p'⟩ :: s) with
  | error e =>
    rw [hstatement] at h
    cases h
  | ok read =>
    obtain ⟨st, s'⟩ := read
    rw [hstatement] at h
    have hmap : (statementsUpTo d (s.length + 1) false s').map (st :: ·) = .ok [.query q] := h
    cases hrest : statementsUpTo d (s.length + 1) false s' with
    | error e => simp [hrest, Except.map] at hmap
    | ok sts =>
      obtain rfl : st = .query q := by
        rw [hrest] at hmap
        exact (List.cons.inj (Except.ok.inj hmap)).1
      have hquery : (do return .query (← query) : Rule Statement) (nested d 49)
          (.ofLexeme b ⟨.word "SELECT" none, p, p'⟩ :: s) = .ok (.query q, s') := hstatement
      obtain ⟨q', t, hq', hpure⟩ := bind_eq_ok_iff.1 hquery
      obtain ⟨hstatements, -⟩ := Prod.mk.inj (Except.ok.inj hpure)
      obtain rfl := Statement.query.inj hstatements
      exact select_of_query hq' hq

/-! ## Behind an opening parenthesis -/

/-- What an opening parenthesis in front of `s` starts, the parenthesis that closes it, and the
tokens behind that. -/
inductive Opens (env : Nested) (s : List Item) : Expr → Item → List Item → Prop
  | condition (e : Expr) (c : Item) (rest : List Item) (hc : c.isSymbol ")" = true)
      (hs : startsQuery s = false) (h : expr env s = .ok (e, c :: rest)) :
      Opens env s (.nested e) c rest
  | several (es : List Expr) (c : Item) (rest : List Item) (hc : c.isSymbol ")" = true)
      (hs : startsQuery s = false) (hes : es.length ≠ 1)
      (h : commaSeparated expr env s = .ok (es, c :: rest)) :
      Opens env s (.phrase (.words "(" :: Part.commaList es ++ [.words ")"])) c rest
  | query (q : Query) (c : Item) (rest : List Item) (hc : c.isSymbol ")" = true)
      (hs : startsQuery s = true) (h : Grammar.query env s = .ok (q, c :: rest)) :
      Opens env s q.inParentheses c rest

variable {env : Nested} {rest : List Item}

/-- At the end there is no symbol. -/
theorem symbol_nil {t : String} : symbol t env [] = .ok (false, []) := by
  refine bind_eq (a := false) (bind_eq rfl ?_) rfl
  simp [Item.ending, Item.isSymbol]
  rfl

/-- A repetition that finds nothing ends at its first round. -/
theorem repeatUpTo_nil {α : Type} {round : Rule (Option α)} {fuel : Nat}
    (h : repeatUpTo round (fuel + 1) env s = .ok ([], s')) : round env s = .ok (none, s') := by
  unfold repeatUpTo at h
  obtain ⟨found, t, hround, h⟩ := bind_eq_ok_iff.1 h
  cases found with
  | none =>
    obtain ⟨-, rfl⟩ := Prod.mk.inj (Except.ok.inj h)
    exact hround
  | some a =>
    obtain ⟨as, t', -, h⟩ := bind_eq_ok_iff.1 h
    obtain ⟨hlist, -⟩ := Prod.mk.inj (Except.ok.inj h)
    cases hlist

/-- A list of one expression is the expression. -/
theorem expr_of_commaSeparated (h : commaSeparated expr env s = .ok ([e], s')) :
    expr env s = .ok (e, s') := by
  unfold commaSeparated at h
  obtain ⟨first, t, hfirst, h⟩ := bind_eq_ok_iff.1 h
  obtain ⟨further, t', hfurther, h⟩ := bind_eq_ok_iff.1 h
  obtain ⟨hlist, rfl⟩ := Prod.mk.inj (Except.ok.inj h)
  obtain ⟨rfl, rfl⟩ := List.cons.inj hlist
  unfold repeated at hfurther
  replace hfurther := eq_of_bind hfurther rfl
  have hround := repeatUpTo_nil hfurther
  obtain ⟨comma, t'', hcomma, hround⟩ := bind_eq_ok_iff.1 hround
  rcases symbol_eq_ok hcomma with ⟨rfl, -⟩ | ⟨rfl, rfl⟩
  · obtain ⟨a, u, -, hround⟩ := bind_eq_ok_iff.1 hround
    cases hround
  · obtain ⟨-, rfl⟩ := pure_eq_ok hround
    exact hfirst

/-- A list whose first expression stands before a closing parenthesis has no other one. -/
theorem commaSeparated_of_expr {c : Item} (hc : c.isSymbol ")" = true)
    (h : expr env s = .ok (e, c :: rest)) : commaSeparated expr env s = .ok ([e], c :: rest) := by
  have hcomma : symbol "," env (c :: rest) = .ok (false, c :: rest) := by
    refine bind_eq (a := false) (bind_eq rfl ?_) rfl
    simp [Item.isSymbol, Item.token_of_isSymbol hc]
    rfl
  exact bind_eq h (bind_eq (bind_eq rfl (bind_eq (bind_eq hcomma rfl) rfl)) rfl)

/-- The parenthesis that closes is the one that counting finds. -/
theorem Opens.closing_eq {e₀ : Expr} {c : Item} {found : Item × List Item} (hp : env.Paired)
    (h : Opens env s e₀ c rest) (hfound : closing 0 s = some found) : found = (c, rest) := by
  cases h with
  | condition e _ _ hc hs h =>
    have hread : Leads 0 s (c :: rest) := Closes.leads hp h
    exact closing_zero (Item.token_of_isSymbol hc) (hread 0 found hfound)
  | several es _ _ hc hs hes h =>
    have hread : Leads 0 s (c :: rest) := Closes.leads hp h
    exact closing_zero (Item.token_of_isSymbol hc) (hread 0 found hfound)
  | query q _ _ hc hs h =>
    have hread : Leads 0 s (c :: rest) := Closes.leads hp h
    exact closing_zero (Item.token_of_isSymbol hc) (hread 0 found hfound)

/-- The end of what an opening parenthesis starts: the closing one, and the name of a field. -/
def closedBehind (e : Expr) : Rule Expr := do
  expectSymbol ")"
  if ← symbol "." then
    let i ← next
    match i.ident? with
    | some field => return .phrase [.operand e, .words ("." ++ field.sql)]
    | none => fail (.fault ("Expected identifier, found: " ++ i.token.text) i.place)
  else return e

/-- An operand in parentheses goes up to the parenthesis that closes it. -/
theorem closedBehind_eq_ok {e₀ : Expr} (h : closedBehind e₀ env s = .ok (e, s')) :
    ∃ c rest, c.isSymbol ")" = true ∧ s = c :: rest ∧ (rest = [] → e = e₀ ∧ s' = []) := by
  unfold closedBehind at h
  obtain ⟨_, rest, hclose, hfield⟩ := bind_eq_ok_iff.1 h
  obtain ⟨c, hc, rfl⟩ := expectSymbol_eq_ok hclose
  refine ⟨c, rest, hc, rfl, ?_⟩
  rintro rfl
  replace hfield := eq_of_bind hfield symbol_nil
  obtain ⟨rfl, rfl⟩ := Prod.mk.inj (Except.ok.inj hfield)
  exact ⟨rfl, rfl⟩

/-- What is read in parentheses opens with an expression and a closing parenthesis behind it. -/
theorem opens_of_parenthesized (h : parenthesized env s = .ok (e, s')) :
    ∃ e₀ c rest, Opens env s e₀ c rest ∧ (rest = [] → e = e₀ ∧ s' = []) := by
  suffices ∃ e₀ t, closedBehind e₀ env t = .ok (e, s') ∧
      ∀ c rest, c.isSymbol ")" = true → t = c :: rest → Opens env s e₀ c rest by
    obtain ⟨e₀, t, hclosed, hopens⟩ := this
    obtain ⟨c, rest, hc, rfl, hrest⟩ := closedBehind_eq_ok hclosed
    exact ⟨e₀, c, rest, hopens c rest hc rfl, hrest⟩
  unfold parenthesized at h
  replace h := eq_of_bind h rfl
  split at h
  · rename_i hs
    obtain ⟨q, t, hq, h⟩ := bind_eq_ok_iff.1 h
    refine ⟨q.inParentheses, t, h, ?_⟩
    rintro c rest hc rfl
    exact .query q c rest hc hs hq
  · rename_i hs
    rw [Bool.not_eq_true] at hs
    obtain ⟨es, t, hes, h⟩ := bind_eq_ok_iff.1 h
    have hseveral : es.length ≠ 1 → ∀ c rest, c.isSymbol ")" = true → t = c :: rest →
        Opens env s (.phrase (.words "(" :: Part.commaList es ++ [.words ")"])) c rest := by
      rintro hlength c rest hc rfl
      exact .several es c rest hc hs hlength hes
    rcases es with _ | ⟨e₁, _ | ⟨e₂, es⟩⟩
    · exact ⟨_, t, h, hseveral (by simp)⟩
    · refine ⟨.nested e₁, t, h, ?_⟩
      rintro c rest hc rfl
      exact .condition e₁ c rest hc hs (expr_of_commaSeparated hes)
    · exact ⟨_, t, h, hseveral (by simp)⟩

/-- An expression that starts with a parenthesis opens with an expression in it. -/
theorem opens_of_expression {n : Nat}
    (h : expression 0 (nested d n) (.ofLexeme b ⟨.symbol "(", p, p'⟩ :: s) = .ok (e, s')) :
    ∃ e₀ c rest, Opens (nested d n) s e₀ c rest ∧ (rest = [] → e = e₀) := by
  obtain ⟨first, t, hoperand, hrounds⟩ := bind_eq_ok_iff.1 h
  unfold operand at hoperand
  replace hoperand := eq_of_bind hoperand rfl
  unfold operandUpTo at hoperand
  have htyped : ∀ interval, attempt (typedString interval) (nested d n)
      (.ofLexeme b ⟨.symbol "(", p, p'⟩ :: s) =
        .ok (none, .ofLexeme b ⟨.symbol "(", p, p'⟩ :: s) := by
    intro interval
    cases n <;> cases d <;> rfl
  replace hoperand := eq_of_bind hoperand (htyped _)
  replace hoperand := eq_of_bind hoperand rfl
  obtain ⟨enclosed, t', hsymbol, hcollated⟩ := bind_eq_ok_iff.1 hoperand
  unfold symbolOperand at hsymbol
  replace hsymbol := eq_of_bind hsymbol rfl
  obtain ⟨e₀, c, rest, hopens, hrest⟩ := opens_of_parenthesized hsymbol
  refine ⟨e₀, c, rest, hopens, ?_⟩
  rintro rfl
  obtain ⟨rfl, rfl⟩ := hrest rfl
  have hnone : collated enclosed (nested d n) [] = .ok (enclosed, []) := rfl
  obtain ⟨rfl, rfl⟩ := Prod.mk.inj (Except.ok.inj (hcollated.symm.trans hnone))
  have hends : iterateUpTo (step 0) (0 + 1) first (nested d n) [] = .ok (first, []) :=
    iterate_none (Ends.nothing.nextPrecedence n) (Nat.le_refl 0)
  exact (Prod.mk.inj (Except.ok.inj (hrounds.symm.trans hends))).1

/-! ## The condition -/

variable {text : String}

/-- A condition that is read is the filter of a query that was made for it. -/
theorem parseCondition_eq_ok (h : parseCondition d text = .ok e) :
    ∃ ls q found, lexemes d (conditionSql text) = .ok ls ∧
      statements d (Item.ofLexemes none ls) = .ok [.query q] ∧ q.body = .select found ∧
      found.selection = some e := by
  unfold parseCondition parseSelect parseStatements at h
  cases hlexemes : lexemes d (conditionSql text) with
  | error err => simp [hlexemes] at h
  | ok ls =>
    simp only [hlexemes] at h
    split at h
    · cases h
    · cases h
    · rename_i q found hselect
      split at hselect
      · cases hselect
      · rename_i q' hstatements
        split at hselect
        · rename_i found' hbody
          obtain ⟨rfl, rfl⟩ := Prod.mk.inj (Option.some.inj (Except.ok.inj hselect))
          refine ⟨ls, _, _, rfl, hstatements, hbody, ?_⟩
          split at h
          · rename_i e' hselection
            rw [hselection, Except.ok.inj h]
          · cases h
        · cases hselect
      · cases hselect

/-- A condition is read behind `SELECT * FROM T WHERE`, in parentheses. -/
theorem conditionSql_eq (text : String) :
    conditionSql text = "SELECT * FROM T WHERE " ++ ("(" ++ text ++ ")") := by
  have hopen : "SELECT * FROM T WHERE (" = "SELECT * FROM T WHERE " ++ "(" := by decide +kernel
  unfold conditionSql
  rw [hopen, String.append_assoc, String.append_assoc, String.append_assoc]

/-- What stands in front of a condition is read as the beginning of a `SELECT`. -/
theorem items_conditionSql {ls : List Lexeme} (h : lexemes d (conditionSql text) = .ok ls) :
    ∃ u b p q, BeforeCondition u ∧ Item.ofLexemes none ls =
      u ++ .ofLexeme b ⟨.symbol "(", p, q⟩ :: conditionItems d text := by
  have hread : Lexer.Reads d ("SELECT * FROM T WHERE ".toList ++ "(".toList)
      (whereTokens ++ [.symbol "("]) (text ++ ")").toList :=
    Lexer.reads_where.append Lexer.reads_open
  obtain ⟨before, p, hbefore, hscan⟩ := hread .start
  have hsql : (conditionSql text).toList =
      ("SELECT * FROM T WHERE ".toList ++ "(".toList) ++ (text ++ ")").toList := by
    rw [conditionSql_eq, String.toList_append, String.append_assoc, String.toList_append,
      List.append_assoc]
  rw [lexemes, hsql, hscan] at h
  cases hrest : Lexer.scan d p (text ++ ")").toList with
  | error err =>
    rw [hrest] at h
    cases h
  | ok behind =>
    rw [hrest] at h
    obtain rfl : before ++ behind = ls := Except.ok.inj h
    obtain ⟨b', hitems⟩ := Item.ofLexemes_append none before behind
    have hspells : Item.Spells (whereTokens ++ [.symbol "("]) (Item.ofLexemes none before) :=
      ⟨none, before, hbefore, rfl⟩
    obtain ⟨u, v, huv, hu, hv⟩ := hspells.split
    obtain ⟨b, p, q, v', rfl, hv'⟩ := hv.item rfl
    obtain rfl := Item.Spells.nil_iff.1 hv'
    have hwhole : Item.ofLexemes none (before ++ behind) =
        u ++ .ofLexeme b ⟨.symbol "(", p, q⟩ :: Item.ofLexemes b' behind := by
      rw [hitems, huv, List.append_assoc]
      rfl
    refine ⟨u, b, p, q, beforeCondition hu, ?_⟩
    have hinside : conditionItems d text = (Item.ofLexemes none (before ++ behind)).drop 6 := by
      rw [conditionItems, lexemes, hsql, hscan, hrest]
      rfl
    rw [hinside, hwhole]
    obtain ⟨_, _, _, _, _, _, _, _, _, _, _, _, _, _, _, rfl⟩ := beforeCondition hu
    rfl

/-- A condition that is read is what the parenthesis in front of the text starts, unless
something is left behind the parenthesis that closes it. -/
theorem opens_of_parseCondition (h : parseCondition d text = .ok e) :
    ∃ e₀ c rest, Opens (nested d 47) (conditionItems d text) e₀ c rest ∧ (rest = [] → e = e₀) := by
  obtain ⟨ls, q, found, hlexemes, hstatements, hbody, hselection⟩ := parseCondition_eq_ok h
  obtain ⟨u, b, p, p', hu, hitems⟩ := items_conditionSql hlexemes
  have hu' := hu
  obtain ⟨_, _, _, _, _, _, _, _, _, _, _, _, _, _, _, rfl⟩ := hu
  rw [hitems] at hstatements
  obtain ⟨t, hselect⟩ := select_of_statements hstatements hbody
  obtain ⟨e', t', hexpr, hfound⟩ := selection_where hu' hselect
  obtain rfl := Option.some.inj (hfound.symm.trans hselection)
  exact opens_of_expression hexpr

/-- A condition is enclosed exactly if the parenthesis behind the text closes the one before it. -/
theorem Opens.isEnclosed_iff {e₀ : Expr} {c : Item} {rest : List Item}
    (h : Opens (nested d 47) (conditionItems d text) e₀ c rest) (hrest : rest = [] → e = e₀) :
    IsEnclosed d text e ↔
      (∃ inner, e = .nested inner) ∧ rest = [] ∧ c.place = some (behindCondition text) := by
  constructor
  · rintro ⟨inner, c', rfl, hc', hplace, hs', hinner⟩
    refine ⟨⟨inner, rfl⟩, ?_⟩
    have hone : expr (nested d 47) (conditionItems d text) = .ok (inner, [c']) := hinner
    cases h with
    | condition _ _ _ hc hs h =>
      obtain ⟨-, hrest⟩ := Prod.mk.inj (Except.ok.inj (h.symm.trans hone))
      obtain ⟨rfl, rfl⟩ := List.cons.inj hrest
      exact ⟨rfl, hplace⟩
    | several es _ _ hc hs hes h =>
      have hlist := commaSeparated_of_expr hc' hone
      obtain ⟨rfl, -⟩ := Prod.mk.inj (Except.ok.inj (h.symm.trans hlist))
      exact absurd rfl hes
    | query _ _ _ hc hs h => exact absurd (hs.symm.trans hs') (by decide)
  · rintro ⟨⟨inner, rfl⟩, rfl, hplace⟩
    obtain he := hrest rfl
    cases h with
    | condition inner' _ _ hc hs h =>
      obtain rfl := Expr.nested.inj he
      exact ⟨_, c, rfl, hc, hplace, hs, h⟩
    | several => cases he
    | query => cases he

/-- **A condition is the text in parentheses** just when it is one in parentheses, when the
parenthesis that closes the one in front of the text is the one behind it, and when nothing
follows.  Where counting parentheses tells which one closes, it is that one. -/
theorem parseCondition_opens (h : parseCondition d text = .ok e) :
    ∃ e₀ c rest, Opens (nested d 47) (conditionItems d text) e₀ c rest ∧ (rest = [] → e = e₀) ∧
      (∀ found, closing 0 (conditionItems d text) = some found → found = (c, rest)) ∧
      (IsEnclosed d text e ↔
        (∃ inner, e = .nested inner) ∧ rest = [] ∧ c.place = some (behindCondition text)) := by
  obtain ⟨e₀, c, rest, hopens, hrest⟩ := opens_of_parseCondition h
  exact ⟨e₀, c, rest, hopens, hrest, fun found => hopens.closing_eq (nested_paired d 47 false),
    hopens.isEnclosed_iff hrest⟩

end Condition

/-- A comparison is the text in parentheses: counting finds the one behind it, and nothing
follows. -/
theorem parseCondition_opens_comparison : ∃ e, parseCondition .ansi "a > 1" = .ok e ∧
    IsEnclosed .ansi "a > 1" e := by
  have hread : (parseCondition .ansi "a > 1").toOption.map Expr.isNested = some true := by
    decide +kernel
  have hcount : (closing 0 (conditionItems .ansi "a > 1")).map
      (fun found => (found.1.place, found.2.isEmpty)) =
        some (some (behindCondition "a > 1"), true) := by
    decide +kernel
  cases h : parseCondition .ansi "a > 1" with
  | error err => simp [h, Except.toOption] at hread
  | ok e =>
    obtain ⟨e₀, c, rest, -, -, hcloses, henclosed⟩ := parseCondition_opens h
    obtain ⟨found, hfound, hplace⟩ := Option.map_eq_some_iff.1 hcount
    obtain rfl := hcloses found hfound
    obtain ⟨hplace, hrest⟩ := Prod.mk.inj hplace
    have hnested : e.isNested = true := by simpa [h, Except.toOption] using hread
    exact ⟨e, rfl, henclosed.2 ⟨Expr.isNested_iff.1 hnested, List.isEmpty_iff.1 hrest, hplace⟩⟩

/-- **A text may close the parenthesis in front of it.**  What is read then is no condition in
parentheses. -/
theorem parseCondition_closed_early : ∃ e, parseCondition .ansi "a = 1) OR (b = 2" = .ok e ∧
    ¬IsEnclosed .ansi "a = 1) OR (b = 2" e := by
  have hread : (parseCondition .ansi "a = 1) OR (b = 2").toOption.map Expr.isNested =
      some false := by
    decide +kernel
  cases h : parseCondition .ansi "a = 1) OR (b = 2" with
  | ok e =>
    refine ⟨e, rfl, ?_⟩
    rintro ⟨inner, c, rfl, -⟩
    simp [h, Except.toOption, Expr.isNested] at hread
  | error err => simp [h, Except.toOption] at hread

end Grammar
end Sql
end QueryTemplate
