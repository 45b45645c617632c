/-
# A condition behind `WHERE`

Conditions are read behind `SELECT * FROM T WHERE`.  If the rule for expressions reads all
tokens of a text as an expression, this expression is the condition of the query that the
whole text is (`parseSelect_where`).
-/

import QueryTemplate.Proofs.Token.Reads
import QueryTemplate.Sql.Parse

namespace QueryTemplate
namespace Sql
namespace Grammar

/-! ## Items that spell tokens -/

namespace Item

variable {t : Token} {ts ts' : List Token} {s : List Item}

/-- The items `s` come from lexemes of the tokens `ts`. -/
def Spells (ts : List Token) (s : List Item) : Prop :=
  ∃ b ls, ls.map Lexeme.token = ts ∧ s = ofLexemes b ls

/-- The items of two rows of lexemes stand one behind the other. -/
theorem ofLexemes_append (b : Option Lexeme) (ls ls' : List Lexeme) :
    ∃ b', ofLexemes b (ls ++ ls') = ofLexemes b ls ++ ofLexemes b' ls' := by
  induction ls generalizing b with
  | nil => exact ⟨b, rfl⟩
  | cons l ls ih =>
    rw [List.cons_append, ofLexemes, ofLexemes]
    split
    · exact ih _
    · obtain ⟨b', hb'⟩ := ih none
      exact ⟨b', by rw [hb', List.cons_append]⟩

/-- **Tokens in two parts are spelled by items in two parts.** -/
theorem Spells.split (h : Spells (ts ++ ts') s) :
    ∃ u u', s = u ++ u' ∧ Spells ts u ∧ Spells ts' u' := by
  obtain ⟨b, ls, hls, rfl⟩ := h
  obtain ⟨l, l', rfl, rfl, rfl⟩ := List.map_eq_append_iff.1 hls
  obtain ⟨b', hb'⟩ := ofLexemes_append b l l'
  exact ⟨_, _, hb', ⟨b, l, rfl, rfl⟩, ⟨b', l', rfl, rfl⟩⟩

/-- Only no items spell no tokens. -/
theorem Spells.nil_iff : Spells [] s ↔ s = [] := by
  constructor
  · rintro ⟨b, ls, hls, rfl⟩
    obtain rfl := List.map_eq_nil_iff.1 hls
    rfl
  · rintro rfl
    exact ⟨none, [], rfl, rfl⟩

/-- A blank is no item. -/
theorem Spells.blank (ht : t.isBlank = true) (h : Spells (t :: ts) s) : Spells ts s := by
  obtain ⟨b, ls, hls, rfl⟩ := h
  obtain ⟨l, ls, rfl, rfl, rfl⟩ := List.map_eq_cons_iff.1 hls
  exact ⟨_, ls, rfl, by rw [ofLexemes, if_pos ht]⟩

/-- Any other token is one. -/
theorem Spells.item (ht : t.isBlank = false) (h : Spells (t :: ts) s) :
    ∃ b p q s', s = ofLexeme b ⟨t, p, q⟩ :: s' ∧ Spells ts s' := by
  obtain ⟨b, ls, hls, rfl⟩ := h
  obtain ⟨⟨t, p, q⟩, ls, rfl, rfl, rfl⟩ := List.map_eq_cons_iff.1 hls
  refine ⟨b, p, q, _, ?_, ⟨none, ls, rfl, rfl⟩⟩
  rw [ofLexemes, if_neg (by simpa using ht)]

/-- A word or symbol between two blanks is one item. -/
theorem Spells.between (ht : t.isBlank = false) (h : Spells [.space, t, .space] s) :
    ∃ b p q, s = [ofLexeme b ⟨t, p, q⟩] := by
  obtain ⟨b, p, q, s', rfl, hs'⟩ := (h.blank rfl).item ht
  obtain rfl := Spells.nil_iff.1 (hs'.blank rfl)
  exact ⟨b, p, q, rfl⟩

end Item

/-! ## Rules one after the other -/

section Run

variable {α β : Type} {env : Nested} {s s' : List Item} {R : Rule α} {f : α → Rule β} {a : α}

/-- A rule that gives a value hands it on to the next one. -/
theorem bind_eq {o : Outcome β} (hR : R env s = .ok (a, s')) (hf : f a env s' = o) :
    (R >>= f) env s = o := by
  simp [bind, ReaderT.bind, StateT.bind, Except.bind, hR, hf]

/-- A rule whose first part fails fails with its error. -/
theorem bind_error {e : SyntaxError} (hR : R env s = .error e) : (R >>= f) env s = .error e := by
  simp [bind, ReaderT.bind, StateT.bind, Except.bind, hR]

/-- The rule reads all tokens, and what it gives has a property. -/
def ReadsAll (env : Nested) (s : List Item) (P : α → Prop) (R : Rule α) : Prop :=
  ∃ a, R env s = .ok (a, []) ∧ P a

/-- A part that is read may stand before a rule that reads all the rest. -/
theorem ReadsAll.bind {P : β → Prop} (hR : R env s = .ok (a, s')) (hf : ReadsAll env s' P (f a)) :
    ReadsAll env s P (R >>= f) := by
  obtain ⟨b, hb, hP⟩ := hf
  exact ⟨b, bind_eq hR hb, hP⟩

/-- A keyword that is not there is not taken. -/
theorem keyword_eq_false {k : String} (hk : (s.getD 0 .ending).keyword ≠ k) :
    keyword k env s = .ok (false, s) := by
  unfold keyword
  rw [bind_eq (a := (s.getD 0 .ending).keyword == k) rfl rfl, beq_false_of_ne hk]
  rfl

/-- A symbol that is not there is not taken. -/
theorem symbol_eq_false {x : String} (hx : (s.getD 0 .ending).isSymbol x = false) :
    symbol x env s = .ok (false, s) := by
  unfold symbol
  rw [bind_eq (a := (s.getD 0 .ending).isSymbol x) rfl rfl, hx]
  rfl

end Run

/-! ## One `SELECT` -/

section Select

variable {d : Dialect} {s : List Item} {found : Select} {P : Select → Prop} {b : Option Lexeme}
  {p q : Text.Position}

/-- What is read as a `SELECT` to the end is a query without further clauses. -/
theorem query_select {env : Nested}
    (h : select env (.ofLexeme b ⟨.word "SELECT" none, p, q⟩ :: s) = .ok (found, [])) :
    ReadsAll env (.ofLexeme b ⟨.word "SELECT" none, p, q⟩ :: s) (·.body = .select found)
      queryRule := by
  have hsimple : simpleBody env (.ofLexeme b ⟨.word "SELECT" none, p, q⟩ :: s) =
      .ok (.select found, []) :=
    bind_eq rfl (bind_eq h rfl)
  have hbody : body env (.ofLexeme b ⟨.word "SELECT" none, p, q⟩ :: s) = .ok (.select found, []) :=
    bind_eq rfl (bind_eq hsimple rfl)
  obtain ⟨d, _, _, _, _⟩ := env
  unfold queryRule
  cases d
  all_goals
    refine .bind rfl ?_
    refine .bind rfl ?_
    refine .bind rfl ?_
    refine .bind hbody ?_
    exact ⟨_, rfl, rfl⟩

/-- A row of tokens that is read as one `SELECT` is a statement of its own. -/
theorem statements_select
    (h : select (nested d 48) (.ofLexeme b ⟨.word "SELECT" none, p, q⟩ :: s) = .ok (found, [])) :
    ∃ query, statements d (.ofLexeme b ⟨.word "SELECT" none, p, q⟩ :: s) = .ok [.query query] ∧
      query.body = .select found := by
  obtain ⟨query, hquery, hbody⟩ := query_select h
  refine ⟨query, ?_, hbody⟩
  have hstatement : statementAt d maxDepth (.ofLexeme b ⟨.word "SELECT" none, p, q⟩ :: s) =
      .ok (.query query, []) :=
    bind_eq rfl (bind_eq rfl (bind_eq hquery rfl))
  rw [statements, statementsUpTo, hstatement]
  rfl

/-- **A text is one `SELECT`** if the rule for it reads all tokens. -/
theorem parseSelect_of_select {text : String} {ts : List Token}
    (hread : Lexer.Reads d text.toList (.word "SELECT" none :: ts) [])
    (h : ∀ s, Item.Spells (.word "SELECT" none :: ts) s → ReadsAll (nested d 48) s P select) :
    ∃ query found, parseSelect d text = .ok (some (query, found)) ∧ P found := by
  obtain ⟨ls, hls, hlexemes⟩ := hread.lexemes
  have hspelled : Item.Spells (.word "SELECT" none :: ts) (Item.ofLexemes none ls) :=
    ⟨none, ls, hls, rfl⟩
  obtain ⟨found, hselect, hfound⟩ := h _ hspelled
  obtain ⟨b, p, q, s, hs, -⟩ := hspelled.item rfl
  rw [hs] at hselect
  obtain ⟨query, hstatements, hbody⟩ := statements_select hselect
  refine ⟨query, found, ?_, hfound⟩
  simp [parseSelect, parseStatements, hlexemes, hs, hstatements, hbody]

end Select

/-! ## The query -/

section Query

variable {d : Dialect} {e : Expr} {s : List Item} {i : Item}
  {relating : Bool} {f : Nat → List Item → Outcome Expr} {g : List Item → Outcome Query}
  {f' : List Item → Outcome Expr}

/-- The items of `SELECT * FROM T WHERE`. -/
def whereTokens : List Token := [.word "SELECT" none, .space, .symbol "*", .space,
  .word "FROM" none, .space, .word "T" none, .space, .word "WHERE" none, .space]

/-- The items before a condition. -/
def BeforeCondition (s : List Item) : Prop :=
  ∃ b₁ b₂ b₃ b₄ b₅ p₁ p₂ p₃ p₄ p₅ q₁ q₂ q₃ q₄ q₅,
    s = [.ofLexeme b₁ ⟨.word "SELECT" none, p₁, q₁⟩, .ofLexeme b₂ ⟨.symbol "*", p₂, q₂⟩,
      .ofLexeme b₃ ⟨.word "FROM" none, p₃, q₃⟩, .ofLexeme b₄ ⟨.word "T" none, p₄, q₄⟩,
      .ofLexeme b₅ ⟨.word "WHERE" none, p₅, q₅⟩]

/-- What stands before a condition is `SELECT * FROM` a table and `WHERE`. -/
theorem beforeCondition {u : List Item} (h : Item.Spells whereTokens u) : BeforeCondition u := by
  obtain ⟨b₁, p₁, q₁, s₁, rfl, h₁⟩ := h.item rfl
  obtain ⟨b₂, p₂, q₂, s₂, rfl, h₂⟩ := (h₁.blank rfl).item rfl
  obtain ⟨b₃, p₃, q₃, s₃, rfl, h₃⟩ := (h₂.blank rfl).item rfl
  obtain ⟨b₄, p₄, q₄, s₄, rfl, h₄⟩ := (h₃.blank rfl).item rfl
  obtain ⟨b₅, p₅, q₅, s₅, rfl, h₅⟩ := (h₄.blank rfl).item rfl
  obtain rfl := Item.Spells.nil_iff.1 (h₅.blank rfl)
  exact ⟨b₁, b₂, b₃, b₄, b₅, p₁, p₂, p₃, p₄, p₅, q₁, q₂, q₃, q₄, q₅, rfl⟩

/-- A condition that takes the rest of the tokens is the filter of the query. -/
theorem select_where {u : List Item} (hu : BeforeCondition u) (h : f 0 (i :: s) = .ok (e, [])) :
    ReadsAll ⟨d, relating, f, g, f'⟩ (u ++ i :: s) (·.selection = some e) select := by
  obtain ⟨_, _, _, _, _, _, _, _, _, _, _, _, _, _, _, rfl⟩ := hu
  unfold select
  cases d
  all_goals
    -- up to `WHERE` no nested rule is called
    iterate 10 refine .bind rfl ?_
    exact .bind (bind_eq rfl (bind_eq h rfl)) ⟨_, rfl, rfl⟩

/-- **What is read as an expression is a condition.** -/
theorem parseSelect_where {text : String} {ts : List Token}
    (hread : Lexer.Reads d text.toList ts [])
    (h : ∀ s, Item.Spells ts s → s ≠ [] ∧ (nested d 48).expr 0 s = .ok (e, [])) :
    ∃ q found, parseSelect d ("SELECT * FROM T WHERE " ++ text) = .ok (some (q, found)) ∧
      found.selection = some e := by
  have hwhole : Lexer.Reads d ("SELECT * FROM T WHERE " ++ text).toList (whereTokens ++ ts) [] := by
    rw [String.toList_append]
    exact Lexer.reads_where.append hread
  refine parseSelect_of_select hwhole fun s (hs : Item.Spells (whereTokens ++ ts) s) => ?_
  obtain ⟨u, s, rfl, hu, hspelled⟩ := hs.split
  obtain ⟨hne, hexpr⟩ := h s hspelled
  obtain ⟨i, s, rfl⟩ := List.exists_cons_of_ne_nil hne
  exact select_where (beforeCondition hu) hexpr

end Query

end Grammar
end Sql
end QueryTemplate
