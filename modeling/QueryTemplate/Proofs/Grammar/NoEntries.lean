/-
# `SELECT` without entries

A `SELECT` list is not empty: what stands behind the keyword is read as an entry.  Where no
entry is left before `FROM`, that word is read as the column `from`, which is refused.  So a
text that starts with `SELECT  FROM` and a table is no query (`parseSelect_noEntries`), unless
the table is called like an operator, which would go on with the entry.
-/

import QueryTemplate.Proofs.Grammar.Where

namespace QueryTemplate
namespace Sql
namespace Grammar

variable {α β : Type} {env : Nested} {d : Dialect} {s : List Item} {i : Item} {e : SyntaxError}

/-- The words that go on with an expression. -/
def infixWords : List String := [
  "AND", "OR", "XOR", "IS", "IN", "BETWEEN", "OPERATOR", "LIKE", "ILIKE", "RLIKE", "REGEXP",
  "SIMILAR", "DIV", "AT", "NOT", "COLLATE"]

/-- A name or a string that does not go on with an expression. -/
structure IsName (i : Item) : Prop where
  token : (∃ w c, i.token = .word w c) ∨ ∃ kind w, i.token = .string kind w
  placed : i.place.isSome
  free : i.keyword ∉ infixWords

namespace IsName

/-- No collation stands behind what goes on with no expression. -/
theorem collate (h : IsName i) : Grammar.keyword "COLLATE" env (i :: s) = .ok (false, i :: s) := by
  have hk : (i.keyword == "COLLATE") = false := by
    rw [beq_eq_false_iff_ne]
    exact fun heq => h.free (by rw [heq]; decide)
  refine bind_eq (a := false) ?_ rfl
  exact bind_eq rfl (by rw [← hk]; rfl)

/-- Nothing binds at a name behind `FROM`. -/
theorem nextPrecedence (h : IsName i) : Grammar.nextPrecedence env (i :: s) = .ok (0, i :: s) := by
  obtain ⟨t, k, place, b⟩ := i
  have hk := h.free
  refine bind_eq (bind_eq rfl rfl) (bind_eq rfl ?_)
  rcases h.token with ⟨w, c, rfl⟩ | ⟨kind, w, rfl⟩
  · have htier : keywordTier? k = none := by
      unfold keywordTier?
      split <;> simp_all [infixWords]
    dsimp only
    simp only [List.getD_cons_zero]
    split
    · exact absurd (show "AT" ∈ infixWords by decide) hk
    · exact absurd (show "NOT" ∈ infixWords by decide) hk
    · exact absurd (show "COLLATE" ∈ infixWords by decide) hk
    · rw [htier]
      rfl
  · rfl

end IsName

/-- `FROM` before a name is read as a column. -/
theorem operand_from {b : Option Lexeme} {p q : Text.Position} (h : IsName i) :
    operand env (.ofLexeme b ⟨.word "FROM" none, p, q⟩ :: i :: s) =
      .ok (.identifier (.plain "FROM"), i :: s) := by
  have htyped : ∀ interval, attempt (typedString interval) env
      (.ofLexeme b ⟨.word "FROM" none, p, q⟩ :: i :: s) =
        .ok (none, .ofLexeme b ⟨.word "FROM" none, p, q⟩ :: i :: s) := by
    obtain ⟨t, k, _ | place, b⟩ := i
    · cases h.placed
    obtain ⟨d, _, _, _, _⟩ := env
    intro interval
    rcases h.token with ⟨w, c, rfl⟩ | ⟨kind, w, rfl⟩ <;> cases s <;> cases d <;> rfl
  have hword : ∀ interval, wordOperand interval "FROM" ⟨"FROM", none⟩ (some p) env (i :: s) =
      collated (.identifier (.plain "FROM")) env (i :: s) := by
    obtain ⟨t, k, _ | place, b⟩ := i
    · cases h.placed
    obtain ⟨d, _, _, _, _⟩ := env
    intro interval
    rcases h.token with ⟨w, c, rfl⟩ | ⟨kind, w, rfl⟩ <;> cases d <;> rfl
  have hcollated : collated (.identifier (.plain "FROM")) env (i :: s) =
      .ok (.identifier (.plain "FROM"), i :: s) :=
    bind_eq h.collate rfl
  exact bind_eq rfl (bind_eq (htyped _) (bind_eq rfl ((hword _).trans hcollated)))

/-- `FROM` before a name is no entry of `SELECT`. -/
theorem selectItem_from {b : Option Lexeme} {p q : Text.Position} {n : Nat} (h : IsName i) :
    ∃ e, selectItem (nested d (n + 1)) (.ofLexeme b ⟨.word "FROM" none, p, q⟩ :: i :: s) =
      .error e := by
  have hstep : ∀ e : Expr, (do
      let p ← Grammar.nextPrecedence
      if p ≤ 0 then return none else return some (← applyOperator e p) : Rule (Option Expr))
        (nested d n) (i :: s) = .ok (none, i :: s) :=
    fun e => bind_eq h.nextPrecedence rfl
  have hexpr : expr (nested d (n + 1)) (.ofLexeme b ⟨.word "FROM" none, p, q⟩ :: i :: s) =
      .ok (.identifier (.plain "FROM"), i :: s) :=
    bind_eq (operand_from h) (bind_eq rfl (bind_eq (hstep _) rfl))
  -- `FROM` is read twice: first as a name that might have a star behind it
  have hpoint : peekSymbol "." (nested d (n + 1)) (i :: s) = .ok (false, i :: s) := by
    obtain ⟨t, k, place, b⟩ := i
    rcases h.token with ⟨w, c, rfl⟩ | ⟨kind, w, rfl⟩ <;> rfl
  have hstar : starOrExpr (nested d (n + 1)) (.ofLexeme b ⟨.word "FROM" none, p, q⟩ :: i :: s) =
      .ok ([.operand (.identifier (.plain "FROM"))], i :: s) :=
    bind_eq rfl (bind_eq rfl (bind_eq hpoint (bind_eq rfl (bind_eq hexpr rfl))))
  have hlower : ("FROM".toLower == "from") = true := by decide +kernel
  let column : Expr := .identifier (.plain "FROM")
  refine ⟨.fault ("Expected an expression, found: " ++ column.sql) i.place, bind_eq hstar ?_⟩
  dsimp only [Expr.identifier, Ident.plain]
  rw [if_pos hlower]
  rfl

section Refused

variable {b b' : Option Lexeme} {p q p' q' : Text.Position} {n : Nat}

/-- So it does not follow `SELECT`. -/
theorem select_from (h : IsName i) :
    ∃ e, select (nested d (n + 1)) (.ofLexeme b ⟨.word "SELECT" none, p, q⟩ ::
      .ofLexeme b' ⟨.word "FROM" none, p', q'⟩ :: i :: s) = .error e := by
  obtain ⟨e, he⟩ : ∃ e, selectItem (nested d (n + 1))
      (.ofLexeme b' ⟨.word "FROM" none, p', q'⟩ :: i :: s) = .error e := selectItem_from h
  have hmodifiers : selectModifiers (nested d (n + 1))
      (.ofLexeme b' ⟨.word "FROM" none, p', q'⟩ :: i :: s) =
        .ok ([.words ""], .ofLexeme b' ⟨.word "FROM" none, p', q'⟩ :: i :: s) := by
    cases d <;> rfl
  have hlist : selectList (nested d (n + 1)) (.ofLexeme b' ⟨.word "FROM" none, p', q'⟩ :: i :: s) =
      .error e :=
    bind_eq rfl (bind_error he)
  exact ⟨e, bind_eq rfl (bind_eq hmodifiers (bind_error hlist))⟩

/-- No statement starts with `SELECT FROM` and a name. -/
theorem statements_from (h : IsName i) :
    ∃ e, statements d (.ofLexeme b ⟨.word "SELECT" none, p, q⟩ ::
      .ofLexeme b' ⟨.word "FROM" none, p', q'⟩ :: i :: s) = .error e := by
  obtain ⟨e, he⟩ : ∃ e, select (nested d 48) (.ofLexeme b ⟨.word "SELECT" none, p, q⟩ ::
      .ofLexeme b' ⟨.word "FROM" none, p', q'⟩ :: i :: s) = .error e := select_from h
  generalize hu : Item.ofLexeme b ⟨.word "SELECT" none, p, q⟩ ::
    .ofLexeme b' ⟨.word "FROM" none, p', q'⟩ :: i :: s = u at he ⊢
  have hbody : body (nested d 48) u = .error e := by
    subst hu
    exact bind_eq rfl (bind_error (bind_eq rfl (bind_error he)))
  have hquery : queryRule (nested d 48) u = .error e := by
    subst hu
    exact bind_eq rfl (bind_eq rfl (bind_eq rfl (bind_error hbody)))
  have hstatement : statementAt d maxDepth u = .error e := by
    subst hu
    exact bind_eq rfl (bind_eq rfl (bind_error hquery))
  refine ⟨e, ?_⟩
  subst hu
  rw [statements, statementsUpTo, hstatement]
  rfl

end Refused

/-! ## The text -/

section Text

variable {rest : List Char}

open Lexer (Breaks Reads)

/-- However the text is read, it starts with a name. -/
def StartsName (d : Dialect) (rest : List Char) : Prop :=
  ∀ p ls, Lexer.scan d p rest = .ok ls → ∃ l ls', ls = l :: ls' ∧ l.token.isBlank = false ∧
    ∀ b, IsName (.ofLexeme b l)

/-- A plain name does, unless it is the word of an operator. -/
theorem startsName_plain {name : String} (h : Value.isPlainName name.toList = true)
    (hfree : Text.upper name ∉ infixWords) (hrest : Breaks rest) :
    StartsName d (name.toList ++ rest) := by
  intro p ls hscan
  obtain ⟨ls', p', hls', hread⟩ := Lexer.reads_word (d := d) h hrest p
  rw [hread] at hscan
  obtain ⟨⟨t, p'', q''⟩, rfl, rfl⟩ := List.map_eq_singleton_iff.1 hls'
  cases hscan' : Lexer.scan d p' rest with
  | error e => simp [hscan', Except.map] at hscan
  | ok found =>
    obtain rfl : _ = ls := by simpa [hscan', Except.map] using hscan
    exact ⟨_, found, rfl, rfl, fun b => ⟨.inl ⟨name, none, rfl⟩, rfl, hfree⟩⟩

/-- A string token is a string. -/
theorem stringToken_eq_ok {kind : StringKind} {m m' n : Nat} {content : Option Quoted.Content}
    {t : Token} (h : Lexer.stringToken kind m m' content = .ok (t, n)) :
    ∃ w, t = .string kind w := by
  unfold Lexer.stringToken at h
  split at h
  · obtain ⟨rfl, rfl⟩ := Prod.mk.inj (Except.ok.inj h)
    exact ⟨_, rfl⟩
  · cases h

/-- What starts with a quote is a string. -/
theorem stringAt_eq_ok {quote : Char} {escapes triples : Bool} {one three : StringKind} {m n : Nat}
    {t : Token} (h : Lexer.stringAt quote escapes triples one three m rest = .ok (t, n)) :
    ∃ kind w, t = .string kind w := by
  unfold Lexer.stringAt at h
  split at h
  · exact ⟨_, stringToken_eq_ok h⟩
  · split at h
    · split at h
      · split at h
        · exact ⟨_, stringToken_eq_ok h⟩
        · obtain ⟨rfl, -⟩ := Prod.mk.inj (Except.ok.inj h)
          exact ⟨_, _, rfl⟩
      · exact ⟨_, stringToken_eq_ok h⟩
    · split at h
      · obtain ⟨rfl, -⟩ := Prod.mk.inj (Except.ok.inj h)
        exact ⟨_, _, rfl⟩
      · exact ⟨_, stringToken_eq_ok h⟩
    · cases h

/-- The token of a name in double quotes. -/
def nameToken : Option Quoted.Content → Lexer.Result
  | some (cs, n) => .ok (.word (String.ofList cs) (some '"'), n)
  | none => .error (.unclosedName '"', 0)

/-- A name in quotes is a word. -/
theorem nameToken_eq_ok {found : Option Quoted.Content} {n : Nat} {t : Token}
    (h : nameToken found = .ok (t, n)) : ∃ w, t = .word w (some '"') := by
  cases found with
  | none => cases h
  | some content =>
    obtain ⟨rfl, rfl⟩ := Prod.mk.inj (Except.ok.inj h)
    exact ⟨_, rfl⟩

/-- A double quote starts a name in quotes, or a string. -/
theorem lexeme_quote {n : Nat} {t : Token} (h : Lexer.lexeme d '"' rest = .ok (t, n)) :
    (∃ w, t = .word w (some '"')) ∨ ∃ kind w, t = .string kind w := by
  cases d with
  | bigquery =>
    have hat : Lexer.stringAt '"' true true .double .tripleDouble 0 rest = .ok (t, n) := h
    exact .inr (stringAt_eq_ok hat)
  | ansi | postgres | snowflake =>
    have hat : nameToken (Quoted.quoted '"' false rest) = .ok (t, n) := h
    exact .inl (nameToken_eq_ok hat)

/-- A quote starts a name. -/
theorem startsName_quoted : StartsName d ('"' :: rest) := by
  intro p ls hscan
  obtain ⟨t, n, found, hlexeme, -, rfl⟩ := Lexer.scan_cons_eq_ok hscan
  have hempty : "" ∉ infixWords := by decide
  refine ⟨_, found, rfl, ?_⟩
  rcases lexeme_quote hlexeme with ⟨w, rfl⟩ | ⟨kind, w, rfl⟩
  · exact ⟨rfl, fun b => ⟨.inl ⟨w, _, rfl⟩, rfl, hempty⟩⟩
  · exact ⟨rfl, fun b => ⟨.inr ⟨kind, w, rfl⟩, rfl, hempty⟩⟩

/-- **A `SELECT` without entries is refused**, whatever stands behind its first table. -/
theorem parseSelect_noEntries {text : String} (h : StartsName d text.toList) :
    ∃ e, parseSelect d ("SELECT  FROM " ++ text) = .error e := by
  have hfrom : Reads d "  FROM ".toList [.space, .space, .word "FROM" none, .space] text.toList :=
    Lexer.reads_blank.append (Lexer.reads_between rfl)
  have hselect : Reads d "SELECT".toList [.word "SELECT" none] ("  FROM ".toList ++ text.toList) :=
    Lexer.reads_word rfl Lexer.breaks_blank
  obtain ⟨ls, p, hls, hread⟩ := hselect.append hfrom .start
  have hlexemes : lexemes d ("SELECT  FROM " ++ text) =
      (Lexer.scan d p text.toList).map (ls ++ ·) := by
    rw [lexemes, String.toList_append]
    exact hread
  cases hscan : Lexer.scan d p text.toList with
  | error e =>
    refine ⟨⟨.invalid (.lex e), "SELECT  FROM " ++ text⟩, ?_⟩
    rw [parseSelect, parseStatements, hlexemes, hscan]
    rfl
  | ok found =>
    obtain ⟨l, ls', rfl, hblank, hname⟩ := h p found hscan
    obtain ⟨b', hitems⟩ := Item.ofLexemes_append none ls (l :: ls')
    have hspells : Item.Spells _ (Item.ofLexemes none ls) := ⟨none, ls, hls, rfl⟩
    obtain ⟨b₁, p₁, q₁, s₁, hs₁, h₁⟩ := hspells.item rfl
    obtain ⟨b₂, p₂, q₂, s₂, rfl, h₂⟩ := ((h₁.blank rfl).blank rfl).item rfl
    obtain rfl := Item.Spells.nil_iff.1 (h₂.blank rfl)
    have hfrom : Item.ofLexemes none (ls ++ l :: ls') =
        .ofLexeme b₁ ⟨.word "SELECT" none, p₁, q₁⟩ :: .ofLexeme b₂ ⟨.word "FROM" none, p₂, q₂⟩ ::
          .ofLexeme b' l :: Item.ofLexemes none ls' := by
      rw [hitems, hs₁, Item.ofLexemes, if_neg (by simpa using hblank)]
      rfl
    obtain ⟨e, he⟩ : ∃ e, statements d (Item.ofLexemes none (ls ++ l :: ls')) = .error e :=
      hfrom ▸ statements_from (hname b')
    refine ⟨⟨.invalid e, "SELECT  FROM " ++ text⟩, ?_⟩
    rw [parseSelect, parseStatements, hlexemes, hscan]
    simp only [Except.map, he]

end Text

end Grammar
end Sql
end QueryTemplate
