/-
# One word in parentheses

A word between parentheses is read as a column of that name, unless it starts a query or is one
of the words below (`parseCondition_word`).  A keyword for a type or a construct is tried as such
first; in front of a closing parenthesis every type lacks its string, and the construct lacks what
it needs.

| word | read as |
| --- | --- |
| `CURRENT_DATE`, `LOCALTIME`, … | the call of a function |
| `CURRENT_USER`, … in `postgres` and `ansi` | the call of a function |
| `EXISTS`; `INTERVAL`; `STRUCT` in `ansi` and `bigquery` | nothing: a failure |
-/

import QueryTemplate.Proofs.Grammar.Enclosed

namespace QueryTemplate
namespace Sql
namespace Grammar

variable {α β : Type} {env : Nested} {d : Dialect} {R : Rule α} {f : α → Rule β} {a : α}
  {i : Item} {s s' u : List Item} {b : Option Lexeme} {p q : Text.Position} {k text : String}
  {quote : Option Char} {w : Ident} {place : Option Text.Position}

/-! ## Failures -/

/-- The rule fails, because of the nesting only if `P`. -/
def Fails (P : Prop) (R : Rule α) (env : Nested) (s : List Item) : Prop :=
  ∃ e, (e = .tooDeep → P) ∧ R env s = .error e

namespace Fails

variable {P Q : Prop}

/-- A refusal that is seen is one, unless the nesting is too deep. -/
theorem of_eq {e : SyntaxError} (h : R env s = .error e) (he : e ≠ .tooDeep) : Fails P R env s :=
  ⟨e, fun hdeep => absurd hdeep he, h⟩

/-- What fails gives an error. -/
theorem error (h : Fails P R env s) : ∃ e, R env s = .error e := by
  obtain ⟨e, -, h⟩ := h
  exact ⟨e, h⟩

/-- What fails for one reason fails for every wider one. -/
theorem mono (h : Fails P R env s) (hPQ : P → Q) : Fails Q R env s := by
  obtain ⟨e, he, h⟩ := h
  exact ⟨e, hPQ ∘ he, h⟩

/-- A rule whose first part fails fails. -/
theorem bind (h : Fails P R env s) : Fails P (R >>= f) env s := by
  obtain ⟨e, he, h⟩ := h
  exact ⟨e, he, bind_error h⟩

/-- A rule whose second part fails fails. -/
theorem after (hR : R env s = .ok (a, s')) (h : Fails P (f a) env s') :
    Fails P (R >>= f) env s := by
  obtain ⟨e, he, h⟩ := h
  exact ⟨e, he, bind_eq hR h⟩

/-- An attempt reads nothing, or fails because of the nesting. -/
theorem attempt (h : Fails P R env s) :
    Grammar.attempt R env s = .ok (none, s) ∨ Grammar.attempt R env s = .error .tooDeep ∧ P := by
  obtain ⟨e, he, h⟩ := h
  unfold Grammar.attempt
  rw [h]
  cases e with
  | tooDeep => exact .inr ⟨rfl, he rfl⟩
  | _ => exact .inl rfl

end Fails

/-! ## Types -/

/-- What the keyword `k` of a type is read as in front of `s`, where nothing belongs to it. -/
inductive TypeRead (k : String) (s : List Item) : Outcome (Option Bracketed) → Prop
  | builtIn (sql : String) : TypeRead k s (.ok (some (.builtIn sql, false), s))
  | interval (h : k = "INTERVAL") : TypeRead k s (.ok (some (⟨k, .interval⟩, false), s))
  | other : TypeRead k s (.ok (none, s))
  | fails {e : SyntaxError} (h : e ≠ .tooDeep) : TypeRead k s (.error e)

/-- A part that takes nothing may stand before the reading of a type. -/
theorem TypeRead.bind {f : α → Rule (Option Bracketed)} (hR : R env s = .ok (a, s))
    (h : TypeRead k s (f a env s)) : TypeRead k s ((R >>= f) env s) := by
  rwa [bind_eq hR rfl]

/-- Before a closing parenthesis a word is a type by itself or none. -/
theorem typeOfKeyword_close (env : Nested) (inner : Rule Bracketed) (k : String)
    (place : Option Text.Position) :
    TypeRead k (.ofLexeme b ⟨.symbol ")", p, q⟩ :: s)
      (typeOfKeyword inner k place env (.ofLexeme b ⟨.symbol ")", p, q⟩ :: s)) := by
  obtain ⟨d, _, _, _, _⟩ := env
  unfold typeOfKeyword
  refine .bind rfl ?_
  split
  · exact .builtIn _
  generalize DataType.mixedCaseNames.lookup k = written
  cases written with
  | some sql => exact .builtIn sql
  | none =>
    dsimp only
    split
    · exact .bind rfl (.bind rfl (.builtIn _))
    iterate 3
      split
      · exact .bind rfl (.builtIn _)
    split
    · exact .bind rfl (.builtIn _)
    iterate 2 exact .bind rfl (.bind rfl (.bind rfl (.builtIn _)))
    iterate 3 exact .bind rfl (.bind rfl (.builtIn _))
    iterate 2 exact .bind rfl (.builtIn _)
    iterate 2 exact .fails (by simp)
    · exact .interval rfl
    iterate 4 exact .fails (by simp)
    · split
      · exact .builtIn _
      · exact .fails (by simp)
    · split
      · exact .bind rfl (.builtIn _)
      · exact .other
    · split
      · exact .other
      · split
        all_goals first | exact .other | exact .fails (by simp)

/-- Before a closing parenthesis a word is a type by its name. -/
theorem namedType_word (env : Nested) (hi : i.token = .word text quote) :
    ∃ sql, namedType env (i :: .ofLexeme b ⟨.symbol ")", p, q⟩ :: s) =
      .ok (⟨sql, .named⟩, .ofLexeme b ⟨.symbol ")", p, q⟩ :: s) := by
  obtain ⟨t, keyword, place, blank⟩ := i
  obtain rfl : t = .word text quote := hi
  obtain ⟨d, _, _, _, _⟩ := env
  cases s <;> cases d <;> exact ⟨_, rfl⟩

/-- What a word with the keyword `k` is read as by a rule for types in front of `s`. -/
inductive WordTyped (k : String) (s : List Item) : Outcome (DataType × Bool) → Prop
  | typed (t : DataType) (h : t.sort = .interval → k = "INTERVAL") :
    WordTyped k s (.ok ((t, false), s))
  | fails {e : SyntaxError} (h : e ≠ .tooDeep) : WordTyped k s (.error e)

/-- A part that is read may stand before the reading of a type. -/
theorem WordTyped.bind {f : α → Rule Bracketed} (hR : R env s = .ok (a, s'))
    (h : WordTyped k u (f a env s')) : WordTyped k u ((R >>= f) env s) := by
  rwa [bind_eq hR rfl]

/-- A word that is refused is no type. -/
theorem WordTyped.of_fails {R : Rule Bracketed} (h : Fails False R env s) :
    WordTyped k u (R env s) := by
  obtain ⟨e, he, h⟩ := h
  rw [h]
  exact .fails he

/-- Before a closing parenthesis a word is the type its keyword says. -/
theorem bracketedType_word (env : Nested) (fuel : Nat) (hi : i.token = .word text quote) :
    WordTyped i.keyword (.ofLexeme b ⟨.symbol ")", p, q⟩ :: s)
      (bracketedType (fuel + 1) env (i :: .ofLexeme b ⟨.symbol ")", p, q⟩ :: s)) := by
  obtain ⟨sql, hnamed⟩ := namedType_word env (b := b) (p := p) (q := q) (s := s) hi
  obtain ⟨t, keyword, place, blank⟩ := i
  obtain rfl : t = .word text quote := hi
  have hread := typeOfKeyword_close env (b := b) (p := p) (q := q) (s := s)
    (bracketedType fuel) keyword place
  obtain ⟨d, _, _, _, _⟩ := env
  unfold bracketedType
  refine .bind rfl (.bind rfl (.bind rfl ?_))
  split
  · exact .bind rfl (.bind rfl (.bind hnamed (.bind rfl (.bind rfl (.typed _ nofun)))))
  · generalize hknown : typeOfKeyword (bracketedType fuel) keyword place _ _ = known at hread
    cases hread with
    | builtIn sql => exact .bind hknown (.bind rfl (.bind rfl (.typed _ nofun)))
    | interval h => exact .bind hknown (.bind rfl (.bind rfl (.typed _ fun _ => h)))
    | other =>
      exact .bind hknown (.bind rfl (.bind hnamed (.bind rfl (.bind rfl (.typed _ nofun)))))
    | fails he => exact .of_fails (.bind ⟨_, he, hknown⟩)

/-- A word that stands alone is the name of a type, or a type by its keyword. -/
theorem dataType_word (env : Nested) (hi : i.token = .word text quote) :
    Fails False dataType env (i :: .ofLexeme b ⟨.symbol ")", p, q⟩ :: s) ∨
      ∃ t, dataType env (i :: .ofLexeme b ⟨.symbol ")", p, q⟩ :: s) =
          .ok (t, .ofLexeme b ⟨.symbol ")", p, q⟩ :: s) ∧
        (t.sort = .interval → i.keyword = "INTERVAL") := by
  unfold dataType
  have hread := bracketedType_word env
    (i :: .ofLexeme b ⟨.symbol ")", p, q⟩ :: s : List Item).length (b := b) (p := p) (q := q)
    (s := s) hi
  generalize hfound : bracketedType _ _ _ = found at hread
  cases hread with
  | typed t h => exact .inr ⟨t, bind_eq rfl (bind_eq hfound rfl), h⟩
  | fails he => exact .inl (.after rfl (.bind ⟨_, he, hfound⟩))

/-- In front of a closing parenthesis no string belongs to a type. -/
theorem typedString_word {P : Prop} {interval : Rule Expr} (hi : i.token = .word text quote)
    (hinterval : Fails P interval env (.ofLexeme b ⟨.symbol ")", p, q⟩ :: s)) :
    Fails (P ∧ i.keyword = "INTERVAL") (typedString interval) env
      (i :: .ofLexeme b ⟨.symbol ")", p, q⟩ :: s) := by
  unfold typedString
  rcases dataType_word env (s := s) (b := b) (p := p) (q := q) hi with h | ⟨t, ht, hsort⟩
  · exact h.bind.mono False.elim
  · refine .after ht ?_
    split
    · rename_i hs
      exact hinterval.mono fun h => ⟨h, hsort hs⟩
    · exact .of_eq rfl (by simp)
    · exact .bind (.of_eq rfl (by simp))

/-! ## Constructs -/

/-- Keywords of constants. -/
def constantWords : List String := ["TRUE", "FALSE", "NULL"]

/-- Keywords of functions that need no parentheses. -/
def functionWords (d : Dialect) : List String :=
  ["CURRENT_TIMESTAMP", "CURRENT_TIME", "CURRENT_DATE", "LOCALTIME", "LOCALTIMESTAMP"] ++
    if d == .postgres || d == .ansi then
      ["CURRENT_CATALOG", "CURRENT_USER", "SESSION_USER", "USER"]
    else []

/-- Keywords of constructs that are no names either. -/
def refusedWords (d : Dialect) : List String :=
  "EXISTS" :: (if d == .snowflake then [] else ["INTERVAL"]) ++
    if d == .ansi || d == .bigquery then ["STRUCT"] else []

/-- Keywords of constructs that are names where the construct is not complete. -/
def constructWords : List String := [
  "CASE", "CONVERT", "TRY_CONVERT", "CAST", "TRY_CAST", "SAFE_CAST", "EXTRACT", "CEIL", "FLOOR",
  "POSITION", "SUBSTRING", "OVERLAY", "TRIM", "ARRAY", "NOT", "MATCH", "MAP",
  "PRIOR"]

/-- A keyword of neither kind, and no keyword at all, is a name. -/
def IsNameWord (d : Dialect) (k : String) : Prop := k ∉ functionWords d ∧ k ∉ refusedWords d

instance (d : Dialect) (k : String) : Decidable (IsNameWord d k) :=
  inferInstanceAs (Decidable (_ ∧ _))

/-- Whether the word of a construct that fails is no name. -/
def isReserved (d : Dialect) (k : String) : Bool :=
  Keyword.notName.contains k && !(d == .snowflake && k == "INTERVAL")

/-- What the construct that the word `w` with the keyword `k` introduces is read as in front of
`s`, where nothing belongs to it. -/
inductive ConstructRead (d : Dialect) (k : String) (w : Ident) (s : List Item) :
    Outcome (Option Expr) → Prop
  | constant (h : k ∈ constantWords) (o : Outcome (Option Expr)) : ConstructRead d k w s o
  | function (h : k ∈ functionWords d) :
      ConstructRead d k w s (.ok (some (.phrase [.words w.sql]), s))
  | refused (h : k ∈ refusedWords d) (hr : isReserved d k = true) (e : SyntaxError) :
      ConstructRead d k w s (.error e)
  | incomplete (h : IsNameWord d k) (hr : isReserved d k = false) (e : SyntaxError) :
      ConstructRead d k w s (.error e)
  | other (h : IsNameWord d k) : ConstructRead d k w s (.ok (none, s))

/-- The words of constructs may be names, and none of them is reserved. -/
theorem isNameWord_construct (h : k ∈ constructWords) :
    IsNameWord d k ∧ isReserved d k = false := by
  have hall : ∀ k ∈ constructWords, IsNameWord d k ∧ isReserved d k = false := by
    cases d <;> decide
  exact hall k h

/-- A construct that is refused is no operand. -/
theorem ConstructRead.fails (h : k ∈ constructWords) {o : Outcome (Option Expr)}
    (ho : ∃ e, o = .error e) : ConstructRead d k w s o := by
  obtain ⟨e, rfl⟩ := ho
  exact .incomplete (isNameWord_construct h).1 (isNameWord_construct h).2 e

/-- A construct that is not there leaves its word to be read as a name. -/
theorem ConstructRead.none (h : k ∈ constructWords) : ConstructRead d k w s (.ok (none, s)) :=
  .other (isNameWord_construct h).1

/-- In front of a closing parenthesis no construct is complete but those without operands. -/
theorem construct?_close (place : Option Text.Position) {interval : Rule Expr}
    (hexpr : ∀ n, ∃ e, env.expr n (.ofLexeme b ⟨.symbol ")", p, q⟩ :: s) = .error e)
    (hinterval : ∃ e, interval env (.ofLexeme b ⟨.symbol ")", p, q⟩ :: s) = .error e) :
    ConstructRead env.dialect k w (.ofLexeme b ⟨.symbol ")", p, q⟩ :: s)
      (construct? interval k w place env (.ofLexeme b ⟨.symbol ")", p, q⟩ :: s)) := by
  obtain ⟨d, relating, _, _, _⟩ := env
  obtain ⟨e, he⟩ := hexpr 0
  obtain ⟨e', he'⟩ := hexpr (Tier.not.precedence d)
  obtain ⟨e₂, he₂⟩ := hexpr (Tier.plus.precedence d)
  obtain ⟨e'', he''⟩ := hinterval
  dsimp only at he he' he₂ ⊢
  unfold construct?
  rw [bind_eq (R := dialect) rfl rfl]
  split
  · exact .constant (by decide) _
  · exact .constant (by decide) _
  · exact .constant (by decide) _
  -- the users, in two dialects
  iterate 4
    split
    · exact .function (by cases d <;> simp_all [functionWords])
    · exact .other (by cases d <;> simp_all [functionWords, refusedWords, IsNameWord])
  iterate 5 exact .function (by simp [functionWords])
  case h_13 => exact .fails (by decide) ⟨e, bind_error (bind_eq rfl (bind_error he))⟩
  case h_14 => exact .fails (by decide) ⟨_, rfl⟩
  case h_15 =>
    split
    · exact .fails (by decide) ⟨_, rfl⟩
    · exact .none (by decide)
  case h_19 => exact .refused (by simp [refusedWords]) (by simp [isReserved, Keyword.notName]) _
  case h_23 => exact .none (by decide)
  case h_27 =>
    rw [bind_error he'']
    cases d with
    | snowflake => exact .incomplete (by decide) (by decide) _
    | _ => exact .refused (by decide) (by decide) _
  case h_28 => exact .none (by decide)
  case h_29 => exact .fails (by decide) ⟨e', bind_error (bind_eq rfl (bind_error he'))⟩
  case h_30 =>
    split
    · exact .fails (by decide) ⟨_, rfl⟩
    · exact .none (by decide)
  case h_31 =>
    split
    · exact .refused (by cases d <;> simp_all [refusedWords]) (by simp [isReserved, Keyword.notName]) _
    · exact .other (by cases d <;> simp_all [functionWords, refusedWords, IsNameWord])
  case h_32 => cases d <;> exact .none (by decide)
  case h_33 =>
    cases relating with
    | false => exact .none (by decide)
    | true => exact .fails (by decide) ⟨e₂, bind_eq rfl (bind_error (bind_eq rfl he₂))⟩
  case h_34 => exact .other (by cases d <;> simp_all [functionWords, refusedWords, IsNameWord])
  -- the others lack their parenthesis
  all_goals exact .fails (by decide) ⟨_, rfl⟩

/-! ## Operands -/

/-- What a word with the keyword `k` is read as by the rule for operands in front of `s`, where
nothing belongs to it. -/
inductive WordRead (d : Dialect) (k : String) (w : Ident) (s : List Item) : Outcome Expr → Prop
  | constant (h : k ∈ constantWords) (o : Outcome Expr) : WordRead d k w s o
  | function (h : k ∈ functionWords d) : WordRead d k w s (.ok (.phrase [.words w.sql], s))
  | refused (h : k ∈ refusedWords d) (e : SyntaxError) : WordRead d k w s (.error e)
  | name (h : IsNameWord d k) : WordRead d k w s (.ok (.identifier w, s))

/-- No word that calls a function by itself is refused. -/
theorem notMem_refusedWords (h : k ∈ functionWords d) : k ∉ refusedWords d := by
  have hall : ∀ k ∈ functionWords d, k ∉ refusedWords d := by cases d <;> decide
  exact hall k h

namespace WordRead

variable {o : Outcome Expr}

/-- A word that calls a function by itself is printed as it stands. -/
theorem eq_function (h : WordRead d k w s o) (hconstant : k ∉ constantWords)
    (hk : k ∈ functionWords d) : o = .ok (.phrase [.words w.sql], s) := by
  cases h with
  | constant hc _ => exact absurd hc hconstant
  | function _ => rfl
  | refused hr _ => exact absurd hr (notMem_refusedWords hk)
  | name hname => exact absurd hk hname.1

/-- A refused word is an error. -/
theorem eq_error (h : WordRead d k w s o) (hconstant : k ∉ constantWords)
    (hk : k ∈ refusedWords d) : ∃ e, o = .error e := by
  cases h with
  | constant hc _ => exact absurd hc hconstant
  | function hf => exact absurd hk (notMem_refusedWords hf)
  | refused _ e => exact ⟨e, rfl⟩
  | name hname => exact absurd hk hname.2

/-- Any other word is a name. -/
theorem eq_name (h : WordRead d k w s o) (hconstant : k ∉ constantWords) (hk : IsNameWord d k) :
    o = .ok (.identifier w, s) := by
  cases h with
  | constant hc _ => exact absurd hc hconstant
  | function hf => exact absurd hf hk.1
  | refused hr _ => exact absurd hr hk.2
  | name _ => rfl

end WordRead

/-- The outcome of a rule that succeeds is what it gives. -/
theorem outcome_ok (h : R env s = .ok (a, s')) : outcome R env s = .ok (.ok a, s') := by
  rw [outcome, h]

/-- The outcome of a rule that fails is its error, and nothing is taken. -/
theorem outcome_error {e : SyntaxError} (h : R env s = .error e) :
    outcome R env s = .ok (.error e, s) := by
  rw [outcome, h]

/-- Before a closing parenthesis a word is an operand as its kind says. -/
theorem wordOperand_close (place : Option Text.Position) {interval : Rule Expr}
    (hexpr : ∀ n, ∃ e, env.expr n (.ofLexeme b ⟨.symbol ")", p, q⟩ :: s) = .error e)
    (hinterval : ∃ e, interval env (.ofLexeme b ⟨.symbol ")", p, q⟩ :: s) = .error e) :
    WordRead env.dialect k w (.ofLexeme b ⟨.symbol ")", p, q⟩ :: s)
      (wordOperand interval k w place env (.ofLexeme b ⟨.symbol ")", p, q⟩ :: s)) := by
  have hread := construct?_close place (k := k) (w := w) hexpr hinterval
  have hname : nameOrCall interval w env (.ofLexeme b ⟨.symbol ")", p, q⟩ :: s) =
      .ok (.identifier w, .ofLexeme b ⟨.symbol ")", p, q⟩ :: s) := rfl
  generalize hfound : construct? interval k w place env (.ofLexeme b ⟨.symbol ")", p, q⟩ :: s) =
    found at hread
  unfold wordOperand
  cases hread with
  | constant h o => exact .constant h _
  | function h =>
    rw [bind_eq (outcome_ok hfound) rfl]
    exact .function h
  | refused h hr e =>
    unfold isReserved at hr
    rw [bind_eq (outcome_error hfound) rfl]
    dsimp only
    rw [bind_eq (R := dialect) rfl rfl, if_pos hr]
    exact .refused h e
  | incomplete h hr e =>
    unfold isReserved at hr
    rw [bind_eq (outcome_error hfound) rfl]
    dsimp only
    rw [bind_eq (R := dialect) rfl rfl, if_neg (ne_true_of_eq_false hr),
      bind_eq (outcome_ok hname) rfl]
    exact .name h
  | other h =>
    rw [bind_eq (outcome_ok hfound) rfl]
    dsimp only
    rw [bind_eq hname rfl]
    exact .name h

/-- Nothing is read as an operand that starts with a closing parenthesis. -/
theorem fails_operandUpTo_close (env : Nested) (fuel : Nat) :
    Fails False (operandUpTo (fuel + 1)) env (.ofLexeme b ⟨.symbol ")", p, q⟩ :: s) := by
  obtain ⟨d, _, _, _, _⟩ := env
  cases d <;> exact .of_eq rfl nofun

/-- No expression starts with a closing parenthesis. -/
theorem expr_close (d : Dialect) (n precedence : Nat) :
    ∃ e, (nested d n).expr precedence (.ofLexeme b ⟨.symbol ")", p, q⟩ :: s) = .error e := by
  cases n with
  | zero => exact ⟨_, rfl⟩
  | succ n =>
    have hfails := fails_operandUpTo_close (nested d n) (s.length + 1) (b := b) (p := p) (q := q)
      (s := s)
    obtain ⟨e, he⟩ := hfails.error
    exact ⟨e, bind_error (bind_eq rfl he)⟩

/-- The rules of a dialect know it at every depth. -/
@[simp] theorem dialect_nested (d : Dialect) (n : Nat) : (nested d n).dialect = d := by
  cases n <;> rfl

/-- Before a closing parenthesis no interval is read, because of the nesting in BigQuery at most. -/
theorem fails_intervalOf_close (n fuel : Nat) :
    Fails (d = .bigquery) (intervalOf (operandUpTo (fuel + 1))) (nested d n)
      (.ofLexeme b ⟨.symbol ")", p, q⟩ :: s) := by
  unfold intervalOf
  refine .after rfl ?_
  rw [dialect_nested]
  split
  · rename_i hd
    obtain ⟨e, he⟩ := expr_close (b := b) (p := p) (q := q) (s := s) d n 0
    exact .bind ⟨e, fun _ => by simpa using hd, he⟩
  · exact .bind ((fails_operandUpTo_close _ _).mono False.elim)

/-- **What a word is read as** in front of a closing parenthesis. -/
theorem operand_word {n : Nat} (hi : i.token = .word text quote) :
    WordRead d i.keyword ⟨text, quote⟩ (.ofLexeme b ⟨.symbol ")", p, q⟩ :: s)
      (operand (nested d n) (i :: .ofLexeme b ⟨.symbol ")", p, q⟩ :: s)) := by
  have hinterval := fails_intervalOf_close n (i :: s).length (d := d) (b := b) (p := p) (q := q)
    (s := s)
  have hword := wordOperand_close i.place (w := ⟨text, quote⟩) (k := i.keyword)
    (fun m => expr_close d n m) hinterval.error
  rcases (typedString_word hi hinterval).attempt with hnone | ⟨hdeep, hd, hk⟩
  · obtain ⟨t, keyword, place, blank⟩ := i
    obtain rfl : t = .word text quote := hi
    have hoperand : operand (nested d n) (⟨.word text quote, keyword, place, blank⟩ ::
        .ofLexeme b ⟨.symbol ")", p, q⟩ :: s) = wordOperand _ keyword ⟨text, quote⟩ place (nested d n)
          (.ofLexeme b ⟨.symbol ")", p, q⟩ :: s) :=
      bind_eq rfl (bind_eq hnone rfl)
    rw [dialect_nested] at hword
    rw [hoperand]
    exact hword
  · have herror : operand (nested d n) (i :: .ofLexeme b ⟨.symbol ")", p, q⟩ :: s) =
        .error .tooDeep :=
      bind_eq rfl (bind_error hdeep)
    rw [herror, hk, hd]
    exact .refused (by decide) _

/-- A constant of one token is read as that constant. -/
theorem operand_constant {n : Nat} {l : Literal} (hi : constantOperand? d i.token = some l) :
    operand (nested d n) (i :: .ofLexeme b ⟨.symbol ")", p, q⟩ :: s) =
      .ok (.literal l, .ofLexeme b ⟨.symbol ")", p, q⟩ :: s) := by
  obtain ⟨t, keyword, place, blank⟩ := i
  have hd := dialect_nested d n
  generalize nested d n = env at hd ⊢
  obtain ⟨d', relating, f, g, f'⟩ := env
  obtain rfl : d' = d := hd
  have hnone : ∀ interval, attempt (typedString interval) ⟨d', relating, f, g, f'⟩
      (⟨t, keyword, place, blank⟩ :: .ofLexeme b ⟨.symbol ")", p, q⟩ :: s) =
        .ok (none, ⟨t, keyword, place, blank⟩ :: .ofLexeme b ⟨.symbol ")", p, q⟩ :: s) := by
    intro interval
    cases t with
    | word => cases hi
    | _ => rfl
  cases t with
  | word => cases hi
  | symbol => cases hi
  | _ =>
    refine bind_eq rfl (bind_eq (hnone _) (bind_eq rfl (bind_eq rfl ?_)))
    simp only [List.getD_cons_zero, hi]
    rfl

/-- A constant of one word is read as that constant. -/
theorem operand_constantWord {n : Nat} {l : Literal} {b' : Option Lexeme} {p' q' : Text.Position}
    (h : l = .null ∨ ∃ v, l = .boolean v) :
    operand (nested d n)
        (.ofLexeme b' ⟨.word l.sql none, p', q'⟩ :: .ofLexeme b ⟨.symbol ")", p, q⟩ :: s) =
      .ok (.literal l, .ofLexeme b ⟨.symbol ")", p, q⟩ :: s) := by
  have hd := dialect_nested d n
  generalize nested d n = env at hd ⊢
  obtain ⟨d', _, _, _, _⟩ := env
  obtain rfl : d' = d := hd
  rcases h with rfl | ⟨v, rfl⟩
  · cases s <;> cases d' <;> rfl
  · cases v <;> cases s <;> cases d' <;> rfl

/-! ## One token as a condition -/

section Single

variable {t : Token} {inner : Expr}

/-- In front of a closing parenthesis, the text is one token. -/
def IsToken (d : Dialect) (text : String) (t : Token) : Prop :=
  t.isBlank = false ∧ Lexer.Reads d text.toList [t] [')']

/-- A token in parentheses is read as itself between them. -/
theorem IsToken.reads (h : IsToken d text t) :
    Lexer.Reads d ("(" ++ text ++ ")").toList [.symbol "(", t, .symbol ")"] [] := by
  simp only [String.toList_append, List.append_assoc]
  exact Lexer.reads_open.append (h.2.append Lexer.reads_close)

/-- A token in parentheses is three items. -/
theorem IsToken.items (h : IsToken d text t) {u : List Item}
    (hu : Item.Spells [.symbol "(", t, .symbol ")"] u) :
    ∃ b₁ b₂ b₃ p₁ p₂ p₃ q₁ q₂ q₃, u = [.ofLexeme b₁ ⟨.symbol "(", p₁, q₁⟩,
      .ofLexeme b₂ ⟨t, p₂, q₂⟩, .ofLexeme b₃ ⟨.symbol ")", p₃, q₃⟩] := by
  obtain ⟨b₁, p₁, q₁, u₁, rfl, h₁⟩ := hu.item rfl
  obtain ⟨b₂, p₂, q₂, u₂, rfl, h₂⟩ := h₁.item h.1
  obtain ⟨b₃, p₃, q₃, u₃, rfl, h₃⟩ := h₂.item rfl
  obtain rfl := Item.Spells.nil_iff.1 h₃
  exact ⟨b₁, b₂, b₃, p₁, p₂, p₃, q₁, q₂, q₃, rfl⟩

/-- The tokens between the parentheses, and behind them. -/
theorem IsToken.conditionItems (h : IsToken d text t) : ∃ b b' p p' q q',
    Sql.conditionItems d text = [.ofLexeme b ⟨t, p, q⟩, .ofLexeme b' ⟨.symbol ")", p', q'⟩] := by
  have hreads : Lexer.Reads d (conditionSql text).toList
      (whereTokens ++ [.symbol "(", t, .symbol ")"]) [] := by
    rw [conditionSql_eq, String.toList_append]
    exact Lexer.reads_where.append h.reads
  obtain ⟨ls, hls, hlexemes⟩ := hreads.lexemes
  have hspells : Item.Spells (whereTokens ++ [.symbol "(", t, .symbol ")"])
      (Item.ofLexemes none ls) := ⟨none, ls, hls, rfl⟩
  obtain ⟨u, v, huv, hu, hv⟩ := hspells.split
  obtain ⟨_, _, _, _, _, _, _, _, _, _, _, _, _, _, _, rfl⟩ := beforeCondition hu
  obtain ⟨_, b, b', _, p, p', _, q, q', rfl⟩ := h.items hv
  refine ⟨b, b', p, p', q, q', ?_⟩
  rw [Sql.conditionItems, hlexemes]
  dsimp only
  rw [huv]
  rfl

/-- What does not start a query is not taken for one. -/
theorem peekQuery_of_startsQuery (h : startsQuery [i] = false) :
    peekQuery env (i :: s) = .ok (false, i :: s) :=
  bind_eq rfl (congrArg (fun found => Except.ok (found, i :: s)) h)

/-- **A token that is read as an operand is a condition in parentheses.** -/
theorem parseCondition_of_operand (h : IsToken d text t)
    (hquery : ∀ b p q, startsQuery [.ofLexeme b ⟨t, p, q⟩] = false)
    (hoperand : ∀ b b' p p' q q',
      operand (nested d 46) [.ofLexeme b ⟨t, p, q⟩, .ofLexeme b' ⟨.symbol ")", p', q'⟩] =
        .ok (inner, [.ofLexeme b' ⟨.symbol ")", p', q'⟩])) :
    parseCondition d text = .ok (.nested inner) := by
  obtain ⟨query, found, hparse, hfound⟩ := parseSelect_where h.reads fun s hs => by
    obtain ⟨b₁, b₂, b₃, p₁, p₂, p₃, q₁, q₂, q₃, rfl⟩ := h.items hs
    have hinner : (nested d 47).expr 0
        [.ofLexeme b₂ ⟨t, p₂, q₂⟩, .ofLexeme b₃ ⟨.symbol ")", p₃, q₃⟩] =
          .ok (inner, [.ofLexeme b₃ ⟨.symbol ")", p₃, q₃⟩]) :=
      expression_ends (hoperand b₂ b₃ p₂ p₃ q₂ q₃) (.close b₃ p₃ q₃ []) (Nat.le_refl 0)
    have hnested : operand (nested d 47) [.ofLexeme b₁ ⟨.symbol "(", p₁, q₁⟩,
        .ofLexeme b₂ ⟨t, p₂, q₂⟩, .ofLexeme b₃ ⟨.symbol ")", p₃, q₃⟩] = .ok (.nested inner, []) :=
      operand_parenthesized (peekQuery_of_startsQuery (hquery b₂ p₂ q₂)) rfl hinner
    exact ⟨by simp, expression_ends hnested .nothing (Nat.le_refl 0)⟩
  rw [parseCondition, conditionSql_eq, hparse]
  simp [hfound]

/-- Behind a word that starts a query, counting finds the parenthesis. -/
theorem closing_of_startsQuery {l : Lexeme} {b' : Option Lexeme} {p' q' : Text.Position}
    (h : startsQuery (.ofLexeme b l :: s) = true) :
    closing 0 [.ofLexeme b l, .ofLexeme b' ⟨.symbol ")", p', q'⟩] =
      some (.ofLexeme b' ⟨.symbol ")", p', q'⟩, []) := by
  have hk : (Item.ofLexeme b l).keyword = "SELECT" ∨ (Item.ofLexeme b l).keyword = "WITH" := by
    simpa [startsQuery] using h
  have hword : (Item.ofLexeme b l).isOrderly = true := by
    obtain ⟨t, p, q⟩ := l
    cases t with
    | word => rcases hk with hk | hk <;> (rw [Item.isOrderly, hk]; rfl)
    | _ => simp [Item.ofLexeme] at hk
  have hplain := Item.isParenthesis_of_keyword hword (by rcases hk with hk | hk <;> simp [hk])
  rw [Item.isParenthesis, Bool.or_eq_false_iff] at hplain
  have hclose : (Item.ofLexeme b' ⟨.symbol ")", p', q'⟩).isOrderly = true := rfl
  simp only [closing, hword, hplain, hclose]
  rfl

/-- A token that starts a query, or that is no operand, is no condition in parentheses. -/
theorem parseCondition_ne_nested (h : IsToken d text t)
    (hoperand : ∀ b b' p p' q q', startsQuery [.ofLexeme b ⟨t, p, q⟩] = false →
      ∃ e, operand (nested d 46) [.ofLexeme b ⟨t, p, q⟩, .ofLexeme b' ⟨.symbol ")", p', q'⟩] =
        .error e) : parseCondition d text ≠ .ok (.nested inner) := by
  intro hparse
  obtain ⟨e₀, c, rest, hopens, hrest⟩ := opens_of_parseCondition hparse
  obtain ⟨b, b', p, p', q, q', hitems⟩ := h.conditionItems
  rw [hitems] at hopens
  have hexpr : startsQuery [.ofLexeme b ⟨t, p, q⟩] = false → ∃ e, (nested d 47).expr 0
      [.ofLexeme b ⟨t, p, q⟩, .ofLexeme b' ⟨.symbol ")", p', q'⟩] = .error e := by
    intro hs
    obtain ⟨e, he⟩ := hoperand b b' p p' q q' hs
    exact ⟨e, bind_error he⟩
  cases hopens with
  | condition inner c rest hc hs hread =>
    obtain ⟨e, he⟩ := hexpr hs
    have hok : (nested d 47).expr 0 _ = .ok (inner, c :: rest) := hread
    rw [he] at hok
    cases hok
  | several es c rest hc hs hes hread =>
    obtain ⟨e, he⟩ := hexpr hs
    have herror : commaSeparated expr (nested d 47) _ = .error e := bind_error he
    rw [herror] at hread
    cases hread
  | query found c rest hc hs hread =>
    obtain ⟨rfl, rfl⟩ := Prod.mk.inj (Opens.closing_eq (nested_paired d 47 false)
      (.query found c rest hc hs hread) (closing_of_startsQuery hs))
    cases hrest rfl

/-- A word starts a query exactly if it is `SELECT` or `WITH`. -/
theorem startsQuery_iff : startsQuery [i] = true ↔ i.keyword ∈ ["SELECT", "WITH"] := by
  simp [startsQuery]

/-- **A word in parentheses is a column** unless its keyword starts a query, or is that of a
function or of a construct that is no name. -/
theorem parseCondition_word (h : IsToken d text (.word w.text w.quote))
    (hk : ∀ b p q, (Item.ofLexeme b ⟨.word w.text w.quote, p, q⟩).keyword = k)
    (hconstant : k ∉ constantWords) :
    parseCondition d text = .ok (.nested (.identifier w)) ↔
      IsNameWord d k ∧ k ∉ ["SELECT", "WITH"] := by
  have hread : ∀ b b' p p' q q', WordRead d k w [.ofLexeme b' ⟨.symbol ")", p', q'⟩]
      (operand (nested d 46) [.ofLexeme b ⟨.word w.text w.quote, p, q⟩,
        .ofLexeme b' ⟨.symbol ")", p', q'⟩]) := by
    intro b b' p p' q q'
    have hword := operand_word (d := d) (n := 46) (b := b') (p := p') (q := q') (s := [])
      (i := .ofLexeme b ⟨.word w.text w.quote, p, q⟩) rfl
    rwa [hk] at hword
  by_cases hquery : k ∈ ["SELECT", "WITH"]
  · refine iff_of_false (parseCondition_ne_nested h fun b b' p p' q q' hs => ?_) (by simp [hquery])
    rw [Bool.eq_false_iff, ne_eq, startsQuery_iff, hk] at hs
    exact absurd hquery hs
  have hs : ∀ b p q, startsQuery [.ofLexeme b ⟨.word w.text w.quote, p, q⟩] = false := by
    intro b p q
    rw [Bool.eq_false_iff, ne_eq, startsQuery_iff, hk]
    exact hquery
  by_cases hfunction : k ∈ functionWords d
  · have hcall : parseCondition d text = .ok (.nested (.phrase [.words w.sql])) :=
      parseCondition_of_operand h hs fun b b' p p' q q' =>
        (hread b b' p p' q q').eq_function hconstant hfunction
    refine iff_of_false (fun hparse => ?_) fun hname => hname.1.1 hfunction
    cases (hcall.symm.trans hparse)
  by_cases hrefused : k ∈ refusedWords d
  · exact iff_of_false (parseCondition_ne_nested h fun b b' p p' q q' _ =>
        (hread b b' p p' q q').eq_error hconstant hrefused)
      fun hname => hname.1.2 hrefused
  · exact iff_of_true (parseCondition_of_operand h hs fun b b' p p' q q' =>
        (hread b b' p p' q q').eq_name hconstant ⟨hfunction, hrefused⟩)
      ⟨⟨hfunction, hrefused⟩, hquery⟩

end Single

end Grammar
end Sql
end QueryTemplate
