/-
# Operators that group as they are written

An expression of operators is a tree (`Tree`): prefix operators, operators and tests that link
two operands, casts and tests behind one operand, and ranges.  It is written without
parentheses, so how it groups is up to how tight the operators bind.

| part of a tree | has to bind |
| --- | --- |
| what stands behind an operator | tighter than the operator (`Tree.isAbove`) |
| what an operator stands behind | at least as tight, where it is open (`Tree.allows`) |

An operator is open where an operand ends with it: the sign in `- a`, but not the one in
`(- a)`.  A tree for which both hold everywhere is read back (`parseCondition_tree`).
-/

import QueryTemplate.Proofs.Grammar.Terms

namespace QueryTemplate
namespace Sql

open Grammar (Tier)

/-! ## Trees -/

/-- How a text is matched against a pattern. -/
inductive MatchKind where
  | like
  | ilike
  | similar
deriving DecidableEq, Repr

/-- What links two operands. -/
inductive Link where
  | operator (op : BinaryOp)
  | matching (negated : Bool) (kind : MatchKind)
  | zone
deriving DecidableEq, Repr

/-- What stands behind an operand and has no other one. -/
inductive Suffix where
  | cast (type : String)
  | test (words : List String)
deriving DecidableEq, Repr

/-- Operators and their operands.  A leaf is any expression. -/
inductive Tree where
  | leaf (e : Expr)
  | nested (inner : Tree)
  | prefixed (op : PrefixOp) (operand : Tree)
  | linked (left : Tree) (link : Link) (right : Tree)
  | suffixed (operand : Tree) (suffix : Suffix)
  | ranged (operand : Tree) (negated : Bool) (low high : Tree)

/-! ### Written trees -/

/-- Words with blanks around them. -/
def spacedSql (ts : List Token) : String := (ts.map fun t => " " ++ t.text).foldr (· ++ ·) " "

/-- The keywords of a match. -/
def MatchKind.words : MatchKind → List String
  | .like => ["LIKE"]
  | .ilike => ["ILIKE"]
  | .similar => ["SIMILAR", "TO"]

/-- A keyword. -/
def Token.keyword (k : String) : Token := .word k none

/-- The negation in front of a test. -/
def notWords (negated : Bool) : List String := if negated then ["NOT"] else []

/-- The tokens between two operands. -/
def Link.tokens : Link → List Token
  | .operator .and => [.keyword "AND"]
  | .operator .or => [.keyword "OR"]
  | .operator op => [.symbol op.sql]
  | .matching negated kind => (notWords negated ++ kind.words).map .keyword
  | .zone => ["AT", "TIME", "ZONE"].map .keyword

/-- The expression that links two others. -/
def Link.join (l r : Expr) : Link → Expr
  | .operator op => .binary l op r
  | .matching negated kind =>
    .phrase [.operand l, .words (spacedSql (Link.matching negated kind).tokens), .operand r,
      .words ""]
  | .zone => .phrase [.operand l, .words (spacedSql Link.zone.tokens), .operand r]

/-- The written suffix. -/
def Suffix.sql : Suffix → String
  | .cast type => "::" ++ type
  | .test words => " IS " ++ String.intercalate " " words

/-- The tokens before the lower end of a range. -/
def rangeTokens (negated : Bool) : List Token := (notWords negated ++ ["BETWEEN"]).map .keyword

namespace Tree

/-- The expression that a tree is. -/
def expr : Tree → Expr
  | leaf e => e
  | nested t => .nested t.expr
  | prefixed op t => .unary op t.expr
  | linked l link r => link.join l.expr r.expr
  | suffixed t suffix => .phrase [.operand t.expr, .words suffix.sql]
  | ranged t negated low high =>
    .phrase [.operand t.expr, .words (spacedSql (rangeTokens negated)), .operand low.expr,
      .words " AND ", .operand high.expr]

/-- The leaves, in order. -/
def leaves : Tree → List Expr
  | leaf e => [e]
  | nested t | prefixed _ t | suffixed t _ => t.leaves
  | linked l _ r => l.leaves ++ r.leaves
  | ranged t _ low high => t.leaves ++ low.leaves ++ high.leaves

end Tree

/-- Joined expressions are printed with the tokens of the link between them. -/
theorem Link.sql_join (l r : Expr) (link : Link) :
    (link.join l r).sql = l.sql ++ spacedSql link.tokens ++ r.sql := by
  cases link with
  | operator op =>
    cases op <;>
      simp [Link.join, Link.tokens, Expr.sql, BinaryOp.sql, spacedSql, Token.text, Token.keyword,
        String.append_assoc]
  | matching negated kind =>
    simp [Link.join, Expr.sql, Part.allSql, Part.sql, String.append_assoc]
  | zone => simp [Link.join, Expr.sql, Part.allSql, Part.sql, String.append_assoc]

/-! ## How tight operators bind -/

/-- How tight an operator between two operands binds. -/
def BinaryOp.precedence (d : Dialect) : BinaryOp → Nat
  | .and => Tier.and.precedence d
  | .or => Tier.or.precedence d
  | op => Grammar.symbolPrecedence d op.sql

/-- How tight an operator in front of its operand binds. -/
def PrefixOp.precedence (d : Dialect) : PrefixOp → Nat
  | .not => Tier.not.precedence d
  | .plus | .minus => Tier.times.precedence d
  | .other _ => Tier.plus.precedence d

/-- How tight a link binds. -/
def Link.precedence (d : Dialect) : Link → Nat
  | .operator op => op.precedence d
  | .matching .. => Tier.like.precedence d
  | .zone => Tier.timeZone.precedence d

/-- How tight a suffix binds. -/
def Suffix.precedence (d : Dialect) : Suffix → Nat
  | .cast _ => Grammar.symbolPrecedence d "::"
  | .test _ => Tier.is.precedence d

namespace Tree

variable (d : Dialect)

/-- Whether an operator that binds like `k` may follow: no operator that is open at the end
takes it for its operand. -/
def allows (k : Nat) : Tree → Bool
  | leaf _ | nested _ | suffixed _ _ => true
  | prefixed op t => decide (k ≤ op.precedence d) && t.allows k
  | linked _ link r => decide (k ≤ link.precedence d) && r.allows k
  | ranged _ _ _ high => decide (k ≤ Tier.between.precedence d) && high.allows k

/-- Whether the tree is read where only operators tighter than `k` are applied. -/
def isAbove (k : Nat) : Tree → Bool
  | leaf _ | nested _ | prefixed _ _ => true
  | linked l link _ => decide (k < link.precedence d) && l.isAbove k
  | suffixed t suffix => decide (k < suffix.precedence d) && t.isAbove k
  | ranged t _ _ _ => decide (k < Tier.between.precedence d) && t.isAbove k

/-- Whether everything to the right of an operator belongs to it. -/
def rightGrouped : Tree → Bool
  | leaf _ => true
  | nested t => t.rightGrouped
  | prefixed op t => t.rightGrouped && t.isAbove d (op.precedence d)
  | linked l link r => l.rightGrouped && r.rightGrouped && r.isAbove d (link.precedence d)
  | suffixed t _ => t.rightGrouped
  | ranged t _ low high => t.rightGrouped && low.rightGrouped && high.rightGrouped &&
      low.isAbove d (Tier.between.precedence d) && high.isAbove d (Tier.between.precedence d)

/-- Whether everything to the left of an operator belongs to it. -/
def leftGrouped : Tree → Bool
  | leaf _ => true
  | nested t | prefixed _ t => t.leftGrouped
  | linked l link r => l.leftGrouped && r.leftGrouped && l.allows d (link.precedence d)
  | suffixed t suffix => t.leftGrouped && t.allows d (suffix.precedence d)
  | ranged t _ low high => t.leftGrouped && low.leftGrouped && high.leftGrouped &&
      t.allows d (Tier.between.precedence d)

end Tree

/-! ## What is written -/

/-- The spelled operators between two operands. -/
def spelledOperators (d : Dialect) : List BinaryOp :=
  [.plus, .minus, .times, .divide, .equal, .notEqual, .less, .lessEqual, .greater, .greaterEqual,
    .other "%", .other "||", .other "^", .other "|", .other "&"] ++
    if d == .postgres || d == .ansi then [.other "&&"] else []

/-- The types of one word that may follow `::`. -/
def castTypes : List String :=
  Grammar.DataType.plainNames ++ Grammar.DataType.integerNames ++ Grammar.DataType.sizedNames ++
    Grammar.DataType.lengthNames ++ Grammar.DataType.exactNames

/-- Whether a dialect has the link. -/
def Link.isKnown (d : Dialect) : Link → Bool
  | .operator op => [.and, .or].contains op || (spelledOperators d).contains op
  | _ => true

/-- Whether the suffix is a type or a test. -/
def Suffix.isKnown : Suffix → Bool
  | .cast type => castTypes.contains type
  | .test words => Grammar.isTests.contains words

namespace Tree

/-- Whether the tree is made of the operators of a dialect. -/
def isKnown (d : Dialect) : Tree → Bool
  | leaf _ => true
  | nested t => t.isKnown d
  | prefixed op t => [.not, .plus, .minus].contains op && t.isKnown d
  | linked l link r => l.isKnown d && r.isKnown d && link.isKnown d
  | suffixed t suffix => t.isKnown d && suffix.isKnown
  | ranged t _ low high => t.isKnown d && low.isKnown d && high.isKnown d

/-- Whether the written tree starts with a sign. -/
def startsWithSign : Tree → Bool
  | leaf _ | nested _ => false
  | prefixed op _ => op != .not
  | linked t _ _ | suffixed t _ | ranged t _ _ _ => t.startsWithSign

/-- Whether no sign stands directly in front of another one. -/
def signsApart : Tree → Bool
  | leaf _ => true
  | nested t | suffixed t _ => t.signsApart
  | prefixed op t => t.signsApart && (op == .not || !t.startsWithSign)
  | linked l _ r => l.signsApart && r.signsApart
  | ranged t _ low high => t.signsApart && low.signsApart && high.signsApart

/-- How many levels of nesting reading takes; the leaves take `m` levels. -/
def depth (m : Nat) : Tree → Nat
  | leaf _ => m
  | nested t | prefixed _ t => t.depth m + 1
  | linked l _ r => max (l.depth m) (r.depth m + 1)
  | suffixed t _ => t.depth m
  | ranged t _ low high => max (t.depth m) (max (low.depth m) (high.depth m) + 1)

end Tree

namespace Grammar

open Item (Spells)
open Lexer (Reads Stops)

variable {d : Dialect} {ts : List Token} {t : Token} {u v s s' : List Item} {b : Option Lexeme}
  {p q : Text.Position} {rest : List Char} {link : Link} {suffix : Suffix} {op : BinaryOp}
  {e r : Expr} {n k : Nat}

/-! ## Words between blanks -/

/-- Tokens with blanks around them. -/
def spaced : List Token → List Token
  | [] => [.space]
  | t :: ts => .space :: t :: spaced ts

/-- Tokens with blanks around them are read one by one. -/
theorem reads_spaced (h : ∀ t ∈ ts, ∀ rest, Reads d t.text.toList [t] (' ' :: rest)) :
    Reads d (spacedSql ts).toList (spaced ts) rest := by
  induction ts generalizing rest with
  | nil => exact Lexer.reads_blank
  | cons t ts ih =>
    have hsql : (spacedSql (t :: ts)).toList = ' ' :: (t.text.toList ++ (spacedSql ts).toList) := by
      simp [spacedSql]
    obtain ⟨cs, hcs⟩ : ∃ cs, (spacedSql ts).toList = ' ' :: cs := by
      cases ts with
      | nil => exact ⟨[], rfl⟩
      | cons t ts => exact ⟨t.text.toList ++ (spacedSql ts).toList, by simp [spacedSql]⟩
    have ht : Reads d t.text.toList [t] ((spacedSql ts).toList ++ rest) := by
      rw [hcs]
      exact h t (by simp) _
    rw [hsql]
    exact Lexer.reads_blank.append (ht.append (ih fun t ht => h t (by simp [ht])))

/-- Keywords with blanks around them are read as words. -/
theorem reads_keywords {ws : List String} (h : ∀ w ∈ ws, Value.isPlainName w.toList = true) :
    Reads d (spacedSql (ws.map .keyword)).toList (spaced (ws.map .keyword)) rest := by
  refine reads_spaced fun t ht rest => ?_
  obtain ⟨w, hw, rfl⟩ := List.mem_map.1 ht
  exact Lexer.reads_word (h w hw) Lexer.breaks_blank

/-- What spells one symbol is one item. -/
theorem spells_symbol {x : String} (h : Spells (spaced [.symbol x]) u) :
    ∃ b p q, u = [.ofLexeme b ⟨.symbol x, p, q⟩] := by
  obtain ⟨b, p, q, u, rfl, hu⟩ := (h.blank rfl).item rfl
  obtain rfl := Spells.nil_iff.1 (hu.blank rfl)
  exact ⟨b, p, q, rfl⟩

/-- Items that are keywords. -/
inductive Says : List String → List Item → Prop
  | nil : Says [] []
  | cons (w : String) (b : Option Lexeme) (p q : Text.Position) {ws : List String} {u : List Item}
      (h : Says ws u) : Says (w :: ws) (.ofLexeme b ⟨.keyword w, p, q⟩ :: u)

/-- What spells keywords says them. -/
theorem says_of_spells {ws : List String} (h : Spells (spaced (ws.map .keyword)) u) :
    Says ws u := by
  induction ws generalizing u with
  | nil =>
    obtain rfl := Spells.nil_iff.1 (h.blank rfl)
    exact .nil
  | cons w ws ih =>
    obtain ⟨b, p, q, u, rfl, hu⟩ := (h.blank rfl).item rfl
    exact .cons w b p q (ih hu)

/-- Words open no bracket. -/
theorem Says.noBracket {ws : List String} (h : Says ws u) (hs : NoBracket s) :
    NoBracket (u ++ s) := by
  induction h with
  | nil => exact hs
  | cons w b p q h ih => exact noBracket_cons.2 ⟨rfl, ih⟩

/-- Words that begin with a keyword of an operator bind as its tier says. -/
theorem Says.follows {w : String} {tier : Tier} {ws : List String}
    (hw : (w, tier) ∈ linkingWords) (h : Says (w :: ws) u) (hs : NoBracket s) :
    Follows d (u ++ s) (tier.precedence d) := by
  cases h with
  | cons w b p q h => exact follows_word hw (h.noBracket hs)

/-- Words that begin with a negated operator bind as its tier says. -/
theorem Says.follows_not {w : String} {tier : Tier} {ws : List String}
    (hw : (w, tier) ∈ negatableWords) (h : Says ("NOT" :: w :: ws) u) (hs : NoBracket s) :
    Follows d (u ++ s) (tier.precedence d) := by
  cases h with
  | cons _ b p q h =>
    cases h with
    | cons _ b' p' q' h => exact Grammar.follows_not hw (h.noBracket hs)

/-- `AT TIME ZONE` binds as its tier says. -/
theorem Says.follows_zone (h : Says ["AT", "TIME", "ZONE"] u) (hs : NoBracket s) :
    Follows d (u ++ s) (Tier.timeZone.precedence d) := by
  have hnone := h.noBracket hs
  cases h with
  | cons _ b p q h =>
    cases h with
    | cons _ b' p' q' h =>
      cases h with
      | cons _ b'' p'' q'' h =>
        cases h
        exact ⟨fun n => bind_eq rfl (bind_eq rfl (bind_eq rfl (bind_eq rfl
          (by rw [dialect_nested]; rfl)))), rfl, hnone⟩

/-! ## Links -/

/-- What is known of a spelled operator. -/
theorem spelled (h : op ∈ spelledOperators d) :
    (Link.operator op).tokens = [.symbol op.sql] ∧ op.sql ∈ Lexer.operatorSymbols ∧
      symbolOperator? d op.sql = some op ∧ op.precedence d = symbolPrecedence d op.sql := by
  have hall : ∀ op ∈ spelledOperators d, (Link.operator op).tokens = [.symbol op.sql] ∧
      op.sql ∈ Lexer.operatorSymbols ∧ symbolOperator? d op.sql = some op ∧
        op.precedence d = symbolPrecedence d op.sql := by
    cases d <;> decide
  exact hall op h

/-- The links of a dialect. -/
inductive KnownLink (d : Dialect) : Link → Prop
  | and : KnownLink d (.operator .and)
  | or : KnownLink d (.operator .or)
  | spelled (op : BinaryOp) (h : op ∈ spelledOperators d) : KnownLink d (.operator op)
  | matching (negated : Bool) (kind : MatchKind) : KnownLink d (.matching negated kind)
  | zone : KnownLink d .zone

/-- A known link is one of the listed kinds. -/
theorem knownLink (h : link.isKnown d = true) : KnownLink d link := by
  cases link with
  | operator op =>
    simp only [Link.isKnown, Bool.or_eq_true, List.contains_eq_mem, decide_eq_true_eq,
      List.mem_cons, List.not_mem_nil, or_false] at h
    rcases h with (rfl | rfl) | h
    · exact .and
    · exact .or
    · exact .spelled op h
  | matching negated kind => exact .matching negated kind
  | zone => exact .zone

/-- The tokens of a known link are read back. -/
theorem reads_link (h : link.isKnown d = true) :
    Reads d (spacedSql link.tokens).toList (spaced link.tokens) rest := by
  cases knownLink h with
  | and =>
    exact show Reads d (spacedSql (["AND"].map .keyword)).toList _ rest from
      reads_keywords (by decide)
  | or =>
    exact show Reads d (spacedSql (["OR"].map .keyword)).toList _ rest from
      reads_keywords (by decide)
  | zone => exact reads_keywords (by decide)
  | spelled op hop =>
    obtain ⟨htokens, hsymbol, -, -⟩ := spelled hop
    rw [htokens]
    exact reads_spaced (List.forall_mem_singleton.2 fun rest => Lexer.reads_operator hsymbol)
  | matching negated kind =>
    exact reads_keywords (by cases negated <;> cases kind <;> decide)

/-- A link is read as an operator that binds like it. -/
theorem follows_link (h : link.isKnown d = true) (hu : Spells (spaced link.tokens) u)
    (hs : NoBracket s) : Follows d (u ++ s) (link.precedence d) := by
  cases knownLink h with
  | and =>
    have hsays : Says ["AND"] u := says_of_spells hu
    exact show Follows d _ (Tier.and.precedence d) from hsays.follows (by decide) hs
  | or =>
    have hsays : Says ["OR"] u := says_of_spells hu
    exact show Follows d _ (Tier.or.precedence d) from hsays.follows (by decide) hs
  | spelled op hop =>
    obtain ⟨htokens, hsymbol, -, hprecedence⟩ := spelled hop
    rw [htokens] at hu
    obtain ⟨b, p, q, rfl⟩ := spells_symbol hu
    rw [Link.precedence, hprecedence]
    have hall : ∀ x ∈ Lexer.operatorSymbols, x ∉ ["(", ".", "["] := by decide
    exact follows_symbol (hall _ hsymbol) hs
  | zone => exact (says_of_spells hu).follows_zone hs
  | matching negated kind =>
    have hsays := says_of_spells hu
    change Follows d _ (Tier.like.precedence d)
    cases negated <;> cases kind
    iterate 3 exact hsays.follows (by decide) hs
    iterate 3 exact hsays.follows_not (by decide) hs

/-- The right operand of an operator is read at the operator's precedence. -/
theorem rightOperand_eq (ht : opensTerm t = true)
    (hr : expression k (nested d n) (.ofLexeme b ⟨t, p, q⟩ :: v) = .ok (r, s)) (op : BinaryOp)
    (place : Option Text.Position) :
    rightOperand e op place k (nested d (n + 1)) (.ofLexeme b ⟨t, p, q⟩ :: v) =
      .ok (.binary e op r, s) :=
  bind_eq (oneOf_eq (opensOperand_of_opensTerm ht)) (bind_eq hr rfl)

/-- A match takes the pattern behind it, if nothing says how it is escaped. -/
theorem apply_matching {negated : Bool} {kind : MatchKind}
    (hu : Spells (spaced (Link.matching negated kind).tokens) u) (ht : opensTerm t = true)
    (hs : (s.getD 0 .ending).isSeparate = true)
    (hr : expression (Tier.like.precedence d) (nested d n) (.ofLexeme b ⟨t, p, q⟩ :: v) =
      .ok (r, s)) :
    applyOperator e (Tier.like.precedence d) (nested d (n + 1)) (u ++ .ofLexeme b ⟨t, p, q⟩ :: v) =
      .ok ((Link.matching negated kind).join e r, s) := by
  have hpattern {words : String} (hsql : " " ++ words ++ " " =
      spacedSql (Link.matching negated kind).tokens) :
      pattern e words (nested d (n + 1)) (.ofLexeme b ⟨t, p, q⟩ :: v) =
        .ok ((Link.matching negated kind).join e r, s) := by
    have hk := (isSeparate_iff.1 hs).2.2.1
    simp only [List.mem_cons, List.not_mem_nil, or_false, not_or] at hk
    refine bind_eq (bind_eq rfl hr) (bind_eq (keyword_eq_false hk.2.1) ?_)
    rw [hsql]
    rfl
  have hany : keyword "ANY" (nested d (n + 1)) (.ofLexeme b ⟨t, p, q⟩ :: v) =
      .ok (false, .ofLexeme b ⟨t, p, q⟩ :: v) := by
    have hk := keyword_of_opensOperand (b := b) (p := p) (q := q) (opensOperand_of_opensTerm ht)
    refine keyword_eq_false fun hany => ?_
    rw [List.getD_cons_zero] at hany
    simp [hany, quantifying] at hk
  have hsays := says_of_spells hu
  -- the words before the match are looked for one after the other
  cases negated <;> cases kind
  iterate 2
    · obtain _ | ⟨_, b₁, p₁, q₁, _ | _⟩ := hsays
      iterate 10 refine bind_eq rfl ?_
      exact bind_eq hany (hpattern rfl)
  · obtain _ | ⟨_, b₁, p₁, q₁, _ | ⟨_, b₂, p₂, q₂, _ | _⟩⟩ := hsays
    iterate 11 refine bind_eq rfl ?_
    exact hpattern rfl
  iterate 2
    · obtain _ | ⟨_, b₁, p₁, q₁, _ | ⟨_, b₂, p₂, q₂, _ | _⟩⟩ := hsays
      iterate 10 refine bind_eq rfl ?_
      exact bind_eq hany (hpattern rfl)
  · obtain _ | ⟨_, b₁, p₁, q₁, _ | ⟨_, b₂, p₂, q₂, _ | ⟨_, b₃, p₃, q₃, _ | _⟩⟩⟩ := hsays
    iterate 11 refine bind_eq rfl ?_
    exact hpattern rfl

/-- **A link takes the expression behind it.** -/
theorem apply_link (h : link.isKnown d = true) (hu : Spells (spaced link.tokens) u)
    (ht : opensTerm t = true) (hs : (s.getD 0 .ending).isSeparate = true)
    (hr : expression (link.precedence d) (nested d n) (.ofLexeme b ⟨t, p, q⟩ :: v) = .ok (r, s)) :
    applyOperator e (link.precedence d) (nested d (n + 1)) (u ++ .ofLexeme b ⟨t, p, q⟩ :: v) =
      .ok (link.join e r, s) := by
  cases knownLink h with
  | and =>
    have hsays : Says ["AND"] u := says_of_spells hu
    obtain _ | ⟨_, b', p', q', _ | _⟩ := hsays
    exact bind_eq rfl (bind_eq rfl (bind_eq rfl (rightOperand_eq ht hr _ _)))
  | or =>
    have hsays : Says ["OR"] u := says_of_spells hu
    obtain _ | ⟨_, b', p', q', _ | _⟩ := hsays
    exact bind_eq rfl (bind_eq rfl (bind_eq rfl (rightOperand_eq ht hr _ _)))
  | spelled op hop =>
    obtain ⟨htokens, -, hoperator, -⟩ := spelled hop
    rw [htokens] at hu
    obtain ⟨b', p', q', rfl⟩ := spells_symbol hu
    refine bind_eq rfl (bind_eq rfl ?_)
    simp only [List.singleton_append, List.getD_cons_zero, Item.ofLexeme, dialect_nested, hoperator]
    exact rightOperand_eq ht hr _ _
  | zone =>
    obtain _ | ⟨_, b₁, p₁, q₁, _ | ⟨_, b₂, p₂, q₂, _ | ⟨_, b₃, p₃, q₃, _ | _⟩⟩⟩ := says_of_spells hu
    exact bind_eq rfl (bind_eq rfl (bind_eq rfl (bind_eq rfl (bind_eq hr rfl))))
  | matching negated kind => exact apply_matching hu ht hs hr

/-! ## Suffixes -/

/-- Words behind an operand are read as words. -/
theorem reads_words {ws : List String} (h : ∀ w ∈ ws, Value.isPlainName w.toList = true)
    (hrest : Stops rest) :
    Reads d (String.join (ws.map (" " ++ ·))).toList (ws.flatMap fun w => [.space, .keyword w])
      rest := by
  induction ws with
  | nil => exact .nil d rest
  | cons w ws ih =>
    have hjoin : (String.join ((w :: ws).map (" " ++ ·))).toList =
        ' ' :: (w.toList ++ (String.join (ws.map (" " ++ ·))).toList) := by
      simp [String.join_cons]
    have hstops : Stops ((String.join (ws.map (" " ++ ·))).toList ++ rest) := by
      cases ws with
      | nil => exact hrest
      | cons w ws => simp [String.join_cons]
    rw [hjoin]
    exact Lexer.reads_blank.append ((hstops.reads_word (h w (by simp))).append
      (ih fun w hw => h w (by simp [hw])))

/-- What spells words says them. -/
theorem says_of_words {ws : List String} (h : Spells (ws.flatMap fun w => [.space, .keyword w]) u) :
    Says ws u := by
  induction ws generalizing u with
  | nil =>
    obtain rfl := Spells.nil_iff.1 h
    exact .nil
  | cons w ws ih =>
    obtain ⟨b, p, q, u, rfl, hu⟩ := (h.blank rfl).item rfl
    exact .cons w b p q (ih hu)

/-- The tokens of a suffix. -/
def suffixTokens : Suffix → List Token
  | .cast type => [.symbol "::", .keyword type]
  | .test words => ("IS" :: words).flatMap fun w => [.space, .keyword w]

/-- A known suffix is read back. -/
theorem reads_suffix (h : suffix.isKnown = true) (hrest : Stops rest) :
    Reads d suffix.sql.toList (suffixTokens suffix) rest := by
  cases suffix with
  | cast type =>
    have hplain : ∀ type ∈ castTypes, Value.isPlainName type.toList = true := by decide
    have htype := hplain type (by simpa [Suffix.isKnown] using h)
    rw [Suffix.sql, String.toList_append]
    exact Lexer.reads_cast.append (hrest.reads_word htype)
  | test words =>
    have hall : ∀ words ∈ isTests, (Suffix.test words).sql =
        String.join (("IS" :: words).map (" " ++ ·)) ∧
          ∀ w ∈ "IS" :: words, Value.isPlainName w.toList = true := by
      decide
    obtain ⟨hsql, hplain⟩ := hall words (by simpa [Suffix.isKnown] using h)
    rw [hsql]
    exact reads_words hplain hrest

/-- What spells a cast is its sign and its type. -/
theorem spells_cast {type : String} (h : Spells (suffixTokens (.cast type)) u) :
    ∃ b p q b' p' q',
      u = [.ofLexeme b ⟨.symbol "::", p, q⟩, .ofLexeme b' ⟨.keyword type, p', q'⟩] := by
  obtain ⟨b, p, q, v, rfl, hv⟩ := h.item rfl
  obtain ⟨b', p', q', w, rfl, hw⟩ := hv.item rfl
  obtain rfl := Spells.nil_iff.1 hw
  exact ⟨b, p, q, b', p', q', rfl⟩

/-- A suffix is read as an operator that binds like it. -/
theorem follows_suffix (hu : Spells (suffixTokens suffix) u) (hs : NoBracket s) :
    Follows d (u ++ s) (suffix.precedence d) := by
  cases suffix with
  | cast type =>
    obtain ⟨b, p, q, b', p', q', rfl⟩ := spells_cast hu
    exact follows_symbol (by decide) (noBracket_cons.2 ⟨rfl, hs⟩)
  | test words =>
    have hsays : Says ("IS" :: words) u := says_of_words hu
    exact show Follows d _ (Tier.is.precedence d) from hsays.follows (by decide) hs

/-- A type of one word is read as this word where nothing follows that belongs to it. -/
theorem typeOfKeyword_cast (env : Nested) (inner : Rule Bracketed) (place : Option Text.Position)
    {type : String} (h : type ∈ castTypes) (hs : (s.getD 0 .ending).isSeparate = true) :
    typeOfKeyword inner type place env s = .ok (some (.builtIn type, false), s) := by
  obtain ⟨hopen, -, hk, -⟩ := isSeparate_iff.1 hs
  simp only [List.mem_cons, List.not_mem_nil, or_false, not_or] at hk
  have hnone : symbol "(" env s = .ok (false, s) := symbol_eq_false hopen
  have hsize : precision? env s = .ok (none, s) := bind_eq hnone rfl
  have hmixed : ∀ type ∈ castTypes, DataType.mixedCaseNames.lookup type = none := by decide
  have hempty : type ++ "" = type := String.append_empty
  unfold typeOfKeyword
  refine bind_eq rfl ?_
  split
  · rfl
  rename_i hplain
  simp only [hmixed type h]
  split
  · refine bind_eq hsize (bind_eq (keyword_eq_false hk.2.2) ?_)
    exact congrArg (fun sql => Except.ok (some (DataType.builtIn sql, false), s))
      ((congrArg (· ++ "") hempty).trans hempty)
  rename_i hinteger
  split
  · exact bind_eq hsize
      (congrArg (fun sql => Except.ok (some (DataType.builtIn sql, false), s)) hempty)
  rename_i hsized
  split
  · have hlength : lengthSql env s = .ok ("", s) := bind_eq hnone rfl
    exact bind_eq hlength
      (congrArg (fun sql => Except.ok (some (DataType.builtIn sql, false), s)) hempty)
  rename_i hlength
  split
  · have hexact : precisionScale? env s = .ok ((none, none), s) := bind_eq hnone rfl
    exact bind_eq hexact
      (congrArg (fun sql => Except.ok (some (DataType.builtIn sql, false), s)) hempty)
  · rename_i hexact
    simp_all [castTypes]

/-- A type that casts are written with is read as itself. -/
theorem typeSql_cast (env : Nested) {type : String} (h : type ∈ castTypes) (hs : Follows d s k) :
    typeSql env (.ofLexeme b ⟨.keyword type, p, q⟩ :: s) = .ok (type, s) := by
  have hupper : ∀ type ∈ castTypes, Text.upper type = type ∧ (type == "") = false := by
    decide +kernel
  have hknown (fuel : Nat) := typeOfKeyword_cast env (bracketedType fuel) (some p) h hs.separate
  have hsuffix := hs.noBracket.arraySuffix env
  have hdata : dataType env (.ofLexeme b ⟨.keyword type, p, q⟩ :: s) = .ok (.builtIn type, s) := by
    refine bind_eq rfl (bind_eq (a := (.builtIn type, false)) ?_ rfl)
    refine bind_eq rfl (bind_eq rfl (bind_eq rfl ?_))
    simp only [List.getD_cons_zero, Item.ofLexeme, Token.keyword, (hupper type h).1,
      (hupper type h).2]
    exact bind_eq (hknown _) (bind_eq rfl (bind_eq hsuffix rfl))
  exact bind_eq hdata rfl

/-- The words of a test behind `IS` are found among the tests. -/
theorem firstOf_isTests (env : Nested) (s : List Item) {words : List String}
    (h : words ∈ isTests) (hu : Says words u) :
    firstOf isTests env (u ++ s) = .ok (some words, s) := by
  simp only [isTests, List.mem_cons, List.not_mem_nil, or_false] at h
  rcases h with rfl | rfl | rfl | rfl | rfl | rfl | rfl | rfl
  all_goals
    first
    | obtain _ | ⟨_, b, p, q, _ | _⟩ := hu
      rfl
    | obtain _ | ⟨_, b, p, q, _ | ⟨_, b', p', q', _ | _⟩⟩ := hu
      rfl

/-- **A suffix is put behind what stands before it.** -/
theorem apply_suffix (h : suffix.isKnown = true) (hu : Spells (suffixTokens suffix) u)
    (hs : Follows d s k) :
    applyOperator e (suffix.precedence d) (nested d n) (u ++ s) =
      .ok (.phrase [.operand e, .words suffix.sql], s) := by
  cases suffix with
  | cast type =>
    obtain ⟨b, p, q, b', p', q', rfl⟩ := spells_cast hu
    have htype := typeSql_cast (nested d n) (b := b') (p := p') (q := q)
      (by simpa [Suffix.isKnown] using h) hs
    exact bind_eq rfl (bind_eq rfl (bind_eq htype rfl))
  | test words =>
    have hsays : Says ("IS" :: words) u := says_of_words hu
    obtain _ | ⟨_, b, p, q, hwords⟩ := hsays
    have hfirst := firstOf_isTests (nested d n) s (by simpa [Suffix.isKnown] using h)
      hwords
    exact bind_eq rfl (bind_eq rfl (bind_eq rfl (bind_eq hfirst rfl)))

/-! ## Ranges -/

/-- `BETWEEN`, negated or not, is read back. -/
theorem reads_range (negated : Bool) :
    Reads d (spacedSql (rangeTokens negated)).toList (spaced (rangeTokens negated)) rest :=
  reads_keywords (by cases negated <;> decide)

/-- `BETWEEN`, negated or not, binds as its tier says. -/
theorem follows_range {negated : Bool} (hu : Spells (spaced (rangeTokens negated)) u)
    (hs : NoBracket s) : Follows d (u ++ s) (Tier.between.precedence d) := by
  have hsays := says_of_spells hu
  cases negated with
  | false => exact hsays.follows (by decide) hs
  | true => exact hsays.follows_not (by decide) hs

/-- **A range takes the two expressions behind its words.** -/
theorem apply_range {negated : Bool} {l : Expr} (hu : Spells (spaced (rangeTokens negated)) u)
    (hlow : expression (Tier.between.precedence d) (nested d n) v =
      .ok (l, .ofLexeme b ⟨.keyword "AND", p, q⟩ :: s'))
    (hhigh : expression (Tier.between.precedence d) (nested d n) s' = .ok (r, s)) :
    applyOperator e (Tier.between.precedence d) (nested d (n + 1)) (u ++ v) =
      .ok (.phrase [.operand e, .words (spacedSql (rangeTokens negated)), .operand l,
        .words " AND ", .operand r], s) := by
  have hrange {words : String} (hsql : " " ++ words ++ "BETWEEN " =
      spacedSql (rangeTokens negated)) :
      range e words (nested d (n + 1)) v = .ok (.phrase [.operand e,
        .words (spacedSql (rangeTokens negated)), .operand l, .words " AND ", .operand r], s) := by
    refine bind_eq (bind_eq rfl hlow) (bind_eq rfl (bind_eq (bind_eq rfl hhigh) ?_))
    rw [hsql]
    rfl
  have hsays := says_of_spells hu
  cases negated with
  | false =>
    obtain _ | ⟨_, b₁, p₁, q₁, _ | _⟩ := hsays
    iterate 9 refine bind_eq rfl ?_
    exact hrange rfl
  | true =>
    obtain _ | ⟨_, b₁, p₁, q₁, _ | ⟨_, b₂, p₂, q₂, _ | _⟩⟩ := hsays
    iterate 9 refine bind_eq rfl ?_
    exact hrange rfl

end Grammar

end Sql
end QueryTemplate
