/-
# Operands in front of operators

An expression is a term wherever an operand may stand if it is read as one in front of all that
may follow an operand (`IsTerm`): the operators that bind like `k`, or what ends the expression
(`Follows`).  Names without a meaning of their own and constants are terms.

No bracket stands anywhere in such a text.  A word in front of brackets may be the type of an
array, and this type may belong to a string.
-/

import QueryTemplate.Proofs.Grammar.Junction
import QueryTemplate.Proofs.Grammar.Words
import QueryTemplate.Proofs.Token.Doubled
import QueryTemplate.Proofs.Token.Operators

namespace QueryTemplate
namespace Sql
namespace Grammar

open Item (Spells)
open Lexer (Reads Stops)
open Value (isPlainName)

variable {α β : Type} {env : Nested} {d : Dialect} {R : Rule α} {f : α → Rule β} {a : α}
  {i : Item} {s s' u : List Item} {b : Option Lexeme} {p q : Text.Position} {k text : String}
  {quote : Option Char} {w : Ident} {place : Option Text.Position} {e : Expr} {depth n m : Nat}

/-! ## Rules that read on -/

/-- The rule leaves some of the last tokens, and never fails because of the nesting. -/
structure ReadsOn (R : Rule α) : Prop where
  leaves : ∀ {env s a t}, R env s = .ok (a, t) → t <:+ s
  notDeep : ∀ env s, R env s ≠ .error .tooDeep

namespace ReadsOn

/-- A rule that looks without taking anything reads on, whatever it sees. -/
theorem look {g : Nested → List Item → α} (h : ∀ env s, R env s = .ok (g env s, s)) :
    ReadsOn R where
  leaves {env s a t} ha := by
    obtain ⟨-, rfl⟩ := Prod.mk.inj (Except.ok.inj ((h env s).symm.trans ha))
    exact List.suffix_refl _
  notDeep env s := by simp [h]

theorem pure (a : α) : ReadsOn (Pure.pure a : Rule α) := .look fun _ _ => rfl

/-- A rule that refuses reads on, for want of a result. -/
theorem fail {e : SyntaxError} (he : e ≠ .tooDeep) : ReadsOn (Grammar.fail e : Rule α) where
  leaves h := by cases h
  notDeep _ _ h := he (Except.error.inj h)

/-- Two rules that read on read on one after the other. -/
theorem bind (hR : ReadsOn R) (hf : ∀ a, ReadsOn (f a)) : ReadsOn (R >>= f) where
  leaves h := by
    obtain ⟨a, t, ha, hb⟩ := bind_eq_ok_iff.1 h
    exact ((hf a).leaves hb).trans (hR.leaves ha)
  notDeep env s h := by
    cases hs : R env s with
    | error e =>
      rw [bind_error hs] at h
      obtain rfl := Except.error.inj h
      exact hR.notDeep env s hs
    | ok found =>
      rw [bind_eq (show R env s = .ok (found.1, found.2) from hs) rfl] at h
      exact (hf _).notDeep _ _ h

/-- Taking the next item reads on. -/
theorem next : ReadsOn Grammar.next where
  leaves {env s a t} h := by
    obtain ⟨-, rfl⟩ := Prod.mk.inj (Except.ok.inj (show _ = _ from h))
    exact List.tail_suffix s
  notDeep _ _ h := by cases h

/-- A refusal at an item reads on. -/
theorem expectedAt (what : String) (i : Item) : ReadsOn (Grammar.expectedAt what i : Rule α) :=
  .fail nofun

/-- A rule for one symbol reads on: whether it stands there is seen from the next item. -/
theorem symbol (w : String) : ReadsOn (Grammar.symbol w) where
  leaves h := by
    rcases symbol_eq_ok h with ⟨-, i, -, rfl⟩ | ⟨-, rfl⟩
    · exact List.suffix_cons i _
    · exact List.suffix_refl _
  notDeep env s h := by
    unfold Grammar.symbol at h
    rw [bind_eq (a := (s.getD 0 .ending).isSymbol w) rfl rfl] at h
    split at h <;> cases h

/-- A rule for several symbols reads on. -/
theorem symbols (ws : List String) : ReadsOn (Grammar.symbols ws) where
  leaves h := by
    rcases symbols_eq_ok h with ⟨u, -, rfl⟩ | rfl
    · exact List.suffix_append u _
    · exact List.suffix_refl _
  notDeep env s h := by
    unfold Grammar.symbols at h
    rw [bind_eq (R := get) rfl rfl] at h
    split at h <;> cases h

/-- A rule that is tried under a condition reads on. -/
theorem onlyIf {allowed : Bool} {r : Rule Bool} (h : ReadsOn r) :
    ReadsOn (Grammar.onlyIf allowed r) := by
  cases allowed with
  | false => exact .pure false
  | true => exact h

/-- A rule that is repeated reads on, each round in what the last one left. -/
theorem repeated {round : Rule (Option α)} (h : ReadsOn round) :
    ReadsOn (Grammar.repeated round) := by
  have hfuel : ∀ fuel, ReadsOn (repeatUpTo round fuel) := by
    intro fuel
    induction fuel with
    | zero => exact .pure []
    | succ fuel ih =>
      refine h.bind fun found => ?_
      cases found with
      | none => exact .pure []
      | some a => exact ih.bind fun _ => .pure _
  exact .bind (.look fun _ _ => rfl) fun s => hfuel _

end ReadsOn

/-- A name reads on. -/
theorem readsOn_name : ReadsOn name := by
  refine ReadsOn.next.bind fun i => ?_
  split
  · exact .pure _
  · exact .pure _
  · exact .pure _
  · exact .expectedAt _ _

/-- The names after the dots read on. -/
theorem readsOn_furtherNames : ReadsOn furtherNames := by
  refine .repeated ((ReadsOn.symbol ".").bind fun found => ?_)
  split
  · exact readsOn_name.bind fun _ => .pure _
  · exact .pure _

/-- A dotted name reads on. -/
theorem readsOn_objectName : ReadsOn objectName := by
  refine .bind (.look fun _ _ => rfl) fun d => readsOn_name.bind fun first => ?_
  refine (ReadsOn.symbols [".", "."]).onlyIf.bind fun found => ?_
  split
  · exact readsOn_name.bind fun _ => readsOn_furtherNames.bind fun _ => .pure _
  · exact readsOn_furtherNames.bind fun _ => .pure _

/-- The numbers after a type's name read on. -/
theorem readsOn_modifiers? : ReadsOn modifiers? := by
  refine (ReadsOn.symbol "(").bind fun found => ?_
  split
  · refine .bind (.repeated (ReadsOn.next.bind fun i => ?_)) fun _ => .pure _
    split
    all_goals first | exact .pure _ | exact .expectedAt _ _
  · exact .pure _

/-- A type by its name reads on. -/
theorem readsOn_namedType : ReadsOn namedType := by
  refine readsOn_objectName.bind fun n => readsOn_modifiers?.bind fun found => ?_
  split <;> exact .pure _

/-! ## Words without a meaning of their own -/

/-- Keywords that start a type. -/
def typeWords : List String :=
  DataType.plainNames ++ DataType.mixedCaseNames.map Prod.fst ++ DataType.integerNames ++
    DataType.sizedNames ++ DataType.lengthNames ++ DataType.exactNames ++ [
    "DOUBLE", "CHARACTER", "CHAR", "BIT", "TIMESTAMP", "TIME", "TIMESTAMPTZ", "TIMETZ",
    "DATETIME64", "FIXEDSTRING", "INTERVAL", "ENUM", "ENUM8", "ENUM16", "SET", "ARRAY", "STRUCT",
    "NULLABLE", "LOWCARDINALITY", "MAP", "TUPLE", "UNION", "NESTED"]

/-- Keywords that introduce a construct. -/
def introducingWords : List String :=
  constantWords ++ functionWords .ansi ++ refusedWords .ansi ++ constructWords

/-- A word that no type is written with is left to be read as a name. -/
theorem typeOfKeyword_name (env : Nested) (inner : Rule Bracketed) (place : Option Text.Position)
    (s : List Item) (hk : k ∉ typeWords) :
    typeOfKeyword inner k place env s = .ok (none, s) := by
  simp only [typeWords, List.mem_append, not_or] at hk
  obtain ⟨⟨⟨⟨⟨⟨hplain, hmixed⟩, hinteger⟩, hsized⟩, hlength⟩, hexact⟩, hother⟩ := hk
  have hlookup : DataType.mixedCaseNames.lookup k = none := by
    rw [List.lookup_eq_none_iff]
    rintro ⟨x, written⟩ hx
    rw [bne_iff_ne]
    rintro rfl
    exact hmixed (List.mem_map.2 ⟨_, hx, rfl⟩)
  simp only [List.mem_cons, List.not_mem_nil, or_false, not_or] at hother
  unfold typeOfKeyword
  refine bind_eq rfl ?_
  rw [if_neg (by simpa using hplain)]
  simp only [hlookup]
  rw [if_neg (by simpa using hinteger), if_neg (by simpa using hsized),
    if_neg (by simpa using hlength), if_neg (by simpa using hexact)]
  split
  all_goals try simp at hother
  split
  · rfl
  · split
    all_goals first | rfl | simp at hother

/-- A word that introduces no construct is left to be read as a name. -/
theorem construct?_name {interval : Rule Expr} (hk : k ∉ introducingWords) :
    construct? interval k w place env s = .ok (none, s) := by
  simp only [introducingWords, constantWords, functionWords, refusedWords, constructWords,
    List.mem_append, List.mem_cons, List.not_mem_nil, or_false, not_or] at hk
  unfold construct?
  refine bind_eq rfl ?_
  split
  all_goals first | rfl | simp at hk

/-- No opening bracket stands among the tokens. -/
def NoBracket (s : List Item) : Prop := ∀ i ∈ s, i.isSymbol "[" = false

/-- A type is no array where no bracket opens. -/
theorem NoBracket.arraySuffix (env : Nested) (h : NoBracket s) :
    arraySuffix env s = .ok ([], s) := by
  have hsymbol : symbol "[" env s = .ok (false, s) := by
    cases s with
    | nil => rfl
    | cons i s => exact symbol_eq_false (h i (by simp))
  exact bind_eq rfl (bind_eq (bind_eq hsymbol rfl) rfl)

/-- No bracket opens in the end of a text in which none does. -/
theorem NoBracket.of_suffix (h : NoBracket s) (hs : s' <:+ s) : NoBracket s' :=
  fun i hi => h i (hs.mem hi)

/-- A type by its name is a named one. -/
theorem sort_namedType {t : DataType} (h : namedType env s = .ok (t, s')) : t.sort = .named := by
  obtain ⟨n, u, -, h⟩ := bind_eq_ok_iff.1 h
  obtain ⟨found, v, -, h⟩ := bind_eq_ok_iff.1 h
  split at h <;> (obtain ⟨rfl, -⟩ := pure_eq_ok h; rfl)

/-- A word that starts no type is the name of one, if anything. -/
theorem dataType_name (env : Nested) (hi : i.token = .word text quote) (hk : i.keyword ∉ typeWords)
    (hs : NoBracket s) :
    Fails False dataType env (i :: s) ∨
      ∃ t s', dataType env (i :: s) = .ok (t, s') ∧ t.sort = .named := by
  have hall : NoBracket (i :: s) := by
    rintro j (_ | ⟨_, hj⟩)
    · rw [Item.isSymbol, hi]
      rfl
    · exact hs j hj
  have hknown (fuel : Nat) := typeOfKeyword_name env (bracketedType fuel) i.place s hk
  obtain ⟨t, keyword, place, blank⟩ := i
  obtain rfl : t = .word text quote := hi
  cases hnamed : namedType env (⟨.word text quote, keyword, place, blank⟩ :: s) with
  | error e =>
    left
    have hfails : Fails False namedType env (⟨.word text quote, keyword, place, blank⟩ :: s) :=
      .of_eq hnamed fun he => readsOn_namedType.notDeep _ _ (he ▸ hnamed)
    refine .after rfl (.bind (.after rfl (.after rfl (.after rfl ?_))))
    split
    · exact .after rfl (.after rfl hfails.bind)
    · exact .after (hknown _) (.after rfl hfails.bind)
  | ok found =>
    obtain ⟨t, s'⟩ := found
    have hsuffix := (hall.of_suffix (readsOn_namedType.leaves hnamed)).arraySuffix env
    right
    refine ⟨t, s', bind_eq rfl (bind_eq (a := (t, false)) ?_ rfl), sort_namedType hnamed⟩
    refine bind_eq rfl (bind_eq rfl (bind_eq rfl ?_))
    split
    · exact bind_eq rfl (bind_eq rfl (bind_eq hnamed (bind_eq rfl (bind_eq hsuffix rfl))))
    · exact bind_eq (hknown _) (bind_eq rfl (bind_eq hnamed (bind_eq rfl (bind_eq hsuffix rfl))))

/-- What starts with a word that starts no type is no string with a type. -/
theorem typedString_name {interval : Rule Expr} (hi : i.token = .word text quote)
    (hk : i.keyword ∉ typeWords) (hs : NoBracket s) :
    attempt (typedString interval) env (i :: s) = .ok (none, i :: s) := by
  have hfails : Fails False (typedString interval) env (i :: s) := by
    rcases dataType_name env hi hk hs with hfails | ⟨t, s', ht, hsort⟩
    · exact hfails.bind
    · refine .after ht ?_
      rw [hsort]
      exact .of_eq rfl nofun
  rcases hfails.attempt with hnone | ⟨-, hfalse⟩
  · exact hnone
  · exact hfalse.elim

/-! ## What follows an operand -/

/-- The expression may go on with `s`, or end there; an operator there binds like `k`. -/
structure Follows (d : Dialect) (s : List Item) (k : Nat) : Prop where
  precedence (n : Nat) : nextPrecedence (nested d n) s = .ok (k, s)
  separate : (s.getD 0 .ending).isSeparate = true
  noBracket : NoBracket s

theorem noBracket_cons : NoBracket (i :: s) ↔ i.isSymbol "[" = false ∧ NoBracket s := by
  simp [NoBracket]

/-- No bracket opens in two texts together exactly if none does in either. -/
theorem noBracket_append : NoBracket (u ++ s) ↔ NoBracket u ∧ NoBracket s := by
  simp [NoBracket, or_imp, forall_and]

/-- No bracket opens where the tokens hold none. -/
theorem noBracket_of_spells {ts : List Token} (hts : .symbol "[" ∉ ts) (hu : Spells ts u) :
    NoBracket u := by
  obtain ⟨b, ls, rfl, rfl⟩ := hu
  induction ls generalizing b with
  | nil => simp [NoBracket, Item.ofLexemes]
  | cons l ls ih =>
    rw [List.map_cons, List.mem_cons, not_or] at hts
    rw [Item.ofLexemes]
    split
    · exact ih _ hts.2
    · refine noBracket_cons.2 ⟨?_, ih _ hts.2⟩
      have htoken : (Item.ofLexeme b l).token = l.token := rfl
      simp [Item.isSymbol, htoken, Ne.symm hts.1]

/-- Nothing binds at the end. -/
theorem follows_nil : Follows d [] 0 where
  precedence _ := rfl
  separate := rfl
  noBracket := by simp [NoBracket]

/-- A symbol behind an operand binds as its precedence says. -/
theorem follows_symbol {x : String} (hx : x ∉ ["(", ".", "["]) (hs : NoBracket s) :
    Follows d (.ofLexeme b ⟨.symbol x, p, q⟩ :: s) (symbolPrecedence d x) where
  precedence n := bind_eq rfl (bind_eq rfl (by rw [dialect_nested]; rfl))
  separate := by
    simp only [List.mem_cons, List.not_mem_nil, or_false, not_or] at hx
    simp [Item.isSeparate, Item.isSymbol, Item.ofLexeme, hx]
  noBracket := by
    simp only [List.mem_cons, List.not_mem_nil, or_false, not_or] at hx
    exact noBracket_cons.2 ⟨by simp [Item.isSymbol, Item.ofLexeme, hx], hs⟩

/-- Keywords of operators that no other word belongs to. -/
def linkingWords : List (String × Tier) := [
  ("AND", .and), ("OR", .or), ("IS", .is), ("LIKE", .like), ("ILIKE", .like), ("SIMILAR", .like),
  ("BETWEEN", .between)]

/-- The keyword of an operator binds as its tier says. -/
theorem follows_word {x : String} {t : Tier} (hx : (x, t) ∈ linkingWords) (hs : NoBracket s) :
    Follows d (.ofLexeme b ⟨.word x none, p, q⟩ :: s) (t.precedence d) := by
  have hcons : NoBracket (.ofLexeme b ⟨.word x none, p, q⟩ :: s) := noBracket_cons.2 ⟨rfl, hs⟩
  simp only [linkingWords, List.mem_cons, List.not_mem_nil, or_false, Prod.mk.injEq] at hx
  rcases hx with ⟨rfl, rfl⟩ | ⟨rfl, rfl⟩ | ⟨rfl, rfl⟩ | ⟨rfl, rfl⟩ | ⟨rfl, rfl⟩ | ⟨rfl, rfl⟩ |
    ⟨rfl, rfl⟩
  all_goals
    exact ⟨fun n => bind_eq rfl (bind_eq rfl (by rw [dialect_nested]; rfl)), rfl, hcons⟩

/-- Keywords of operators that may be negated. -/
def negatableWords : List (String × Tier) := [
  ("LIKE", .like), ("ILIKE", .like), ("SIMILAR", .like), ("BETWEEN", .between)]

/-- A negated operator binds as its keyword does without `NOT`. -/
theorem follows_not {b' : Option Lexeme} {p' q' : Text.Position} {x : String} {t : Tier}
    (hx : (x, t) ∈ negatableWords) (hs : NoBracket s) :
    Follows d (.ofLexeme b ⟨.word "NOT" none, p, q⟩ :: .ofLexeme b' ⟨.word x none, p', q'⟩ :: s)
      (t.precedence d) := by
  have hcons : NoBracket (.ofLexeme b ⟨.word "NOT" none, p, q⟩ ::
      .ofLexeme b' ⟨.word x none, p', q'⟩ :: s) :=
    noBracket_cons.2 ⟨rfl, noBracket_cons.2 ⟨rfl, hs⟩⟩
  simp only [negatableWords, List.mem_cons, List.not_mem_nil, or_false, Prod.mk.injEq] at hx
  rcases hx with ⟨rfl, rfl⟩ | ⟨rfl, rfl⟩ | ⟨rfl, rfl⟩ | ⟨rfl, rfl⟩
  all_goals
    exact ⟨fun n => bind_eq rfl (bind_eq rfl (bind_eq rfl (by rw [dialect_nested]; rfl))), rfl,
      hcons⟩

/-! ## Operands -/

/-- A word that nothing joins is a name, and no call. -/
theorem nameOrCall_eq {interval : Rule Expr} (hs : (s.getD 0 .ending).isSeparate = true) :
    nameOrCall interval w env s = .ok (.identifier w, s) := by
  obtain ⟨hopen, hpoint, -, hstring⟩ := isSeparate_iff.1 hs
  unfold nameOrCall
  refine bind_eq rfl (bind_eq (a := s.getD 0 .ending) rfl ?_)
  rw [hopen, hpoint, Bool.or_self, if_neg Bool.false_ne_true]
  generalize (s.getD 0 .ending).token = t at hstring ⊢
  cases t with
  | string kind text => exact absurd rfl (hstring kind text)
  | _ => rfl

/-- **A word without a meaning of its own is a column**, whatever operator follows. -/
theorem operand_name (hi : i.token = .word text quote) (htype : i.keyword ∉ typeWords)
    (hintro : i.keyword ∉ introducingWords) (hs : Follows d s m) :
    operand (nested d n) (i :: s) = .ok (.identifier ⟨text, quote⟩, s) := by
  have htyped : ∀ interval, attempt (typedString interval) (nested d n) (i :: s) =
      .ok (none, i :: s) :=
    fun _ => typedString_name hi htype hs.noBracket
  have hword : ∀ interval, wordOperand interval i.keyword ⟨text, quote⟩ i.place (nested d n) s =
      .ok (.identifier ⟨text, quote⟩, s) := fun _ =>
    bind_eq (outcome_ok (construct?_name hintro))
      (bind_eq (nameOrCall_eq hs.separate) (collated_eq hs.separate))
  obtain ⟨t, keyword, place, blank⟩ := i
  obtain rfl : t = .word text quote := hi
  exact bind_eq rfl (bind_eq (htyped _) (bind_eq rfl (hword _)))

/-- A constant of one token is that constant. -/
theorem operand_literal {l : Literal} (hi : constantOperand? d i.token = some l)
    (hs : Follows d s m) : operand (nested d n) (i :: s) = .ok (.literal l, s) := by
  obtain ⟨t, keyword, place, blank⟩ := i
  have htyped : ∀ interval, attempt (typedString interval) (nested d n)
      (⟨t, keyword, place, blank⟩ :: s) = .ok (none, ⟨t, keyword, place, blank⟩ :: s) := by
    intro interval
    cases t with
    | word => cases hi
    | _ => rfl
  cases t with
  | word => cases hi
  | symbol => cases hi
  | _ =>
    refine bind_eq rfl (bind_eq (htyped _) (bind_eq rfl (bind_eq rfl ?_)))
    simp only [dialect_nested, List.getD_cons_zero, hi]
    exact collated_eq hs.separate

/-- A constant of one word is that constant. -/
theorem operand_literalWord {l : Literal} (h : l = .null ∨ ∃ v, l = .boolean v)
    (hs : Follows d s m) :
    operand (nested d n) (.ofLexeme b ⟨.word l.sql none, p, q⟩ :: s) = .ok (.literal l, s) := by
  have htype : (Item.ofLexeme b ⟨.word l.sql none, p, q⟩).keyword ∉ typeWords := by
    rcases h with rfl | ⟨_ | _, rfl⟩ <;> (simp only [Item.ofLexeme]; decide)
  have htyped : ∀ interval, attempt (typedString interval) (nested d n)
      (.ofLexeme b ⟨.word l.sql none, p, q⟩ :: s) =
        .ok (none, .ofLexeme b ⟨.word l.sql none, p, q⟩ :: s) :=
    fun _ => typedString_name rfl htype hs.noBracket
  have hword : ∀ interval, wordOperand interval (Item.ofLexeme b ⟨.word l.sql none, p, q⟩).keyword
      ⟨l.sql, none⟩ (some p) (nested d n) s = .ok (.literal l, s) := by
    intro interval
    have hconstruct : construct? interval (Item.ofLexeme b ⟨.word l.sql none, p, q⟩).keyword
        ⟨l.sql, none⟩ (some p) (nested d n) s = .ok (some (.literal l), s) := by
      rcases h with rfl | ⟨_ | _, rfl⟩ <;> rfl
    exact bind_eq (outcome_ok hconstruct) (collated_eq hs.separate)
  exact bind_eq rfl (bind_eq (htyped _) (bind_eq rfl (hword _)))

/-! ## Terms -/

/-- Whether an operand that starts with a token is just that in front of which it stands, be it
an operator, a parenthesis or a negation. -/
def opensTerm : Token → Bool
  | .word s none => !("EXISTS" :: quantifying).contains (Text.upper s)
  | .word _ (some _) | .number .. | .string .. => true
  | .symbol s => ["(", "-", "+"].contains s
  | _ => false

/-- What opens a term opens an operand. -/
theorem opensOperand_of_opensTerm {t : Token} (h : opensTerm t = true) : opensOperand t = true := by
  cases t with
  | word s quote =>
    cases quote with
    | none => simp_all [opensTerm, opensOperand]
    | some c => rfl
  | _ => simp_all [opensTerm, opensOperand, Token.isBlank, Token.isComment]

/-- A term does not open with a blank. -/
theorem isBlank_of_opensTerm {t : Token} (h : opensTerm t = true) : t.isBlank = false :=
  isBlank_of_opensOperand (opensOperand_of_opensTerm h)

/-- Wherever an operand may stand, the written expression is read as this expression, if `depth`
levels of nesting are left. -/
def IsTerm (d : Dialect) (depth : Nat) (e : Expr) : Prop :=
  ∃ c cs t ts, e.sql.toList = c :: cs ∧ Lexer.endsSign d c = true ∧ opensTerm t = true ∧
    .symbol "[" ∉ ts ∧ (∀ rest, Stops rest → Reads d e.sql.toList (t :: ts) rest) ∧
    ∀ n u s k, depth ≤ n → Spells (t :: ts) u → Follows d s k →
      operand (nested d n) (u ++ s) = .ok (e, s)

/-- A term of some depth is one of every greater depth. -/
theorem IsTerm.mono {depth' : Nat} (h : IsTerm d depth e) (hle : depth ≤ depth') :
    IsTerm d depth' e := by
  obtain ⟨c, cs, t, ts, hsql, hc, ht, hts, hreads, hoperand⟩ := h
  exact ⟨c, cs, t, ts, hsql, hc, ht, hts, hreads, fun n u s k hn =>
    hoperand n u s k (Nat.le_trans hle hn)⟩

/-- One token that is read as the expression, whatever follows. -/
theorem isTerm_of_token {c : Char} {cs : List Char} {t : Token} (hsql : e.sql.toList = c :: cs)
    (hc : Lexer.endsSign d c = true) (ht : opensTerm t = true)
    (hreads : ∀ rest, Stops rest → Reads d e.sql.toList [t] rest)
    (hoperand : ∀ n b p q s k, Follows d s k →
      operand (nested d n) (.ofLexeme b ⟨t, p, q⟩ :: s) = .ok (e, s)) : IsTerm d 0 e := by
  refine ⟨c, cs, t, [], hsql, hc, ht, by simp, hreads, fun n u s k _ hu hs => ?_⟩
  obtain ⟨b, p, q, v, rfl, hv⟩ := hu.item (isBlank_of_opensTerm ht)
  obtain rfl := Spells.nil_iff.1 hv
  exact hoperand n b p q s k hs

/-- Keywords that no name in front of an operator may be. -/
def specialWords : List String := typeWords ++ introducingWords ++ quantifying

/-- A character of a word ends the sign before it. -/
theorem endsSign_of_isWordChar {c : Char} (h : Value.isWordChar c = true) :
    Lexer.endsSign d c = true := by
  have hall : (['-', '>'] ++ "+-*/<>=~!@#%^&|\u0060?".toList).all
      (fun x => !Value.isWordChar x) = true := by
    decide
  have hne : ∀ x ∈ ['-', '>'] ++ "+-*/<>=~!@#%^&|\u0060?".toList, c ≠ x := by
    rintro x hx rfl
    simpa [h] using List.all_eq_true.1 hall c hx
  have hextends : d.extendsOperator c = false := by
    rw [Dialect.extendsOperator, Bool.and_eq_false_iff]
    refine .inr ?_
    rw [List.contains_eq_mem, decide_eq_false_iff_not]
    exact fun hc => hne c (List.mem_append_right _ hc) rfl
  have hminus : c ≠ '-' := hne _ (by simp)
  have hgreater : c ≠ '>' := hne _ (by simp)
  simp [Lexer.endsSign, hextends, hminus, hgreater]

/-- **A plain name without a meaning of its own is a term.** -/
theorem isTerm_plain {name : String} (h : isPlainName name.toList = true)
    (hk : Text.upper name ∉ specialWords) : IsTerm d 0 (.identifier (.plain name)) := by
  have hsql : (Expr.identifier (.plain name)).sql = name := by
    simp [Expr.identifier, Expr.sql, dotted, Ident.sql, Ident.plain]
  simp only [specialWords, List.mem_append, not_or] at hk
  obtain ⟨⟨htype, hintro⟩, hquantifying⟩ := hk
  have hexists : Text.upper name ≠ "EXISTS" := by
    intro hexists
    exact hintro (hexists ▸ by decide)
  cases hchars : name.toList with
  | nil => simp [hchars, isPlainName] at h
  | cons c cs =>
    have hc : Value.isWordChar c = true := by
      rw [hchars, isPlainName, List.all_cons, Bool.and_eq_true, Bool.and_eq_true] at h
      exact h.2.1
    refine isTerm_of_token (hsql ▸ hchars) (endsSign_of_isWordChar hc) (t := .word name none) ?_
      (fun rest hrest => ?_) fun n b p q s k hs => operand_name rfl htype hintro hs
    · simp [opensTerm, hquantifying, hexists]
    · rw [hsql]
      exact hrest.reads_word h

/-- **A name in double quotes is a term** where it is read back. -/
theorem isTerm_quoted {name : String} (h : (Ident.quoted name).ReadsBack d) :
    IsTerm d 0 (.identifier (.quoted name)) := by
  have hsql : (Expr.identifier (.quoted name)).sql = (Ident.quoted name).sql := by
    simp [Expr.identifier, Expr.sql, dotted]
  have hchars : (Ident.quoted name).sql.toList =
      '"' :: (Quoting.doubled '"' name ++ "\"").toList := by
    simp [Ident.sql, Ident.quoted, Quoting.inQuotes]
  refine isTerm_of_token (hsql ▸ hchars) (by cases d <;> decide) (t := .word name (some '"')) rfl
    (fun rest hrest => ?_) fun n b p q s k hs => operand_name rfl ?_ ?_ hs
  · rw [hsql]
    exact h rest (hrest.head?_ne (by decide))
  · exact show "" ∉ typeWords by decide
  · exact show "" ∉ introducingWords by decide

/-- **A number is a term.** -/
theorem isTerm_number {digits : String} (h : Lexer.IsDecimal digits.toList) :
    IsTerm d 0 (.number digits) := by
  have hsql : (Expr.number digits).sql = digits := by
    simp [Expr.number, Expr.sql, Literal.sql]
  obtain ⟨c, cs, hchars, hc⟩ : ∃ c cs, digits.toList = c :: cs ∧ c.isDigit = true := by
    obtain ⟨whole, fraction, hne, hdigits, hcs⟩ := h
    obtain ⟨c, whole, rfl⟩ := List.exists_cons_of_ne_nil hne
    rcases hcs with ⟨hcs, -⟩ | hcs
    · exact ⟨c, _, hcs, hdigits c (by simp)⟩
    · exact ⟨c, _, hcs, hdigits c (by simp)⟩
  have hword : Value.isWordChar c = true := by simp [Value.isWordChar, Char.isAlphanum, hc]
  refine isTerm_of_token (hsql ▸ hchars) (endsSign_of_isWordChar hword) (t := .number digits false)
    rfl (fun rest hrest => ?_) fun n b p q s k hs => operand_literal rfl hs
  have hreads := Lexer.reads_decimal (d := d) h hrest.endsNumber
  rwa [String.ofList_toList, ← hsql] at hreads

/-- **`NULL` and the truth values are terms.** -/
theorem isTerm_literalWord {l : Literal} (h : l = .null ∨ ∃ v, l = .boolean v) :
    IsTerm d 0 (.literal l) := by
  have hsql : (Expr.literal l).sql = l.sql := by rw [Expr.sql]
  have hplain : isPlainName l.sql.toList = true := by
    rcases h with rfl | ⟨_ | _, rfl⟩ <;> decide
  obtain ⟨c, cs, hchars, hc⟩ : ∃ c cs, l.sql.toList = c :: cs ∧ Value.isWordChar c = true := by
    rcases h with rfl | ⟨_ | _, rfl⟩ <;> exact ⟨_, _, rfl, by decide⟩
  refine isTerm_of_token (hsql ▸ hchars) (endsSign_of_isWordChar hc) (t := .word l.sql none) ?_
    (fun rest hrest => ?_) fun n b p q s k hs => operand_literalWord h hs
  · rcases h with rfl | ⟨_ | _, rfl⟩ <;> decide
  · rw [hsql]
    exact hrest.reads_word hplain

/-- **A string of one character is a term**, unless the character escapes the quote. -/
theorem isTerm_char {c : Char} (hc : c ≠ '\'')
    (hescape : ¬ (c = '\\' ∧ d.backslashEscapes = true)) :
    IsTerm d 0 (.string c.toString) := by
  have hchars : (Expr.string c.toString).sql.toList = ['\'', c, '\''] := by
    simp [Expr.string, Expr.sql, Literal.sql, Literal.content, Quoting.doubled,
      Quoting.doubledFrom, hc, StringKind.mark, StringKind.quote]
  refine isTerm_of_token hchars (by cases d <;> decide) (t := .string .single c.toString) rfl
    (fun rest hrest => ?_) fun n b p q s k hs => operand_literal rfl hs
  rw [hchars]
  exact Lexer.reads_char hc hescape (hrest.head?_ne (by decide))

end Grammar
end Sql
end QueryTemplate
