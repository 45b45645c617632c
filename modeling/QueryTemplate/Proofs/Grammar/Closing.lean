/-
# Parentheses in pairs

Which parenthesis closes an open one depends on the tokens alone: each opening one takes the
next closing one for itself (`closing`).  The grammar agrees with this.  Whatever a rule reads,
it reads parentheses in pairs, so that the parenthesis which closes an outer one is the same
before the rule and behind it (`Closes 0`).  A rule that goes on from behind an opening
parenthesis reads the one that closes it as well (`Closes 1`).

Behind `OPERATOR`, `TABLE` and `FILTER` there are rules that take tokens as they come.  So
`closing` finds nothing behind one of these words.

That a rule reads parentheses in pairs follows from its steps.  It is found as an instance:
there is one for each way to put rules together, and one for each rule of the grammar.
-/

import QueryTemplate.Proofs.Grammar.Where

namespace QueryTemplate
namespace Sql
namespace Grammar

/-! ## The parenthesis that closes -/

namespace Item

/-- Words behind which tokens may be taken as they come. -/
def rawWords : List String := ["OPERATOR", "TABLE", "FILTER"]

/-- Whether `closing` looks behind the token: it stands in the text, it has a keyword only if it
is a word, and it is none of the `rawWords`. -/
def isOrderly (i : Item) : Bool :=
  i.place.isSome && !rawWords.contains i.keyword &&
    match i.token with
    | .word .. => true
    | _ => i.keyword == ""

/-- Whether the token is a parenthesis. -/
def isParenthesis (i : Item) : Bool := i.token == .symbol "(" || i.token == .symbol ")"

/-- A keyword is no parenthesis. -/
theorem isParenthesis_of_keyword {i : Item} (hi : i.isOrderly = true) (hk : i.keyword ≠ "") :
    i.isParenthesis = false := by
  obtain ⟨t, k, place, b⟩ := i
  cases t <;> simp_all [isOrderly, isParenthesis]

/-- A string is no parenthesis. -/
theorem isParenthesis_of_string? {i : Item} {text : String} (h : i.string? = some text) :
    i.isParenthesis = false := by
  obtain ⟨t, k, place, b⟩ := i
  cases t with
  | string => rfl
  | _ => cases h

/-- A name is no parenthesis. -/
theorem isParenthesis_of_ident? {i : Item} {w : Ident} (h : i.ident? = some w) :
    i.isParenthesis = false := by
  obtain ⟨t, k, place, b⟩ := i
  cases t with
  | symbol => cases h
  | _ => rfl

/-- What is read as a symbol is that symbol's token. -/
theorem token_of_isSymbol {i : Item} {t : String} (h : i.isSymbol t = true) :
    i.token = .symbol t := by
  rw [isSymbol, Bool.and_eq_true, beq_iff_eq] at h
  exact h.1

end Item

/-- The parenthesis that closes the outermost of `n + 1` open ones, and what stands behind it. -/
def closing : Nat → List Item → Option (Item × List Item)
  | _, [] => none
  | n, i :: s =>
    if !i.isOrderly then none
    else if i.token == .symbol "(" then closing (n + 1) s
    else if i.token == .symbol ")" then
      match n with
      | 0 => some (i, s)
      | n + 1 => closing n s
    else closing n s

/-- Between `s` and `t`, parentheses come in pairs, but for `k` closing ones. -/
def Leads (k : Nat) (s t : List Item) : Prop :=
  ∀ n found, closing (n + k) s = some found → closing n t = some found

section Leads

variable {j k n : Nat} {i : Item} {s t u : List Item} {found : Item × List Item}

/-- Where a closing parenthesis is found, the next token is an orderly one. -/
theorem isOrderly_of_closing (h : closing n (i :: s) = some found) : i.isOrderly = true := by
  unfold closing at h
  split at h
  · cases h
  · rename_i hi
    simpa using hi

/-- The closing parenthesis that is next closes the last open one. -/
theorem closing_zero (hi : i.token = .symbol ")") (h : closing 0 (i :: s) = some found) :
    found = (i, s) := by
  unfold closing at h
  split at h
  · cases h
  · simpa [hi] using h.symm

namespace Leads

theorem refl (s : List Item) : Leads 0 s s := fun _ _ h => h

/-- At the end no parenthesis closes, so it leads anywhere. -/
theorem nil : Leads k [] t := fun _ _ h => nomatch h

/-- The parentheses closed on the way add up. -/
theorem trans (h : Leads j s t) (h' : Leads k t u) : Leads (j + k) s u := by
  intro n found hfound
  refine h' n found (h (n + k) found ?_)
  rwa [Nat.add_assoc, Nat.add_comm k j]

/-- A token that is no parenthesis opens and closes nothing. -/
theorem past (hi : i.isOrderly = true → i.isParenthesis = false) : Leads 0 (i :: s) s := by
  intro n found h
  have hplain := hi (isOrderly_of_closing h)
  rw [Item.isParenthesis, Bool.or_eq_false_iff] at hplain
  unfold closing at h
  split at h
  · cases h
  · simpa [hplain] using h

/-- A keyword opens and closes nothing. -/
theorem past_keyword (hi : i.keyword ≠ "") : Leads 0 (i :: s) s :=
  past fun h => Item.isParenthesis_of_keyword h hi

/-- Behind an opening parenthesis, one more is to be closed. -/
theorem opened (hi : i.token = .symbol "(") (h : Leads (k + 1) s t) : Leads k (i :: s) t := by
  intro n found hfound
  refine h n found ?_
  unfold closing at hfound
  split at hfound
  · cases hfound
  · simpa [hi, Nat.add_assoc] using hfound

/-- A closing parenthesis closes one of the open ones. -/
theorem closed (hi : i.token = .symbol ")") : Leads 1 (i :: s) s := by
  intro n found h
  unfold closing at h
  split at h
  · cases h
  · simpa [hi] using h

/-- A token that is no parenthesis can be put back. -/
theorem putBack (hi : i.isOrderly = true) (hplain : i.isParenthesis = false) :
    Leads 0 s (i :: s) := by
  intro n found h
  rw [Item.isParenthesis, Bool.or_eq_false_iff] at hplain
  unfold closing
  simpa [hi, hplain] using h

/-- Nothing is found behind a word whose tokens may be taken as they come. -/
theorem raw (hi : i.keyword ∈ Item.rawWords) : Leads k (i :: s) t := by
  intro n found h
  have := isOrderly_of_closing h
  simp [Item.isOrderly, hi] at this

/-- Several keywords open and close nothing. -/
theorem past_keywords {ks : List String} (hks : ∀ w ∈ ks, w ≠ "") {s : List Item}
    (h : (s.take ks.length).map Item.keyword = ks) : Leads 0 s (s.drop ks.length) := by
  induction ks generalizing s with
  | nil => exact refl _
  | cons w ks ih =>
    cases s with
    | nil => exact nil
    | cons i s =>
      obtain ⟨hi, hrest⟩ := List.cons.inj h
      have hfirst : Leads 0 (i :: s) s := past_keyword (hi ▸ hks w (by simp))
      exact hfirst.trans (ih (fun w hw => hks w (by simp [hw])) hrest)

end Leads

end Leads

/-! ## What a run went through -/

section Run

variable {α β : Type} {env : Nested} {s t u : List Item} {R : Rule α} {f : α → Rule β} {a c : α}
  {b : β}

/-- Two rules one after the other give a value when both of them do. -/
theorem bind_eq_ok_iff : (R >>= f) env s = .ok (b, u) ↔
    ∃ a t, R env s = .ok (a, t) ∧ f a env t = .ok (b, u) := by
  simp only [bind, ReaderT.bind, StateT.bind, Except.bind]
  cases R env s with
  | error e => simp
  | ok found =>
    obtain ⟨a, t⟩ := found
    simp [Except.ok.injEq, Prod.mk.injEq, and_assoc]

/-- What comes after a rule that gives a value. -/
theorem eq_of_bind {o : Outcome β} (h : (R >>= f) env s = o) (hR : R env s = .ok (a, t)) :
    f a env t = o :=
  (bind_eq hR rfl).symm.trans h

/-- A rule that gives a value gives it and takes nothing. -/
theorem pure_eq_ok (h : (pure a : Rule α) env s = .ok (c, t)) : a = c ∧ s = t :=
  Prod.mk.inj (Except.ok.inj h)

/-- What comes behind the next token, which is `ending` at the end of the text. -/
theorem next_eq_ok {f : Item → Rule β} (h : (next >>= f) env s = .ok (b, t)) :
    (∃ i u, s = i :: u ∧ f i env u = .ok (b, t)) ∨ s = [] ∧ f .ending env [] = .ok (b, t) := by
  cases s with
  | nil => exact .inr ⟨rfl, eq_of_bind h rfl⟩
  | cons i u => exact .inl ⟨i, u, rfl, eq_of_bind h rfl⟩

variable {w : String} {found : Bool}

/-- A symbol is taken if it stands there, and nothing is taken otherwise. -/
theorem symbol_eq_ok (h : symbol w env s = .ok (found, t)) :
    found = true ∧ (∃ i, i.isSymbol w = true ∧ s = i :: t) ∨ found = false ∧ s = t := by
  unfold symbol at h
  replace h := eq_of_bind (a := (s.getD 0 .ending).isSymbol w) h rfl
  split at h
  · rename_i hnext
    obtain ⟨rfl, rfl⟩ := Prod.mk.inj (Except.ok.inj h)
    cases s with
    | nil => simp [Item.ending, Item.isSymbol] at hnext
    | cons i s => exact .inl ⟨rfl, i, hnext, rfl⟩
  · obtain ⟨rfl, rfl⟩ := pure_eq_ok h
    exact .inr ⟨rfl, rfl⟩

/-- Several symbols are taken together or not at all. -/
theorem symbols_eq_ok {ws : List String} (h : symbols ws env s = .ok (found, t)) :
    (∃ u, u.map Item.token = ws.map .symbol ∧ s = u ++ t) ∨ s = t := by
  unfold symbols at h
  replace h := eq_of_bind h rfl
  split at h
  · rename_i hnext
    obtain ⟨-, rfl⟩ := Prod.mk.inj (Except.ok.inj h)
    rw [Bool.and_eq_true, decide_eq_true_iff] at hnext
    obtain ⟨hlength, hall⟩ := hnext
    refine .inl ⟨s.take ws.length, ?_, (List.take_append_drop _ s).symm⟩
    clear h
    induction ws generalizing s with
    | nil => simp
    | cons w ws ih =>
      cases s with
      | nil => simp at hlength
      | cons i s =>
        simp only [List.zip_cons_cons, List.all_cons, Bool.and_eq_true] at hall
        simp only [List.length_cons, Nat.add_le_add_iff_right] at hlength
        simp [Item.token_of_isSymbol hall.1, ih hlength hall.2]
  · exact .inr (pure_eq_ok h).2

/-- A symbol that is expected is taken. -/
theorem expectSymbol_eq_ok {x : Unit} (h : expectSymbol w env s = .ok (x, t)) :
    ∃ i, i.isSymbol w = true ∧ s = i :: t := by
  unfold expectSymbol at h
  obtain ⟨found, u, hfound, hrest⟩ := bind_eq_ok_iff.1 h
  rcases symbol_eq_ok hfound with ⟨rfl, i, hi, rfl⟩ | ⟨rfl, rfl⟩
  · obtain ⟨-, rfl⟩ := pure_eq_ok hrest
    exact ⟨i, hi, rfl⟩
  · cases hrest

/-- A keyword is taken if it stands there, and nothing is taken otherwise. -/
theorem keyword_eq_ok (hw : w ≠ "") (h : keyword w env s = .ok (found, t)) :
    found = true ∧ (∃ i, i.keyword = w ∧ s = i :: t) ∨ found = false ∧ s = t := by
  unfold keyword at h
  replace h := eq_of_bind (a := (s.getD 0 .ending).keyword == w) h rfl
  split at h
  · rename_i hnext
    obtain ⟨rfl, rfl⟩ := Prod.mk.inj (Except.ok.inj h)
    cases s with
    | nil => simp [Item.ending, hw.symm] at hnext
    | cons i s => exact .inl ⟨rfl, i, by simpa using hnext, rfl⟩
  · obtain ⟨rfl, rfl⟩ := pure_eq_ok h
    exact .inr ⟨rfl, rfl⟩

end Run

/-! ## Rules -/

/-- The rules one level further in read parentheses in pairs. -/
structure Nested.Paired (env : Nested) : Prop where
  expr : ∀ {precedence s e t}, env.expr precedence s = .ok (e, t) → Leads 0 s t
  query : ∀ {s q t}, env.query s = .ok (q, t) → Leads 0 s t
  relationship : ∀ {s e t}, env.relationship s = .ok (e, t) → Leads 0 s t

variable {α β γ : Type} {k : Nat} {R : Rule α} {f : α → Rule β} {A B : Rule β}

/-- The rule reads parentheses in pairs, but for `k` closing ones. -/
class Closes (k : Nat) (R : Rule α) : Prop where
  leads : ∀ {env : Nested} {s a t}, env.Paired → R env s = .ok (a, t) → Leads k s t

namespace Closes

/-- A rule that fails reads nothing. -/
theorem of_error (h : ∀ env s, ∃ e, R env s = .error e) : Closes k R := by
  refine ⟨fun {env s a t} _ ha => ?_⟩
  obtain ⟨e, he⟩ := h env s
  rw [he] at ha
  cases ha

/-- A rule that only looks ahead reads nothing. -/
theorem of_look {look : Nested → List Item → α} (h : ∀ env s, R env s = .ok (look env s, s)) :
    Closes 0 R := by
  refine ⟨fun {env s a t} _ ha => ?_⟩
  obtain ⟨-, rfl⟩ := Prod.mk.inj (Except.ok.inj ((h env s).symm.trans ha))
  exact .refl _

end Closes

instance closes_pure (a : α) : Closes 0 (pure a : Rule α) := .of_look fun _ _ => rfl

instance closes_fail (e : SyntaxError) : Closes k (fail e : Rule α) := .of_error fun _ _ => ⟨e, rfl⟩

instance closes_expectedAt (what : String) (i : Item) : Closes k (expectedAt what i : Rule α) :=
  .of_error fun _ _ => ⟨_, rfl⟩

instance closes_expected (what : String) : Closes k (expected what : Rule α) :=
  .of_error fun _ _ => ⟨_, rfl⟩

instance closes_fault (wording : String) : Closes k (fault wording : Rule α) :=
  .of_error fun _ _ => ⟨_, rfl⟩

instance closes_dialect : Closes 0 dialect := .of_look fun _ _ => rfl

instance closes_get : Closes 0 (get : Rule (List Item)) := .of_look fun _ _ => rfl

instance closes_peekAt (n : Nat) : Closes 0 (peekAt n) := .of_look fun _ _ => rfl

instance closes_peek : Closes 0 peek := .of_look fun _ _ => rfl

instance closes_peekKeyword (w : String) : Closes 0 (peekKeyword w) := .of_look fun _ _ => rfl

instance closes_peekSymbol (w : String) : Closes 0 (peekSymbol w) := .of_look fun _ _ => rfl

instance closes_peekQuery : Closes 0 peekQuery := .of_look fun _ _ => rfl

instance closes_exprAbove (precedence : Nat) : Closes 0 (exprAbove precedence) :=
  ⟨fun hp h => hp.expr h⟩

instance closes_expr : Closes 0 expr := closes_exprAbove 0

instance closes_query : Closes 0 query := ⟨fun hp h => hp.query h⟩

instance closes_relationship : Closes 0 relationship := ⟨fun hp h => hp.relationship h⟩

instance closes_relating : Closes 0 relating := .of_look fun _ _ => rfl

/-! ### One rule after the other -/

instance closes_bind [Closes 0 R] [∀ a, Closes k (f a)] : Closes k (R >>= f) := by
  refine ⟨fun hp h => ?_⟩
  obtain ⟨a, u, ha, hrest⟩ := bind_eq_ok_iff.1 h
  have hR : Leads 0 _ u := Closes.leads hp ha
  have hf : Leads k u _ := Closes.leads hp hrest
  simpa using hR.trans hf

/-- A rule that closes what it opens may stand before one that closes `k` levels. -/
theorem Closes.bind (hR : Closes 0 R) (hf : ∀ a, Closes k (f a)) : Closes k (R >>= f) := closes_bind

/-- Once the open parenthesis is closed, the rest reads pairs. -/
instance closes_bind_closed [Closes 1 R] [∀ a, Closes 0 (f a)] : Closes 1 (R >>= f) := by
  refine ⟨fun hp h => ?_⟩
  obtain ⟨a, u, ha, hrest⟩ := bind_eq_ok_iff.1 h
  have hR : Leads 1 _ u := Closes.leads hp ha
  have hf : Leads 0 u _ := Closes.leads hp hrest
  exact hR.trans hf

/-- A rule that closes a level may be followed by one that closes what it opens. -/
theorem Closes.bind_closed (hR : Closes 1 R) (hf : ∀ a, Closes 0 (f a)) : Closes 1 (R >>= f) :=
  closes_bind_closed

instance closes_bind_option {R : Rule (Option α)} {f : Option α → Rule β} [Closes 0 R]
    [∀ a, Closes k (f (some a))] [Closes k (f none)] : Closes k (R >>= f) := by
  have : ∀ a, Closes k (f a) := by
    rintro (- | a) <;> infer_instance
  infer_instance

instance closes_bind_prod {R : Rule (α × γ)} {f : α × γ → Rule β} [Closes 0 R]
    [∀ a c, Closes k (f (a, c))] : Closes k (R >>= f) := by
  have : ∀ p, Closes k (f p) := fun (a, c) => inferInstance
  infer_instance

instance closes_ite {c : Prop} [Decidable c] [Closes k A] [Closes k B] :
    Closes k (if c then A else B) := by
  split <;> infer_instance

/-- A rule closes `k` levels if it does so either way. -/
theorem Closes.ite {c : Prop} [Decidable c] (hA : Closes k A) (hB : Closes k B) :
    Closes k (if c then A else B) :=
  closes_ite

instance closes_onlyIf (allowed : Bool) {R : Rule Bool} [Closes 0 R] :
    Closes 0 (onlyIf allowed R) := by
  unfold onlyIf
  infer_instance

instance closes_attempt [Closes 0 R] : Closes 0 (attempt R) := by
  refine ⟨fun {env s a t} hp h => ?_⟩
  unfold attempt at h
  split at h
  · rename_i hR
    obtain ⟨-, rfl⟩ := Prod.mk.inj (Except.ok.inj h)
    exact Closes.leads hp hR
  · cases h
  · obtain ⟨-, rfl⟩ := Prod.mk.inj (Except.ok.inj h)
    exact .refl _

/-- An attempt may close the open parenthesis, and leaves it open if it fails. -/
instance closes_bind_attempt {f : Option α → Rule β} [Closes 1 R] [∀ a, Closes 0 (f (some a))]
    [Closes 1 (f none)] : Closes 1 (attempt R >>= f) := by
  refine ⟨fun {env s a t} hp h => ?_⟩
  obtain ⟨found, u, hfound, hrest⟩ := bind_eq_ok_iff.1 h
  unfold attempt at hfound
  split at hfound
  · rename_i b u' hR
    obtain ⟨rfl, rfl⟩ := Prod.mk.inj (Except.ok.inj hfound)
    have hR : Leads 1 s u' := Closes.leads hp hR
    have hf : Leads 0 u' t := Closes.leads hp hrest
    exact hR.trans hf
  · cases hfound
  · obtain ⟨rfl, rfl⟩ := Prod.mk.inj (Except.ok.inj hfound)
    exact Closes.leads hp hrest

instance closes_outcome [Closes 0 R] : Closes 0 (outcome R) := by
  refine ⟨fun {env s a t} hp h => ?_⟩
  unfold outcome at h
  split at h
  · rename_i hR
    obtain ⟨-, rfl⟩ := Prod.mk.inj (Except.ok.inj h)
    exact Closes.leads hp hR
  · obtain ⟨-, rfl⟩ := Prod.mk.inj (Except.ok.inj h)
    exact .refl _

/-! ### Repetition -/

instance closes_repeatUpTo {R : Rule (Option α)} [Closes 0 R] (fuel : Nat) :
    Closes 0 (repeatUpTo R fuel) := by
  induction fuel with
  | zero => exact closes_pure _
  | succ fuel ih =>
    unfold repeatUpTo
    infer_instance

instance closes_repeated {R : Rule (Option α)} [Closes 0 R] : Closes 0 (repeated R) := by
  unfold repeated
  infer_instance

instance closes_iterateUpTo {round : α → Rule (Option α)} [∀ a, Closes 0 (round a)] (fuel : Nat)
    (a : α) : Closes 0 (iterateUpTo round fuel a) := by
  induction fuel generalizing a with
  | zero => exact closes_pure _
  | succ fuel ih =>
    unfold iterateUpTo
    infer_instance

instance closes_iterated {round : α → Rule (Option α)} [∀ a, Closes 0 (round a)] (a : α) :
    Closes 0 (iterated round a) := by
  unfold iterated
  infer_instance

/-- A rule that is repeated closes what it opens if each round does. -/
theorem Closes.iterated {round : α → Rule (Option α)} (h : ∀ a, Closes 0 (round a)) (a : α) :
    Closes 0 (iterated round a) :=
  closes_iterated a

/-! ### Keywords -/

/-- The string is spelled as it is; this shows the first letter of a literal. -/
class Spelled (w : String) (spelling : outParam String) : Prop where
  eq : w = spelling

instance spelled_self (w : String) : Spelled w w := ⟨rfl⟩

/-- The string is not empty. -/
class IsWord (w : String) : Prop where
  ne_empty : w ≠ ""

instance isWord_of_spelled (w : String) (c : Char) (cs : List Char)
    [h : Spelled w (String.ofList (c :: cs))] : IsWord w := by
  refine ⟨?_⟩
  rw [h.eq]
  simp

/-- None of the strings is empty. -/
class AreWords (ks : List String) : Prop where
  ne_empty : ∀ w ∈ ks, w ≠ ""

instance areWords_nil : AreWords [] := ⟨by simp⟩

instance areWords_cons (w : String) (ks : List String) [IsWord w] [AreWords ks] :
    AreWords (w :: ks) :=
  ⟨by simpa using ⟨IsWord.ne_empty, AreWords.ne_empty⟩⟩

instance closes_keyword (w : String) [hw : IsWord w] : Closes 0 (keyword w) := by
  refine ⟨fun _ h => ?_⟩
  rcases keyword_eq_ok hw.ne_empty h with ⟨-, i, hi, rfl⟩ | ⟨-, rfl⟩
  · exact .past_keyword (hi ▸ hw.ne_empty)
  · exact .refl _

/-- Behind a word whose tokens may be taken as they come, the rule may do anything. -/
theorem closes_bind_raw {w : String} (hw : w ∈ Item.rawWords) [Closes k B] :
    Closes k (keyword w >>= fun found => if found = true then A else B) := by
  have hne : w ≠ "" := by
    rintro rfl
    exact absurd hw (by decide)
  refine ⟨fun hp h => ?_⟩
  obtain ⟨found, u, hfound, hrest⟩ := bind_eq_ok_iff.1 h
  rcases keyword_eq_ok hne hfound with ⟨-, i, hi, rfl⟩ | ⟨rfl, rfl⟩
  · exact .raw (hi ▸ hw)
  · exact Closes.leads (R := B) hp hrest

instance closes_keywords (ks : List String) [h : AreWords ks] : Closes 0 (keywords ks) := by
  refine ⟨fun {env s a t} _ hrun => ?_⟩
  unfold keywords at hrun
  replace hrun := eq_of_bind hrun rfl
  split at hrun
  · rename_i hnext
    obtain ⟨-, rfl⟩ := Prod.mk.inj (Except.ok.inj hrun)
    exact .past_keywords h.ne_empty (by simpa using hnext)
  · obtain ⟨-, rfl⟩ := pure_eq_ok hrun
    exact .refl _

instance closes_oneOf (ks : List String) : Closes 0 (oneOf ks) := by
  refine ⟨fun {env s a t} _ hrun => ?_⟩
  unfold oneOf at hrun
  replace hrun := eq_of_bind hrun rfl
  split at hrun
  · rename_i hnext
    obtain ⟨-, rfl⟩ := Prod.mk.inj (Except.ok.inj hrun)
    cases s with
    | nil => exact .nil
    | cons i s => exact .past_keyword (by simpa using (Bool.and_eq_true_iff.1 hnext).1)
  · obtain ⟨-, rfl⟩ := pure_eq_ok hrun
    exact .refl _

instance closes_expectKeyword (w : String) [IsWord w] : Closes 0 (expectKeyword w) := by
  unfold expectKeyword
  infer_instance

instance closes_expectKeywords_nil : Closes 0 (expectKeywords []) := closes_pure _

instance closes_expectKeywords_cons (w : String) (ks : List String) [IsWord w]
    [Closes 0 (expectKeywords ks)] : Closes 0 (expectKeywords (w :: ks)) := by
  unfold expectKeywords
  infer_instance

instance closes_expectOneOf (ks : List String) : Closes 0 (expectOneOf ks) := by
  unfold expectOneOf
  infer_instance

/-! ### Symbols -/

/-- The symbol is no parenthesis. -/
class IsPlainSymbol (w : String) : Prop where
  ne_open : w ≠ "("
  ne_close : w ≠ ")"

instance isPlainSymbol_comma : IsPlainSymbol "," := ⟨by decide, by decide⟩

instance isPlainSymbol_point : IsPlainSymbol "." := ⟨by decide, by decide⟩

instance isPlainSymbol_colon : IsPlainSymbol ":" := ⟨by decide, by decide⟩

instance isPlainSymbol_equal : IsPlainSymbol "=" := ⟨by decide, by decide⟩

instance isPlainSymbol_plus : IsPlainSymbol "+" := ⟨by decide, by decide⟩

instance isPlainSymbol_minus : IsPlainSymbol "-" := ⟨by decide, by decide⟩

instance isPlainSymbol_less : IsPlainSymbol "<" := ⟨by decide, by decide⟩

instance isPlainSymbol_greater : IsPlainSymbol ">" := ⟨by decide, by decide⟩

instance isPlainSymbol_at : IsPlainSymbol "@" := ⟨by decide, by decide⟩

instance isPlainSymbol_star : IsPlainSymbol "*" := ⟨by decide, by decide⟩

instance isPlainSymbol_assign : IsPlainSymbol ":=" := ⟨by decide, by decide⟩

instance isPlainSymbol_arrow : IsPlainSymbol "=>" := ⟨by decide, by decide⟩

instance isPlainSymbol_bang : IsPlainSymbol "!" := ⟨by decide, by decide⟩

instance isPlainSymbol_cast : IsPlainSymbol "::" := ⟨by decide, by decide⟩

instance isPlainSymbol_shift : IsPlainSymbol ">>" := ⟨by decide, by decide⟩

instance isPlainSymbol_caret : IsPlainSymbol "^" := ⟨by decide, by decide⟩

instance isPlainSymbol_bar : IsPlainSymbol "|" := ⟨by decide, by decide⟩

instance isPlainSymbol_openBracket : IsPlainSymbol "[" := ⟨by decide, by decide⟩

instance isPlainSymbol_closeBracket : IsPlainSymbol "]" := ⟨by decide, by decide⟩

instance isPlainSymbol_openBrace : IsPlainSymbol "\x7b" := ⟨by decide, by decide⟩

instance isPlainSymbol_closeBrace : IsPlainSymbol "\x7d" := ⟨by decide, by decide⟩

/-- A plain symbol is no parenthesis. -/
theorem Item.isParenthesis_of_token {i : Item} {w : String} [hw : IsPlainSymbol w]
    (hi : i.token = .symbol w) : i.isParenthesis = false := by
  simp [isParenthesis, hi, hw.ne_open, hw.ne_close]

/-- A plain symbol opens and closes nothing. -/
theorem Leads.past_symbol {i : Item} {w : String} [IsPlainSymbol w] {s : List Item}
    (hi : i.token = .symbol w) : Leads 0 (i :: s) s :=
  .past fun _ => Item.isParenthesis_of_token hi

instance closes_symbol (w : String) [IsPlainSymbol w] : Closes 0 (symbol w) := by
  refine ⟨fun _ h => ?_⟩
  rcases symbol_eq_ok h with ⟨-, i, hi, rfl⟩ | ⟨-, rfl⟩
  · exact .past_symbol (Item.token_of_isSymbol hi)
  · exact .refl _

instance closes_expectSymbol (w : String) [IsPlainSymbol w] : Closes 0 (expectSymbol w) := by
  unfold expectSymbol
  infer_instance

instance closes_symbols_points : Closes 0 (symbols [".", "."]) := by
  refine ⟨fun {env s a t} _ h => ?_⟩
  rcases symbols_eq_ok h with ⟨u, hu, rfl⟩ | rfl
  · obtain ⟨i, u, rfl, hi, hu⟩ := List.map_eq_cons_iff.1 hu
    obtain ⟨j, u, rfl, hj, hu⟩ := List.map_eq_cons_iff.1 hu
    obtain rfl := List.map_eq_nil_iff.1 hu
    have hfirst : Leads 0 (i :: j :: t) (j :: t) := .past_symbol hi
    exact hfirst.trans (.past_symbol hj)
  · exact .refl _

instance closes_symbols_pair : Closes 0 (symbols ["(", ")"]) := by
  refine ⟨fun {env s a t} _ h => ?_⟩
  rcases symbols_eq_ok h with ⟨u, hu, rfl⟩ | rfl
  · obtain ⟨i, u, rfl, hi, hu⟩ := List.map_eq_cons_iff.1 hu
    obtain ⟨j, u, rfl, hj, hu⟩ := List.map_eq_cons_iff.1 hu
    obtain rfl := List.map_eq_nil_iff.1 hu
    exact .opened hi (.closed hj)
  · exact .refl _

instance closes_symbols_plus : Closes 0 (symbols ["(", "+", ")"]) := by
  refine ⟨fun {env s a t} _ h => ?_⟩
  rcases symbols_eq_ok h with ⟨u, hu, rfl⟩ | rfl
  · obtain ⟨i, u, rfl, hi, hu⟩ := List.map_eq_cons_iff.1 hu
    obtain ⟨j, u, rfl, hj, hu⟩ := List.map_eq_cons_iff.1 hu
    obtain ⟨l, u, rfl, hl, hu⟩ := List.map_eq_cons_iff.1 hu
    obtain rfl := List.map_eq_nil_iff.1 hu
    have hplus : Leads 0 (j :: l :: t) (l :: t) := .past_symbol hj
    exact .opened hi (hplus.trans (.closed hl))
  · exact .refl _

/-- What is opened is closed. -/
instance closes_bind_open [Closes 1 A] [Closes 0 B] :
    Closes 0 (symbol "(" >>= fun found => if found = true then A else B) := by
  refine ⟨fun hp h => ?_⟩
  obtain ⟨found, u, hfound, hrest⟩ := bind_eq_ok_iff.1 h
  rcases symbol_eq_ok hfound with ⟨rfl, i, hi, rfl⟩ | ⟨rfl, rfl⟩
  · exact .opened (Item.token_of_isSymbol hi) (Closes.leads (R := A) hp hrest)
  · exact Closes.leads (R := B) hp hrest

/-- Behind an opening parenthesis, which is taken if it stands there, one more level has to be
closed. -/
theorem Closes.bind_open (hA : Closes 1 A) (hB : Closes 0 B) :
    Closes 0 (symbol "(" >>= fun found => if found = true then A else B) :=
  closes_bind_open

instance closes_bind_onlyIf_open {allowed : Bool} [Closes 1 A] [Closes 0 B] :
    Closes 0 (onlyIf allowed (symbol "(") >>= fun found => if found = true then A else B) := by
  cases allowed with
  | false => exact (inferInstance : Closes 0 B)
  | true => exact closes_bind_open

instance closes_bind_close [Closes 0 A] [Closes 1 B] :
    Closes 1 (symbol ")" >>= fun found => if found = true then A else B) := by
  refine ⟨fun hp h => ?_⟩
  obtain ⟨found, u, hfound, hrest⟩ := bind_eq_ok_iff.1 h
  rcases symbol_eq_ok hfound with ⟨rfl, i, hi, rfl⟩ | ⟨rfl, rfl⟩
  · exact (Leads.closed (Item.token_of_isSymbol hi)).trans (Closes.leads (R := A) (k := 0) hp hrest)
  · exact Closes.leads (R := B) hp hrest

instance closes_expect_open {f : Unit → Rule β} [Closes 1 (f ())] :
    Closes 0 (expectSymbol "(" >>= f) := by
  refine ⟨fun hp h => ?_⟩
  obtain ⟨_, u, hopen, hrest⟩ := bind_eq_ok_iff.1 h
  obtain ⟨i, hi, rfl⟩ := expectSymbol_eq_ok hopen
  exact .opened (Item.token_of_isSymbol hi) (Closes.leads (R := f ()) hp hrest)

instance closes_expect_close : Closes 1 (expectSymbol ")") := by
  unfold expectSymbol
  infer_instance

/-- What is opened behind a keyword is closed. -/
instance closes_bind_keywordOpening (w : String) [hw : IsWord w] [Closes 1 A] [Closes 0 B] :
    Closes 0 (keywordOpening w >>= fun found => if found = true then A else B) := by
  refine ⟨fun {env s a t} hp h => ?_⟩
  obtain ⟨found, u, hfound, hrest⟩ := bind_eq_ok_iff.1 h
  unfold keywordOpening at hfound
  replace hfound := eq_of_bind hfound rfl
  replace hfound := eq_of_bind hfound rfl
  split at hfound
  · rename_i hnext
    obtain ⟨rfl, rfl⟩ := Prod.mk.inj (Except.ok.inj hfound)
    match s with
    | [] => exact .nil
    | [i] => simp [Item.ending, Item.isSymbol] at hnext
    | i :: j :: u =>
      obtain ⟨hi, hj⟩ := Bool.and_eq_true_iff.1 hnext
      have hkeyword : Leads 0 (i :: j :: u) (j :: u) :=
        .past_keyword (beq_iff_eq.1 hi ▸ hw.ne_empty)
      have hopened : Leads 0 (j :: u) t :=
        .opened (Item.token_of_isSymbol hj) (Closes.leads (R := A) hp hrest)
      exact hkeyword.trans hopened
  · obtain ⟨rfl, rfl⟩ := pure_eq_ok hfound
    exact Closes.leads (R := B) hp hrest

instance closes_inParentheses [Closes 0 R] : Closes 0 (inParentheses R) := by
  unfold inParentheses
  infer_instance

/-- A rule in parentheses closes what it opens if the rule does. -/
theorem Closes.inParentheses (h : Closes 0 R) : Closes 0 (inParentheses R) := closes_inParentheses

instance closes_commaSeparated [Closes 0 R] : Closes 0 (commaSeparated R) := by
  unfold commaSeparated
  infer_instance

instance closes_commaSeparatedBefore (w : String) [Closes 0 R] :
    Closes 0 (commaSeparatedBefore w R) := by
  unfold commaSeparatedBefore
  infer_instance

/-! ### The next token -/

section Token

variable {i : Item}

/-- Together with the token that was read before it, the rule reads parentheses in pairs, but
for `k` closing ones. -/
class ClosesBehind (k : Nat) (i : Item) (R : Rule α) : Prop where
  leads : ∀ {env : Nested} {s a t}, env.Paired → R env s = .ok (a, t) → Leads k (i :: s) t

/-- Where the token is next, the rule reads parentheses in pairs, but for `k` closing ones. -/
class ClosesAt (k : Nat) (i : Item) (R : Rule α) : Prop where
  leads : ∀ {env : Nested} {s a t}, env.Paired → R env (i :: s) = .ok (a, t) → Leads k (i :: s) t

namespace ClosesBehind

/-- A rule that always refuses closes whatever is asked of it. -/
theorem of_error (h : ∀ env s, ∃ e, R env s = .error e) : ClosesBehind k i R := by
  refine ⟨fun {env s a t} _ ha => ?_⟩
  obtain ⟨e, he⟩ := h env s
  rw [he] at ha
  cases ha

/-- Behind a token that is no parenthesis. -/
theorem of_plain (hi : i.isOrderly = true → i.isParenthesis = false) (hR : Closes k R) :
    ClosesBehind k i R := by
  refine ⟨fun hp h => ?_⟩
  simpa using (Leads.past hi).trans (hR.leads hp h)

/-- Behind a keyword a rule closes as many levels as with it. -/
theorem of_keyword (hi : i.keyword ≠ "") (hR : Closes k R) : ClosesBehind k i R :=
  of_plain (fun h => Item.isParenthesis_of_keyword h hi) hR

/-- Behind a plain symbol a rule closes as many levels as with it. -/
theorem of_isSymbol {w : String} [IsPlainSymbol w] (hi : i.isSymbol w = true) (hR : Closes k R) :
    ClosesBehind k i R :=
  of_plain (fun _ => Item.isParenthesis_of_token (Item.token_of_isSymbol hi)) hR

/-- `closing` looks behind orderly tokens only. -/
theorem of_orderly (h : i.isOrderly = true → ClosesBehind k i R) : ClosesBehind k i R := by
  refine ⟨fun hp hrun n found hfound => ?_⟩
  exact (h (isOrderly_of_closing hfound)).leads hp hrun n found hfound

/-- The rule after one that was entered behind an item closes the levels that are left. -/
theorem bind (hR : ClosesBehind 0 i R) (hf : ∀ a, Closes k (f a)) : ClosesBehind k i (R >>= f) := by
  refine ⟨fun {env s b t} hp h => ?_⟩
  obtain ⟨a, u, ha, hrest⟩ := bind_eq_ok_iff.1 h
  have hread : Leads 0 (i :: s) u := hR.leads hp ha
  have hfurther : Leads k u t := (hf a).leads hp hrest
  simpa using hread.trans hfurther

/-- Behind a parenthesis that the rule closes. -/
theorem of_open (hi : i.token = .symbol "(") (hR : Closes 1 R) : ClosesBehind 0 i R :=
  ⟨fun hp h => .opened hi (hR.leads hp h)⟩

end ClosesBehind

instance closesBehind_word {s w : String} {q : Option Char} {p : Option Text.Position}
    {b : Option Lexeme} [Closes k R] : ClosesBehind k ⟨.word s q, w, p, b⟩ R :=
  .of_plain (fun _ => rfl) inferInstance

instance closesBehind_number {ds w : String} {long : Bool} {p : Option Text.Position}
    {b : Option Lexeme} [Closes k R] : ClosesBehind k ⟨.number ds long, w, p, b⟩ R :=
  .of_plain (fun _ => rfl) inferInstance

instance closesBehind_string {kind : StringKind} {s w : String} {p : Option Text.Position}
    {b : Option Lexeme} [Closes k R] : ClosesBehind k ⟨.string kind s, w, p, b⟩ R :=
  .of_plain (fun _ => rfl) inferInstance

instance closesBehind_fail (e : SyntaxError) : ClosesBehind k i (fail e : Rule α) :=
  .of_error fun _ _ => ⟨e, rfl⟩

instance closesBehind_expectedAt (what : String) (j : Item) :
    ClosesBehind k i (expectedAt what j : Rule α) :=
  .of_error fun _ _ => ⟨_, rfl⟩

instance closesBehind_bind_dialect {f : Dialect → Rule α} [∀ d, ClosesBehind k i (f d)] :
    ClosesBehind k i (dialect >>= f) :=
  ⟨fun {env _ _ _} hp h => ClosesBehind.leads (R := f env.dialect) hp (eq_of_bind h rfl)⟩

instance (priority := low) closesAt_of_closes [Closes k R] : ClosesAt k i R := ⟨Closes.leads⟩

/-- A rule that closes `k` levels everywhere does so at any item. -/
theorem ClosesAt.of_closes (h : Closes k R) : ClosesAt k i R := inferInstance

instance closesAt_bind_dialect {f : Dialect → Rule α} [∀ d, ClosesAt k i (f d)] :
    ClosesAt k i (dialect >>= f) :=
  ⟨fun {env _ _ _} hp h => ClosesAt.leads (R := f env.dialect) hp (eq_of_bind h rfl)⟩

instance closesAt_bind_peekAt {n : Nat} {f : Item → Rule α} [∀ j, ClosesAt k i (f j)] :
    ClosesAt k i (peekAt n >>= f) :=
  ⟨fun hp h => ClosesAt.leads (R := f _) hp (eq_of_bind h rfl)⟩

instance closesBehind_bind_peekQuery {f : Bool → Rule α} [∀ b, ClosesBehind k i (f b)] :
    ClosesBehind k i (peekQuery >>= f) :=
  ⟨fun hp h => ClosesBehind.leads (R := f _) hp (eq_of_bind h rfl)⟩

instance closesAt_ite {c : Prop} [Decidable c] [ClosesAt k i A] [ClosesAt k i B] :
    ClosesAt k i (if c then A else B) := by
  split <;> infer_instance

/-- The rule goes on behind the parenthesis it opens. -/
theorem ClosesAt.expect_open {f : Unit → Rule α}
    (h : i.token = .symbol "(" → ClosesBehind k i (f ())) :
    ClosesAt k i (expectSymbol "(" >>= f) := by
  refine ⟨fun {env s a t} hp hrun => ?_⟩
  obtain ⟨_, u, hopen, hrest⟩ := bind_eq_ok_iff.1 hrun
  obtain ⟨j, hj, heq⟩ := expectSymbol_eq_ok hopen
  obtain ⟨rfl, rfl⟩ := List.cons.inj heq
  exact (h (Item.token_of_isSymbol hj)).leads hp hrest

/-- The rule goes on behind the token. -/
theorem ClosesAt.tail {f : Unit → Rule α} (h : ClosesBehind k i (f ())) :
    ClosesAt k i (modify List.tail >>= f) :=
  ⟨fun hp hrun => h.leads hp (eq_of_bind hrun rfl)⟩

instance closesAt_tail {f : Unit → Rule α} [h : ClosesBehind k i (f ())] :
    ClosesAt k i (modify List.tail >>= f) :=
  .tail h

/-- The token is put back. -/
theorem ClosesBehind.putBack {f : Unit → Rule α} (h : ClosesAt k i (f ())) :
    ClosesBehind k i (modify (i :: ·) >>= f) :=
  ⟨fun hp hrun => h.leads hp (eq_of_bind hrun rfl)⟩

/-- Putting back an orderly item that is no parenthesis closes what it opens. -/
theorem closes_putBack (hi : i.isOrderly = true) (hplain : i.isParenthesis = false) :
    Closes 0 (modify (i :: ·) : Rule PUnit) := by
  refine ⟨fun _ h => ?_⟩
  obtain ⟨-, rfl⟩ := Prod.mk.inj (Except.ok.inj h)
  exact .putBack hi hplain

/-- The rule goes on with the next token. -/
theorem Closes.of_peek {f : Item → Rule β} (h : ∀ i, ClosesAt k i (f i)) :
    Closes k (peek >>= f) := by
  refine ⟨fun {env s a t} hp hrun => ?_⟩
  cases s with
  | nil => exact .nil
  | cons i s => exact (h i).leads hp (eq_of_bind hrun rfl)

/-- A token that is no parenthesis may be taken as it stands. -/
theorem closes_exactly {t : Token} (ht : ∀ i : Item, i.token = t → i.isParenthesis = false) :
    Closes 0 (exactly t) := by
  unfold exactly
  refine .of_peek fun i => ?_
  split
  · rename_i hi
    exact .tail (.of_plain (fun _ => ht i (beq_iff_eq.1 hi)) inferInstance)
  · infer_instance

instance closes_exactly_word (text : String) (q : Option Char) :
    Closes 0 (exactly (.word text q)) :=
  closes_exactly fun i hi => by simp [Item.isParenthesis, hi]

instance closes_exactly_parameter (text : String) : Closes 0 (exactly (.parameter text)) :=
  closes_exactly fun i hi => by simp [Item.isParenthesis, hi]

/-- The rule goes on behind the next token. -/
theorem Closes.of_next {f : Item → Rule β} (h : ∀ i, ClosesBehind k i (f i)) :
    Closes k (next >>= f) := by
  refine ⟨fun hp hrun => ?_⟩
  rcases next_eq_ok hrun with ⟨i, u, rfl, hrest⟩ | ⟨rfl, -⟩
  · exact (h i).leads hp hrest
  · exact .nil

end Token

end Grammar
end Sql
end QueryTemplate
