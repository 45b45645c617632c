/-
# Quoted tokens of texts that differ in signs

A string, a quoted name or a comment has a form: how it is marked, and which quote stands on
either side.  Where two texts begin with the same character and differ in signs only, what is
quoted at the start of the one is quoted at the start of the other, in the same form and with as
many characters, and it is the same token just if these characters are the same
(`lexeme_sameForm`).
-/

import QueryTemplate.Proofs.Token.Alike
import QueryTemplate.Proofs.Token.Locality

namespace QueryTemplate
namespace Sql

namespace Token

/-- A string or a quoted name. -/
def isQuoted : Token → Bool
  | .string .. | .dollarString .. | .word _ (some _) => true
  | _ => false

/-- What is quoted or a comment, without its text; any other token as it is. -/
def form : Token → Token
  | .string kind _ => .string kind ""
  | .dollarString tag _ => .dollarString tag ""
  | .word _ (some quote) => .word "" (some quote)
  | .lineComment mark _ => .lineComment mark ""
  | .blockComment _ => .blockComment ""
  | t => t

/-- A token's form is quoted exactly if the token is. -/
theorem isQuoted_form (t : Token) : t.form.isQuoted = t.isQuoted := by
  cases t with
  | word _ quote => cases quote <;> rfl
  | _ => rfl

end Token

namespace Lexer

open Quoted (Alike Likewise NoSign Turns signs)

variable {d : Dialect} {c quote : Char} {s s' w : List Char} {t : Token} {n before : Nat}
  {r r' : Result}

/-- What is read as `r` in `s` is read as `r'` in `s'`: in the same form, with as many characters
after the first one, and as another token just if these characters are others. -/
def SameForm (s s' : List Char) (r r' : Result) : Prop :=
  ∀ t n, r = .ok (t, n) →
    ∃ t', r' = .ok (t', n) ∧ t'.form = t.form ∧ (t' = t ↔ s'.take n = s.take n)

namespace SameForm

/-- The same token, of the same characters. -/
theorem same (h : ∀ t n, r = .ok (t, n) → s'.take n = s.take n) : SameForm s s' r r :=
  fun t n hr => ⟨t, hr, rfl, iff_of_true rfl (h t n hr)⟩

/-- A token that cannot be read has no form to keep. -/
theorem error (s s' : List Char) (e : LexCause × Nat) (r' : Result) :
    SameForm s s' (.error e) r' := nofun

/-- A token that holds what a reader finds behind `w`. -/
theorem of_likewise {o o' : Option Quoted.Content} (token : List Char → Token)
    (hread : Likewise s s' o o') (hform : ∀ cs cs', (token cs').form = (token cs).form)
    (htoken : ∀ cs cs', token cs' = token cs ↔ cs' = cs)
    (hr : ∀ t n, r = .ok (t, n) → ∃ cs k, o = some (cs, k) ∧ token cs = t ∧ w.length + k = n)
    (hr' : ∀ cs k, o' = some (cs, k) → r' = .ok (token cs, w.length + k)) :
    SameForm (w ++ s) (w ++ s') r r' := by
  intro t n hfound
  obtain ⟨cs, k, ho, rfl, rfl⟩ := hr t n hfound
  obtain ⟨cs', ho', hiff⟩ := hread cs k ho
  refine ⟨token cs', hr' cs' k ho', hform cs cs', ?_⟩
  rw [htoken, hiff, List.take_length_add_append, List.take_length_add_append,
    List.append_cancel_left_eq]

end SameForm

/-! ## Strings -/

/-- String tokens with contents found likewise have the same form. -/
theorem stringToken_sameForm (kind : StringKind) (w : List Char) (place : Nat)
    {o o' : Option Quoted.Content} (h : Likewise s s' o o') :
    SameForm (w ++ s) (w ++ s') (stringToken kind w.length place o)
      (stringToken kind w.length place o') := by
  refine .of_likewise (fun cs => .string kind (String.ofList cs)) h (fun _ _ => rfl)
    (fun cs cs' => ?_) (fun t n => stringToken_eq_ok_iff.1) fun cs k ho => ?_
  · rw [Token.string.injEq, String.ofList_inj, and_iff_right rfl]
  · exact stringToken_eq_ok_iff.2 ⟨cs, k, ho, rfl, rfl⟩

/-- A string behind `w` and its opening quote. -/
theorem stringAt_sameForm {escapes triples : Bool} {one three : StringKind} (hquote : quote ∉ signs)
    (h : Alike s s') (hbefore : w.length = before) :
    SameForm (w ++ s) (w ++ s') (stringAt quote escapes triples one three before s)
      (stringAt quote escapes triples one three before s') := by
  subst hbefore
  cases triples with
  | false => exact stringToken_sameForm one w _ (Quoted.quoted_likewise hquote h)
  | true =>
    rcases s with _ | ⟨c, s⟩
    · exact .error _ _ _ _
    by_cases hc : c = quote
    case neg =>
      obtain ⟨c', t, rfl, hturn, -⟩ := h.exists_cons
      rw [stringAt_one s hc, stringAt_one t (mt (hturn.eq_iff hquote).1 hc)]
      exact stringToken_sameForm one w _ (Quoted.quoted_likewise hquote h)
    subst hc
    obtain ⟨t, rfl, ht⟩ := h.exists_of_notMem hquote
    by_cases hs : s.head? = some c
    · obtain ⟨s, rfl⟩ := List.head?_eq_some_iff.1 hs
      obtain ⟨t, rfl, ht'⟩ := ht.exists_of_notMem hquote
      rw [stringAt_three, stringAt_three]
      have hread : Likewise s t (Quoted.tripleQuoted c escapes s)
          (Quoted.tripleQuoted c escapes t) := Quoted.tripleQuoted_likewise hquote ht'
      simpa using stringToken_sameForm three (w ++ [c, c]) (w.length + 3) hread
    · rw [stringAt_empty hs, stringAt_empty (mt (ht.head?_eq_iff hquote).1 hs)]
      refine .same fun t n hr => ?_
      obtain ⟨rfl, rfl⟩ := Prod.mk.injEq _ _ _ _ ▸ Except.ok.inj hr
      rw [List.take_length_add_append, List.take_length_add_append]
      rfl

/-- **A marked string stays one**, with the same mark. -/
theorem markedString?_sameForm (h : Alike s s') (hr : markedString? d c s = some r) :
    ∃ r', markedString? d c s' = some r' ∧ SameForm s s' r r' := by
  cases markedString?_cases hr with
  | @string quote _ _ _ _ _ _ hquote hs hmark hresult =>
    subst hs hresult
    have hsign : quote ∉ signs := by rcases hquote with rfl | rfl <;> decide
    obtain ⟨t, rfl, ht⟩ := h.exists_of_notMem hsign
    exact ⟨_, hmark t, stringAt_sameForm (w := [_]) hsign ht rfl⟩
  | escaped _ hs hmark hresult =>
    subst hs hresult
    obtain ⟨t, rfl, ht⟩ := h.exists_of_notMem (by decide)
    refine ⟨_, hmark t, .of_likewise (w := ['\'']) (fun cs => .string .escaped (String.ofList cs))
      (Quoted.escaped_likewise ht) (fun _ _ => rfl) (fun cs cs' => by simp [String.ofList_inj])
      (fun _ _ => escapedString_eq_ok_iff.1) fun cs k ho => ?_⟩
    exact escapedString_eq_ok_iff.2 ⟨cs, k, ho, rfl, rfl⟩
  | codePoints _ hs hmark hresult =>
    subst hs hresult
    obtain ⟨_, rfl, htail⟩ := h.exists_of_notMem (by decide)
    obtain ⟨t, rfl, ht⟩ := htail.exists_of_notMem (by decide)
    refine ⟨_, hmark t, .of_likewise (w := ['&', '\''])
      (fun cs => .string .codePoints (String.ofList cs)) (Quoted.codePoints_likewise ht)
      (fun _ _ => rfl) (fun cs cs' => by simp [String.ofList_inj]) (fun t n hr => ?_)
      fun cs k ho => ?_⟩
    · obtain ⟨cs, k, hcontent, htoken⟩ := codePointString_eq_ok_iff.1 hr
      exact ⟨cs, k, by rw [hcontent]; rfl, htoken⟩
    · rcases hcontent : Quoted.codePoints t with e | content <;> rw [hcontent] at ho <;> cases ho
      exact codePointString_eq_ok_iff.2 ⟨cs, k, hcontent, rfl, rfl⟩

/-- Where no marked string starts, none starts in an alike text. -/
theorem markedString?_none_alike (h : Alike s s') (hr : markedString? d c s = none) :
    markedString? d c s' = none := by
  cases hr' : markedString? d c s' with
  | none => rfl
  | some r' =>
    obtain ⟨r, hsome, -⟩ := markedString?_sameForm h.symm hr'
    rw [hr] at hsome
    cases hsome

/-! ## Comments -/

/-- How many characters a line has, with the line feed that ends it. -/
def lineLength (s : List Char) : Nat :=
  (s.takeWhile (· != '\n')).length + ((s.drop (s.takeWhile (· != '\n')).length).take 1).length

/-- A line comment takes the rest of its line. -/
theorem lineComment_eq (mark : String) (skip : Nat) (s : List Char) :
    lineComment mark skip s =
      (.lineComment mark (String.ofList (s.take (lineLength s))), skip + lineLength s) := by
  have hbody := List.prefix_iff_eq_take.1 (List.takeWhile_prefix (l := s) (· != '\n'))
  have hstop := List.prefix_iff_eq_take.1
    (List.take_prefix 1 (s.drop (s.takeWhile (· != '\n')).length))
  rw [lineLength, List.take_add, ← hbody, ← hstop, ← Nat.add_assoc]
  rfl

/-- Lines are equally long in alike texts. -/
theorem lineLength_alike (h : Alike s s') : lineLength s' = lineLength s := by
  have hbody : (s'.takeWhile (· != '\n')).length = (s.takeWhile (· != '\n')).length := by
    induction h with
    | nil => rfl
    | @cons a b s s' hturn _ ih =>
      rw [List.takeWhile_cons, List.takeWhile_cons]
      simp only [bne_iff_ne, ne_eq, hturn.eq_iff (x := '\n') (by decide)]
      split <;> simp [ih]
  simp only [lineLength, hbody, List.length_take, List.length_drop, h.length_eq]

/-- Line comments have the same form in alike texts. -/
theorem lineComment_sameForm {mark : String} (w : List Char) (h : Alike s s') :
    SameForm (w ++ s) (w ++ s') (.ok (lineComment mark w.length s))
      (.ok (lineComment mark w.length s')) := by
  simp only [lineComment_eq, lineLength_alike h]
  rintro _ _ ⟨⟩
  refine ⟨_, rfl, rfl, ?_⟩
  rw [List.take_length_add_append, List.take_length_add_append, List.append_cancel_left_eq,
    Token.lineComment.injEq, String.ofList_inj, and_iff_right rfl]

/-- Comments have the same form in alike texts. -/
theorem comment?_sameForm (h : Alike s s') (hr : comment? d (c :: s) = some r) :
    ∃ r', comment? d (c :: s') = some r' ∧ SameForm s s' r r' := by
  cases comment?_cases hr with
  | @line mark w body hw hs hmark hresult =>
    subst hs hresult
    have hsigns : ∀ x ∈ w, x ∉ signs := fun x hx => by rcases hw x hx with rfl | rfl <;> decide
    obtain ⟨t, rfl⟩ := h.front (List.prefix_append w body) hsigns
    have ht : Alike body t := by simpa using h.drop w.length
    exact ⟨_, hmark t, lineComment_sameForm w ht⟩
  | block hc hs hresult =>
    subst hc hs hresult
    obtain ⟨t, rfl, ht⟩ := h.exists_of_notMem (by decide)
    refine ⟨_, comment?_block t, .of_likewise (w := ['*'])
      (fun cs => .blockComment (String.ofList cs)) (Quoted.blockComment_likewise ht)
      (fun _ _ => rfl) (fun cs cs' => by simp [String.ofList_inj])
      (fun _ _ => markedComment_eq_ok_iff.1) fun cs k ho => ?_⟩
    exact markedComment_eq_ok_iff.2 ⟨cs, k, ho, rfl, rfl⟩

/-- Where no comment starts, none starts in an alike text. -/
theorem comment?_none_alike (h : Alike s s') (hr : comment? d (c :: s) = none) :
    comment? d (c :: s') = none := by
  cases hr' : comment? d (c :: s') with
  | none => rfl
  | some r' =>
    obtain ⟨r, hsome, -⟩ := comment?_sameForm h.symm hr'
    rw [hr] at hsome
    cases hsome

/-! ## After a dollar sign -/

/-- No character of a tag is a sign. -/
theorem noSign_isTagChar : NoSign isTagChar := by decide +kernel

/-- Tags are the same in alike texts. -/
theorem tagOf_alike (h : Alike s s') : tagOf s' = tagOf s := h.takeWhile_eq noSign_isTagChar

/-- What a dollar sign starts has the same form in alike texts. -/
theorem dollar_sameForm (h : Alike s s') : SameForm s s' (dollar s) (dollar s') := by
  have hdollar : '$' ∉ signs := by decide
  by_cases hs : s.head? = some '$'
  · obtain ⟨body, rfl⟩ := List.head?_eq_some_iff.1 hs
    obtain ⟨t, rfl, ht⟩ := h.exists_of_notMem hdollar
    refine .of_likewise (w := ['$']) (fun cs => .dollarString none (String.ofList cs))
      (Quoted.dollarQuoted_likewise ht) (fun _ _ => rfl) (fun cs cs' => by simp [String.ofList_inj])
      (fun t n hr => ?_) fun cs k ho => ?_
    · rcases hcontent : Quoted.dollarQuoted body with _ | ⟨cs, k⟩
      · simp [dollar, hcontent] at hr
      · rw [dollar_double hcontent] at hr
        cases hr
        exact ⟨cs, k, rfl, rfl, Nat.add_comm 1 k⟩
    · rw [dollar_double ho, Nat.add_comm]
      rfl
  have hs' := mt (h.head?_eq_iff hdollar).1 hs
  have htail : Alike (s.drop (tagOf s).length) (s'.drop (tagOf s).length) := h.drop _
  by_cases hnext : (s.drop (tagOf s).length).head? = some '$'
  · obtain ⟨body, hbody⟩ := List.head?_eq_some_iff.1 hnext
    rw [hbody] at htail
    obtain ⟨t, ht, halike⟩ := htail.exists_of_notMem hdollar
    have hsplit := List.prefix_iff_eq_append.1 (takes_tagOf.front s)
    have hsplit' := List.prefix_iff_eq_append.1 (takes_tagOf.front s')
    rw [hbody, ← List.singleton_append, ← List.append_assoc] at hsplit
    rw [tagOf_alike h, ht, ← List.singleton_append, ← List.append_assoc] at hsplit'
    have hsigns : ∀ x ∈ tagOf s, x ∉ signs := fun x hx =>
      noSign_isTagChar.notMem (List.mem_takeWhile_imp hx)
    have hread : SameForm (tagOf s ++ ['$'] ++ body) (tagOf s ++ ['$'] ++ t) (dollar s)
        (dollar s') := by
      refine .of_likewise (fun cs =>
          .dollarString (some (String.ofList (tagOf s))) (String.ofList cs))
        (Quoted.tagQuoted_likewise hsigns halike) (fun _ _ => rfl)
        (fun cs cs' => by simp [String.ofList_inj]) (fun t n hr => ?_) fun cs k ho => ?_
      · rw [dollar_of_head hs, hbody] at hr
        rcases hcontent : Quoted.tagQuoted (tagOf s) body with _ | ⟨cs, k⟩
        · simp [hcontent] at hr
        · simp only [hcontent] at hr
          cases hr
          refine ⟨cs, k, rfl, rfl, ?_⟩
          rw [List.length_append, List.length_singleton]
          omega
      · rw [dollar_of_head hs', tagOf_alike h, ht]
        simp only [ho]
        rw [List.length_append, List.length_singleton, Nat.add_right_comm]
    rwa [hsplit, hsplit'] at hread
  · have hnext' : (s'.drop (tagOf s').length).head? ≠ some '$' := by
      rw [tagOf_alike h]
      exact mt (htail.head?_eq_iff hdollar).1 hnext
    rw [dollar_parameter hs hnext, dollar_parameter hs' hnext', tagOf_alike h]
    refine .same fun t n hr => ?_
    cases hr
    refine h.take_eq (takes_tagOf.front s) (fun x hx => ?_) rfl
    exact noSign_isTagChar.notMem (List.mem_takeWhile_imp hx)

/-! ## Numbers -/

/-- What is taken from the front of a text does not depend on signs. -/
def Signless (f : List Char → List Char) : Prop := ∀ s s', Alike s s' → f s' = f s

namespace Signless

variable {f g : List Char → List Char} {P : Char → Bool}

/-- A run of characters of a class without signs holds no sign. -/
theorem takeWhile (hP : NoSign P) : Signless (List.takeWhile P) := fun _ _ h => h.takeWhile_eq hP

/-- At most one character of a class without signs holds no sign. -/
theorem one (hP : NoSign P) : Signless fun s => (s.head?.filter P).toList := by
  intro s s' h
  cases h with
  | nil => rfl
  | @cons a b _ _ hturn _ =>
    cases ha : P a with
    | false => simp [Option.filter, ha, hP.congr hturn]
    | true => simp [hturn.eq_of_notMem (hP.notMem ha)]

/-- Two signless parts one after the other are signless. -/
theorem followedBy (hf : Signless f) (hg : Signless g) : Signless (followedBy f g) := by
  intro s s' h
  rw [Lexer.followedBy, Lexer.followedBy, hf s s' h, hg _ _ (h.drop _)]

end Signless

/-- Digits hold no sign. -/
theorem signless_digits : Signless (List.takeWhile Char.isDigit) := .takeWhile (by decide)

/-- The plus or minus of an exponent is no sign of this kind. -/
theorem signless_signOf : Signless signOf := .one (by decide)

/-- The mark of a long number is no sign. -/
theorem signless_longOf : Signless longOf := .one (by decide)

/-- A decimal point is no sign. -/
theorem signless_pointOf : Signless pointOf := by
  intro s s' h
  cases h with
  | nil => rfl
  | @cons a b _ _ hturn _ =>
    by_cases ha : a = '.'
    · rw [hturn.eq_of_notMem (ha ▸ by decide), ha]
      rfl
    · simp [pointOf, ha, mt (hturn.eq_iff (x := '.') (by decide)).1 ha]

/-- An exponent holds no sign. -/
theorem signless_exponentOf : Signless exponentOf := by
  intro s s' h
  cases h with
  | nil => rfl
  | @cons a b s s' hturn ht =>
    have hexponent := signless_signOf.followedBy signless_digits s s' ht
    have hletter : NoSign fun x => x == 'e' || x == 'E' := by decide
    have hdigits := signless_digits _ _ (Alike.drop ht (signOf s).length)
    rw [exponentOf_cons, exponentOf_cons, hexponent, signless_signOf s s' ht, hdigits,
      hletter.congr hturn]
    split
    case isTrue ha => rw [hturn.eq_of_notMem (hletter.notMem ha.1)]
    case isFalse => rfl

/-- The digits and the point of a number hold no sign. -/
theorem signless_plainOf : Signless plainOf :=
  signless_digits.followedBy (signless_pointOf.followedBy signless_digits)

/-- A number holds no sign. -/
theorem signless_digitsOf : Signless digitsOf := signless_plainOf.followedBy signless_exponentOf

/-- **A number is the same in both texts.** -/
theorem number_alike (h : Alike s s') : number s' = number s := by
  have hsolid : ∀ x ∈ ['0', 'x'], x ∉ signs := by simp [signs]
  have hhex : ['0', 'x'] <+: s' ↔ ['0', 'x'] <+: s :=
    ⟨fun hw => h.symm.front hw hsolid, fun hw => h.front hw hsolid⟩
  by_cases hs : ['0', 'x'] <+: s
  · obtain ⟨rest, rfl⟩ := hs
    have hcons : Alike ('0' :: 'x' :: rest) s' := h
    obtain ⟨_, rfl, htail⟩ := hcons.exists_of_notMem (by decide)
    obtain ⟨t, rfl, ht⟩ := htail.exists_of_notMem (by decide)
    rw [List.cons_append, List.cons_append, List.nil_append, number_hex, number_hex,
      ht.takeWhile_eq Quoted.noSign_isHexDigit]
  · rw [number_plain hs, number_plain (mt hhex.1 hs), signless_plainOf s s' h,
      signless_digitsOf s s' h, signless_longOf _ _ (h.drop _)]

/-! ## Lexemes -/

/-- A dollar sign starts what is read after dollar signs. -/
theorem plainLexeme_dollar (s : List Char) : plainLexeme d '$' s = dollar s := by
  have hsymbol : longestSymbol? d ('$' :: s) = none := by cases d <;> rfl
  have hstart : d.startsWord '$' = false := by cases d <;> rfl
  simp [plainLexeme, comment?, signWord?, hsymbol, hstart]

/-- Hexadecimal digits are no signs. -/
theorem take_number (h : Alike s s') (hnumber : number (c :: s) = (t, n))
    (ht : t.isQuoted = true ∨ t.isComment = true) : s'.take n = s.take n := by
  by_cases hhex : ['0', 'x'] <+: c :: s
  case neg =>
    rw [number_plain hhex] at hnumber
    split at hnumber <;> cases hnumber <;> simp [Token.isQuoted, Token.isComment] at ht
  obtain ⟨rest, hrest⟩ := hhex
  obtain ⟨rfl, rfl⟩ : '0' = c ∧ 'x' :: rest = s := by simpa using hrest
  obtain ⟨-, rfl⟩ := Prod.mk.injEq _ _ _ _ ▸ (number_hex rest).symm.trans hnumber
  refine h.take_eq (w := 'x' :: rest.takeWhile Quoted.isHexDigit) ?_ ?_ rfl
  · exact List.cons_prefix_cons.2 ⟨rfl, List.takeWhile_prefix _⟩
  · rw [List.forall_mem_cons]
    exact ⟨by decide, fun x hx => Quoted.noSign_isHexDigit.notMem (List.mem_takeWhile_imp hx)⟩

/-- Of what is plain, only hexadecimal digits, comments and text behind a dollar sign are quoted
or a comment. -/
theorem plainLexeme_cases (ht : t.isQuoted = true ∨ t.isComment = true)
    (h : plainLexeme d c s = .ok (t, n)) :
    ((c.isDigit || c == '.') = true ∧ number (c :: s) = (t, n)) ∨
      ((c.isDigit || c == '.') = false ∧ comment? d (c :: s) = some (.ok (t, n))) ∨
      c = '$' ∧ dollar s = .ok (t, n) := by
  cases plainLexeme_eq_ok_iff.1 h with
  | number hdigit h => exact .inl ⟨hdigit, h⟩
  | comment hdigit h => exact .inr (.inl ⟨hdigit, h⟩)
  | signWord _ _ h =>
    obtain ⟨w, x, rest, -, -, hr⟩ := exists_signTakes h
    cases hr
    simp [Token.isQuoted, Token.isComment] at ht
  | symbol _ _ _ _ h =>
    simp only [Lexer.symbol] at h
    split at h <;> cases h <;> simp [symbolToken, Token.isQuoted, Token.isComment] at ht
  | start _ _ _ _ h =>
    cases h with
    | question _ _ hword | parameter _ _ hword =>
      simp [hword, Token.isQuoted, Token.isComment] at ht
    | word _ h =>
      cases h
      simp [Token.isQuoted, Token.isComment] at ht
    | dollar hc h => exact .inr (.inr ⟨hc, h⟩)
    | single _ _ _ hword =>
      subst hword
      split at ht <;> simp [Token.isQuoted, Token.isComment] at ht

/-- Quoted tokens and comments have the same form in alike texts. -/
theorem plainLexeme_sameForm (h : Alike s s') (ht : t.isQuoted = true ∨ t.isComment = true)
    (hlexeme : plainLexeme d c s = .ok (t, n)) :
    ∃ t', plainLexeme d c s' = .ok (t', n) ∧ t'.form = t.form ∧
      (t' = t ↔ s'.take n = s.take n) := by
  rcases plainLexeme_cases ht hlexeme with ⟨hdigit, hnumber⟩ | ⟨hdigit, hcomment⟩ | ⟨rfl, hdollar⟩
  · have hsame : number (c :: s') = (t, n) := by rw [number_alike (.cons (.refl c) h), hnumber]
    exact ⟨t, plainLexeme_eq_ok_iff.2 (.number hdigit hsame), rfl,
      iff_of_true rfl (take_number h hnumber ht)⟩
  · obtain ⟨r', hcomment', hsame⟩ := comment?_sameForm h hcomment
    obtain ⟨t', rfl, hform⟩ := hsame t n rfl
    exact ⟨t', plainLexeme_eq_ok_iff.2 (.comment hdigit hcomment'), hform⟩
  · rw [plainLexeme_dollar]
    exact dollar_sameForm h t n hdollar

/-- What begins with a quote or with a marked one is quoted in both texts; all else is plain. -/
theorem lexeme_sameForm_of_plain (h : Alike s s')
    (hplain : plainLexeme d c s = .ok (t, n) → ∃ t', plainLexeme d c s' = .ok (t', n) ∧
      t'.form = t.form ∧ (t' = t ↔ s'.take n = s.take n))
    (hlexeme : lexeme d c s = .ok (t, n)) :
    ∃ t', lexeme d c s' = .ok (t', n) ∧ t'.form = t.form ∧ (t' = t ↔ s'.take n = s.take n) := by
  by_cases hspecial : c ∈ [' ', '\t', '\n', '\r']
  · simp only [List.mem_cons, List.not_mem_nil, or_false] at hspecial
    obtain rfl | rfl | rfl | rfl := hspecial
    · cases hlexeme; exact ⟨_, rfl, rfl, iff_of_true rfl rfl⟩
    · cases hlexeme; exact ⟨_, rfl, rfl, iff_of_true rfl rfl⟩
    · cases hlexeme; exact ⟨_, rfl, rfl, iff_of_true rfl rfl⟩
    have hlf : '\n' ∉ signs := by decide
    by_cases hs : s.head? = some '\n'
    · obtain ⟨s, rfl⟩ := List.head?_eq_some_iff.1 hs
      obtain ⟨t, rfl, -⟩ := h.exists_of_notMem hlf
      cases hlexeme
      exact ⟨_, rfl, rfl, iff_of_true rfl rfl⟩
    · have hs' := mt (h.head?_eq_iff hlf).1 hs
      simp only [lexeme, beq_iff_eq, hs, hs', if_false] at hlexeme ⊢
      cases hlexeme
      exact ⟨_, rfl, rfl, iff_of_true rfl rfl⟩
  simp only [lexeme_eq hspecial, quotedLexeme_eq_ok_iff] at hlexeme ⊢
  cases hlexeme with
  | marked hmarked =>
    obtain ⟨r', hmarked', hsame⟩ := markedString?_sameForm h hmarked
    obtain ⟨t', rfl, hform⟩ := hsame t n rfl
    exact ⟨t', .marked hmarked', hform⟩
  | single hmarked hc hstring =>
    obtain ⟨t', hstring', hform⟩ := stringAt_sameForm (w := []) (by decide) h rfl t n hstring
    exact ⟨t', .single (markedString?_none_alike h hmarked) hc hstring', hform⟩
  | double hmarked hc hd hstring =>
    obtain ⟨t', hstring', hform⟩ := stringAt_sameForm (w := []) (by decide) h rfl t n hstring
    exact ⟨t', .double (markedString?_none_alike h hmarked) hc hd hstring', hform⟩
  | @name hmarked hsingle hdouble hname cs hcontent ht =>
    have hc : c ∉ signs := by
      have hnone : NoSign d.opensName := by cases d <;> decide
      exact hnone.notMem hname
    obtain ⟨cs', hcontent', hiff⟩ := Quoted.quoted_likewise hc h cs n hcontent
    refine ⟨.word (String.ofList cs') (some c), .name (markedString?_none_alike h hmarked) hsingle
      hdouble hname hcontent' rfl, by rw [ht]; rfl, ?_⟩
    rw [ht, Token.word.injEq, String.ofList_inj, and_iff_left rfl, hiff]
  | plain hmarked hsingle hdouble hname hplain' =>
    obtain ⟨t', hlexeme', hform⟩ := hplain hplain'
    exact ⟨t', .plain (markedString?_none_alike h hmarked) hsingle hdouble hname hlexeme', hform⟩

/-- **What is quoted stays quoted**, in the same form and of the same length, and so does a
comment. -/
theorem lexeme_sameForm (h : Alike s s') (ht : t.isQuoted = true ∨ t.isComment = true)
    (hlexeme : lexeme d c s = .ok (t, n)) :
    ∃ t', lexeme d c s' = .ok (t', n) ∧ t'.form = t.form ∧ (t' = t ↔ s'.take n = s.take n) :=
  lexeme_sameForm_of_plain h (plainLexeme_sameForm h ht) hlexeme

/-- Nothing that begins with a sign is a mark or in quotes. -/
theorem lexeme_sign (hc : c ∈ signs) (s : List Char) : lexeme d c s = plainLexeme d c s := by
  simp only [signs, List.mem_cons, List.not_mem_nil, or_false] at hc
  rcases hc with rfl | rfl | rfl | rfl | rfl <;>
    rw [lexeme_eq (by decide)] <;> cases d <;> simp [quotedLexeme, markedString?, Dialect.opensName]

/-- What is quoted and what is a comment begins with no sign. -/
theorem notMem_signs (ht : t.isQuoted = true ∨ t.isComment = true)
    (h : lexeme d c s = .ok (t, n)) : c ∉ signs := by
  intro hc
  rw [lexeme_sign hc] at h
  have hnone : NoSign fun c => c.isDigit || c == '.' := by decide
  rcases plainLexeme_cases ht h with ⟨hdigit, -⟩ | ⟨-, hcomment⟩ | ⟨rfl, -⟩
  · exact hnone.notMem hdigit hc
  · simp only [signs, List.mem_cons, List.not_mem_nil, or_false] at hc
    rcases hc with rfl | rfl | rfl | rfl | rfl <;> cases hcomment
  · exact absurd hc (by decide)

end Lexer
end Sql
end QueryTemplate
