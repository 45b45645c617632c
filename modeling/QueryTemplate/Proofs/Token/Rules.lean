/-
# Which rule reads a lexeme

The rules for lexemes are tried in order, and each lexeme is read by the first that applies.
This file says once what each rule needs and gives.  What holds of every lexeme is then proved
rule by rule.

| rules | for |
| --- | --- |
| `MarkRule` | a string behind a letter |
| `CommentRule` | a comment |
| `StartRule` | what the first character alone decides |
| `PlainRule` | what is not quoted |
| `QuotedRule` | what starts with no blank |
-/

import QueryTemplate.Sql.Token.Lexer

namespace QueryTemplate
namespace Sql
namespace Lexer

variable {d : Dialect} {c : Char} {s body : List Char} {t : Token} {n : Nat} {r : Result}

/-! ## Marked strings and comments -/

/-- A string with escapes, behind its mark. -/
def escapedString (body : List Char) : Result :=
  match Quoted.escaped body with
  | some (cs, n) => .ok (.string .escaped (String.ofList cs), n + 1)
  | none => .error (.unterminatedEscaped, 0)

/-- A string `E'…'` is its content, with the mark and the quote counted. -/
theorem escapedString_eq_ok_iff : escapedString body = .ok (t, n) ↔
    ∃ cs k, Quoted.escaped body = some (cs, k) ∧ .string .escaped (String.ofList cs) = t ∧
      1 + k = n := by
  unfold escapedString
  rcases Quoted.escaped body with _ | ⟨cs, k⟩ <;> simp [Nat.add_comm, and_assoc]

/-- A string with code points, behind its mark. -/
def codePointString (body : List Char) : Result :=
  match Quoted.codePoints body with
  | .ok (cs, n) => .ok (.string .codePoints (String.ofList cs), n + 2)
  | .error (e, n) => .error (.codePoint e, n + 3)

/-- A string `U&'…'` is its content, with the marks and the quote counted. -/
theorem codePointString_eq_ok_iff : codePointString body = .ok (t, n) ↔
    ∃ cs k, Quoted.codePoints body = .ok (cs, k) ∧ .string .codePoints (String.ofList cs) = t ∧
      2 + k = n := by
  unfold codePointString
  rcases Quoted.codePoints body with ⟨e, k⟩ | ⟨cs, k⟩ <;> simp [Nat.add_comm, and_assoc]

/-- The strings behind a mark: the mark reads any text so that begins alike. -/
inductive MarkRule (d : Dialect) (c : Char) (s : List Char) (r : Result) : Prop
  | string {quote : Char} {escapes triples : Bool} {one three : StringKind} {body : List Char}
      (hc : c.toLower.isAlpha = true) (hquote : quote = '\'' ∨ quote = '"') (hs : s = quote :: body)
      (hmark : ∀ body, markedString? d c (quote :: body) =
        some (stringAt quote escapes triples one three 1 body))
      (hr : r = stringAt quote escapes triples one three 1 body)
  | escaped {body : List Char} (hc : c.toLower.isAlpha = true) (hs : s = '\'' :: body)
      (hmark : ∀ body, markedString? d c ('\'' :: body) = some (escapedString body))
      (hr : r = escapedString body)
  | codePoints {body : List Char} (hc : c.toLower.isAlpha = true) (hs : s = '&' :: '\'' :: body)
      (hmark : ∀ body, markedString? d c ('&' :: '\'' :: body) = some (codePointString body))
      (hr : r = codePointString body)

/-- A string with a mark in front of it is read by one of the listed rules. -/
theorem markedString?_cases (h : markedString? d c s = some r) : MarkRule d c s r := by
  unfold markedString? at h
  split at h
  case h_1 body hc | h_2 body hc | h_3 body hc | h_4 body hc =>
    obtain ⟨hd, h⟩ := Option.ite_none_right_eq_some.1 h
    exact .string (by rw [hc]; rfl) (by simp) rfl (fun body => by simp [markedString?, hc, hd])
      (Option.some.inj h).symm
  case h_5 body hc | h_8 body hc =>
    exact .string (by rw [hc]; rfl) (by simp) rfl (fun body => by simp [markedString?, hc])
      (Option.some.inj h).symm
  case h_6 body hc =>
    exact .escaped (by rw [hc]; rfl) rfl (fun body => by simp only [markedString?, hc]; rfl)
      (Option.some.inj h).symm
  case h_7 body hc =>
    obtain ⟨hd, h⟩ := Option.ite_none_right_eq_some.1 h
    exact .codePoints (by rw [hc]; rfl) rfl
      (fun body => by simp only [markedString?, hc, hd, if_true]; rfl) (Option.some.inj h).symm
  case h_9 => cases h

/-- A comment between marks, behind the first one. -/
def markedComment (body : List Char) : Result :=
  match Quoted.blockComment body with
  | some (text, n) => .ok (.blockComment (String.ofList text), n + 1)
  | none => .error (.unclosedComment, body.length + 2)

/-- A comment is its content, with the mark counted. -/
theorem markedComment_eq_ok_iff : markedComment body = .ok (t, n) ↔
    ∃ cs k, Quoted.blockComment body = some (cs, k) ∧ .blockComment (String.ofList cs) = t ∧
      1 + k = n := by
  unfold markedComment
  rcases Quoted.blockComment body with _ | ⟨cs, k⟩ <;> simp [Nat.add_comm, and_assoc]

/-- The comments: a line behind a mark, or a text between two. -/
inductive CommentRule (d : Dialect) (c : Char) (s : List Char) (r : Result) : Prop
  | line {mark : String} {w body : List Char} (hw : ∀ x ∈ w, x = '-' ∨ x = '/')
      (hs : s = w ++ body)
      (hmark : ∀ body, comment? d (c :: (w ++ body)) = some (.ok (lineComment mark w.length body)))
      (hr : r = .ok (lineComment mark w.length body))
  | block {body : List Char} (hc : c = '/') (hs : s = '*' :: body) (hr : r = markedComment body)

/-- `/*` starts a comment in every dialect. -/
theorem comment?_block (body : List Char) :
    comment? d ('/' :: '*' :: body) = some (markedComment body) := rfl

/-- A comment is read by one of the listed rules. -/
theorem comment?_cases (h : comment? d (c :: s) = some r) : CommentRule d c s r := by
  unfold comment? at h
  split at h
  case h_1 body hs =>
    cases hs
    cases h
    exact .line (w := ['-']) (by simp) rfl (fun _ => rfl) rfl
  case h_2 body hs =>
    cases hs
    obtain ⟨hd, h⟩ := Option.ite_none_right_eq_some.1 h
    cases h
    exact .line (w := ['/']) (by simp) rfl (fun _ => if_pos hd) rfl
  case h_3 body hs =>
    cases hs
    obtain ⟨hd, h⟩ := Option.ite_none_right_eq_some.1 h
    cases h
    exact .line (w := []) (by simp) rfl (fun _ => if_pos hd) rfl
  case h_4 body hs =>
    cases hs
    cases h
    exact .block rfl rfl rfl
  case h_5 => cases h

/-- What is read as a comment is one. -/
theorem isComment_of_comment? (h : comment? d (c :: s) = some (.ok (t, n))) :
    t.isComment = true := by
  cases comment?_cases h with
  | line _ _ _ hr =>
    have ht := congrArg Prod.fst (Except.ok.inj hr)
    rw [show t = _ from ht]
    rfl
  | block _ _ hr =>
    obtain ⟨cs, k, -, rfl, -⟩ := markedComment_eq_ok_iff.1 hr.symm
    rfl

/-! ## Lexemes -/

/-- The lexeme that starts with `c` if it is no blank and nothing is quoted. -/
def plainLexeme (d : Dialect) (c : Char) (rest : List Char) : Result :=
  if c.isDigit || c == '.' then .ok (number (c :: rest))
  else if let some r := comment? d (c :: rest) then r
  else if let some r := signWord? d (c :: rest) then .ok r
  else if let some s := longestSymbol? d (c :: rest) then .ok (symbol d s (c :: rest))
  else if c == '?' then
    if d.questionOperators then .ok (.symbol "?", min 1 rest.length)
    else
      let ds := rest.takeWhile Text.isNumeric
      .ok (.parameter (String.ofList ('?' :: ds)), ds.length)
  else if d.startsWord c then .ok (word d [c] rest)
  else if c == '$' then dollar rest
  else if Text.isBlank c then .ok (.space, 0)
  else .ok (.stray c, 0)

/-- The lexeme that starts with `c` if it is quoted or not. -/
def quotedLexeme (d : Dialect) (c : Char) (rest : List Char) : Result :=
  if let some r := markedString? d c rest then r
  else if c == '\'' then
    stringAt '\'' d.backslashEscapes d.tripleQuotes .single .tripleSingle 0 rest
  else if c == '"' && d.doubleQuotedStrings then
    stringAt '"' d.backslashEscapes d.tripleQuotes .double .tripleDouble 0 rest
  else if d.opensName c then
    match Quoted.quoted c false rest with
    | some (cs, n) => .ok (.word (String.ofList cs) (some c), n)
    | none => .error (.unclosedName c, 0)
  else plainLexeme d c rest

/-- What starts with no blank is read by the rules for other lexemes. -/
theorem lexeme_eq (hc : c ∉ [' ', '\t', '\n', '\r']) (s : List Char) :
    lexeme d c s = quotedLexeme d c s := by
  unfold lexeme
  split
  case h_5 => rfl
  all_goals simp at hc

/-- The rules that look at the first character only. -/
inductive StartRule (d : Dialect) (c : Char) (s : List Char) (t : Token) (n : Nat) : Prop
  | question (hc : c = '?') (hd : d.questionOperators = true) (ht : t = .symbol "?")
      (hn : n = min 1 s.length)
  | parameter (hc : c = '?') (hd : d.questionOperators = false)
      (ht : t = .parameter (String.ofList ('?' :: s.takeWhile Text.isNumeric)))
      (hn : n = (s.takeWhile Text.isNumeric).length)
  | word (hc : d.startsWord c = true) (h : word d [c] s = (t, n))
  | dollar (hc : c = '$') (h : dollar s = .ok (t, n))
  | single (hquestion : c ≠ '?') (hstart : d.startsWord c = false) (hdollar : c ≠ '$')
      (ht : t = if Text.isBlank c then .space else .stray c) (hn : n = 0)

/-- The rules for what is not quoted. -/
inductive PlainRule (d : Dialect) (c : Char) (s : List Char) (t : Token) (n : Nat) : Prop
  | number (hdigit : (c.isDigit || c == '.') = true) (h : number (c :: s) = (t, n))
  | comment (hdigit : (c.isDigit || c == '.') = false) (h : comment? d (c :: s) = some (.ok (t, n)))
  | signWord (hdigit : (c.isDigit || c == '.') = false) (hcomment : comment? d (c :: s) = none)
      (h : signWord? d (c :: s) = some (t, n))
  | symbol (hdigit : (c.isDigit || c == '.') = false) (hcomment : comment? d (c :: s) = none)
      (hsign : signWord? d (c :: s) = none) {x : String}
      (hsymbol : longestSymbol? d (c :: s) = some x) (h : symbol d x (c :: s) = (t, n))
  | start (hdigit : (c.isDigit || c == '.') = false) (hcomment : comment? d (c :: s) = none)
      (hsign : signWord? d (c :: s) = none) (hsymbol : longestSymbol? d (c :: s) = none)
      (h : StartRule d c s t n)

/-- The rules for what starts with no blank. -/
inductive QuotedRule (d : Dialect) (c : Char) (s : List Char) (t : Token) (n : Nat) : Prop
  | marked (h : markedString? d c s = some (.ok (t, n)))
  | single (hmarked : markedString? d c s = none) (hc : c = '\'')
      (h : stringAt '\'' d.backslashEscapes d.tripleQuotes .single .tripleSingle 0 s = .ok (t, n))
  | double (hmarked : markedString? d c s = none) (hc : c = '"') (hd : d.doubleQuotedStrings = true)
      (h : stringAt '"' d.backslashEscapes d.tripleQuotes .double .tripleDouble 0 s = .ok (t, n))
  | name (hmarked : markedString? d c s = none) (hsingle : c ≠ '\'')
      (hdouble : ¬(c = '"' ∧ d.doubleQuotedStrings = true)) (hname : d.opensName c = true)
      {cs : List Char} (hcontent : Quoted.quoted c false s = some (cs, n))
      (ht : t = .word (String.ofList cs) (some c))
  | plain (hmarked : markedString? d c s = none) (hsingle : c ≠ '\'')
      (hdouble : ¬(c = '"' ∧ d.doubleQuotedStrings = true)) (hname : d.opensName c = false)
      (h : plainLexeme d c s = .ok (t, n))

theorem startsWord_question : d.startsWord '?' = false := by cases d <;> rfl

theorem startsWord_dollar : d.startsWord '$' = false := by cases d <;> rfl

/-- **What is not quoted is read by one of the rules.** -/
theorem plainLexeme_eq_ok_iff : plainLexeme d c s = .ok (t, n) ↔ PlainRule d c s t n := by
  constructor
  · intro h
    unfold plainLexeme at h
    split at h
    case isTrue hdigit => exact .number hdigit (Except.ok.inj h)
    case isFalse hdigit =>
    rw [Bool.not_eq_true] at hdigit
    split at h
    case h_1 r hcomment => exact .comment hdigit (by rw [hcomment, h])
    case h_2 hcomment =>
    have hcomment := Option.eq_none_iff_forall_ne_some.2 hcomment
    split at h
    case h_1 r hsign => exact .signWord hdigit hcomment (by rw [hsign, Except.ok.inj h])
    case h_2 hsign =>
    have hsign := Option.eq_none_iff_forall_ne_some.2 hsign
    split at h
    case h_1 x hsymbol => exact .symbol hdigit hcomment hsign hsymbol (Except.ok.inj h)
    case h_2 hsymbol =>
    have hsymbol := Option.eq_none_iff_forall_ne_some.2 hsymbol
    refine .start hdigit hcomment hsign hsymbol ?_
    split at h
    case isTrue hquestion =>
      split at h
      case isTrue hd =>
        cases h
        exact .question (beq_iff_eq.1 hquestion) hd rfl rfl
      case isFalse hd =>
        cases h
        exact .parameter (beq_iff_eq.1 hquestion) (Bool.not_eq_true _ ▸ hd) rfl rfl
    case isFalse hquestion =>
    split at h
    case isTrue hstart => exact .word hstart (Except.ok.inj h)
    case isFalse hstart =>
    split at h
    case isTrue hdollar => exact .dollar (beq_iff_eq.1 hdollar) h
    case isFalse hdollar =>
      refine .single (mt beq_iff_eq.2 hquestion) (Bool.not_eq_true _ ▸ hstart)
        (mt beq_iff_eq.2 hdollar) ?_ ?_
      · split at h <;> cases h <;> simp [*]
      · split at h <;> cases h <;> rfl
  · intro h
    cases h with
    | number hdigit h => rw [plainLexeme, if_pos hdigit, h]
    | comment hdigit h => simp [plainLexeme, hdigit, h]
    | signWord hdigit hcomment h => simp [plainLexeme, hdigit, hcomment, h]
    | symbol hdigit hcomment hsign hsymbol h =>
      simp [plainLexeme, hdigit, hcomment, hsign, hsymbol, h]
    | start hdigit hcomment hsign hsymbol h =>
      simp only [plainLexeme, hdigit, hcomment, hsign, hsymbol, Bool.false_eq_true, if_false]
      cases h with
      | question hc hd ht hn => simp [hc, hd, ht, hn]
      | parameter hc hd ht hn => simp [hc, hd, ht, hn]
      | word hc h =>
        have hquestion : c ≠ '?' := by
          rintro rfl
          exact absurd hc (by simp [startsWord_question])
        simp [hquestion, hc, h]
      | dollar hc h =>
        subst hc
        simpa [startsWord_dollar] using h
      | single hquestion hstart hdollar ht hn =>
        simp only [beq_iff_eq, hquestion, hstart, hdollar, Bool.false_eq_true, if_false, ht, hn]
        split <;> rfl

/-- **What starts with no blank is read by one of the rules.** -/
theorem quotedLexeme_eq_ok_iff : quotedLexeme d c s = .ok (t, n) ↔ QuotedRule d c s t n := by
  constructor
  · intro h
    unfold quotedLexeme at h
    split at h
    case h_1 r hmarked => exact .marked (by rw [hmarked, h])
    case h_2 hmarked =>
    have hmarked := Option.eq_none_iff_forall_ne_some.2 hmarked
    split at h
    case isTrue hc => exact .single hmarked (beq_iff_eq.1 hc) h
    case isFalse hsingle =>
    rw [beq_iff_eq] at hsingle
    split at h
    case isTrue hc =>
      rw [Bool.and_eq_true, beq_iff_eq] at hc
      exact .double hmarked hc.1 hc.2 h
    case isFalse hdouble =>
    rw [Bool.and_eq_true, beq_iff_eq] at hdouble
    split at h
    case isTrue hname =>
      split at h
      case h_1 cs k hcontent =>
        cases h
        exact .name hmarked hsingle hdouble hname hcontent rfl
      case h_2 => cases h
    case isFalse hname => exact .plain hmarked hsingle hdouble (Bool.not_eq_true _ ▸ hname) h
  · intro h
    cases h with
    | marked h => simp [quotedLexeme, h]
    | single hmarked hc h =>
      subst hc
      simp [quotedLexeme, hmarked, h]
    | double hmarked hc hd h =>
      subst hc
      simp [quotedLexeme, hmarked, hd, h]
    | name hmarked hsingle hdouble hname hcontent ht =>
      simp [quotedLexeme, hmarked, hsingle, hdouble, hname, hcontent, ht]
    | plain hmarked hsingle hdouble hname h =>
      simp [quotedLexeme, hmarked, hsingle, hdouble, hname, h]

end Lexer
end Sql
end QueryTemplate
