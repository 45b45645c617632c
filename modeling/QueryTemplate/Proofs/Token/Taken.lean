/-
# Characters taken from the front

Numbers, words, operators and tags are runs of characters from the front of a text.  A run
holds no blank, and it ends where it did before if the text behind it is cut off, or if a blank
stands there instead (`Takes`).  Runs are put together by `followedBy`; `number` is given as
such a run, but for hexadecimal digits.
-/

import Mathlib.Data.List.Infix
import Mathlib.Data.List.TakeWhile
import QueryTemplate.Proofs.Token.Closed
import QueryTemplate.Sql.Token.Lexer

namespace QueryTemplate
namespace Sql
namespace Lexer

open Quoted (Agrees Closes)

/-- What follows may be cut off, or a blank may follow instead. -/
structure Cuts (u v : List Char) : Prop where
  head : ∀ x ∈ v.head?, x = ' '
  nil : u = [] → v = []

variable {d : Dialect} {c quote : Char} {q s u v w : List Char} {t : Token} {n before : Nat}
  {P : Char → Bool}

/-- A text cut after a word agrees with the uncut one on the word. -/
theorem Cuts.agrees (hcut : Cuts u v) (hquote : quote ≠ ' ') (hn : n ≤ q.length) :
    Agrees quote n (q ++ u) (q ++ v) where
  take := by rw [List.take_append_of_le_length hn, List.take_append_of_le_length hn]
  next := by
    intro hnext
    rcases Nat.lt_or_ge n q.length with hlt | hge
    · rwa [List.getElem?_append_left hlt] at hnext ⊢
    · obtain rfl : n = q.length := Nat.le_antisymm hn hge
      rw [List.getElem?_append_right hge, Nat.sub_self, ← List.head?_eq_getElem?] at hnext
      exact absurd (hcut.head _ hnext) hquote

/-! ## Characters that are no blanks -/

/-- The blank characters, one by one. -/
def blanks : List Char :=
  [9, 10, 11, 12, 13, 0x20, 0x85, 0xA0, 0x1680, 0x2000, 0x2001, 0x2002, 0x2003, 0x2004, 0x2005,
    0x2006, 0x2007, 0x2008, 0x2009, 0x200A, 0x2028, 0x2029, 0x202F, 0x205F, 0x3000].map Char.ofNat

/-- Every blank is one of the listed ones. -/
theorem mem_blanks (h : Text.isBlank c = true) : c ∈ blanks := by
  refine List.mem_map.2 ⟨c.toNat, ?_, Char.ofNat_toNat c⟩
  simp only [Text.isBlank, Bool.or_eq_true, Bool.and_eq_true, decide_eq_true_eq, beq_iff_eq] at h
  simp only [List.mem_cons, List.not_mem_nil, or_false]
  omega

/-- No blank has the property. -/
def NoBlank (P : Char → Bool) : Prop := blanks.all (fun b => !P b) = true

instance : Decidable (NoBlank P) := inferInstanceAs (Decidable (_ = true))

/-- Characters with a property that no blank has. -/
theorem NoBlank.isBlank_eq_false (hP : NoBlank P) (hc : P c = true) : Text.isBlank c = false := by
  by_contra h
  have hblank := List.all_eq_true.1 hP c (mem_blanks (Bool.not_eq_false _ ▸ h))
  simp [hc] at hblank

/-- A class without blanks does not have the space. -/
theorem NoBlank.space (hP : NoBlank P) : P ' ' = false := by
  have hblank := List.all_eq_true.1 hP ' ' (mem_blanks rfl)
  simpa using hblank

/-- Two classes without blanks have none together. -/
theorem NoBlank.or {Q : Char → Bool} (hP : NoBlank P) (hQ : NoBlank Q) :
    NoBlank fun c => P c || Q c := by
  rw [NoBlank, List.all_eq_true] at *
  intro c hc
  simpa using And.intro (hP c hc) (hQ c hc)

/-- No letter is a blank. -/
theorem noBlank_isAlphabetic : NoBlank Text.isAlphabetic := by decide +kernel

/-- No digit is a blank. -/
theorem noBlank_isNumeric : NoBlank Text.isNumeric := by decide +kernel

/-- No character that continues a word is a blank. -/
theorem noBlank_continuesWord (d : Dialect) : NoBlank d.continuesWord := by
  cases d with
  | ansi =>
    exact ((((noBlank_isAlphabetic.or (by decide)).or (by decide)).or (by decide)).or
      (by decide)).or (by decide)
  | postgres => exact ((noBlank_isAlphabetic.or (by decide)).or (by decide)).or (by decide)
  | bigquery | snowflake => decide

/-- No character that starts a word is a blank. -/
theorem noBlank_startsWord (d : Dialect) : NoBlank d.startsWord := by
  cases d with
  | ansi => exact ((noBlank_isAlphabetic.or (by decide)).or (by decide)).or (by decide)
  | postgres => exact noBlank_isAlphabetic.or (by decide)
  | bigquery | snowflake => decide

/-- What starts a word is no blank. -/
theorem isBlank_of_startsWord (hc : d.startsWord c = true) : Text.isBlank c = false :=
  (noBlank_startsWord d).isBlank_eq_false hc

/-! ## Taking characters from the front -/

/-- `f` takes characters from the front of a text.  None of them is a blank, and where they end
does not change if what follows is cut. -/
structure Takes (f : List Char → List Char) : Prop where
  front : ∀ s, f s <+: s
  solid : ∀ s, ∀ x ∈ f s, Text.isBlank x = false
  cut : ∀ {q u v}, (f (q ++ u)).length ≤ q.length → Cuts u v → f (q ++ v) = f (q ++ u)

/-- What `f` takes, and then what `g` takes from the rest. -/
def followedBy (f g : List Char → List Char) (s : List Char) : List Char :=
  f s ++ g (s.drop (f s).length)

namespace Takes

variable {f g : List Char → List Char}

/-- A blank ends it, and so does the end of the text. -/
theorem nil_of_cuts (hf : Takes f) (hcut : Cuts u v) : f v = [] := by
  cases v with
  | nil => exact List.prefix_nil.1 (hf.front [])
  | cons x v =>
    obtain rfl : x = ' ' := hcut.head x rfl
    cases htext : f (' ' :: v) with
    | nil => rfl
    | cons y w =>
      have hy : y = ' ' := by
        have hfront := hf.front (' ' :: v)
        rw [htext, List.cons_prefix_cons] at hfront
        exact hfront.1
      have hsolid := hf.solid (' ' :: v) y (by simp [htext])
      rw [hy] at hsolid
      cases hsolid

/-- A run of characters of a class without blanks ends at every cut. -/
theorem takeWhile (hP : NoBlank P) : Takes (List.takeWhile P) where
  front s := List.takeWhile_prefix P
  solid s x hx := hP.isBlank_eq_false (List.mem_takeWhile_imp hx)
  cut {q u v} hlength hcut := by
    have hv : v.takeWhile P = [] := by
      cases v with
      | nil => rfl
      | cons x v =>
        obtain rfl : x = ' ' := hcut.head x rfl
        rw [List.takeWhile_cons, hP.space]
        rfl
    induction q with
    | nil => rw [List.nil_append, hv, List.eq_nil_of_length_eq_zero (Nat.le_zero.1 hlength)]
    | cons c q ih =>
      by_cases hc : P c = true
      · simp only [List.cons_append, List.takeWhile_cons, hc, if_true] at hlength ⊢
        rw [ih (Nat.le_of_succ_le_succ hlength)]
      · simp [hc]

/-- Two parts one after the other end at every cut if each does. -/
theorem followedBy (hf : Takes f) (hg : Takes g) : Takes (followedBy f g) where
  front s := by
    rw [Lexer.followedBy]
    have h := (List.prefix_append_right_inj (f s)).2 (hg.front (s.drop (f s).length))
    rwa [List.prefix_iff_eq_append.1 (hf.front s)] at h
  solid s x hx := by
    rcases List.mem_append.1 hx with hx | hx
    · exact hf.solid s x hx
    · exact hg.solid _ x hx
  cut {q u v} hlength hcut := by
    rw [Lexer.followedBy, List.length_append] at hlength
    have hle : (f (q ++ u)).length ≤ q.length := by omega
    rw [Lexer.followedBy, Lexer.followedBy, hf.cut hle hcut, List.drop_append_of_le_length hle,
      List.drop_append_of_le_length hle]
    rw [List.drop_append_of_le_length hle] at hlength
    rw [hg.cut (by rw [List.length_drop]; omega) hcut]

/-- At most one character. -/
theorem one (hP : NoBlank P) :
    Takes fun s => (s.head?.filter P).toList where
  front s := by
    rcases s with _ | ⟨x, s⟩
    · simp
    · by_cases hx : P x = true <;> simp [Option.filter, hx]
  solid s y hy := by
    rcases s with _ | ⟨x, s⟩
    · simp at hy
    · by_cases hx : P x = true
      · obtain rfl : y = x := by simpa [Option.filter, hx] using hy
        exact hP.isBlank_eq_false hx
      · simp [Option.filter, hx] at hy
  cut {q u v} hlength hcut := by
    rcases q with _ | ⟨x, q⟩
    · have hu : (u.head?.filter P).toList = [] :=
        List.eq_nil_of_length_eq_zero (Nat.le_zero.1 hlength)
      rw [List.nil_append, List.nil_append, hu]
      cases v with
      | nil => rfl
      | cons x v =>
        obtain rfl : x = ' ' := hcut.head x rfl
        simp [Option.filter, hP.space]
    · rfl

end Takes

/-! ## Numbers -/

/-- A sign. -/
def signOf (s : List Char) : List Char := (s.head?.filter fun x => x == '+' || x == '-').toList

/-- A point. -/
def pointOf : List Char → List Char
  | '.' :: _ => ['.']
  | _ => []

/-- The letter behind a long number. -/
def longOf (s : List Char) : List Char := (s.head?.filter (· == 'L')).toList

/-- Digits, perhaps with a point among them. -/
def plainOf : List Char → List Char :=
  followedBy (List.takeWhile Char.isDigit) (followedBy pointOf (List.takeWhile Char.isDigit))

/-- The digits of a number, with its exponent. -/
def digitsOf : List Char → List Char := followedBy plainOf exponentOf

/-- Digits end at every cut. -/
theorem takes_digits : Takes (List.takeWhile Char.isDigit) := .takeWhile (by decide)

/-- The sign of an exponent ends at every cut. -/
theorem takes_signOf : Takes signOf := .one (by decide)

/-- A decimal point ends at every cut. -/
theorem takes_pointOf : Takes pointOf := by
  have hpoint : pointOf = fun s => (s.head?.filter (· == '.')).toList := by
    funext s
    rcases s with _ | ⟨x, s⟩
    · rfl
    · by_cases hx : x = '.' <;> simp [pointOf, Option.filter, hx]
  exact hpoint ▸ .one (by decide)

/-- The mark of a long number ends at every cut. -/
theorem takes_longOf : Takes longOf := .one (by decide)

/-- An exponent is an `e` that digits follow, with a sign or without. -/
theorem exponentOf_cons (x : Char) (s : List Char) :
    exponentOf (x :: s) =
      if (x == 'e' || x == 'E') = true ∧ (s.drop (signOf s).length).takeWhile Char.isDigit ≠ [] then
        x :: followedBy signOf (List.takeWhile Char.isDigit) s
      else [] := by
  rcases s with _ | ⟨y, s⟩
  · simp [exponentOf, signOf]
  · by_cases hplus : y = '+'
    · subst hplus
      simp [exponentOf, signOf, followedBy, Option.filter]
      split <;> split <;> simp_all
    · by_cases hminus : y = '-'
      · subst hminus
        simp [exponentOf, signOf, followedBy, Option.filter]
        split <;> split <;> simp_all
      · simp [exponentOf, signOf, followedBy, Option.filter, hplus, hminus]
        split <;> split <;> simp_all

/-- A sign is one character or none. -/
theorem length_signOf_le (s : List Char) : (signOf s).length ≤ 1 :=
  Option.length_toList_le

/-- The sign depends on the first character only, so the digits behind it end as before. -/
theorem exponentDigits_cut {y : Char}
    (hlength : ((y :: q ++ u).drop (signOf (y :: q ++ u)).length).takeWhile Char.isDigit ≠ [] →
      (followedBy signOf (List.takeWhile Char.isDigit) (y :: q ++ u)).length ≤ (y :: q).length)
    (hcut : Cuts u v) :
    ((y :: q ++ v).drop (signOf (y :: q ++ u)).length).takeWhile Char.isDigit =
      ((y :: q ++ u).drop (signOf (y :: q ++ u)).length).takeWhile Char.isDigit := by
  have hle : (signOf (y :: q ++ u)).length ≤ (y :: q).length :=
    (length_signOf_le _).trans (by simp)
  rw [followedBy] at hlength
  rw [List.drop_append_of_le_length hle] at hlength ⊢
  rw [List.drop_append_of_le_length hle]
  refine takes_digits.cut ?_ hcut
  by_cases h : ((y :: q).drop (signOf (y :: q ++ u)).length ++ u).takeWhile Char.isDigit = []
  · rw [h]
    exact Nat.zero_le _
  · have hlength' := hlength h
    rw [List.length_append] at hlength'
    rw [List.length_drop]
    omega

/-- An exponent ends at every cut: an `e` without digits is none, before the cut as after it. -/
theorem takes_exponentOf : Takes exponentOf where
  front s := by
    cases s with
    | nil => exact List.prefix_refl _
    | cons x s =>
      rw [exponentOf_cons]
      split
      · exact List.cons_prefix_cons.2 ⟨rfl, (takes_signOf.followedBy takes_digits).front s⟩
      · exact List.nil_prefix
  solid s y hy := by
    cases s with
    | nil => simp [exponentOf] at hy
    | cons x s =>
      rw [exponentOf_cons] at hy
      split at hy
      case isTrue hx =>
        rcases List.mem_cons.1 hy with rfl | hy
        · have hletter : NoBlank fun y => y == 'e' || y == 'E' := by decide
          exact hletter.isBlank_eq_false hx.1
        · exact (takes_signOf.followedBy takes_digits).solid s y hy
      case isFalse => simp at hy
  cut {q u v} hlength hcut := by
    rcases q with _ | ⟨x, q⟩
    · have hu : exponentOf u = [] := List.eq_nil_of_length_eq_zero (Nat.le_zero.1 hlength)
      rw [List.nil_append, List.nil_append, hu]
      cases v with
      | nil => rfl
      | cons x v =>
        obtain rfl : x = ' ' := hcut.head x rfl
        rfl
    · simp only [List.cons_append, exponentOf_cons] at hlength ⊢
      by_cases hx : (x == 'e' || x == 'E') = true
      case neg => simp [hx]
      simp only [hx, true_and] at hlength ⊢
      rcases q with _ | ⟨y, q⟩
      · have hv : (v.drop (signOf v).length).takeWhile Char.isDigit = [] := by
          rw [takes_signOf.nil_of_cuts hcut]
          exact takes_digits.nil_of_cuts hcut
        have hu : (u.drop (signOf u).length).takeWhile Char.isDigit = [] := by
          by_contra h
          have hpos := List.length_pos_iff.2 h
          rw [List.nil_append, if_pos h, followedBy] at hlength
          simp only [List.length_cons, List.length_append, List.length_nil] at hlength
          omega
        simp [hu, hv]
      · have hsign : signOf (y :: q ++ v) = signOf (y :: q ++ u) := rfl
        have hdigits := exponentDigits_cut (y := y) (fun h => by
          rw [if_pos h, List.length_cons] at hlength
          exact Nat.le_of_succ_le_succ hlength) hcut
        rw [hsign, hdigits, followedBy, followedBy, hsign, hdigits]

/-- The digits and the point of a number end at every cut. -/
theorem takes_plainOf : Takes plainOf :=
  takes_digits.followedBy (takes_pointOf.followedBy takes_digits)

/-- A number ends at every cut. -/
theorem takes_digitsOf : Takes digitsOf := takes_plainOf.followedBy takes_exponentOf

/-- Hexadecimal digits after `0x`. -/
theorem number_hex (s : List Char) : number ('0' :: 'x' :: s) =
    (.string .hex (String.ofList (s.takeWhile Quoted.isHexDigit)),
      (s.takeWhile Quoted.isHexDigit).length + 1) := by
  simp [number]

/-- A number without the mark `0x` is its digits, its point and its exponent, and a lone point is a
symbol. -/
theorem number_plain (h : ¬['0', 'x'] <+: s) : number s =
    if plainOf s = ['.'] then (.symbol ".", 0)
    else (.number (String.ofList (digitsOf s)) (longOf (s.drop (digitsOf s).length) != []),
      (digitsOf s).length - 1 + (longOf (s.drop (digitsOf s).length)).length) := by
  have hlong (s : List Char) : (longOf s != []) = (s.head? == some 'L') ∧
      (longOf s).length = if s.head? == some 'L' then 1 else 0 := by
    rcases s with _ | ⟨x, s⟩
    · decide
    · by_cases hx : x = 'L' <;> simp [longOf, Option.filter, hx]
  have hplain : s.takeWhile Char.isDigit ++ pointOf (s.drop (s.takeWhile Char.isDigit).length) ++
      ((s.drop (s.takeWhile Char.isDigit).length).drop
        (pointOf (s.drop (s.takeWhile Char.isDigit).length)).length).takeWhile Char.isDigit =
      plainOf s := List.append_assoc _ _ _
  simp only [number]
  split
  case h_1 whole tail rest hwhole htail =>
    have hs := List.prefix_iff_eq_append.1 (List.takeWhile_prefix (l := s) Char.isDigit)
    rw [htail, hwhole] at hs
    exact absurd ⟨rest, hs⟩ h
  case h_2 =>
    refine (congrArg (fun plain : List Char => if plain == ['.'] then (Token.symbol ".", 0) else
      (.number (String.ofList (plain ++ exponentOf (s.drop plain.length)))
        ((s.drop (plain ++ exponentOf (s.drop plain.length)).length).head? == some 'L'),
      (plain ++ exponentOf (s.drop plain.length)).length - 1 +
        if (s.drop (plain ++ exponentOf (s.drop plain.length)).length).head? == some 'L'
        then 1 else 0)) hplain).trans ?_
    have hdigits : plainOf s ++ exponentOf (s.drop (plainOf s).length) = digitsOf s := rfl
    rw [(hlong _).1, (hlong _).2, hdigits]
    simp only [beq_iff_eq]

/-- The last character of a front part without blanks. -/
theorem exists_getElem?_of_front (hw : w <+: s) (hn : w.length = n + 1)
    (hsolid : ∀ x ∈ w, Text.isBlank x = false) :
    ∃ x, s[n]? = some x ∧ Text.isBlank x = false := by
  obtain ⟨rest, rfl⟩ := hw
  have hlt : n < w.length := by omega
  exact ⟨w[n], by rw [List.getElem?_append_left hlt, List.getElem?_eq_getElem hlt],
    hsolid _ (List.getElem_mem hlt)⟩

/-- What starts with a sign of a number is not cut short by what follows. -/
theorem number_cut (h : number (q ++ u) = (t, n)) (hn : n < q.length) (hcut : Cuts u v) :
    number (q ++ v) = (t, n) := by
  by_cases hhex : ['0', 'x'] <+: q ++ u
  · obtain ⟨rest, hrest⟩ := hhex
    rcases q with _ | ⟨a, _ | ⟨b, q⟩⟩
    · simp at hn
    · obtain ⟨rfl, rfl⟩ : '0' = a ∧ 'x' :: rest = u := by simpa using hrest
      rw [List.singleton_append, number_hex, Prod.mk.injEq] at h
      simp at hn
      omega
    · obtain ⟨rfl, rfl, rfl⟩ : '0' = a ∧ 'x' = b ∧ rest = q ++ u := by simpa using hrest
      simp only [List.cons_append, number_hex, Prod.mk.injEq] at h ⊢
      have hlength : ((q ++ u).takeWhile Quoted.isHexDigit).length ≤ q.length := by
        simp only [List.length_cons] at hn
        omega
      rwa [(Takes.takeWhile (P := Quoted.isHexDigit) (by decide)).cut hlength hcut]
  · have hhex' : ¬['0', 'x'] <+: q ++ v := by
      rintro ⟨rest, hrest⟩
      rcases q with _ | ⟨a, _ | ⟨b, q⟩⟩
      · simp at hn
      · obtain ⟨rfl, rfl⟩ : '0' = a ∧ 'x' :: rest = v := by simpa using hrest
        exact absurd (hcut.head 'x' rfl) (by decide)
      · obtain ⟨rfl, rfl, -⟩ : '0' = a ∧ 'x' = b ∧ rest = q ++ v := by simpa using hrest
        exact hhex ⟨q ++ u, rfl⟩
    rw [number_plain hhex] at h
    rw [number_plain hhex']
    split at h
    case isTrue hplain =>
      have hlength : (plainOf (q ++ u)).length ≤ q.length := by
        rw [hplain]
        exact Nat.lt_of_le_of_lt (Nat.zero_le n) hn
      rwa [takes_plainOf.cut hlength hcut, if_pos hplain]
    case isFalse hplain =>
      rw [Prod.mk.injEq] at h
      have hdigits : (digitsOf (q ++ u)).length ≤ q.length := by omega
      have hplain' : (plainOf (q ++ u)).length ≤ (digitsOf (q ++ u)).length := by
        rw [digitsOf, followedBy, List.length_append]
        exact Nat.le_add_right _ _
      have hlong : (longOf (q.drop (digitsOf (q ++ u)).length ++ u)).length ≤
          (q.drop (digitsOf (q ++ u)).length).length := by
        rw [← List.drop_append_of_le_length hdigits, List.length_drop]
        omega
      rw [takes_plainOf.cut (hplain'.trans hdigits) hcut, if_neg hplain,
        takes_digitsOf.cut hdigits hcut, List.drop_append_of_le_length hdigits,
        takes_longOf.cut hlong hcut, ← List.drop_append_of_le_length hdigits]
      exact Prod.ext h.1 h.2

/-- What starts with a digit or a point has one. -/
theorem plainOf_ne_nil (hc : (c.isDigit || c == '.') = true) : plainOf (c :: s) ≠ [] := by
  by_cases hdigit : c.isDigit = true
  · simp [plainOf, followedBy, hdigit]
  · obtain rfl : c = '.' := by simpa [hdigit] using hc
    simp [plainOf, followedBy, pointOf]

/-- A number ends in no blank. -/
theorem number_ends (hc : (c.isDigit || c == '.') = true) (h : number (c :: s) = (t, n)) :
    ∃ x, (c :: s)[n]? = some x ∧ Text.isBlank x = false := by
  by_cases hhex : ['0', 'x'] <+: c :: s
  · obtain ⟨rest, hrest⟩ := hhex
    rw [← hrest] at h ⊢
    simp only [List.cons_append, List.nil_append, number_hex, Prod.mk.injEq] at h
    obtain ⟨-, rfl⟩ := h
    have htakes : Takes (List.takeWhile Quoted.isHexDigit) := .takeWhile (by decide)
    refine exists_getElem?_of_front (w := '0' :: 'x' :: rest.takeWhile Quoted.isHexDigit) ?_ rfl ?_
    · exact List.cons_prefix_cons.2 ⟨rfl, List.cons_prefix_cons.2 ⟨rfl, htakes.front rest⟩⟩
    · rintro x (_ | ⟨_, _ | ⟨_, hx⟩⟩)
      · rfl
      · rfl
      · exact htakes.solid rest x hx
  · rw [number_plain hhex] at h
    split at h
    case isTrue hplain =>
      obtain ⟨-, rfl⟩ := Prod.mk.injEq _ _ _ _ ▸ h
      refine exists_getElem?_of_front (takes_plainOf.front _) ?_ (takes_plainOf.solid _)
      rw [hplain]
      rfl
    case isFalse hplain =>
      obtain ⟨-, rfl⟩ := Prod.mk.injEq _ _ _ _ ▸ h
      have htakes := takes_digitsOf.followedBy takes_longOf
      refine exists_getElem?_of_front (htakes.front _) ?_ (htakes.solid _)
      have hpos : 0 < (digitsOf (c :: s)).length := by
        rw [digitsOf, followedBy, List.length_append]
        have := List.length_pos_iff.2 (plainOf_ne_nil (s := s) hc)
        omega
      rw [followedBy, List.length_append]
      omega

end Lexer
end Sql
end QueryTemplate
