/-
# Quoted text that differs in signs

The readers of quoted text look for quotes, backslashes, digits and tags; they copy the signs
`<`, `>`, `@`, `!` and `=` whatever they are.  So where two texts differ in signs only (`Alike`),
a reader takes as many characters of the one as of the other, and the contents differ just if
these characters do (`Likewise`).

Every step of a reader takes a few characters and puts a few into the content; what is known of
the rest is carried over by `Likewise.append`.
-/

import Mathlib.Data.List.Forall2
import Mathlib.Data.List.TakeWhile
import QueryTemplate.Proofs.Token.Closed

namespace QueryTemplate
namespace Sql
namespace Quoted

/-- The signs that "not equal" and the doubled at-sign are written with. -/
def signs : List Char := ['<', '>', '@', '!', '=']

/-- The same character, or one sign for another. -/
def Turns (a b : Char) : Prop := a = b ∨ a ∈ signs ∧ b ∈ signs

/-- Texts that differ in signs only. -/
def Alike : List Char → List Char → Prop := List.Forall₂ Turns

variable {quote a b c x : Char} {escapes : Bool} {s s' t t' w w' v v' cs read read' tag : List Char}
  {n m k run count fuel : Nat} {P : Char → Bool}

/-! ## Characters -/

/-- A character may stand for itself. -/
theorem Turns.refl (a : Char) : Turns a a := .inl rfl

/-- What one sign may turn into may turn back. -/
theorem Turns.symm (h : Turns a b) : Turns b a := h.imp Eq.symm And.symm

/-- Only signs turn into something else. -/
theorem Turns.eq_of_notMem (h : Turns a b) (ha : a ∉ signs) : b = a :=
  h.elim Eq.symm fun h => absurd h.1 ha

/-- A turned character is a given plain character exactly if the first one was. -/
theorem Turns.eq_iff (h : Turns a b) (hx : x ∉ signs) : b = x ↔ a = x := by
  rcases h with rfl | ⟨ha, hb⟩
  · exact Iff.rfl
  · exact iff_of_false (ne_of_mem_of_not_mem hb hx) (ne_of_mem_of_not_mem ha hx)

/-- What holds of all signs holds of the five of them. -/
theorem forall_mem_signs {Q : Char → Prop} :
    (∀ x ∈ signs, Q x) ↔ Q '<' ∧ Q '>' ∧ Q '@' ∧ Q '!' ∧ Q '=' := by
  simp [signs]

/-- No sign has the property. -/
def NoSign (P : Char → Bool) : Prop := ∀ x ∈ signs, P x = false

instance : Decidable (NoSign P) := decidable_of_iff _ (forall_mem_signs (Q := (P · = false))).symm

/-- A character of a class that holds no sign is no sign. -/
theorem NoSign.notMem (hP : NoSign P) (ha : P a = true) : a ∉ signs := fun h => by
  rw [hP a h] at ha
  cases ha

/-- A class that holds no sign does not see signs turn. -/
theorem NoSign.congr (hP : NoSign P) (h : Turns a b) : P b = P a := by
  rcases h with rfl | ⟨ha, hb⟩
  · rfl
  · rw [hP a ha, hP b hb]

/-! ## Texts -/

namespace Alike

theorem refl (s : List Char) : Alike s s := List.forall₂_same.2 fun x _ => .refl x

theorem symm (h : Alike s s') : Alike s' s := List.Forall₂.flip (h.imp fun _ _ => .symm)

/-- Texts alike in two pieces are alike. -/
theorem append (h : Alike s s') (h' : Alike t t') : Alike (s ++ t) (s' ++ t') :=
  List.rel_append h h'

/-- Alike texts are equally long. -/
theorem length_eq (h : Alike s s') : s'.length = s.length := (List.Forall₂.length_eq h).symm

/-- Alike texts are alike from every place on. -/
theorem drop (h : Alike s s') (n : Nat) : Alike (s.drop n) (s'.drop n) := List.forall₂_drop n h

/-- A text alike to one with a first character has one too, and is alike after it. -/
theorem exists_cons (h : Alike (c :: s) s') : ∃ c' t, s' = c' :: t ∧ Turns c c' ∧ Alike s t := by
  obtain ⟨c', t, hc, ht, rfl⟩ := List.forall₂_cons_left_iff.1 h
  exact ⟨c', t, rfl, hc, ht⟩

/-- A character that is no sign is the same in both. -/
theorem exists_of_notMem (h : Alike (c :: s) s') (hc : c ∉ signs) :
    ∃ t, s' = c :: t ∧ Alike s t := by
  obtain ⟨c', t, rfl, hturn, ht⟩ := h.exists_cons
  exact ⟨t, by rw [hturn.eq_of_notMem hc], ht⟩

/-- A front part without signs is the same in both. -/
theorem front (h : Alike s s') (hw : w <+: s) (hsigns : ∀ x ∈ w, x ∉ signs) : w <+: s' := by
  induction w generalizing s s' with
  | nil => exact List.nil_prefix
  | cons x w ih =>
    obtain ⟨r, rfl⟩ := hw
    obtain ⟨t, rfl, ht⟩ := h.exists_of_notMem (hsigns x List.mem_cons_self)
    refine List.cons_prefix_cons.2 ⟨rfl, ih ht ⟨r, rfl⟩ fun y hy => hsigns y ?_⟩
    exact List.mem_cons_of_mem _ hy

/-- A front that holds no sign is the front of every alike text. -/
theorem take_eq (h : Alike s s') (hw : w <+: s) (hsigns : ∀ x ∈ w, x ∉ signs)
    (hn : w.length = n) : s'.take n = s.take n := by
  obtain ⟨r, rfl⟩ := hw
  obtain ⟨r', rfl⟩ := h.front ⟨r, rfl⟩ hsigns
  rw [List.take_left' hn, List.take_left' hn]

/-- A run of characters that are no signs is the same in alike texts. -/
theorem takeWhile_eq (h : Alike s s') (hP : NoSign P) : s'.takeWhile P = s.takeWhile P := by
  induction h with
  | nil => rfl
  | @cons a b s s' hturn _ ih =>
    rw [List.takeWhile_cons, List.takeWhile_cons, hP.congr hturn, ih]
    cases hc : P a with
    | false => rfl
    | true => rw [hturn.eq_of_notMem (hP.notMem hc)]

/-- Alike texts start with the same plain characters. -/
theorem head?_eq_iff (h : Alike s s') (hx : x ∉ signs) : s'.head? = some x ↔ s.head? = some x := by
  cases h with
  | nil => exact Iff.rfl
  | cons hturn _ => simpa using hturn.eq_iff hx

/-- Alike texts have the same plain characters at the same places. -/
theorem getElem?_eq_iff (h : Alike s s') (hx : x ∉ signs) : s'[n]? = some x ↔ s[n]? = some x := by
  rw [← List.head?_drop, ← List.head?_drop]
  exact (h.drop n).head?_eq_iff hx

end Alike

/-! ## What a reader finds -/

/-- A reader that finds `o` in `s` finds `o'` in `s'`: as many characters, and other content just
if these characters are others. -/
def Likewise (s s' : List Char) (o o' : Option Content) : Prop :=
  ∀ cs n, o = some (cs, n) → ∃ cs', o' = some (cs', n) ∧ (cs' = cs ↔ s'.take n = s.take n)

namespace Likewise

variable {o o' : Option Content}

theorem none (s s' : List Char) (o' : Option Content) : Likewise s s' none o' := nofun

/-- Text that ends here has no content left. -/
theorem stop (h : s'.take n = s.take n) : Likewise s s' (some ([], n)) (some ([], n)) := by
  rintro _ _ ⟨⟩
  exact ⟨[], rfl, iff_of_true rfl h⟩

/-- A step takes `w`, of which `v` is content, and what is left is read. -/
theorem append (hread : Likewise s s' o o') (v v' : List Char) (hw : w.length = k)
    (hw' : w'.length = k) (hv : v'.length = v.length) (h : v' = v ↔ w' = w) :
    Likewise (w ++ s) (w' ++ s') (o.map fun r => (v ++ r.1, r.2 + k))
      (o'.map fun r => (v' ++ r.1, r.2 + k)) := by
  intro cs n hcs
  obtain ⟨⟨cs, n⟩, rfl, heq⟩ := Option.map_eq_some_iff.1 hcs
  cases heq
  obtain ⟨cs', rfl, hiff⟩ := hread cs n rfl
  refine ⟨v' ++ cs', rfl, ?_⟩
  have htake {w s : List Char} (hw : w.length = k) : (w ++ s).take (n + k) = w ++ s.take n := by
    rw [← hw, Nat.add_comm, List.take_length_add_append]
  rw [htake hw, htake hw', List.append_eq_append_iff_of_size_eq_left hv,
    List.append_eq_append_iff_of_size_eq_left (hw'.trans hw.symm), h, hiff]

/-- A step takes one character, or `w` that stands for one. -/
theorem cons (hread : Likewise s s' o o') (w w' : List Char) (hw : w.length = k)
    (hw' : w'.length = k) (h : b = a ↔ w' = w) :
    Likewise (w ++ s) (w' ++ s') (o.map (Content.cons a k)) (o'.map (Content.cons b k)) :=
  hread.append [a] [b] hw hw' rfl (by rw [List.singleton_inj, h])

/-- A step copies one character. -/
theorem copy (hread : Likewise s s' o o') (a b : Char) :
    Likewise (a :: s) (b :: s') (o.map (Content.cons a 1)) (o'.map (Content.cons b 1)) :=
  hread.cons [a] [b] rfl rfl List.singleton_inj.symm

/-- A step takes the same characters in both texts. -/
theorem same (hread : Likewise s s' o o') (a : Char) (hw : w.length = k) :
    Likewise (w ++ s) (w ++ s') (o.map (Content.cons a k)) (o'.map (Content.cons a k)) :=
  hread.cons w w hw hw (iff_of_true rfl rfl)

/-- A step takes `k` characters, which stand for one. -/
theorem of_drop (hread : Likewise (s.drop k) (s'.drop k) o o') (h : Alike s s')
    (hk : k ≤ s.length) (hv : b = a ↔ s'.take k = s.take k) :
    Likewise s s' (o.map (Content.cons a k)) (o'.map (Content.cons b k)) := by
  have hk' : k ≤ s'.length := by rwa [h.length_eq]
  have hcons := hread.cons _ _ (List.length_take_of_le hk) (List.length_take_of_le hk') hv
  rwa [List.take_append_drop, List.take_append_drop] at hcons

end Likewise

/-! ## Quotes -/

/-- An escaped sign is what it stands for, so escapes tell turned signs apart. -/
theorem unescape_eq_iff (h : Turns a b) : unescape b = unescape a ↔ b = a := by
  rcases h with rfl | ⟨ha, hb⟩
  · simp
  · have hsign : ∀ x ∈ signs, unescape x = x := forall_mem_signs.2 (by decide)
    rw [hsign a ha, hsign b hb]

/-- Quoted texts are read likewise in alike texts. -/
theorem quoted_likewise (hquote : quote ∉ signs) (h : Alike s s') :
    Likewise s s' (quoted quote escapes s) (quoted quote escapes s') := by
  induction s using quoted.induct quote escapes generalizing s' with
  | case1 => exact .none _ _ _
  | case2 =>
    obtain ⟨t, rfl, ht⟩ := h.exists_of_notMem hquote
    cases ht
    rw [quoted, if_pos rfl]
    exact .stop rfl
  | case3 c hc =>
    rw [quoted, if_neg hc]
    exact .none _ _ _
  | case4 rest ih =>
    obtain ⟨_, rfl, htail⟩ := h.exists_of_notMem hquote
    obtain ⟨t, rfl, ht⟩ := htail.exists_of_notMem hquote
    rw [quoted, if_pos rfl, if_pos rfl, quoted, if_pos rfl, if_pos rfl]
    exact (ih ht).same quote (w := [quote, quote]) rfl
  | case5 d rest hd =>
    obtain ⟨_, rfl, htail⟩ := h.exists_of_notMem hquote
    obtain ⟨d', t, rfl, hturn, -⟩ := htail.exists_cons
    rw [quoted, if_pos rfl, if_neg hd, quoted, if_pos rfl, if_neg (mt (hturn.eq_iff hquote).1 hd)]
    exact .stop rfl
  | case6 c d rest hc hesc ih =>
    obtain ⟨_, rfl, htail⟩ := h.exists_of_notMem (by rw [hesc.1]; decide)
    obtain ⟨d', t, rfl, hturn, ht⟩ := htail.exists_cons
    rw [quoted, if_neg hc, if_pos hesc, quoted, if_neg hc, if_pos hesc]
    exact (ih ht).cons [c, d] [c, d'] rfl rfl
      (by rw [unescape_eq_iff hturn]; simp)
  | case7 c d rest hc hesc ih =>
    obtain ⟨c', _, rfl, hturn, ht⟩ := h.exists_cons
    obtain ⟨d', t, rfl, -⟩ := ht.exists_cons
    have hc' : c' ≠ quote := mt (hturn.eq_iff hquote).1 hc
    have hesc' : ¬(c' = '\\' ∧ escapes = true) := by rwa [hturn.eq_iff (by decide)]
    rw [quoted, if_neg hc, if_neg hesc, quoted, if_neg hc', if_neg hesc']
    exact (ih ht).copy c c'

/-- The characters read so far may differ too, but not the quotes at the end of them. -/
theorem tripleQuotedFrom_likewise (hquote : quote ∉ signs) (h : Alike s s')
    (hread : read'.take run = read.take run)
    (hfound : tripleQuotedFrom quote escapes read run count s = some (cs, n)) :
    ∃ k cs', n = count + k ∧
      tripleQuotedFrom quote escapes read' run count s' = some (cs', n) ∧
      (cs' = cs ↔ read' = read ∧ s'.take k = s.take k) := by
  have hcontent {read read' : List Char} (h : read'.take 2 = read.take 2) :
      (read'.drop 2).reverse = (read.drop 2).reverse ↔ read' = read := by
    rw [List.reverse_inj]
    refine ⟨fun hdrop => ?_, fun heq => by rw [heq]⟩
    rw [← List.take_append_drop 2 read', h, hdrop, List.take_append_drop]
  induction read, run, count, s using tripleQuotedFrom.induct quote escapes
      generalizing read' s' with
  | case1 => cases hfound
  | case2 read run count c hc =>
    obtain ⟨rfl, rfl⟩ := hc
    obtain ⟨t, rfl, ht⟩ := h.exists_of_notMem hquote
    cases ht
    rw [tripleQuotedFrom, if_pos ⟨rfl, rfl⟩] at hfound ⊢
    cases hfound
    exact ⟨1, _, rfl, rfl, by simp [hcontent hread]⟩
  | case3 read run count c hc => simp [tripleQuotedFrom, hc] at hfound
  | case4 read count d rest =>
    obtain ⟨_, rfl, htail⟩ := h.exists_of_notMem hquote
    obtain ⟨d', t, rfl, -⟩ := htail.exists_cons
    rw [tripleQuotedFrom, if_pos rfl, if_pos rfl] at hfound ⊢
    cases hfound
    exact ⟨1, _, rfl, rfl, by simp [hcontent hread]⟩
  | case5 read run count d rest hrun ih =>
    obtain ⟨_, rfl, htail⟩ := h.exists_of_notMem hquote
    obtain ⟨d', t, rfl, hturn, ht⟩ := htail.exists_cons
    rw [tripleQuotedFrom, if_pos rfl, if_neg hrun] at hfound ⊢
    have hread' : (quote :: read').take (run + 1) = (quote :: read).take (run + 1) := by
      rw [List.take_succ_cons, List.take_succ_cons, hread]
    obtain ⟨k, cs', rfl, hfound', hiff⟩ := ih (.cons hturn ht) hread' hfound
    refine ⟨k + 1, cs', by omega, hfound', ?_⟩
    rw [hiff, List.take_succ_cons, List.take_succ_cons]
    simp
  | case6 read run count c d rest hc hesc ih =>
    obtain ⟨_, rfl, htail⟩ := h.exists_of_notMem (by rw [hesc.1]; decide)
    obtain ⟨d', t, rfl, hturn, ht⟩ := htail.exists_cons
    rw [tripleQuotedFrom, if_neg hc, if_pos hesc] at hfound ⊢
    have hnone : (unescape d' :: read').take 0 = (unescape d :: read).take 0 := rfl
    obtain ⟨k, cs', rfl, hfound', hiff⟩ := ih ht hnone hfound
    refine ⟨k + 2, cs', by omega, hfound', ?_⟩
    rw [hiff, List.cons.injEq, unescape_eq_iff hturn]
    simp only [List.take_succ_cons, List.cons.injEq, true_and]
    tauto
  | case7 read run count c d rest hc hesc ih =>
    obtain ⟨c', _, rfl, hturn, htail⟩ := h.exists_cons
    obtain ⟨d', t, rfl, hturn', ht⟩ := htail.exists_cons
    have hc' : c' ≠ quote := mt (hturn.eq_iff hquote).1 hc
    have hesc' : ¬(c' = '\\' ∧ escapes = true) := by rwa [hturn.eq_iff (by decide)]
    rw [tripleQuotedFrom, if_neg hc, if_neg hesc] at hfound
    rw [tripleQuotedFrom, if_neg hc', if_neg hesc']
    have hnone : (c' :: read').take 0 = (c :: read).take 0 := rfl
    obtain ⟨k, cs', rfl, hfound', hiff⟩ := ih (.cons hturn' ht) hnone hfound
    refine ⟨k + 1, cs', by omega, hfound', ?_⟩
    rw [hiff, List.cons.injEq, List.take_succ_cons, List.take_succ_cons, List.cons.injEq]
    tauto

/-- Texts in three quotes are read likewise in alike texts. -/
theorem tripleQuoted_likewise (hquote : quote ∉ signs) (h : Alike s s') :
    Likewise s s' (tripleQuoted quote escapes s) (tripleQuoted quote escapes s') := by
  intro cs n hfound
  obtain ⟨k, cs', rfl, hfound', hiff⟩ := tripleQuotedFrom_likewise hquote h rfl hfound
  exact ⟨cs', hfound', by simpa using hiff⟩

/-- Texts between double dollar signs are read likewise in alike texts. -/
theorem dollarQuoted_likewise (h : Alike s s') :
    Likewise s s' (dollarQuoted s) (dollarQuoted s') := by
  have hdollar : '$' ∉ signs := by decide
  induction s using dollarQuoted.induct generalizing s' with
  | case1 => exact .none _ _ _
  | case2 => exact .none _ _ _
  | case3 rest =>
    obtain ⟨_, rfl, htail⟩ := h.exists_of_notMem hdollar
    obtain ⟨t, rfl, ht⟩ := htail.exists_of_notMem hdollar
    rw [dollarQuoted, if_pos rfl, if_pos rfl, dollarQuoted, if_pos rfl, if_pos rfl]
    exact .stop rfl
  | case4 d rest hd ih =>
    obtain ⟨_, rfl, htail⟩ := h.exists_of_notMem hdollar
    obtain ⟨d', t, rfl, hturn, ht⟩ := htail.exists_cons
    rw [dollarQuoted, if_pos rfl, if_neg hd, dollarQuoted, if_pos rfl,
      if_neg (mt (hturn.eq_iff hdollar).1 hd)]
    change Likewise (['$', d] ++ rest) (['$', d'] ++ t) _ _
    exact (ih ht).append ['$', d] ['$', d'] rfl rfl rfl Iff.rfl
  | case5 c d rest hc ih =>
    obtain ⟨c', _, rfl, hturn, htail⟩ := h.exists_cons
    obtain ⟨d', t, rfl, -⟩ := htail.exists_cons
    rw [dollarQuoted, if_neg hc, dollarQuoted, if_neg (mt (hturn.eq_iff hdollar).1 hc)]
    exact (ih htail).copy c c'

/-! ## Escaped strings -/

/-- No hexadecimal digit is a sign. -/
theorem noSign_isHexDigit : NoSign isHexDigit := by decide

/-- No octal digit is a sign. -/
theorem noSign_isOctalDigit : NoSign isOctalDigit := by decide

/-- A code point is written without signs. -/
theorem codePoint?_likewise (h : Alike s s') (hfound : codePoint? n s = some c) :
    codePoint? n s' = some c ∧ s'.take n = s.take n := by
  have hdigits : n ≤ (s.take n).length ∧ ∀ x ∈ s.take n, x ∉ signs := by
    obtain ⟨hcond, -⟩ := Option.ite_none_left_eq_some.1 hfound
    generalize s.take n = ds at hcond
    simp only [Bool.or_eq_true, decide_eq_true_eq, Bool.not_eq_true', not_or, Nat.not_lt,
      Bool.not_eq_false, List.all_eq_true] at hcond
    refine ⟨hcond.1.1, fun x hx => ?_⟩
    have hall := hcond.2 x
    split at hall
    case h_1 r =>
      rcases List.mem_cons.1 hx with rfl | hx
      · decide
      · exact noSign_isHexDigit.notMem (hall hx)
    case h_2 => exact noSign_isHexDigit.notMem (hall hx)
  have htake : s'.take n = s.take n :=
    h.take_eq (List.take_prefix n s) hdigits.2 (Nat.le_antisymm (List.length_take_le n s) hdigits.1)
  exact ⟨by rw [codePoint?, htake]; exact hfound, htake⟩

/-- Digits are taken from both texts alike. -/
theorem Alike.take_takeWhile (h : Alike s s') (hP : NoSign P) :
    (s'.take k).takeWhile P = (s.take k).takeWhile P ∧
      s'.take ((s.take k).takeWhile P).length = s.take ((s.take k).takeWhile P).length := by
  refine ⟨Alike.takeWhile_eq (List.forall₂_take k h) hP, h.take_eq ?_ ?_ rfl⟩
  · exact (List.takeWhile_prefix P).trans (List.take_prefix k s)
  · exact fun x hx => hP.notMem (List.mem_takeWhile_imp hx)

/-- A sign behind a backslash stands for itself. -/
theorem escape?_sign (hc : c ∈ signs) (s : List Char) : escape? (c :: s) = some (c, 1) := by
  simp only [signs, List.mem_cons, List.not_mem_nil, or_false] at hc
  rcases hc with rfl | rfl | rfl | rfl | rfl <;> rfl

/-- Escapes are as long in alike texts, and stand for the same exactly if they are written the same.
-/
theorem escape?_likewise {e : Char} (h : Alike s s') (hfound : escape? s = some (e, n)) :
    ∃ e', escape? s' = some (e', n) ∧ (e' = e ↔ s'.take n = s.take n) ∧
      (e = '\x00' ↔ e' = '\x00') := by
  rcases s with _ | ⟨c, s⟩
  · cases hfound
  by_cases hc : c ∈ signs
  · obtain ⟨c', t, rfl, hturn, ht⟩ := h.exists_cons
    have hc' : c' ∈ signs := by
      rcases hturn with rfl | hturn
      · exact hc
      · exact hturn.2
    obtain ⟨rfl, rfl⟩ : c = e ∧ 1 = n := by simpa [escape?_sign hc] using hfound
    have hnul : ∀ x ∈ signs, x ≠ '\x00' := forall_mem_signs.2 (by decide)
    exact ⟨c', escape?_sign hc' t, by simp, iff_of_false (hnul c hc) (hnul c' hc')⟩
  -- Any other escape takes the same characters in both texts.
  obtain ⟨t, rfl, ht⟩ := h.exists_of_notMem hc
  suffices hsame : escape? (c :: t) = some (e, n) ∧ ∃ k, n = k + 1 ∧ t.take k = s.take k by
    obtain ⟨hfound', k, rfl, htake⟩ := hsame
    exact ⟨e, hfound', by simp [htake], Iff.rfl⟩
  simp only [escape?] at hfound ⊢
  split at hfound
  case h_6 | h_7 =>
    obtain ⟨hcode, rfl⟩ := map_pair_eq_some.1 hfound
    obtain ⟨hcode', htake⟩ := codePoint?_likewise ht hcode
    exact ⟨by rw [hcode']; rfl, _, rfl, htake⟩
  case h_8 =>
    obtain ⟨hdigits, htake⟩ := ht.take_takeWhile noSign_isHexDigit (k := 2)
    rw [hdigits]
    refine ⟨hfound, ?_⟩
    split at hfound
    case isTrue => cases hfound; exact ⟨0, rfl, rfl⟩
    case isFalse => exact ⟨_, (map_pair_eq_some.1 hfound).2.symm, htake⟩
  case h_9 =>
    obtain ⟨hdigits, htake⟩ := ht.take_takeWhile noSign_isOctalDigit (k := 2)
    rw [hdigits]
    refine ⟨hfound, ?_⟩
    split at hfound
    case isTrue => exact ⟨_, (map_pair_eq_some.1 hfound).2.symm, htake⟩
    case isFalse => cases hfound; exact ⟨0, rfl, rfl⟩
  all_goals
    cases hfound
    exact ⟨rfl, 0, rfl, rfl⟩

/-- From any place inside them, escaped texts are read likewise in alike texts. -/
theorem escapedFrom_likewise (h : Alike s s') :
    Likewise s s' (escapedFrom fuel s) (escapedFrom fuel s') := by
  have hquote : '\'' ∉ signs := by decide
  induction fuel, s using escapedFrom.induct generalizing s' with
  | case1 => exact .none _ _ _
  | case2 fuel hfuel =>
    cases fuel with
    | zero => exact absurd rfl hfuel
    | succ fuel => exact .none _ _ _
  | case3 fuel rest ih =>
    obtain ⟨_, rfl, htail⟩ := h.exists_of_notMem hquote
    obtain ⟨t, rfl, ht⟩ := htail.exists_of_notMem hquote
    exact (ih ht).same '\'' (w := ['\'', '\'']) rfl
  | case4 fuel rest hrest =>
    obtain ⟨t, rfl, ht⟩ := h.exists_of_notMem hquote
    have hhead : rest.head? ≠ some '\'' := by
      intro h
      obtain ⟨t, rfl⟩ := List.head?_eq_some_iff.1 h
      exact hrest t rfl
    rw [escapedFrom_quote fuel hhead, escapedFrom_quote fuel (mt (ht.head?_eq_iff hquote).1 hhead)]
    exact .stop rfl
  | case5 fuel rest _ ih =>
    obtain ⟨t, rfl, ht⟩ := h.exists_of_notMem (by decide)
    rw [escapedFrom_backslash, escapedFrom_backslash]
    cases hescape : escape? rest with
    | none => exact .none _ _ _
    | some found =>
      obtain ⟨e, m⟩ := found
      obtain ⟨e', hescape', hiff, hnul⟩ := escape?_likewise ht hescape
      simp only [hescape', Option.bind_some, ← hnul]
      split
      case isTrue => exact .none _ _ _
      case isFalse =>
        rcases Nat.lt_or_ge rest.length m with hlt | hge
        · rw [List.drop_eq_nil_of_le hlt.le]
          cases fuel <;> exact .none _ _ _
        · refine Likewise.of_drop (k := m + 1) (ih m (ht.drop m)) h (Nat.succ_le_succ hge) ?_
          simpa using hiff
  | case6 fuel c rest hquote' hbackslash ih =>
    obtain ⟨c', t, rfl, hturn, ht⟩ := h.exists_cons
    rw [escapedFrom_plain _ _ hquote' hbackslash,
      escapedFrom_plain _ _ (mt (hturn.eq_iff hquote).1 hquote')
        (mt (hturn.eq_iff (by decide)).1 hbackslash)]
    exact (ih ht).copy c c'

/-- Escaped texts are read likewise in alike texts. -/
theorem escaped_likewise (h : Alike s s') : Likewise s s' (escaped s) (escaped s') := by
  rw [escaped, escaped, h.length_eq]
  exact escapedFrom_likewise h

/-! ## Strings with code points -/

/-- Where only success counts, the places of faults can be forgotten. -/
theorem toOption_after_map {o : Except (CodePointFault × Nat) Content} :
    (after m (o.map (Content.cons c k))).toOption = o.toOption.map (Content.cons c k) := by
  cases o <;> rfl

/-- Hexadecimal digits that are read stand the same in every alike text. -/
theorem hexDigits_likewise {value v : Nat} (h : Alike s s')
    (hfound : hexDigits count value n s = .ok v) :
    n ≤ s.length ∧ s'.take n = s.take n := by
  induction n generalizing s s' count value with
  | zero => exact ⟨Nat.zero_le _, rfl⟩
  | succ n ih =>
    cases s with
    | nil => cases hfound
    | cons c s =>
      rw [hexDigits] at hfound
      cases hdigit : hexDigit? c with
      | none => simp [hdigit] at hfound
      | some x =>
        obtain ⟨t, rfl, ht⟩ := h.exists_of_notMem
          (noSign_isHexDigit.notMem (by rw [isHexDigit, hdigit]; rfl))
        obtain ⟨hlength, htake⟩ := ih ht (by simpa [hdigit] using hfound)
        exact ⟨Nat.succ_le_succ hlength, by rw [List.take_succ_cons, List.take_succ_cons, htake]⟩

/-- Hexadecimal digits are no signs. -/
theorem hexChar_likewise (h : Alike s s') (hfound : hexChar n s = .ok c) :
    n ≤ s.length ∧ s'.take n = s.take n ∧ hexChar n s' = .ok c := by
  obtain ⟨hlength, htake⟩ : n ≤ s.length ∧ s'.take n = s.take n := by
    rw [hexChar] at hfound
    split at hfound
    case h_1 => cases hfound
    case h_2 hdigits => exact hexDigits_likewise h hdigits
  refine ⟨hlength, htake, ?_⟩
  have hsame := hexChar_append (t := s'.drop n) (u := s.drop n) (List.length_take_of_le hlength)
  rw [← htake, List.take_append_drop, htake, List.take_append_drop] at hsame
  rw [hsame, hfound]

/-- From any place inside them, code points are read likewise in alike texts. -/
theorem codePointsFrom_likewise (h : Alike s s') :
    Likewise s s' (codePointsFrom fuel s).toOption (codePointsFrom fuel s').toOption := by
  have hquote : '\'' ∉ signs := by decide
  have hback : '\\' ∉ signs := by decide
  induction fuel, s using codePointsFrom.induct generalizing s' with
  | case1 => exact .none _ _ _
  | case2 fuel hfuel =>
    cases fuel with
    | zero => exact absurd rfl hfuel
    | succ fuel => exact .none _ _ _
  | case3 fuel rest ih =>
    obtain ⟨_, rfl, htail⟩ := h.exists_of_notMem hquote
    obtain ⟨t, rfl, ht⟩ := htail.exists_of_notMem hquote
    rw [codePointsFrom_quote_quote, codePointsFrom_quote_quote, toOption_after_map,
      toOption_after_map]
    exact (ih 2 ht).same '\'' (w := ['\'', '\'']) rfl
  | case4 fuel rest hrest =>
    obtain ⟨t, rfl, ht⟩ := h.exists_of_notMem hquote
    have hhead : rest.head? ≠ some '\'' := by
      intro h
      obtain ⟨t, rfl⟩ := List.head?_eq_some_iff.1 h
      exact hrest t rfl
    rw [codePointsFrom_quote fuel hhead,
      codePointsFrom_quote fuel (mt (ht.head?_eq_iff hquote).1 hhead)]
    exact .stop rfl
  | case5 fuel rest _ ih =>
    obtain ⟨_, rfl, htail⟩ := h.exists_of_notMem hback
    obtain ⟨t, rfl, ht⟩ := htail.exists_of_notMem hback
    rw [codePointsFrom_backslash, codePointsFrom_backslash, toOption_after_map,
      toOption_after_map]
    exact (ih 2 ht).same '\\' (w := ['\\', '\\']) rfl
  | case6 fuel digits e hhex _ ih =>
    obtain ⟨_, rfl, htail⟩ := h.exists_of_notMem hback
    obtain ⟨t, rfl, ht⟩ := htail.exists_of_notMem (by decide)
    obtain ⟨hlength, htake, hhex'⟩ := hexChar_likewise ht hhex
    rw [codePointsFrom_long fuel hhex, codePointsFrom_long fuel hhex', toOption_after_map,
      toOption_after_map]
    refine Likewise.of_drop (k := 8) (ih 8 (ht.drop 6)) h (Nat.add_le_add_right hlength 2) ?_
    exact iff_of_true rfl (by simp [htake])
  | case7 fuel digits e m hhex _ ih =>
    have hnone : (codePointsFrom (fuel + 1) ('\\' :: '+' :: digits)).toOption = none := by
      simp [codePointsFrom, hhex]
      rfl
    rw [hnone]
    exact .none _ _ _
  | case8 fuel digits _ _ e hhex _ ih =>
    obtain ⟨t, rfl, ht⟩ := h.exists_of_notMem hback
    obtain ⟨hlength, htake, hhex'⟩ := hexChar_likewise ht hhex
    rw [codePointsFrom_short fuel hhex, codePointsFrom_short fuel hhex', toOption_after_map,
      toOption_after_map]
    refine Likewise.of_drop (k := 5) (ih 5 (ht.drop 4)) h (Nat.succ_le_succ hlength) ?_
    exact iff_of_true rfl (by simp [htake])
  | case9 fuel digits hbackslash hplus e m hhex _ ih =>
    have hnone : (codePointsFrom (fuel + 1) ('\\' :: digits)).toOption = none := by
      rcases digits with _ | ⟨c, digits⟩ <;> simp_all [codePointsFrom] <;> rfl
    rw [hnone]
    exact .none _ _ _
  | case10 fuel c rest hquote' hbackslash ih =>
    obtain ⟨c', t, rfl, hturn, ht⟩ := h.exists_cons
    rw [codePointsFrom_plain _ _ hquote' hbackslash,
      codePointsFrom_plain _ _ (mt (hturn.eq_iff hquote).1 hquote')
        (mt (hturn.eq_iff hback).1 hbackslash), toOption_after_map, toOption_after_map]
    exact (ih 1 ht).copy c c'

/-- A string with code points, where the text has one. -/
theorem codePoints_likewise (h : Alike s s') :
    Likewise s s' (codePoints s).toOption (codePoints s').toOption := by
  rw [codePoints, codePoints, h.length_eq]
  exact codePointsFrom_likewise h

/-! ## Dollar-quoted strings with a tag -/

/-- A tag without signs shares as much with alike texts. -/
theorem agreement_likewise (htag : ∀ x ∈ tag, x ∉ signs) (h : Alike s s') :
    agreement tag s' = agreement tag s := by
  induction tag generalizing s s' with
  | nil => rfl
  | cons x tag ih =>
    cases h with
    | nil => rfl
    | cons hturn ht =>
      rw [List.forall_mem_cons] at htag
      rw [agreement, agreement, ih htag.2 ht]
      simp only [@eq_comm _ x, hturn.eq_iff htag.1]

/-- What agrees with the tag is the front of it. -/
theorem take_agreement (tag s : List Char) :
    s.take (agreement tag s) = tag.take (agreement tag s) := by
  induction tag generalizing s with
  | nil => rfl
  | cons x tag ih =>
    cases s with
    | nil => rfl
    | cons c s =>
      rw [agreement]
      split
      case isTrue hx => rw [List.take_succ_cons, List.take_succ_cons, ih, hx]
      case isFalse => rfl

/-- From any place inside them, texts in tags are read likewise in alike texts. -/
theorem tagQuotedFrom_likewise (htag : ∀ x ∈ tag, x ∉ signs) (h : Alike s s') :
    Likewise s s' (tagQuotedFrom tag fuel s) (tagQuotedFrom tag fuel s') := by
  have hdollar : '$' ∉ signs := by decide
  induction fuel generalizing s s' with
  | zero => exact .none _ _ _
  | succ fuel ih =>
    rcases s with _ | ⟨c, s⟩
    · exact .none _ _ _
    by_cases hc : c = '$'
    case neg =>
      obtain ⟨c', t, rfl, hturn, ht⟩ := h.exists_cons
      rw [tagQuotedFrom_plain _ _ hc,
        tagQuotedFrom_plain _ _ (mt (hturn.eq_iff hdollar).1 hc)]
      exact (ih ht).copy c c'
    subst hc
    obtain ⟨t, rfl, ht⟩ := h.exists_of_notMem hdollar
    -- What was compared with the tag is content in both texts.
    have hkeep (m : Nat) (hm : m ≤ s.length) : Likewise ('$' :: s) ('$' :: t)
        ((tagQuotedFrom tag fuel (s.drop m)).map fun r => ('$' :: s.take m ++ r.1, r.2 + m + 1))
        ((tagQuotedFrom tag fuel (t.drop m)).map fun r =>
          ('$' :: t.take m ++ r.1, r.2 + m + 1)) := by
      have hw : ('$' :: s.take m).length = m + 1 :=
        congrArg (· + 1) (List.length_take_of_le hm)
      have hw' : ('$' :: t.take m).length = m + 1 :=
        congrArg (· + 1) (List.length_take_of_le (by rwa [ht.length_eq]))
      have hread := (ih (ht.drop m)).append _ _ hw hw' (hw'.trans hw.symm) Iff.rfl
      rwa [List.cons_append, List.cons_append, List.take_append_drop, List.take_append_drop]
        at hread
    obtain ⟨-, hlength⟩ := agreement_le tag s
    simp only [tagQuotedFrom_dollar, agreement_likewise htag ht, ht.length_eq,
      ht.getElem?_eq_iff hdollar]
    split
    case isTrue =>
      split
      case isTrue => exact .none _ _ _
      case isFalse hlt => exact hkeep _ (Nat.lt_of_not_le hlt)
    case isFalse =>
      split
      case isTrue hend =>
        refine .stop ?_
        rw [List.take_succ_cons, List.take_succ_cons, List.cons.injEq, eq_self, true_and]
        have hsplit := List.take_add_one (l := s) (i := agreement tag s)
        rw [hend] at hsplit
        refine ht.take_eq (List.take_prefix _ _) (fun x hx => ?_) (List.length_take_of_le ?_)
        · rw [hsplit, take_agreement, List.mem_append] at hx
          rcases hx with hx | hx
          · exact htag x (List.mem_of_mem_take hx)
          · obtain rfl : x = '$' := by simpa using hx
            exact hdollar
        · exact (List.getElem?_eq_some_iff.1 hend).1
      case isFalse => exact hkeep _ hlength

/-- Texts in tags without signs are read likewise in alike texts. -/
theorem tagQuoted_likewise (htag : ∀ x ∈ tag, x ∉ signs) (h : Alike s s') :
    Likewise s s' (tagQuoted tag s) (tagQuoted tag s') := by
  rw [tagQuoted, tagQuoted, h.length_eq]
  exact tagQuotedFrom_likewise htag h

/-! ## Comments -/

/-- From any place inside them, comments end likewise in alike texts. -/
theorem commentFrom_likewise {depth : Nat} {last last' : Char} (hlast : Turns last last')
    (h : Alike s s') :
    Likewise s s' (commentFrom depth last s) (commentFrom depth last' s') := by
  have hslash : '/' ∉ signs := by decide
  have hstar : '*' ∉ signs := by decide
  induction h generalizing depth last last' with
  | nil => exact .none _ _ _
  | @cons c c' s s' hturn _ ih =>
    rw [commentFrom, commentFrom]
    simp only [hlast.eq_iff hslash, hlast.eq_iff hstar, hturn.eq_iff hslash, hturn.eq_iff hstar]
    split
    case isTrue => exact (ih hturn).copy c c'
    case isFalse =>
      split
      case isTrue hend =>
        split
        case isTrue =>
          exact .stop (by simp [hturn.eq_of_notMem (hend.2 ▸ hslash)])
        case isFalse => exact (ih hturn).copy c c'
      case isFalse => exact (ih hturn).copy c c'

/-- The last character of a comment before its end is the star of its mark. -/
theorem commentFrom_getLast? {depth : Nat} {last : Char}
    (h : commentFrom depth last s = some (cs, n)) : (last :: cs).getLast? = some '*' := by
  induction s generalizing depth last cs n with
  | nil => cases h
  | cons c s ih =>
    have hcons {depth : Nat} (h : (commentFrom depth c s).map (Content.cons c 1) = some (cs, n)) :
        (last :: cs).getLast? = some '*' := by
      obtain ⟨cs', k, h', rfl, -⟩ := map_cons_eq_some.1 h
      rw [List.getLast?_cons_cons]
      exact ih h'
    rw [commentFrom] at h
    split at h
    case isTrue => exact hcons h
    case isFalse =>
      split at h
      case isTrue hend =>
        split at h
        case isTrue =>
          cases h
          rw [hend.1]
          rfl
        case isFalse => exact hcons h
      case isFalse => exact hcons h

/-- Comments end likewise in alike texts. -/
theorem blockComment_likewise (h : Alike s s') :
    Likewise s s' (blockComment s) (blockComment s') := by
  intro cs n hfound
  obtain ⟨⟨body, n⟩, hbody, heq⟩ := Option.map_eq_some_iff.1 hfound
  cases heq
  obtain ⟨body', hbody', hiff⟩ := commentFrom_likewise (.refl ' ') h _ _ hbody
  refine ⟨body'.dropLast, by rw [blockComment, hbody']; rfl, ?_⟩
  have hstar {s body : List Char} {n : Nat} (h : commentFrom 1 ' ' s = some (body, n)) :
      body.dropLast ++ ['*'] = body := by
    have hlast := commentFrom_getLast? h
    cases body with
    | nil => simp at hlast
    | cons c body =>
      rw [List.getLast?_cons_cons] at hlast
      exact List.dropLast_append_getLast? _ hlast
  rw [← hiff]
  refine ⟨fun h => ?_, fun h => by rw [h]⟩
  rw [← hstar hbody, ← hstar hbody', h]

end Quoted
end Sql
end QueryTemplate
