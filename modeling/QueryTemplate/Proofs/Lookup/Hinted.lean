/-
# Placeholders and the texts of their requests

The text of a placeholder is split at its first colon if a word of a hint stands before it, in
any letter case: each letter is the one of the word, its capital, or one of the two characters
outside ASCII that fold to it (`Text.caseVariants`).

| text | name | hint | written |
| --- | --- | --- | --- |
| `Total:sales:eu` | `sales:eu` | `sum` | `sum:sales:eu` |
| `sum:sum:x` | `sum:x` | `sum` | `sum:sum:x` |
| `median:price` | `median:price` | none | `median:price` |

No word belongs to two hints, and a name without a hint never looks like one with a hint.  So a
placeholder is read back from the way its request writes it, and two requests are written alike
just if their placeholders are the same (`parse_told_apart`).
-/

import Mathlib.Data.List.Forall2
import Mathlib.Data.List.TakeWhile
import QueryTemplate.Lookup

namespace QueryTemplate

/-! ## Letter case -/

namespace Text

variable {c x : Char} {cs : List Char} {text word : String}

/-- The characters that fold to a lower-case ASCII letter. -/
def caseVariants (c : Char) : List Char :=
  if c = 's' then ['s', 'S', 'ſ'] else if c = 'k' then ['k', 'K', '\u212A'] else [c, c.toUpper]

/-- A letter is one of its own variants. -/
theorem mem_caseVariants_self (c : Char) : c ∈ caseVariants c := by
  unfold caseVariants
  split
  · simp_all
  · split <;> simp_all

/-- **A character folds to a letter** just if it is one of its variants. -/
theorem fold_eq_iff (hc : c.isLower = true) : fold x = c ↔ x ∈ caseVariants c := by
  have hlower : ∀ k : Fin 26, (caseVariants (Char.ofNat (97 + k))).all
      (fun x => fold x == Char.ofNat (97 + k)) = true := by
    decide
  have hupper : ∀ k : Fin 26, Char.ofNat (65 + k) ∈ caseVariants (Char.ofNat (65 + k)).toLower := by
    decide
  constructor
  · rintro rfl
    unfold fold
    split
    · simp_all [caseVariants]
    · split
      · simp_all [caseVariants]
      · by_cases hx : x.isUpper = true
        · have hrange : 65 ≤ x.toNat ∧ x.toNat ≤ 90 := of_decide_eq_true hx
          have := hupper ⟨x.toNat - 65, by omega⟩
          rwa [Nat.add_sub_cancel' hrange.1, Char.ofNat_toNat] at this
        · have hsame : x.toLower = x := by
            unfold Char.toLower
            exact dif_neg fun h => hx (decide_eq_true h)
          rw [hsame]
          exact mem_caseVariants_self x
  · intro hx
    have hrange : 97 ≤ c.toNat ∧ c.toNat ≤ 122 :=
      ((Bool.and_eq_true _ _).mp hc).imp of_decide_eq_true of_decide_eq_true
    have hc' := hlower ⟨c.toNat - 97, by omega⟩
    rw [Nat.add_sub_cancel' hrange.1, Char.ofNat_toNat] at hc'
    exact beq_iff_eq.1 (List.all_eq_true.1 hc' x hx)

/-- The word in some letter case. -/
def IsCaseOf (text word : String) : Prop :=
  List.Forall₂ (fun x c => x ∈ caseVariants c) text.toList word.toList

/-- A text folds to a word in lower case if each of its characters is a variant of the word's. -/
theorem foldsTo_iff (hword : ∀ c ∈ word.toList, c.isLower = true) :
    foldsTo text.toList word = true ↔ IsCaseOf text word := by
  rw [foldsTo, beq_iff_eq, IsCaseOf]
  generalize word.toList = ws at hword
  generalize text.toList = cs
  induction ws generalizing cs with
  | nil => cases cs <;> simp
  | cons w ws ih =>
    cases cs with
    | nil => simp
    | cons c cs =>
      rw [List.map_cons, List.cons.injEq, List.forall₂_cons,
        fold_eq_iff (hword w List.mem_cons_self),
        ih (fun c hc => hword c (List.mem_cons_of_mem _ hc)) cs]

end Text

/-! ## The words of hints -/

namespace Hint

variable {h h' : Hint} {word : String}

/-- The word stands for the hint, in some letter case. -/
def IsNamedBy (h : Hint) (word : String) : Prop := ∃ w ∈ h.words, Text.IsCaseOf word w

/-- The words of hints are in lower case. -/
theorem isLower_of_mem_words (h : Hint) : ∀ w ∈ h.words, ∀ c ∈ w.toList, c.isLower = true := by
  have hall : h.words.all (fun w => w.toList.all Char.isLower) = true := by cases h <;> decide
  intro w hw c hc
  exact List.all_eq_true.1 (List.all_eq_true.1 hall w hw) c hc

/-- No word names two hints. -/
theorem eq_of_mem_words (h h' : Hint) : ∀ w ∈ h.words, w ∈ h'.words → h = h' := by
  cases h <;> cases h' <;> decide

/-- A word folds to one of a hint's words exactly if it names the hint. -/
theorem any_words_iff :
    h.words.any (Text.foldsTo word.toList) = true ↔ h.IsNamedBy word := by
  rw [List.any_eq_true]
  exact exists_congr fun w =>
    and_congr_right fun hw => Text.foldsTo_iff (h.isLower_of_mem_words w hw)

/-- **No word stands for two hints**, whatever its letter case. -/
theorem IsNamedBy.unique (hword : h.IsNamedBy word) (hword' : h'.IsNamedBy word) : h = h' := by
  obtain ⟨w, hw, hfold⟩ := hword
  obtain ⟨w', hw', hfold'⟩ := hword'
  rw [← Text.foldsTo_iff (h.isLower_of_mem_words w hw), Text.foldsTo, beq_iff_eq] at hfold
  rw [← Text.foldsTo_iff (h'.isLower_of_mem_words w' hw'), Text.foldsTo, beq_iff_eq] at hfold'
  obtain rfl : w = w' := String.toList_inj.1 (hfold.symm.trans hfold')
  exact eq_of_mem_words h h' w hw hw'

/-- A search for a hint finds the one that the word stands for, in whatever order. -/
theorem find?_eq_some_iff {table : List Hint} (htable : ∀ h, h ∈ table) :
    (table.find? fun h => h.words.any (Text.foldsTo word.toList)) = some h ↔
      h.IsNamedBy word := by
  constructor
  · intro hfound
    have hnamed := List.find?_some hfound
    exact any_words_iff.1 hnamed
  · intro hword
    cases hfound : table.find? fun h => h.words.any (Text.foldsTo word.toList) with
    | none => exact absurd (any_words_iff.2 hword) (List.find?_eq_none.1 hfound h (htable h))
    | some h' =>
      have hnamed := List.find?_some hfound
      rw [(any_words_iff.1 hnamed).unique hword]

/-- The hint that is found for a word is the one that it names. -/
theorem ofWord?_eq_some_iff : ofWord? word.toList = some h ↔ h.IsNamedBy word :=
  find?_eq_some_iff fun h => by cases h <;> simp

/-- A hint is named by its own word. -/
theorem isNamedBy_text (h : Hint) : h.IsNamedBy h.text := by
  rw [← any_words_iff]
  cases h <;> decide

end Hint

/-! ## Placeholders -/

namespace Placeholder

variable {text name word : String} {h : Hint}

/-- The text has the name behind its first colon, and a word of the hint before it. -/
def Splits (text : String) (h : Hint) (name : String) : Prop :=
  ∃ word, text = word ++ ":" ++ name ∧ ':' ∉ word.toList ∧ h.IsNamedBy word

/-- The word before the first colon is a hint if it names one, and belongs to the name if not. -/
theorem parse_of_colon (hword : ':' ∉ word.toList) (name : String) :
    parse (word ++ ":" ++ name) =
      match Hint.ofWord? word.toList with
      | some h => ⟨name, some h⟩
      | none => ⟨word ++ ":" ++ name, none⟩ := by
  have htext : (word ++ ":" ++ name).toList = word.toList ++ ':' :: name.toList := by simp
  have hfront : (word.toList ++ ':' :: name.toList).takeWhile (· != ':') = word.toList := by
    rw [List.takeWhile_append_of_pos fun c hc => by
      rw [bne_iff_ne]
      rintro rfl
      exact hword hc]
    simp
  simp only [parse, htext, hfront, List.drop_left]
  cases Hint.ofWord? word.toList <;> simp

/-- A text without a colon is a name without a hint. -/
theorem parse_of_noColon (h : ':' ∉ text.toList) : parse text = ⟨text, none⟩ := by
  have hall : text.toList.takeWhile (· != ':') = text.toList :=
    List.takeWhile_eq_self_iff.2 fun c hc => by
      rw [bne_iff_ne]
      rintro rfl
      exact h hc
  simp [parse, hall]

/-- A text is split at its first colon, or has none. -/
theorem exists_colon (text : String) : ':' ∉ text.toList ∨
    ∃ word name : String, text = word ++ ":" ++ name ∧ ':' ∉ word.toList := by
  by_cases hcolon : ':' ∈ text.toList
  · obtain ⟨word, name, htext, hword⟩ := List.eq_append_cons_of_mem hcolon
    refine .inr ⟨String.ofList word, String.ofList name, ?_, by simpa using hword⟩
    rw [← String.toList_inj, htext]
    simp
  · exact .inl hcolon

/-- **A hint is read where one of its words stands before the first colon.** -/
theorem parse_eq_some_iff : parse text = ⟨name, some h⟩ ↔ Splits text h name := by
  constructor
  · intro hparse
    rcases exists_colon text with hcolon | ⟨word, name', rfl, hword⟩
    · rw [parse_of_noColon hcolon] at hparse
      cases hparse
    · rw [parse_of_colon hword] at hparse
      cases hhint : Hint.ofWord? word.toList with
      | none => simp [hhint] at hparse
      | some h' =>
        obtain ⟨rfl, rfl⟩ : name' = name ∧ h' = h := by simpa [hhint] using hparse
        exact ⟨word, rfl, hword, Hint.ofWord?_eq_some_iff.1 hhint⟩
  · rintro ⟨word, rfl, hword, hhint⟩
    rw [parse_of_colon hword, Hint.ofWord?_eq_some_iff.2 hhint]

/-- Otherwise the whole text is the name. -/
theorem parse_eq_self (hsplits : ∀ h name, ¬Splits text h name) : parse text = ⟨text, none⟩ := by
  rcases exists_colon text with hcolon | ⟨word, name, rfl, hword⟩
  · exact parse_of_noColon hcolon
  · rw [parse_of_colon hword]
    cases hhint : Hint.ofWord? word.toList with
    | none => rfl
    | some h =>
      exact absurd ⟨word, rfl, hword, Hint.ofWord?_eq_some_iff.1 hhint⟩ (hsplits h name)

/-- The text of a placeholder, with the word for its hint. -/
def written (p : Placeholder) : String :=
  match p.hint with
  | some h => h.text ++ ":" ++ p.name
  | none => p.name

/-- **A hint, a colon and any name are read as that hint and name.** -/
theorem parse_hinted (h : Hint) (name : String) : parse (h.text ++ ":" ++ name) = ⟨name, some h⟩ :=
  parse_eq_some_iff.2 ⟨h.text, rfl, by cases h <;> decide, h.isNamedBy_text⟩

/-- A placeholder that was read is read again from its text. -/
theorem parse_written (text : String) : parse (parse text).written = parse text := by
  cases hhint : (parse text).hint with
  | some h =>
    have hparse : parse text = ⟨(parse text).name, some h⟩ := by rw [← hhint]
    rw [hparse]
    exact parse_hinted h _
  | none =>
    have hsplits : ∀ h name, ¬Splits text h name := fun h name hsplits => by
      rw [parse_eq_some_iff.2 hsplits] at hhint
      cases hhint
    rw [parse_eq_self hsplits]
    exact parse_eq_self hsplits

/-- A column request is shown with its placeholder as it is written. -/
theorem text_column (p : Placeholder) (sources : List String) :
    (Request.column p sources).text = "column " ++ p.written := by
  obtain ⟨name, _ | h⟩ := p
  · rfl
  · simp [Request.text, Request.column, written, Kind.text, ← String.toList_inj]

/-- **The text of a placeholder and the text of its request determine each other**, up to the word
that is used for the hint. -/
theorem parse_told_apart :
    (∀ text h name, parse text = ⟨name, some h⟩ ↔ Splits text h name) ∧
    (∀ text, (∀ h name, ¬Splits text h name) → parse text = ⟨text, none⟩) ∧
    (∀ word, ∀ h h' : Hint, h.IsNamedBy word → h'.IsNamedBy word → h = h') ∧
    (∀ table : List Hint, (∀ h, h ∈ table) → ∀ word : String,
      (table.find? fun h => h.words.any (Text.foldsTo word.toList)) = Hint.ofWord? word.toList) ∧
    (∀ h name, parse (h.text ++ ":" ++ name) = ⟨name, some h⟩) ∧
    ∀ text text' sources sources',
      (Request.column (parse text) sources).text = (Request.column (parse text') sources').text ↔
        parse text = parse text' := by
  refine ⟨fun _ _ _ => parse_eq_some_iff, fun _ => parse_eq_self,
    fun _ _ _ => Hint.IsNamedBy.unique, fun table htable word => ?_, parse_hinted,
    fun text text' sources sources' => ?_⟩
  · refine Option.ext fun h => ?_
    rw [Hint.find?_eq_some_iff htable, Hint.ofWord?_eq_some_iff]
  · rw [text_column, text_column]
    constructor
    · intro heq
      have hwritten : (parse text).written = (parse text').written := by
        simpa [← String.toList_inj] using heq
      rw [← parse_written text, hwritten, parse_written]
    · intro hparse
      rw [hparse]

end Placeholder
end QueryTemplate
