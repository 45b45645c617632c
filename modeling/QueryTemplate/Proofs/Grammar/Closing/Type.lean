/-
# Parentheses in names, literals and types

The rules for names, for constants and for types read parentheses in pairs.  Two rules take
tokens of a list until a closing parenthesis is among them (`modifiers?`, `stringListSql`): they
do not stop before it, because each round of theirs takes a token, and there are as many rounds
as tokens.
-/

import QueryTemplate.Proofs.Grammar.Closing
import QueryTemplate.Sql.Grammar.DataType

namespace QueryTemplate
namespace Sql
namespace Grammar

set_option synthInstance.maxSize 20000

/-! ## Names -/

instance closes_name : Closes 0 name := by
  unfold name
  refine .of_next fun ⟨t, w, p, b⟩ => ?_
  dsimp only
  split <;> infer_instance

instance closes_hyphenPart : Closes 0 hyphenPart := by
  unfold hyphenPart
  refine .of_peek fun ⟨t, w, p, b⟩ => ?_
  dsimp only
  split
  · infer_instance
  · refine .tail ?_
    split
    · infer_instance
    · split
      · split <;> infer_instance
      · infer_instance
    · infer_instance

instance closes_hyphenatedName : Closes 0 hyphenatedName := by
  unfold hyphenatedName
  refine .of_peek fun ⟨t, w, p, b⟩ => ?_
  dsimp only
  split
  · refine .tail (.of_plain (fun _ => rfl) (.bind (.iterated (fun whole => ?_) _) fun whole => ?_))
    · refine .of_peek fun i => ?_
      split
      · rename_i hi
        simp only [Bool.and_eq_true, and_assoc] at hi
        exact .tail (.of_isSymbol hi.1 inferInstance)
      · infer_instance
    · infer_instance
  · infer_instance

instance closes_furtherNames : Closes 0 furtherNames := by
  unfold furtherNames
  infer_instance

instance closes_objectName : Closes 0 objectName := by
  unfold objectName
  infer_instance

instance closes_hyphenatedNames (fuel : Nat) : Closes 0 (hyphenatedNames fuel) := by
  induction fuel with
  | zero => exact closes_pure _
  | succ fuel ih =>
    unfold hyphenatedNames
    infer_instance

instance closes_tableName : Closes 0 tableName := by
  unfold tableName
  infer_instance

instance closes_nameList : Closes 0 nameList := by
  unfold nameList
  infer_instance

instance closes_columnList : Closes 0 columnList := by
  unfold columnList
  infer_instance

instance closes_alias? (reserved : List String) : Closes 0 (alias? reserved) := by
  unfold alias?
  refine .bind inferInstance fun afterAs => .of_peek fun ⟨t, w, p, b⟩ => ?_
  dsimp only
  split
  · rename_i a ha
    refine .tail (.of_plain (fun _ => ?_) inferInstance)
    -- only words and strings are names
    cases t with
    | symbol s => cases ha
    | _ => rfl
  · infer_instance

instance closes_integer : Closes 0 integer := by
  unfold integer
  refine .of_next fun ⟨t, w, p, b⟩ => ?_
  dsimp only
  split
  · split <;> infer_instance
  · infer_instance

/-! ## Literals -/

/-- The name of a parameter behind its mark. -/
instance closes_placeholder (mark : String) : Closes 0 (do
    let j ← next
    match j.token with
    | .word s _ => return Literal.parameter (mark ++ s)
    | .number ds false => return .parameter (mark ++ ds)
    | _ => expectedAt "placeholder" j) := by
  refine .of_next fun ⟨t, w, p, b⟩ => ?_
  dsimp only
  split <;> infer_instance

instance closes_literal : Closes 0 literal := by
  unfold literal
  refine .of_next fun ⟨t, w, p, b⟩ => ?_
  cases t with
  | symbol mark =>
    dsimp only [constant?]
    split
    iterate 3 exact .of_keyword (by simp) inferInstance
    split
    · rename_i hmark
      rcases Bool.or_eq_true_iff.1 hmark with hcolon | hat
      · exact .of_isSymbol hcolon (closes_placeholder mark)
      · exact .of_isSymbol hat (closes_placeholder mark)
    · infer_instance
  | word s q =>
    dsimp only [constant?]
    split
    iterate 3 infer_instance
    split <;> infer_instance
  | number | string | dollarString | parameter => exact .of_plain (fun _ => rfl) (closes_pure _)
  | _ =>
    refine .of_plain (fun _ => rfl) ?_
    dsimp only [constant?]
    split <;> infer_instance

instance closes_literalString : Closes 0 literalString := by
  unfold literalString
  refine .of_next fun ⟨t, w, p, b⟩ => ?_
  cases t with
  | word s q => exact .of_plain (fun _ => rfl) inferInstance
  | string kind s =>
    refine .of_plain (fun _ => rfl) (.bind inferInstance fun d => ?_)
    dsimp only
    split <;> infer_instance
  | _ => exact .of_error fun _ _ => ⟨_, rfl⟩

instance closes_timeField : Closes 0 timeField := by
  unfold timeField
  refine .of_peek fun ⟨t, w, p, b⟩ => ?_
  dsimp only
  split <;> infer_instance

instance closes_directionSql : Closes 0 directionSql := by
  unfold directionSql
  infer_instance

instance closes_nullsSql : Closes 0 nullsSql := by
  unfold nullsSql
  infer_instance

/-! ## Sizes -/

instance closes_precision? : Closes 0 precision? := by
  unfold precision?
  infer_instance

instance closes_precisionScale? : Closes 0 precisionScale? := by
  unfold precisionScale?
  infer_instance

instance closes_lengthSql : Closes 0 lengthSql := by
  unfold lengthSql
  infer_instance

instance closes_timeZoneSql : Closes 0 timeZoneSql := by
  unfold timeZoneSql
  infer_instance

section Lists

variable {α : Type} {env : Nested} {s t : List Item}

/-- Rounds that take a token each close the open parenthesis with the last one. -/
theorem leads_of_repeatUpTo {R : Rule (Option α)}
    (hround : ∀ s r t, R env s = .ok (r, t) →
      Leads (if r.isSome then 0 else 1) s t ∧ t.length < s.length)
    {fuel : Nat} {as : List α} (hfuel : s.length < fuel)
    (h : repeatUpTo R fuel env s = .ok (as, t)) : Leads 1 s t := by
  induction fuel generalizing s as with
  | zero => cases hfuel
  | succ fuel ih =>
    unfold repeatUpTo at h
    obtain ⟨r, u, hr, hrest⟩ := bind_eq_ok_iff.1 h
    obtain ⟨hlead, hlength⟩ := hround s r u hr
    cases r with
    | none =>
      obtain ⟨-, rfl⟩ := pure_eq_ok hrest
      exact hlead
    | some a =>
      obtain ⟨further, t', hfurther, hpure⟩ := bind_eq_ok_iff.1 hrest
      obtain ⟨-, rfl⟩ := pure_eq_ok hpure
      exact hlead.trans (ih (by omega) hfurther)

/-- Words, numbers and strings up to a closing parenthesis. -/
instance closes_modifiers? : Closes 0 modifiers? := by
  unfold modifiers?
  refine .bind_open (.bind_closed ⟨fun {env s as t} _ h => ?_⟩ fun _ => inferInstance) inferInstance
  unfold repeated at h
  replace h := eq_of_bind h rfl
  refine leads_of_repeatUpTo (fun s r t hround => ?_) (Nat.lt_succ_self _) h
  rcases next_eq_ok hround with ⟨⟨tok, w, p, b⟩, u, rfl, hnext⟩ | ⟨rfl, hnext⟩
  · cases tok with
    | word | number =>
      obtain ⟨rfl, rfl⟩ := pure_eq_ok hnext
      exact ⟨.past fun _ => rfl, Nat.lt_succ_self _⟩
    | string kind text =>
      cases kind with
      | single =>
        obtain ⟨rfl, rfl⟩ := pure_eq_ok hnext
        exact ⟨.past fun _ => rfl, Nat.lt_succ_self _⟩
      | _ => cases hnext
    | symbol x =>
      by_cases hcomma : x = ","
      · subst hcomma
        obtain ⟨rfl, rfl⟩ := pure_eq_ok hnext
        exact ⟨.past_symbol (w := ",") rfl, Nat.lt_succ_self _⟩
      · by_cases hclose : x = ")"
        · subst hclose
          obtain ⟨rfl, rfl⟩ := pure_eq_ok hnext
          exact ⟨.closed rfl, Nat.lt_succ_self _⟩
        · simp only [Token.symbol.injEq, hcomma, hclose, imp_self] at hnext
          cases hnext
    | _ => cases hnext
  · cases hnext

/-- Rounds that take a token each close the open parenthesis when the list is at its end. -/
theorem leads_of_iterateUpTo {round : α → Rule (Option α)} (isOpen : α → Bool)
    (hopen : ∀ a s r t, isOpen a = true → round a env s = .ok (r, t) →
      ∃ b, r = some b ∧ Leads (if isOpen b then 0 else 1) s t ∧ t.length < s.length)
    (hclosed : ∀ a s r t, isOpen a = false → round a env s = .ok (r, t) → r = none ∧ s = t)
    {fuel : Nat} {a b : α} (hfuel : s.length < fuel)
    (h : iterateUpTo round fuel a env s = .ok (b, t)) : Leads (if isOpen a then 1 else 0) s t := by
  induction fuel generalizing s a with
  | zero => cases hfuel
  | succ fuel ih =>
    unfold iterateUpTo at h
    obtain ⟨r, u, hr, hrest⟩ := bind_eq_ok_iff.1 h
    cases ha : isOpen a with
    | false =>
      obtain ⟨rfl, rfl⟩ := hclosed a s r u ha hr
      obtain ⟨-, rfl⟩ := pure_eq_ok hrest
      exact .refl _
    | true =>
      obtain ⟨c, rfl, hround, hlength⟩ := hopen a s r u ha hr
      have := hround.trans (ih (by omega) hrest)
      cases hc : isOpen c <;> simpa [hc] using this

/-- Strings up to a closing parenthesis. -/
instance closes_stringListSql : Closes 0 stringListSql := by
  unfold stringListSql
  refine @closes_expect_open _ _ (.bind_closed ⟨fun {env s a t} _ h => ?_⟩ fun _ => inferInstance)
  unfold iterated at h
  replace h := eq_of_bind h rfl
  refine leads_of_iterateUpTo Prod.snd ?_ ?_ (Nat.lt_succ_self _) h
  · rintro ⟨ss, more⟩ s r t (rfl : more = true) hround
    rcases next_eq_ok hround with ⟨i, u, rfl, hstring⟩ | ⟨rfl, hstring⟩
    · cases htext : i.string? with
      | none =>
        rw [htext] at hstring
        cases hstring
      | some text =>
        rw [htext] at hstring
        have hpast : Leads 0 (i :: u) u := .past fun _ => Item.isParenthesis_of_string? htext
        rcases next_eq_ok hstring with ⟨j, v, rfl, hlast⟩ | ⟨rfl, hlast⟩
        · split at hlast
          · rename_i hj
            obtain ⟨rfl, rfl⟩ := pure_eq_ok hlast
            refine ⟨_, rfl, ?_, by simp only [List.length_cons]; omega⟩
            split
            · rename_i hcomma
              exact hpast.trans (.past_symbol (Item.token_of_isSymbol hcomma))
            · rename_i hcomma
              rw [Bool.or_eq_true, or_iff_right hcomma] at hj
              exact hpast.trans (.closed (Item.token_of_isSymbol hj))
          · cases hlast
        · cases hlast
    · cases hstring
  · rintro ⟨ss, more⟩ s r t (rfl : more = false) hround
    obtain ⟨rfl, rfl⟩ := pure_eq_ok hround
    exact ⟨rfl, rfl⟩

end Lists

instance closes_numberOrParameter : Closes 0 numberOrParameter := by
  unfold numberOrParameter
  refine .bind inferInstance fun s => .bind inferInstance fun l => ?_
  split
  iterate 2 infer_instance
  exact .of_error fun _ _ => ⟨_, rfl⟩

instance closes_signedNumberSql : Closes 0 signedNumberSql := by
  unfold signedNumberSql
  infer_instance

instance closes_membersSql : Closes 0 membersSql := by
  unfold membersSql
  infer_instance

/-! ## Types -/

section Types

variable {inner : Rule Bracketed} [Closes 0 inner]

instance closes_closeAngle (closed : Bool) : Closes 0 (closeAngle closed) := by
  unfold closeAngle
  infer_instance

instance closes_fieldSql : Closes 0 (fieldSql inner) := by
  unfold fieldSql
  infer_instance

instance closes_structFields (place : Option Text.Position) (fuel : Nat) :
    Closes 0 (structFields inner place fuel) := by
  induction fuel with
  | zero => exact closes_pure _
  | succ fuel ih =>
    unfold structFields
    infer_instance

instance closes_structFieldsSql (place : Option Text.Position) :
    Closes 0 (structFieldsSql inner place) := by
  unfold structFieldsSql
  infer_instance

instance closes_unbracketed : Closes 0 (unbracketed inner) := by
  unfold unbracketed
  infer_instance

instance closes_labelledTypesSql : Closes 0 (labelledTypesSql inner) := by
  unfold labelledTypesSql
  infer_instance

instance closes_typeOfKeyword (k : String) (place : Option Text.Position) :
    Closes 0 (typeOfKeyword inner k place) := by
  unfold typeOfKeyword
  refine .bind inferInstance fun d => ?_
  extract_lets done
  have hdone : ∀ sql, Closes 0 (done sql) := fun sql => closes_pure _
  refine .ite inferInstance ?_
  split
  · infer_instance
  · refine .ite inferInstance ?_
    refine .ite inferInstance ?_
    refine .ite inferInstance ?_
    refine .ite inferInstance ?_
    split
    case h_18 =>
      refine .ite inferInstance ?_
      split <;> infer_instance
    all_goals infer_instance

end Types

instance closes_namedType : Closes 0 namedType := by
  unfold namedType
  refine .bind inferInstance fun n => .bind inferInstance fun ms => ?_
  split <;> infer_instance

instance closes_arraySuffix : Closes 0 arraySuffix := by
  unfold arraySuffix
  infer_instance

instance closes_bracketedType (fuel : Nat) : Closes 0 (bracketedType fuel) := by
  induction fuel with
  | zero => exact closes_fail _
  | succ fuel ih =>
    unfold bracketedType
    refine .of_peek fun i => ?_
    extract_lets withSuffix
    have : ∀ found, Closes 0 (withSuffix found) := fun (t, closed) =>
      .bind inferInstance fun suffix => inferInstance
    split
    · exact .tail (.of_error fun _ _ => ⟨_, rfl⟩)
    · refine ⟨fun {env s found t} hp h => ?_⟩
      replace h := eq_of_bind h rfl
      replace h := eq_of_bind h rfl
      -- a word that names no built-in type is put back
      have hput : ∀ u, (do set (i :: s); withSuffix (← namedType, false) : Rule Bracketed) env u =
          .ok (found, t) → Leads 0 (i :: s) t := by
        intro u hu
        replace hu := eq_of_bind hu rfl
        exact Closes.leads (R := do withSuffix (← namedType, false)) hp hu
      split at h
      · replace h := eq_of_bind h rfl
        exact hput s h
      · rename_i hkeyword
        obtain ⟨type, u, htype, hrest⟩ := bind_eq_ok_iff.1 h
        cases type with
        | none => exact hput u hrest
        | some type =>
          have hpast : Leads 0 (i :: s) s := .past_keyword (by simpa using hkeyword)
          have hread : Leads 0 s u := Closes.leads hp htype
          have hsuffix : Leads 0 u t := (this type).leads hp hrest
          exact hpast.trans (hread.trans hsuffix)

instance closes_dataType : Closes 0 dataType := by
  unfold dataType
  infer_instance

instance closes_typeSql : Closes 0 typeSql := by
  unfold typeSql
  infer_instance

end Grammar
end Sql
end QueryTemplate
