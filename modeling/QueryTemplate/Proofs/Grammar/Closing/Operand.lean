/-
# Parentheses in calls and operands

The rules for calls, for windows and for operands read parentheses in pairs.  Where a rule goes
back to the token it started from, nothing that it read before counts (`starOrExpr`).  A start
of `FILTER` without the rest is read over, so that anything may follow this word.
-/

import QueryTemplate.Proofs.Grammar.Closing.Type
import QueryTemplate.Sql.Grammar.Operand

namespace QueryTemplate
namespace Sql
namespace Grammar

set_option synthInstance.maxSize 20000

/-! ## Order -/

instance closes_fill : Closes 0 fill := by
  unfold fill
  infer_instance

instance closes_orderTerm : Closes 0 orderTerm := by
  unfold orderTerm
  infer_instance

instance closes_orderTerms : Closes 0 orderTerms := by
  unfold orderTerms
  infer_instance

/-! ## Arguments -/

/-- What comes behind a point: a name, or a star where one may stand. -/
theorem closesBehind_nameOrStar {α : Type} {k : Nat} {i : Item} {A : String → Option Char → Rule α}
    {B : String → Rule α} {C D : Rule α} (hA : ∀ s q, Closes k (A s q)) (hB : ∀ s, Closes k (B s))
    (hC : Closes k C) (hD : ClosesBehind k i D) :
    ClosesBehind k i (match i.token with
      | .word s q => A s q
      | .string .single s => B s
      | _ => if i.isSymbol "*" = true then C else D) := by
  obtain ⟨t, w, p, b⟩ := i
  dsimp only
  split
  iterate 2 infer_instance
  split
  · rename_i hstar
    exact .of_isSymbol hstar hC
  · exact hD

instance closes_starOrExpr : Closes 0 starOrExpr := by
  unfold starOrExpr
  refine ⟨fun {env s a t} hp h => ?_⟩
  replace h := eq_of_bind h rfl
  -- where no star follows, an expression is read from the start
  have hrestart : ∀ u, (do set s; return [.operand (← expr)] : Rule (List Part)) env u =
      .ok (a, t) → Leads 0 s t := by
    intro u hu
    replace hu := eq_of_bind hu rfl
    exact Closes.leads (R := do return [Part.operand (← expr)]) hp hu
  rcases next_eq_ok h with ⟨i, u, rfl, hnext⟩ | ⟨rfl, -⟩
  · split at hnext
    · rename_i hstar
      obtain ⟨-, rfl⟩ := pure_eq_ok hnext
      exact .past_symbol (Item.token_of_isSymbol hstar)
    · split at hnext
      case h_3 => exact hrestart u hnext
      -- a word or a string in single quotes may start names that end with a star
      all_goals
        rename_i htoken
        have hpast : Leads 0 (i :: u) u := .past fun _ => by simp [Item.isParenthesis, htoken]
        obtain ⟨point, v, hpoint, hnext⟩ := bind_eq_ok_iff.1 hnext
        have hpoint : Leads 0 u v := Closes.leads hp hpoint
        split at hnext
        · obtain ⟨⟨names, star⟩, v', hnames, hnext⟩ := bind_eq_ok_iff.1 hnext
          have hnames : Leads 0 v v' := by
            refine (Closes.iterated (fun (names, star) => ?_) _).leads hp hnames
            refine .bind inferInstance fun further => .ite (.of_next fun i => ?_) inferInstance
            exact closesBehind_nameOrStar inferInstance inferInstance inferInstance inferInstance
          dsimp only at hnext
          split at hnext
          · obtain ⟨-, rfl⟩ := pure_eq_ok hnext
            exact hpast.trans (hpoint.trans hnames)
          · exact hrestart v' hnext
        · exact hrestart v hnext
  · exact .nil

instance closes_namedArgumentOperator : Closes 0 namedArgumentOperator := by
  unfold namedArgumentOperator
  refine .bind inferInstance fun d => .of_peek fun i => ?_
  split
  · rename_i hi
    exact .tail (.of_keyword (by simp [beq_iff_eq.1 hi]) inferInstance)
  · split
    · rename_i hi
      exact .tail (.of_isSymbol hi inferInstance)
    · split
      · rename_i hi
        exact .tail (.of_isSymbol (Bool.and_eq_true_iff.1 hi).1 inferInstance)
      · split
        · rename_i hi
          exact .tail (.of_isSymbol (Bool.and_eq_true_iff.1 hi).1 inferInstance)
        · infer_instance

instance closes_argument : Closes 0 argument := by
  unfold argument
  infer_instance

instance closes_duplicatesSql : Closes 0 duplicatesSql := by
  unfold duplicatesSql
  refine .bind inferInstance fun i => .bind inferInstance fun all => ?_
  refine .bind inferInstance fun distinct => ?_
  cases all <;> cases distinct <;> infer_instance

instance closes_nullTreatment? : Closes 0 nullTreatment? := by
  unfold nullTreatment?
  infer_instance

instance closes_overflow? : Closes 0 overflow? := by
  unfold overflow?
  refine .bind inferInstance fun overflow => .ite ?_ inferInstance
  refine .bind inferInstance fun error => .ite inferInstance ?_
  refine .bind inferInstance fun _ => .bind inferInstance fun i => ?_
  extract_lets withFiller
  have : ∀ filler, Closes 0 (withFiller filler) := fun filler => inferInstance
  refine .ite inferInstance ?_
  split <;> infer_instance

instance closes_nullsInDocument? : Closes 0 nullsInDocument? := by
  unfold nullsInDocument?
  infer_instance

instance closes_argumentClause (allowed : Bool) (k : String) [IsWord k] (r : Rule (List Part))
    [Closes 0 r] : Closes 0 (argumentClause allowed k r) := by
  unfold argumentClause
  infer_instance

instance closes_argumentList : Closes 1 argumentList := by
  unfold argumentList
  infer_instance

/-! ## Windows -/

section Interval

variable {interval : Rule Expr} [Closes 0 interval]

instance closes_frameBound : Closes 0 (frameBound interval) := by
  unfold frameBound
  infer_instance

instance closes_frame : Closes 0 (frame interval) := by
  unfold frame
  refine .of_next fun i => ?_
  split
  · rename_i hi
    refine .of_keyword ?_ inferInstance
    rintro hempty
    rw [hempty] at hi
    exact absurd hi (by decide)
  · exact .of_error fun _ _ => ⟨_, rfl⟩

instance closes_windowSpec : Closes 1 (windowSpec interval) := by
  unfold windowSpec
  infer_instance

instance closes_windowOver : Closes 0 (windowOver interval) := by
  unfold windowOver
  infer_instance

/-! ## Calls -/

instance closes_filter : Closes 0 filter := by
  unfold filter
  exact closes_bind_raw (by decide)

instance closes_call (function : String) : Closes 0 (call interval function) := by
  unfold call
  infer_instance

/-! ## Precedence -/

instance closes_exprAboveTier (t : Tier) : Closes 0 (exprAboveTier t) := by
  unfold exprAboveTier
  infer_instance

instance closes_nextPrecedence : Closes 0 nextPrecedence := by
  unfold nextPrecedence
  refine .bind inferInstance fun d => .bind inferInstance fun i => ?_
  split
  · infer_instance
  · split
    iterate 1 infer_instance
    · refine .bind inferInstance fun j => ?_
      split <;> infer_instance
    all_goals infer_instance
  · infer_instance

/-! ## Intervals -/

instance closes_lastUnit : Closes 0 unitsSql.lastUnit := by
  unfold unitsSql.lastUnit
  infer_instance

instance closes_unitsSql : Closes 0 unitsSql := by
  unfold unitsSql
  refine .bind inferInstance fun i => .ite inferInstance (.bind inferInstance fun unit => ?_)
  refine .ite (.bind inferInstance fun (n, m) => ?_) inferInstance
  cases n <;> cases m <;> infer_instance

instance closes_intervalOf : Closes 0 (intervalOf interval) := by
  unfold intervalOf
  infer_instance

end Interval

/-! ## Constructs that a keyword introduces -/

instance closes_subquery (words : String) : Closes 0 (subquery words) := by
  unfold subquery
  infer_instance

instance closes_caseOf : Closes 0 caseOf := by
  unfold caseOf
  infer_instance

instance closes_castFormatSql : Closes 0 castFormatSql := by
  unfold castFormatSql
  infer_instance

instance closes_cast (words : String) : Closes 0 (cast words) := by
  unfold cast
  infer_instance

instance closes_convert (words : String) : Closes 0 (convert words) := by
  unfold convert
  infer_instance

instance closes_extract : Closes 0 extract := by
  unfold extract
  infer_instance

instance closes_rounding (words : String) : Closes 0 (rounding words) := by
  unfold rounding
  refine .inParentheses (.bind inferInstance fun e => .bind inferInstance fun toUnit => ?_)
  extract_lets withTarget
  have : ∀ target, Closes 0 (withTarget target) := fun target => inferInstance
  refine .ite inferInstance (.bind inferInstance fun comma => .ite ?_ inferInstance)
  refine .bind inferInstance fun l => ?_
  split <;> infer_instance

instance closes_position : Closes 0 position := by
  unfold position
  infer_instance

instance closes_substring : Closes 0 substring := by
  unfold substring
  infer_instance

instance closes_overlay : Closes 0 overlay := by
  unfold overlay
  infer_instance

instance closes_trim : Closes 0 trim := by
  unfold trim
  infer_instance

instance closes_array (words : String) : Closes 0 (array words) := by
  unfold array
  infer_instance

instance closes_negation : Closes 0 negation := by
  unfold negation
  infer_instance

instance closes_matchAgainst : Closes 0 matchAgainst := by
  unfold matchAgainst
  infer_instance

instance closes_struct (place : Option Text.Position) : Closes 0 (struct place) := by
  unfold struct
  infer_instance

instance closes_entry (key : Rule (List Part)) [Closes 0 key] : Closes 0 (entry key) := by
  unfold entry
  infer_instance

instance closes_entries (words : String) (fields : Rule (List (List Part))) [Closes 0 fields] :
    Closes 0 (entries words fields) := by
  unfold entries
  infer_instance

instance closes_map : Closes 0 map := by
  unfold map
  infer_instance

instance closes_dictionary : Closes 0 dictionary := by
  unfold dictionary
  infer_instance

instance closes_timeFunction (function : String) : Closes 0 (timeFunction function) := by
  unfold timeFunction
  infer_instance

section Interval

variable {interval : Rule Expr} [Closes 0 interval]

instance closes_construct? (k : String) (w : Ident) (place : Option Text.Position) :
    Closes 0 (construct? interval k w place) := by
  unfold construct?
  refine .bind inferInstance fun d => ?_
  split <;> infer_instance

/-! ## Names and calls -/

instance closes_nameOrCall (w : Ident) : Closes 0 (nameOrCall interval w) := by
  unfold nameOrCall
  refine .bind inferInstance fun d => .of_peek fun i => ?_
  split
  · refine .of_closes (.bind (.iterated (fun (names, star) => ?_) _) fun _ => inferInstance)
    refine .bind inferInstance fun further => .ite (.of_next fun i => ?_) inferInstance
    exact closesBehind_nameOrStar inferInstance inferInstance inferInstance inferInstance
  · obtain ⟨t, w, p, b⟩ := i
    dsimp only
    split <;> infer_instance

instance closes_collated (e : Expr) : Closes 0 (collated e) := by
  unfold collated
  infer_instance

instance closes_wordOperand (k : String) (w : Ident) (place : Option Text.Position) :
    Closes 0 (wordOperand interval k w place) := by
  unfold wordOperand
  refine .bind inferInstance fun found => ?_
  split
  iterate 2 infer_instance
  refine .bind inferInstance fun d => .ite inferInstance (.bind inferInstance fun found => ?_)
  split <;> infer_instance

/-! ## Operands -/

instance closes_typedString : Closes 0 (typedString interval) := by
  unfold typedString
  refine .bind inferInstance fun t => ?_
  split <;> infer_instance

instance closes_parenthesized : Closes 1 parenthesized := by
  unfold parenthesized
  refine .bind inferInstance fun isQuery => ?_
  extract_lets close
  have : ∀ e, Closes 1 (close e) := by
    refine fun e => .bind_closed inferInstance fun _ => .bind inferInstance fun point => ?_
    refine .ite (.of_next fun i => ?_) inferInstance
    split
    · rename_i field hfield
      exact .of_plain (fun _ => Item.isParenthesis_of_ident? hfield) inferInstance
    · infer_instance
  refine .ite inferInstance (.bind inferInstance fun es => ?_)
  split <;> infer_instance

/-- Behind its symbol an operand closes what it opens. -/
theorem closesBehind_symbolOperand {i : Item} {s : String} (hi : i.token = .symbol s) :
    ClosesBehind 0 i (symbolOperand interval i s) := by
  unfold symbolOperand
  refine @closesBehind_bind_dialect _ _ _ _ fun d => ?_
  split
  · infer_instance
  · split
    iterate 3 exact .of_plain (fun _ => Item.isParenthesis_of_token hi) inferInstance
    · exact .of_open hi inferInstance
    · exact .of_plain (fun _ => Item.isParenthesis_of_token hi) inferInstance
    · split
      · rename_i hprefix
        refine .of_plain (fun _ => ?_) inferInstance
        have hopen : s ≠ "(" := by
          rintro rfl
          exact absurd (Bool.and_eq_true_iff.1 hprefix).2 (by decide)
        have hclose : s ≠ ")" := by
          rintro rfl
          exact absurd (Bool.and_eq_true_iff.1 hprefix).2 (by decide)
        simp [Item.isParenthesis, hi, hopen, hclose]
      · split
        · exact .putBack inferInstance
        · infer_instance

instance closes_operandUpTo (fuel : Nat) : Closes 0 (operandUpTo fuel) := by
  induction fuel with
  | zero => exact closes_fail _
  | succ fuel ih =>
    unfold operandUpTo
    refine .bind inferInstance fun found => ?_
    split
    · infer_instance
    · refine .of_next fun i => ?_
      split
      · rename_i htoken
        exact .of_plain (fun _ => by simp [Item.isParenthesis, htoken]) inferInstance
      · rename_i htoken
        exact (closesBehind_symbolOperand htoken).bind inferInstance
      · rename_i hsymbol
        refine .of_plain (fun _ => ?_) (.bind inferInstance fun d => ?_)
        · rw [Item.isParenthesis, Bool.or_eq_false_iff]
          exact ⟨beq_eq_false_iff_ne.2 (hsymbol _), beq_eq_false_iff_ne.2 (hsymbol _)⟩
        · split <;> infer_instance

end Interval

instance closes_operand : Closes 0 operand := by
  unfold operand
  infer_instance

instance closes_interval : Closes 0 interval := by
  unfold interval
  infer_instance

end Grammar
end Sql
end QueryTemplate
