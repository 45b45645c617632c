/-
# Parentheses between operands and in relations

The rules for operators and for relations read parentheses in pairs.  The list of a comparison
with some or with all values may be a sub-query; its parenthesis is then put back, since the
sub-query reads it again (`quantified`).  A relation in parentheses is tried as a sub-query
first, which closes the parenthesis or reads nothing (`enclosed`).  Behind `OPERATOR` tokens are
taken as they come.
-/

import QueryTemplate.Proofs.Grammar.Closing.Reshaping
import QueryTemplate.Sql.Grammar.Relation

namespace QueryTemplate
namespace Sql
namespace Grammar

set_option synthInstance.maxSize 20000

/-! ## Subscripts and paths -/

instance closes_subscript (e : Expr) : Closes 0 (subscript e) := by
  unfold subscript
  infer_instance

instance closes_pathKey : Closes 0 pathKey := by
  unfold pathKey
  refine .of_next fun ⟨t, w, p, b⟩ => ?_
  dsimp only
  split <;> infer_instance

instance closes_path (e : Expr) : Closes 0 (path e) := by
  unfold path
  infer_instance

instance closes_mapAccess (e : Expr) : Closes 0 (mapAccess e) := by
  unfold mapAccess
  infer_instance

/-! ## Tests -/

instance closes_firstOf_nil : Closes 0 (firstOf []) := closes_pure _

instance closes_firstOf_cons (ks : List String) (rest : List (List String)) [AreWords ks]
    [Closes 0 (firstOf rest)] : Closes 0 (firstOf (ks :: rest)) := by
  unfold firstOf
  infer_instance

instance closes_isTest (e : Expr) : Closes 0 (isTest e) := by
  unfold isTest isTests
  infer_instance

instance closes_membership (e : Expr) (not : String) : Closes 0 (membership e not) := by
  unfold membership
  infer_instance

instance closes_range (e : Expr) (not : String) : Closes 0 (range e not) := by
  unfold range
  infer_instance

instance closes_pattern (e : Expr) (words : String) : Closes 0 (pattern e words) := by
  unfold pattern
  infer_instance

instance closes_negatableTest (e : Expr) : Closes 0 (negatableTest e) := by
  unfold negatableTest
  infer_instance

/-! ## Binary operators -/

/-- Behind every keyword but `OPERATOR`. -/
theorem closes_keywordOperator? {k : String} (hk : k ≠ "OPERATOR") :
    Closes 0 (keywordOperator? k) := by
  unfold keywordOperator?
  refine .bind inferInstance fun d => ?_
  split
  case h_4 => exact absurd rfl hk
  all_goals infer_instance

instance closes_quantified (e : Expr) (op : BinaryOp) (place : Option Text.Position) (k : String)
    (precedence : Nat) : Closes 0 (quantified e op place k precedence) := by
  unfold quantified
  refine .of_peek fun opening => .expect_open fun hopen => ?_
  refine @closesBehind_bind_peekQuery _ _ _ _ fun isQuery => ?_
  cases isQuery with
  | true =>
    simp only [if_true]
    exact .putBack inferInstance
  | false =>
    simp only [Bool.false_eq_true, if_false]
    exact .of_open hopen inferInstance

instance closes_rightOperand (e : Expr) (op : BinaryOp) (place : Option Text.Position)
    (precedence : Nat) : Closes 0 (rightOperand e op place precedence) := by
  unfold rightOperand
  infer_instance

instance closes_noOperator (i : Item) (shown : String) : Closes 0 (noOperator i shown) :=
  .of_error fun _ _ => ⟨_, rfl⟩

instance closesBehind_noOperator (i j : Item) (shown : String) :
    ClosesBehind 0 i (noOperator j shown) :=
  .of_error fun _ _ => ⟨_, rfl⟩

/-- No operator is a parenthesis. -/
theorem isPlainSymbol_of_symbolOperator? {d : Dialect} {s : String} {op : BinaryOp}
    (h : symbolOperator? d s = some op) : IsPlainSymbol s := by
  have hpunctuation : ¬punctuation.contains s = true := by
    intro hs
    simp only [symbolOperator?, hs, Bool.or_true, if_true] at h
    split at h
    · cases h
    · split at h <;> cases h
  constructor
  · rintro rfl
    exact hpunctuation (by decide)
  · rintro rfl
    exact hpunctuation (by decide)

instance closes_applyOperator (e : Expr) (precedence : Nat) :
    Closes 0 (applyOperator e precedence) := by
  unfold applyOperator
  refine .bind inferInstance fun d => .of_next fun i => .of_orderly fun hi => ?_
  split
  · rename_i s htoken
    split
    · rename_i op hop
      have := isPlainSymbol_of_symbolOperator? hop
      exact .of_plain (fun _ => Item.isParenthesis_of_token htoken) inferInstance
    · split
      iterate 2 exact .of_plain (fun _ => Item.isParenthesis_of_token htoken) inferInstance
      · have hplain := Item.isParenthesis_of_token htoken
        split
        iterate 2 exact .of_plain (fun _ => hplain) inferInstance
        · exact .putBack inferInstance
        · exact .of_plain (fun _ => hplain) inferInstance
      · exact .putBack inferInstance
      · infer_instance
  · rename_i text q htoken
    have hplain : i.isParenthesis = false := by simp [Item.isParenthesis, htoken]
    have := closes_putBack hi hplain
    have hkeyword : i.keyword ≠ "OPERATOR" := by
      intro hk
      simp [Item.isOrderly, hk, Item.rawWords] at hi
    have := closes_keywordOperator? hkeyword
    refine .of_plain (fun _ => hplain) (.bind inferInstance fun found => ?_)
    split
    · infer_instance
    · split <;> infer_instance
  · infer_instance

instance closes_expression (precedence : Nat) : Closes 0 (expression precedence) := by
  unfold expression
  infer_instance

/-! ## Aliases -/

instance closes_aliasColumnsSql : Closes 0 aliasColumnsSql := by
  unfold aliasColumnsSql
  infer_instance

instance closes_tableAlias? : Closes 0 tableAlias? := by
  unfold tableAlias?
  infer_instance

instance closes_aliased (core : List Part) (isJoin : Bool) : Closes 0 (aliased core isJoin) := by
  unfold aliased
  infer_instance

/-! ## Relations -/

instance closes_rows : Closes 0 rows := by
  unfold rows
  infer_instance

instance closes_derived (words : String) : Closes 1 (derived words) := by
  unfold derived
  infer_instance

instance closes_settingsSql? : Closes 0 settingsSql? := by
  unfold settingsSql?
  infer_instance

instance closes_tableArguments : Closes 1 tableArguments := by
  unfold tableArguments
  infer_instance

instance closes_callArguments : Closes 1 callArguments := by
  unfold callArguments
  infer_instance

instance closes_unnest : Closes 0 unnest := by
  unfold unnest
  infer_instance

instance closes_table : Closes 0 table := by
  unfold table
  refine .bind inferInstance fun d => .bind inferInstance fun n => .bind inferInstance fun p => ?_
  extract_lets withPartitions
  have : ∀ p, Closes 0 (withPartitions p) := by
    intro p
    refine .bind inferInstance fun p => ?_
    extract_lets withVersion
    have : ∀ p, Closes 0 (withVersion p) := by
      intro p
      unfold withVersion
      infer_instance
    infer_instance
  infer_instance

instance closes_pivoted (u : Unaliased) : Closes 0 (pivoted u) := by
  unfold pivoted
  infer_instance

instance closes_reshapedTable : Closes 0 reshapedTable := by
  unfold reshapedTable
  infer_instance

instance closes_joinOperator? : Closes 0 joinOperator? := by
  unfold joinOperator?
  refine .bind inferInstance fun global => ?_
  extract_lets scope plain
  have : ∀ sql, Closes 0 (plain sql) := fun sql => closes_pure _
  refine .bind inferInstance fun cross => .ite (.bind inferInstance fun k => ?_) ?_
  · split <;> infer_instance
  refine .bind inferInstance fun outer => .ite inferInstance ?_
  refine .bind inferInstance fun asof => .ite inferInstance ?_
  refine .bind inferInstance fun natural => ?_
  extract_lets before done
  have : ∀ sql, Closes 0 (done sql) := fun sql => closes_pure _
  refine .of_peek fun i => ?_
  split
  case h_1 | h_2 => exact .of_closes inferInstance
  case h_3 | h_4 =>
    rename_i hi
    refine .tail (.of_keyword (by simp [hi]) (.bind inferInstance fun k => ?_))
    split <;> infer_instance
  case h_5 | h_6 | h_7 =>
    rename_i hi
    exact .tail (.of_keyword (by simp [hi]) inferInstance)
  all_goals infer_instance

instance closes_joinCondition : Closes 0 joinCondition := by
  unfold joinCondition
  infer_instance

section Relation

variable {relation : Rule Unaliased} [Closes 0 relation]

instance closes_join? : Closes 0 (join? relation) := by
  unfold join?
  infer_instance

instance closes_enclosed : Closes 1 (enclosed relation) := by
  unfold enclosed
  refine @closes_bind_attempt _ _ _ _ inferInstance inferInstance ?_
  refine .bind inferInstance fun first => .bind inferInstance fun joins => .ite inferInstance ?_
  refine .bind inferInstance fun d => .ite (.bind_closed inferInstance fun _ => ?_) inferInstance
  refine .bind inferInstance fun a => ?_
  split <;> infer_instance

end Relation

instance closes_relationUpTo (fuel : Nat) : Closes 0 (relationUpTo fuel) := by
  induction fuel with
  | zero => exact closes_fail _
  | succ fuel ih =>
    unfold relationUpTo
    refine .bind inferInstance fun d => .bind inferInstance fun lateral => .ite inferInstance ?_
    refine .bind inferInstance fun isTable => .ite inferInstance (.bind_open inferInstance ?_)
    refine .of_peek fun i => @closesAt_bind_peekAt _ _ _ _ _ fun j => ?_
    split
    · rename_i hvalues
      simp only [Bool.and_eq_true, beq_iff_eq] at hvalues
      exact .tail (.of_keyword (by simp [hvalues]) inferInstance)
    · exact .of_closes inferInstance

instance closes_source : Closes 0 source := by
  unfold source
  infer_instance

end Grammar
end Sql
end QueryTemplate
