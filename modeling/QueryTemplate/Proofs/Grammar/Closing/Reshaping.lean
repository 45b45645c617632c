/-
# Parentheses in tables that are turned, matched or taken from documents

The rules for `PIVOT`, `UNPIVOT`, `MATCH_RECOGNIZE`, `JSON_TABLE` and `OPENJSON` read
parentheses in pairs.  A pattern of rows has parentheses of its own, which enclose a pattern
(`patternUpTo`).
-/

import QueryTemplate.Proofs.Grammar.Closing.Operand
import QueryTemplate.Sql.Grammar.Reshaping

namespace QueryTemplate
namespace Sql
namespace Grammar

set_option synthInstance.maxSize 20000

instance closes_givenNameSql : Closes 0 givenNameSql := by
  unfold givenNameSql
  infer_instance

/-! ## Turned rows -/

instance closes_aliasedCall : Closes 0 aliasedCall := by
  unfold aliasedCall
  refine .of_next fun i => ?_
  split
  · rename_i hi
    exact .of_plain (fun _ => Item.isParenthesis_of_ident? hi) inferInstance
  · exact .of_error fun _ _ => ⟨_, rfl⟩

instance closes_pivotValues : Closes 0 pivotValues := by
  unfold pivotValues
  infer_instance

instance closes_pivot : Closes 0 pivot := by
  unfold pivot
  infer_instance

instance closes_unpivot : Closes 0 unpivot := by
  unfold unpivot
  infer_instance

/-! ## Matched rows -/

instance closes_repetitions (place : Option Text.Position) (i : Item) :
    Closes 0 (repetitions place i) := by
  unfold repetitions
  split
  · dsimp only
    split <;> infer_instance
  · infer_instance

instance closes_repetitionSql : Closes 0 repetitionSql := by
  unfold repetitionSql
  refine .of_next fun i => ?_
  split
  · rename_i hi
    refine .of_plain (fun _ => by simp [Item.isParenthesis, hi]) ?_
    refine .bind inferInstance fun isRange => .ite (.of_next fun j => ?_) inferInstance
    split
    · rename_i hj
      exact .of_plain (fun _ => by simp [Item.isParenthesis, hj]) inferInstance
    · split
      · rename_i hj
        exact .of_isSymbol hj inferInstance
      · infer_instance
  · split
    · rename_i hi
      refine .of_isSymbol hi (.of_next fun j => ?_)
      split
      · rename_i hj
        exact .of_plain (fun _ => by simp [Item.isParenthesis, hj]) inferInstance
      · infer_instance
    · infer_instance

instance closes_quantifierSign? : Closes 0 quantifierSign? := by
  unfold quantifierSign?
  infer_instance

instance closes_basePattern {pattern : Rule String} [Closes 0 pattern] :
    Closes 0 (basePattern pattern) := by
  unfold basePattern
  infer_instance

instance closes_repeatedPattern {pattern : Rule String} [Closes 0 pattern] :
    Closes 0 (repeatedPattern pattern) := by
  unfold repeatedPattern
  infer_instance

instance closes_patternUpTo (fuel : Nat) : Closes 0 (patternUpTo fuel) := by
  induction fuel with
  | zero => exact closes_fail _
  | succ fuel ih =>
    unfold patternUpTo
    infer_instance

instance closes_rowsPerMatchSql : Closes 0 rowsPerMatchSql := by
  unfold rowsPerMatchSql
  infer_instance

instance closes_afterMatchSql : Closes 0 afterMatchSql := by
  unfold afterMatchSql
  infer_instance

instance closes_measure : Closes 0 measure := by
  unfold measure
  infer_instance

instance closes_definition : Closes 0 definition := by
  unfold definition
  infer_instance

instance closes_matchClause (ks : List String) [AreWords ks] {R : Rule (List Part)}
    [Closes 0 R] : Closes 0 (matchClause ks R) := by
  unfold matchClause
  infer_instance

instance closes_matchRows : Closes 0 matchRows := by
  unfold matchRows
  infer_instance

/-! ## Documents -/

instance closes_documentFault? : Closes 0 documentFault? := by
  unfold documentFault?
  infer_instance

instance closes_documentFaultsSql : Closes 0 documentFaultsSql := by
  unfold documentFaultsSql
  infer_instance

instance closes_documentColumnSql (fuel : Nat) : Closes 0 (documentColumnSql fuel) := by
  induction fuel with
  | zero => exact closes_fail _
  | succ fuel ih =>
    unfold documentColumnSql
    infer_instance

instance closes_jsonTable : Closes 1 jsonTable := by
  unfold jsonTable
  infer_instance

instance closes_pathSql : Closes 0 pathSql := by
  unfold pathSql
  refine .of_peek fun i => ?_
  split
  · rename_i hi
    exact .tail (.of_plain (fun _ => Item.isParenthesis_of_string? hi) inferInstance)
  · infer_instance

instance closes_openedColumnSql : Closes 0 openedColumnSql := by
  unfold openedColumnSql
  infer_instance

instance closes_openJson : Closes 1 openJson := by
  unfold openJson
  infer_instance

end Grammar
end Sql
end QueryTemplate
