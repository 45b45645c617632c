/-
# Parentheses in queries

The clauses of a query read parentheses in pairs, and so do the statements that may stand in
place of its body.  A body that is a table by its name takes three tokens behind `TABLE` as they
come.  Since the rules of a level read pairs when those one level further in do, all levels of
nesting do (`nested_paired`).
-/

import QueryTemplate.Proofs.Grammar.Closing.Relation
import QueryTemplate.Sql.Grammar.Statement

namespace QueryTemplate
namespace Sql
namespace Grammar

set_option synthInstance.maxSize 20000

/-! ## The `SELECT` list -/

instance closes_oneOrMoreNamesSql : Closes 0 oneOrMoreNamesSql := by
  unfold oneOrMoreNamesSql
  infer_instance

instance closes_replacement : Closes 0 replacement := by
  unfold replacement
  infer_instance

instance closes_renamingSql : Closes 0 renamingSql := by
  unfold renamingSql
  infer_instance

instance closes_starOptions : Closes 0 starOptions := by
  unfold starOptions
  refine .bind inferInstance fun d => ?_
  extract_lets ansiOrSnowflake withIlike
  refine .bind inferInstance fun isIlike => ?_
  have : ∀ ilike, Closes 0 (withIlike ilike) := by
    refine fun ilike => .bind inferInstance fun isExclude => ?_
    extract_lets withExclude
    have : ∀ exclude, Closes 0 (withExclude exclude) := by
      refine fun exclude => .bind inferInstance fun isExcept => ?_
      extract_lets withExcept
      have : ∀ except, Closes 0 (withExcept except) := by
        refine fun except => .bind inferInstance fun isReplace => ?_
        extract_lets withReplace
        have : ∀ replace, Closes 0 (withReplace replace) := fun replace => inferInstance
        refine .ite (.bind_open inferInstance ?_) inferInstance
        exact .of_next fun i => .of_error fun _ _ => ⟨_, rfl⟩
      infer_instance
    infer_instance
  refine .ite (.of_next fun i => ?_) inferInstance
  split
  · rename_i s hs
    exact .of_plain (fun _ => Item.isParenthesis_of_string? hs) inferInstance
  · exact .of_error fun _ _ => ⟨_, rfl⟩

instance closes_selectItem : Closes 0 selectItem := by
  unfold selectItem
  refine .bind inferInstance fun ps => ?_
  split <;> infer_instance

instance closes_endsList : Closes 0 endsList := by
  unfold endsList
  infer_instance

instance closes_selectList : Closes 0 selectList := by
  unfold selectList
  infer_instance

/-! ## Before the list -/

instance closes_distinct : Closes 0 distinct := by
  unfold distinct
  infer_instance

instance closes_top : Closes 0 top := by
  unfold top
  infer_instance

instance closes_selectModifiers : Closes 0 selectModifiers := by
  unfold selectModifiers
  infer_instance

/-! ## Clauses -/

instance closes_intoSql : Closes 0 intoSql := by
  unfold intoSql
  infer_instance

instance closes_lateralView? : Closes 0 lateralView? := by
  unfold lateralView?
  infer_instance

instance closes_groupingSet (single : Bool) : Closes 0 (groupingSet single) := by
  unfold groupingSet
  infer_instance

instance closes_groupingSets (words : String) (single : Bool) :
    Closes 0 (groupingSets words single) := by
  unfold groupingSets
  infer_instance

instance closes_groupTerm : Closes 0 groupTerm := by
  unfold groupTerm
  infer_instance

instance closes_groupModifiers : Closes 0 groupModifiers := by
  unfold groupModifiers
  infer_instance

instance closes_groupBy : Closes 0 groupBy := by
  unfold groupBy
  infer_instance

instance closes_listClause (ks : List String) [AreWords ks] : Closes 0 (listClause ks) := by
  unfold listClause
  infer_instance

instance closes_optionalClause (k : String) [IsWord k] : Closes 0 (optionalClause k) := by
  unfold optionalClause
  infer_instance

instance closes_namedWindow : Closes 0 namedWindow := by
  unfold namedWindow
  infer_instance

instance closes_windows : Closes 0 windows := by
  unfold windows
  infer_instance

instance closes_connectBy : Closes 0 connectBy := by
  unfold connectBy
  infer_instance

instance closes_select : Closes 0 select := by
  unfold select
  refine .bind inferInstance fun _ => .bind inferInstance fun modifiers => ?_
  refine .bind inferInstance fun projection => .bind inferInstance fun isInto => ?_
  extract_lets withInto
  have : ∀ into, Closes 0 (withInto into) := by
    intro into
    unfold withInto
    infer_instance
  infer_instance

/-! ## Common tables -/

instance closes_commonTable : Closes 0 commonTable := by
  unfold commonTable
  infer_instance

instance closes_commonTables : Closes 0 commonTables := by
  unfold commonTables
  infer_instance

/-! ## Bodies -/

instance closes_quantifierSql : Closes 0 quantifierSql := by
  unfold quantifierSql
  infer_instance

instance closes_simpleBody : Closes 0 simpleBody := by
  unfold simpleBody
  refine .bind inferInstance fun isSelect => .ite inferInstance (.bind_open inferInstance ?_)
  exact .bind inferInstance fun isValues => .ite inferInstance (closes_bind_raw (by decide))

instance closes_bodyUpTo (fuel precedence : Nat) : Closes 0 (bodyUpTo fuel precedence) := by
  induction fuel generalizing precedence with
  | zero => exact closes_fail _
  | succ fuel ih =>
    unfold bodyUpTo
    refine .bind inferInstance fun first => .iterated (fun left => .of_peek fun i => ?_) first
    extract_lets k tightness
    split
    · infer_instance
    · rename_i hbinds
      refine .tail (.of_keyword (fun hempty => hbinds ?_) inferInstance)
      have hloosest : tightness = 0 := congrArg setPrecedence hempty
      exact hloosest ▸ Nat.zero_le _

instance closes_body : Closes 0 body := by
  unfold body
  infer_instance

/-! ## After the body -/

instance closes_interpolation : Closes 0 interpolation := by
  unfold interpolation
  infer_instance

instance closes_orderBy : Closes 0 orderBy := by
  unfold orderBy
  infer_instance

instance closes_slice (s : Slice) : Closes 0 (slice s) := by
  unfold slice
  refine .bind inferInstance fun isLimit => ?_
  extract_lets withOffset withLimit
  have : ∀ s, Closes 0 (withOffset s) := by
    intro s
    unfold withOffset
    split <;> infer_instance
  have : ∀ s, Closes 0 (withLimit s) := fun s => inferInstance
  infer_instance

instance closes_fetch : Closes 0 fetch := by
  unfold fetch
  infer_instance

instance closes_elementSql : Closes 0 elementSql := by
  unfold elementSql
  infer_instance

instance closes_outputOption (plain : List String) : Closes 0 (outputOption plain) := by
  unfold outputOption
  refine .bind inferInstance fun isRoot => .ite inferInstance (.bind inferInstance fun k => ?_)
  split <;> infer_instance

instance closes_outputOptionsSql (plain order : List String) :
    Closes 0 (outputOptionsSql plain order) := by
  unfold outputOptionsSql
  infer_instance

instance closes_outputSql (k : String) : Closes 0 (outputSql k) := by
  unfold outputSql
  infer_instance

instance closes_forSql : Closes 0 forSql := by
  unfold forSql
  infer_instance

instance closes_forClauses : Closes 0 forClauses := by
  unfold forClauses
  infer_instance

instance closes_queryTail : Closes 0 queryTail := by
  unfold queryTail
  infer_instance

/-! ## Statements that change data -/

instance closes_conflictSql? : Closes 0 conflictSql? := by
  unfold conflictSql?
  infer_instance

instance closes_assignment : Closes 0 assignment := by
  unfold assignment
  infer_instance

instance closes_assignments : Closes 0 assignments := by
  unfold assignments
  infer_instance

instance closes_returning : Closes 0 returning := by
  unfold returning
  infer_instance

instance closes_onConflict : Closes 0 onConflict := by
  unfold onConflict
  infer_instance

instance closes_partition : Closes 0 partition := by
  unfold partition
  infer_instance

instance closes_insertedRows : Closes 0 insertedRows := by
  unfold insertedRows
  infer_instance

instance closes_rowAliasSql : Closes 0 rowAliasSql := by
  unfold rowAliasSql
  infer_instance

instance closes_insertFiles (words : String) : Closes 0 (insertFiles words) := by
  unfold insertFiles
  infer_instance

instance closes_insertRows (words : String) (conflict : Option String) :
    Closes 0 (insertRows words conflict) := by
  unfold insertRows
  infer_instance

instance closes_insert : Closes 0 insert := by
  unfold insert
  infer_instance

instance closes_update : Closes 0 update := by
  unfold update
  infer_instance

instance closes_queryRule : Closes 0 queryRule := by
  unfold queryRule
  infer_instance

/-! ## Levels -/

/-- **The rules of every depth read parentheses in pairs.** -/
theorem nested_paired (d : Dialect) (n : Nat) (relating : Bool) :
    (nested d n relating).Paired := by
  induction n generalizing relating with
  | zero =>
    constructor <;> intros <;> contradiction
  | succ n ih =>
    constructor
    · intro precedence s e t h
      exact Closes.leads (R := expression precedence) (ih relating) h
    · intro s q t h
      exact Closes.leads (R := queryRule) (ih relating) h
    · intro s e t h
      exact Closes.leads (R := expression 0) (ih true) h

end Grammar
end Sql
end QueryTemplate
