/-
# Aliases that are made

The entries of a filled `SELECT` list are named by the rules of `Named`.  A made alias is
written in double quotes.  It is read as one name with that text just if the quotes in the text
stand apart (`projection_aliases`): the writer takes a pair of quotes inside a quoted name for
one that is already doubled, so `"a""b" || c` comes back as `"a"b" || c`
(`alias_merges_quotes`), and it leaves the quote in `'\"'` single, so that alias ends early.
-/

import QueryTemplate.Proofs.Clause.Replaced
import QueryTemplate.Proofs.Token.Doubled

namespace QueryTemplate

open Sql (Dialect Expr Ident SelectItem)

/-- The alias that an entry was given. -/
def Sql.SelectItem.givenAlias : SelectItem → Option Ident
  | .wildcard _ => none
  | .column _ a => a

namespace Clause

/-- The alias of one of `count` entries: as the rules name it, and if it is made, one that reads
back just if the quotes in its text stand apart. -/
structure AliasFor (d : Dialect) (count : Nat) (given : Option Ident) (e : Expr)
    (found : Option Ident) : Prop where
  named : Named count given e found
  readsBack : ∀ text, MadeOf count given e text →
    ((Ident.quoted text).ReadsBack d ↔ Sql.Quoting.quotesApart '"' text = true)

/-- **Each entry that a filled `SELECT` list has keeps the alias that it was given, or has one
made of its text or of both names.**  In a dialect with names in double quotes a made alias reads
back as that text just if the quotes in the text stand apart. -/
theorem projection_aliases {rules : ValueRules} {r : Resolver} {earlier : List Request}
    {sources : List String} {items out : List SelectItem}
    (hd : rules.dialect.opensName '"' = true)
    (h : (Column.run rules r earlier (projection sources items)).result = .ok out) :
    ∃ groups : List (List SelectItem), out = groups.flatten ∧
      List.Forall₂ (fun item group =>
        item.Expanded (Column.Finds (AnsweredIn (Column.answer rules r)
          (earlier ++ (projection sources items).requests)) sources) group ∧
        ∀ e a, .column e a ∈ group →
          AliasFor rules.dialect group.length item.givenAlias e a) items groups := by
  obtain ⟨groups, hgroups, rfl⟩ := Plan.yields_map_iff.1 (Plan.yields_of_run h)
  rw [Plan.yields_all_iff, List.forall₂_map_left_iff] at hgroups
  refine ⟨groups, rfl, hgroups.imp fun item group hgroup => ?_⟩
  have hitem := expanded_selectItem hgroup
  refine ⟨hitem, fun e a hmem => ?_⟩
  cases hitem with
  | wildcard parts => simp at hmem
  | column hes hnamed =>
    obtain rfl := namedAll_iff.1 hnamed
    obtain ⟨x, -, hx⟩ := List.mem_map.1 hmem
    obtain ⟨rfl, rfl⟩ := Sql.SelectItem.column.inj hx
    rw [List.length_map]
    exact ⟨named_aliasOf _ _ _, fun text _ => Ident.readsBack_quoted_iff hd text⟩

/-- A sum without an alias, and an alias over two columns. -/
theorem projection_aliases_two :
    let rules : ValueRules := ⟨.postgres, false⟩
    let r : Resolver := .ofFunction fun request =>
      .ok (if request.name = "c" then ["p", "q"] else [request.name])
    let sum : Expr := .binary (.identifier (.plain "a")) .plus (.identifier (.plain "b"))
    let c : SelectItem := .column (.identifier (.plain "c")) (some (.plain "x"))
    let out : List SelectItem := [
      .column sum (some (.quoted "a + b")),
      .column (.identifier (.plain "p")) (some (.quoted "x: p")),
      .column (.identifier (.plain "q")) (some (.quoted "x: q"))]
    rules.dialect.opensName '"' = true ∧
      (Column.run rules r [] (projection [] [.column sum none, c])).result = .ok out ∧
      ∃ groups : List (List SelectItem), out = groups.flatten ∧
        List.Forall₂ (fun item group => ∀ e a, .column e a ∈ group →
          AliasFor .postgres group.length item.givenAlias e a) [.column sum none, c] groups := by
  intro rules r sum c out
  have hrun : (Column.run rules r [] (projection [] [.column sum none, c])).result = .ok out := rfl
  obtain ⟨groups, hout, hgroups⟩ := projection_aliases rfl hrun
  exact ⟨rfl, hrun, groups, hout, hgroups.imp fun _ _ h => h.2⟩

/-- **An alias can lose a quote.**  The text of a concatenation that starts with the column `a"b`
has a pair of quotes; its alias is one name, but not with that text. -/
theorem alias_merges_quotes :
    let e : Expr := .binary (.identifier (.quoted "a\"b")) (.other "||") (.identifier (.plain "c"))
    let made : Ident := .quoted "\"a\"\"b\" || c"
    (Column.run ⟨.ansi, false⟩ (.ofFunction fun _ => .ok []) []
        (projection ["t"] [.column e none])).result = .ok [.column e (some made)] ∧
      e.sql = made.text ∧
      (Sql.lexemes .ansi made.sql).toOption.map (List.map Sql.Lexeme.token) =
        some [.word "\"a\"b\" || c" (some '"')] ∧
      ¬ made.ReadsBack .ansi := by
  intro e made
  refine ⟨rfl, by decide, by decide +kernel, ?_⟩
  rw [Ident.readsBack_quoted_iff rfl]
  decide

end Clause
end QueryTemplate
