/-
# Calls in `FROM`

The relations of a `FROM` list are looked up by their names, and a list with a relation that has
none is turned away (`Promised`).  A call such as `f(1)` is read as a table with arguments, and it
is looked up as if it had none: the list becomes what it would be without the arguments
(`placeholders_uncalled`), and the new `FROM` list does not have them either.

| first relation that is no table by its name alone | list |
| --- | --- |
| none | looked up |
| sub-query, table function, `UNNEST`, `LATERAL`, join in parentheses | turned away |
| call | goes on behind the call |
-/

import QueryTemplate.Proofs.Fill.Admission

namespace QueryTemplate

open Sql (Relation Source)

namespace Sql.Relation

/-- A table by its name alone, apart from alias, hints and version. -/
def isNamed : Relation → Bool
  | .table _ none _ => true
  | _ => false

/-- A table with a list of arguments. -/
def isCall : Relation → Bool
  | .table _ (some _) _ => true
  | _ => false

/-- The dotted name of a table. -/
def dottedName : Relation → String
  | .table name _ _ => String.intercalate "." (name.map Ident.text)
  | .other _ => ""

/-- A table without its arguments. -/
def uncalled : Relation → Relation
  | .table name _ tail => .table name none tail
  | .other parts => .other parts

/-- A table is named or called. -/
theorem isTable_iff {r : Relation} : r.IsTable ↔ r.isNamed = true ∨ r.isCall = true := by
  match r with
  | .table name none tail => simp [IsTable, isNamed]
  | .table name (some arguments) tail => simp [IsTable, isCall]
  | .other parts => simp [IsTable, isNamed, isCall]

/-- A table that is named is not called. -/
theorem isCall_of_isNamed {r : Relation} (h : r.isNamed = true) : r.isCall = false := by
  unfold isNamed at h
  split at h
  · rfl
  · cases h

/-- Without its arguments every table is named. -/
@[simp] theorem isNamed_uncalled_iff {r : Relation} : r.uncalled.isNamed = true ↔ r.IsTable := by
  cases r <;> simp [uncalled, isNamed, IsTable]

/-- Without its arguments nothing is called. -/
@[simp] theorem isCall_uncalled (r : Relation) : r.uncalled.isCall = false := by
  cases r <;> rfl

end Sql.Relation

namespace Table

variable {relations : List Relation} {outcome : Except FillError (List String)}

/-! ## What is promised -/

/-- What is to become of relations: the name of each of them, in their order, or the failure that
carries the first that is no table by its name alone. -/
inductive Promised : List Relation → Except FillError (List String) → Prop
  | names {relations : List Relation} : (∀ r ∈ relations, r.isNamed = true) →
      Promised relations (.ok (relations.map Relation.dottedName))
  | refused {before after : List Relation} {r : Relation} :
      (∀ b ∈ before, b.isNamed = true) → r.isNamed = false →
        Promised (before ++ r :: after) (.error (.notTable (Sql.Part.allSql r.parts)))

/-- Names are promised just to tables by their names alone. -/
theorem Promised.isOk_iff (h : Promised relations outcome) :
    (∃ names, outcome = .ok names) ↔ ∀ r ∈ relations, r.isNamed = true := by
  cases h with
  | names hall => exact iff_of_true ⟨_, rfl⟩ hall
  | @refused before after r hbefore hr =>
    refine iff_of_false ?_ fun hall => ?_
    · rintro ⟨names, hnames⟩
      cases hnames
    · have htrue : r.isNamed = true := hall r (by simp)
      simp [hr] at htrue

/-! ## What happens -/

/-- The names of tables are found, with or without arguments. -/
theorem relationPlaceholders_eq_names (h : ∀ r ∈ relations, r.IsTable) :
    relationPlaceholders relations = .ok (relations.map Relation.dottedName) := by
  induction relations with
  | nil => rfl
  | cons r rest ih =>
    obtain ⟨⟨name, arguments, tail, rfl⟩, hrest⟩ := List.forall_mem_cons.1 h
    simp [relationPlaceholders, placeholder, ih hrest, Except.map, Relation.dottedName]

/-- Arguments make no difference to the tables that are looked up. -/
theorem relationPlaceholders_uncalled (relations : List Relation) :
    relationPlaceholders (relations.map Relation.uncalled) = relationPlaceholders relations := by
  induction relations with
  | nil => rfl
  | cons r rest ih =>
    rw [List.map_cons, relationPlaceholders, relationPlaceholders, ih]
    cases r <;> rfl

/-- Without calls, relations become what is promised. -/
theorem promised_relationPlaceholders (h : ∀ r ∈ relations, r.isCall = false) :
    Promised relations (relationPlaceholders relations) := by
  have hnamed {r : Relation} (hr : r ∈ relations) (htable : r.IsTable) : r.isNamed = true :=
    (Sql.Relation.isTable_iff.1 htable).resolve_right (by simp [h r hr])
  rcases Sql.Relation.tables_or_other relations with hall | ⟨before, parts, after, rfl, hbefore⟩
  · rw [relationPlaceholders_eq_names hall]
    exact .names fun r hr => hnamed hr (hall r hr)
  · rw [relationPlaceholders_eq_error hbefore]
    exact .refused (r := .other parts) (fun r hr => hnamed (by simp [hr]) (hbefore r hr)) rfl

/-- **A call is looked up as a table.**  A `FROM` list becomes what is promised for its relations
without the arguments of calls, and so what is promised for the relations themselves if there are
no calls.  That a list is looked up just if all its relations are tables by their names alone
holds for the lists without calls and for those with a relation that is no table at all, and for
no others. -/
theorem placeholders_uncalled (sources : List Source) :
    let relations := sources.flatMap Source.relations
    let outcome := placeholders sources
    Promised (relations.map Relation.uncalled) outcome ∧
    ((∀ r ∈ relations, r.isCall = false) → Promised relations outcome) ∧
    (((∃ names, outcome = .ok names) ↔ ∀ r ∈ relations, r.isNamed = true) ↔
      (∀ r ∈ relations, r.isCall = false) ∨ ∃ parts, Relation.other parts ∈ relations) := by
  intro relations outcome
  have huncalled : Promised (relations.map Relation.uncalled) outcome := by
    have hplain : ∀ r ∈ relations.map Relation.uncalled, r.isCall = false := by
      simp
    have h := promised_relationPlaceholders hplain
    rwa [relationPlaceholders_uncalled] at h
  have hok : (∃ names, outcome = .ok names) ↔ ∀ r ∈ relations, r.IsTable := by
    simpa using huncalled.isOk_iff
  refine ⟨huncalled, promised_relationPlaceholders, ?_⟩
  rw [hok]
  constructor
  · intro hiff
    rcases Sql.Relation.tables_or_other relations with hall | ⟨before, parts, after, heq, -⟩
    · exact .inl fun r hr => Sql.Relation.isCall_of_isNamed (hiff.1 hall r hr)
    · exact .inr ⟨parts, by simp [heq]⟩
  · rintro (hcalls | ⟨parts, hother⟩)
    · refine forall₂_congr fun r hr => ?_
      simp [Sql.Relation.isTable_iff, hcalls r hr]
    · refine iff_of_false (fun hall => ?_) fun hall => ?_
      · obtain ⟨name, arguments, tail, h⟩ := hall _ hother
        cases h
      · cases hall _ hother

/-- **A call of a table function is accepted**, by the name of the function. -/
theorem placeholders_accept_call :
    ((Sql.parseSelect .ansi "SELECT a FROM generate_series(1, 10)").toOption.bind id).map
      (fun (_, s) => ((s.sources.flatMap Source.relations).map
        fun r => (Sql.Part.allSql r.parts, r.isCall), (placeholders s.sources).toOption)) =
      some ([("generate_series(1, 10)", true)], some ["generate_series"]) := by
  decide +kernel

end Table
end QueryTemplate
