/-
# The `SELECT` list, entry by entry

A `SELECT` list becomes what each of its entries becomes by itself, one after the other.

| entry | becomes |
| --- | --- |
| wildcard | itself |
| column | one entry for each expression that is found for it, in their order |
| any other | one entry |

The entries that one entry becomes are named by the rules of `Named`.  An entry is looked up
after the ones before it, so a resolver that counts its requests sees the entry at its place;
`FansOut` keeps count of the requests.  A list in two parts is filled in two parts
(`projection_fans_out`).
-/

import QueryTemplate.Proofs.Clause.Named
import QueryTemplate.Proofs.Lookup.Requests

namespace QueryTemplate

/-! ## Plans in parts -/

section Running

variable {ε γ α β : Type} {answer : List Request → Request → Except ε (List γ)}
  {earlier rs rs' : List Request} {values : List (List γ)} {delayed : Bool}

/-- Requests in two parts are answered part by part, the second part after the first. -/
theorem answers_append_iff : Answers answer earlier (rs ++ rs') values ↔
    ∃ first rest, Answers answer earlier rs first ∧ Answers answer (earlier ++ rs) rs' rest ∧
      values = first ++ rest := by
  induction rs generalizing earlier values with
  | nil =>
    constructor
    · intro h
      exact ⟨[], values, .nil earlier, by simpa using h, rfl⟩
    · rintro ⟨first, rest, hfirst, hrest, rfl⟩
      cases hfirst
      simpa using hrest
  | cons request rs ih =>
    have hplace : earlier ++ request :: rs = earlier ++ [request] ++ rs := by simp
    constructor
    · intro h
      cases h with
      | cons hv hvalues =>
        obtain ⟨first, rest, hfirst, hrest, rfl⟩ := ih.1 hvalues
        exact ⟨_, rest, .cons hv hfirst, hplace ▸ hrest, rfl⟩
    · rintro ⟨first, rest, hfirst, hrest, rfl⟩
      cases hfirst with
      | cons hv hvalues => exact .cons hv (ih.2 ⟨_, rest, hvalues, hplace ▸ hrest, rfl⟩)

/-- A run gives what its plan makes of the answers, if all requests are answered. -/
theorem Plan.run_eq_ok_iff {p : Plan γ α} {a : α} :
    (p.run answer delayed earlier).result = .ok a ↔
      ∃ values, Answers answer earlier p.requests values ∧ a = p.finish values := by
  constructor
  · exact Plan.run_eq_ok
  · rintro ⟨values, hvalues, rfl⟩
    simp [Plan.run, hvalues.askInOrder_eq, Except.map]

@[simp] theorem Plan.run_ofValue_eq_ok_iff {a b : α} :
    ((Plan.ofValue a : Plan γ α).run answer delayed earlier).result = .ok b ↔ b = a := by
  simp [Plan.run, Plan.ofValue, askInOrder, Except.map, eq_comm]

@[simp] theorem Plan.run_map_eq_ok_iff {f : α → β} {p : Plan γ α} {b : β} :
    ((p.map f).run answer delayed earlier).result = .ok b ↔
      ∃ a, (p.run answer delayed earlier).result = .ok a ∧ b = f a := by
  simp only [Plan.run_eq_ok_iff, Plan.requests_map]
  constructor
  · rintro ⟨values, hvalues, rfl⟩
    exact ⟨_, ⟨values, hvalues, rfl⟩, rfl⟩
  · rintro ⟨_, ⟨values, hvalues, rfl⟩, rfl⟩
    exact ⟨values, hvalues, rfl⟩

/-- **Of two plans, the second is run after the requests of the first.** -/
@[simp] theorem Plan.run_both_eq_ok_iff {p : Plan γ α} {q : Plan γ β} {ab : α × β} :
    ((Plan.both p q).run answer delayed earlier).result = .ok ab ↔
      (p.run answer delayed earlier).result = .ok ab.1 ∧
        (q.run answer delayed (earlier ++ p.requests)).result = .ok ab.2 := by
  simp only [Plan.run_eq_ok_iff, Plan.requests_both, answers_append_iff]
  constructor
  · rintro ⟨_, ⟨first, rest, hfirst, hrest, rfl⟩, rfl⟩
    have hlength := hfirst.length_eq
    exact ⟨⟨first, hfirst, by simp [Plan.both, ← hlength]⟩,
      ⟨rest, hrest, by simp [Plan.both, ← hlength]⟩⟩
  · obtain ⟨a, b⟩ := ab
    rintro ⟨⟨first, hfirst, rfl⟩, ⟨rest, hrest, rfl⟩⟩
    exact ⟨_, ⟨first, rest, hfirst, hrest, rfl⟩, by simp [Plan.both, ← hfirst.length_eq]⟩

end Running

namespace Clause

open Sql (Expr Ident SelectItem)

/-! ## One entry -/

variable (rules : ValueRules) (r : Resolver) (sources : List String)

/-- What an entry of `SELECT` becomes by itself, after `earlier` requests. -/
inductive Gives (earlier : List Request) : SelectItem → List SelectItem → Prop
  | wildcard (parts : List Sql.Part) : Gives earlier (.wildcard parts) [.wildcard parts]
  | column {qualifier : List Ident} {name : Ident} {given : Option Ident} {es : List Expr}
      {group : List SelectItem} :
      (Column.run rules r earlier (Column.lookup sources name.text)).result = .ok es →
        NamedAll given es group → Gives earlier (.column (.column qualifier name) given) group
  | other {e x : Expr} {given a : Option Ident} : e.columnName? = none →
      (Column.run rules r earlier (Column.substitute sources e)).result = .ok x →
        Named 1 given x a → Gives earlier (.column e given) [.column x a]

variable {rules r sources} {earlier : List Request}

/-- **An entry becomes by itself what the rules say.** -/
theorem run_selectItem_eq_ok_iff {item : SelectItem} {group : List SelectItem} :
    (Column.run rules r earlier (selectItem sources item)).result = .ok group ↔
      Gives rules r sources earlier item group := by
  cases item with
  | wildcard parts =>
    simp only [Column.run, selectItem, Plan.run_ofValue_eq_ok_iff]
    constructor
    · rintro rfl
      exact .wildcard parts
    · rintro ⟨⟩
      rfl
  | column e given =>
    simp only [Column.run, selectItem, Plan.run_map_eq_ok_iff, ← namedAll_iff]
    cases hname : e.columnName? with
    | none =>
      simp only [Column.expand, hname, Plan.run_map_eq_ok_iff]
      constructor
      · rintro ⟨_, ⟨x, hx, rfl⟩, hgroup⟩
        obtain ⟨_, _, ⟨a, rfl, ha⟩, hnil, rfl⟩ := List.forall₂_cons_left_iff.1 hgroup
        obtain rfl := List.forall₂_nil_left_iff.1 hnil
        exact .other hname hx ha
      · intro h
        cases h with
        | column => cases hname
        | other _ hx ha => exact ⟨_, ⟨_, hx, rfl⟩, .cons ⟨_, rfl, ha⟩ .nil⟩
    | some name =>
      obtain ⟨qualifier, i, rfl⟩ : ∃ qualifier i, e = .column qualifier i := by
        cases e <;> simp_all [Expr.columnName?]
      obtain rfl : i.text = name := Option.some.inj hname
      simp only [Column.expand, hname]
      constructor
      · rintro ⟨es, hes, hgroup⟩
        exact .column hes hgroup
      · intro h
        cases h with
        | column hes hgroup => exact ⟨_, hes, hgroup⟩
        | other hnone => cases hnone

/-! ## The list -/

variable (rules r sources) in
/-- What the entries of a list become, each after the requests of those before it. -/
inductive FansOut : (earlier : List Request) → List SelectItem → List (List SelectItem) → Prop
  | nil (earlier : List Request) : FansOut earlier [] []
  | cons {earlier : List Request} {item : SelectItem} {group : List SelectItem}
      {items : List SelectItem} {groups : List (List SelectItem)} :
      Gives rules r sources earlier item group →
        FansOut (earlier ++ itemRequests sources item) items groups →
          FansOut earlier (item :: items) (group :: groups)

/-- Two lists of items fan out one after the other, the second after the requests of the first. -/
theorem fansOut_append_iff {items more : List SelectItem} {groups : List (List SelectItem)} :
    FansOut rules r sources earlier (items ++ more) groups ↔
      ∃ first rest, FansOut rules r sources earlier items first ∧
        FansOut rules r sources (earlier ++ items.flatMap (itemRequests sources)) more rest ∧
          groups = first ++ rest := by
  induction items generalizing earlier groups with
  | nil =>
    constructor
    · intro h
      exact ⟨[], groups, .nil earlier, by simpa using h, rfl⟩
    · rintro ⟨first, rest, hfirst, hrest, rfl⟩
      cases hfirst
      simpa using hrest
  | cons item items ih =>
    rw [List.flatMap_cons, ← List.append_assoc]
    constructor
    · intro h
      cases h with
      | cons hitem hitems =>
        obtain ⟨first, rest, hfirst, hrest, rfl⟩ := ih.1 hitems
        exact ⟨_, rest, .cons hitem hfirst, hrest, rfl⟩
    · rintro ⟨first, rest, hfirst, hrest, rfl⟩
      cases hfirst with
      | cons hitem hitems => exact .cons hitem (ih.2 ⟨_, rest, hitems, hrest, rfl⟩)

/-- The items of a list are rewritten as they fan out. -/
theorem run_all_selectItem_eq_ok_iff {items : List SelectItem} {groups : List (List SelectItem)} :
    (Column.run rules r earlier (Plan.all (items.map (selectItem sources)))).result = .ok groups ↔
      FansOut rules r sources earlier items groups := by
  induction items generalizing earlier groups with
  | nil =>
    simp only [List.map_nil, Plan.all, Column.run, Plan.run_ofValue_eq_ok_iff]
    constructor
    · rintro rfl
      exact .nil earlier
    · rintro ⟨⟩
      rfl
  | cons item items ih =>
    have hitem := @run_selectItem_eq_ok_iff rules r sources earlier item
    simp only [Column.run] at ih hitem
    simp only [List.map_cons, Plan.all, Column.run, Plan.run_map_eq_ok_iff, Plan.run_both_eq_ok_iff,
      requests_selectItem, hitem, ih]
    constructor
    · rintro ⟨⟨group, groups⟩, ⟨hgroup, hgroups⟩, rfl⟩
      exact .cons hgroup hgroups
    · intro h
      cases h with
      | cons hgroup hgroups => exact ⟨(_, _), ⟨hgroup, hgroups⟩, rfl⟩

/-- A projection is rewritten to what its items fan out to. -/
theorem run_projection_eq_ok_iff {items out : List SelectItem} :
    (Column.run rules r earlier (projection sources items)).result = .ok out ↔
      ∃ groups, FansOut rules r sources earlier items groups ∧ out = groups.flatten := by
  simp only [← run_all_selectItem_eq_ok_iff]
  exact Plan.run_map_eq_ok_iff

/-- **A `SELECT` list becomes what its entries become, in their order.**  It is filled just when
each of its entries is, and then nothing is lost, repeated or moved: what an entry becomes is
given by the entry and by its place among the requests.  So a list in two parts becomes what the
first part becomes and behind it what the second part becomes. -/
theorem projection_fans_out (rules : ValueRules) (r : Resolver) (earlier : List Request)
    (sources : List String) (items : List SelectItem) :
    (∀ out, (Column.run rules r earlier (projection sources items)).result = .ok out ↔
      ∃ groups, FansOut rules r sources earlier items groups ∧ out = groups.flatten) ∧
    ∀ more out, (Column.run rules r earlier (projection sources (items ++ more))).result = .ok out ↔
      ∃ first rest,
        (Column.run rules r earlier (projection sources items)).result = .ok first ∧
        (Column.run rules r (earlier ++ items.flatMap (itemRequests sources))
          (projection sources more)).result = .ok rest ∧
        out = first ++ rest := by
  refine ⟨fun out => run_projection_eq_ok_iff, fun more out => ?_⟩
  simp only [run_projection_eq_ok_iff, fansOut_append_iff]
  constructor
  · rintro ⟨_, ⟨first, rest, hfirst, hrest, rfl⟩, rfl⟩
    exact ⟨_, _, ⟨first, hfirst, rfl⟩, ⟨rest, hrest, rfl⟩, List.flatten_append⟩
  · rintro ⟨_, _, ⟨first, hfirst, rfl⟩, ⟨rest, hrest, rfl⟩, rfl⟩
    exact ⟨_, ⟨first, rest, hfirst, hrest, rfl⟩, List.flatten_append.symm⟩

end Clause
end QueryTemplate
