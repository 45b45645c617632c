/-
# The names of the entries

An entry of `SELECT` becomes any number of entries.  Their aliases are made where there is
nothing else to call them by, or where one alias would stand for several columns (`MadeOf`).
All others keep the alias that their entry was given (`Named`).

| entry | becomes | alias |
| --- | --- | --- |
| `e` | no column `x` | the text of `x` |
| `e AS a` | one of several columns `n` | `a: n` |
| any other | | as given |

A made alias is written in double quotes.
-/

import Mathlib.Data.List.Forall2
import QueryTemplate.Clause

namespace QueryTemplate
namespace Clause

open Sql (Expr Ident SelectItem)

/-- The text that the alias of one of `count` entries is made of, if it is made. -/
inductive MadeOf (count : Nat) : Option Ident → Expr → String → Prop
  | ownText {e : Expr} : e.columnName? = none → MadeOf count none e e.sql
  | bothNames {a : Ident} {e : Expr} {name : String} : e.columnName? = some name → 1 < count →
      MadeOf count (some a) e (a.text ++ ": " ++ name)

/-- How one of the `count` entries is named that an entry with the alias `given` becomes. -/
inductive Named (count : Nat) (given : Option Ident) (e : Expr) : Option Ident → Prop
  | made {text : String} : MadeOf count given e text → Named count given e (some (.quoted text))
  | kept : (∀ text, ¬ MadeOf count given e text) → Named count given e given

/-- The entries `group` are the expressions `es`, each with its alias; `given` is the alias of
the entry that became them. -/
def NamedAll (given : Option Ident) (es : List Expr) (group : List SelectItem) : Prop :=
  List.Forall₂ (fun x item => ∃ a, item = .column x a ∧ Named es.length given x a) es group

variable {count : Nat} {given found : Option Ident} {e : Expr}

/-- No other text is made of the same names. -/
theorem MadeOf.unique {text text' : String} (h : MadeOf count given e text)
    (h' : MadeOf count given e text') : text = text' := by
  cases h with
  | ownText _ =>
    cases h'
    rfl
  | bothNames hname _ =>
    cases h' with
    | bothNames hname' _ => rw [Option.some.inj (hname.symm.trans hname')]

/-- **An alias is computed by the rules.** -/
theorem named_aliasOf (count : Nat) (given : Option Ident) (e : Expr) :
    Named count given e (aliasOf count given e) := by
  cases hname : e.columnName? with
  | none =>
    cases given with
    | none => simpa [aliasOf, hname] using Named.made (.ownText hname)
    | some a =>
      have hkept : ∀ text, ¬ MadeOf count (some a) e text := by
        rintro _ (_ | ⟨hname', _⟩)
        simp [hname] at hname'
      simpa [aliasOf, hname] using Named.kept hkept
  | some name =>
    cases given with
    | none =>
      have hkept : ∀ text, ¬ MadeOf count none e text := by
        rintro _ ⟨hname'⟩
        simp [hname] at hname'
      simpa [aliasOf, hname] using Named.kept hkept
    | some a =>
      by_cases hmore : 1 < count
      · simpa [aliasOf, hname, hmore] using Named.made (.bothNames hname hmore)
      · have hkept : ∀ text, ¬ MadeOf count (some a) e text := by
          rintro _ (_ | ⟨_, hmore'⟩)
          exact hmore hmore'
        simpa [aliasOf, hname, hmore] using Named.kept hkept

/-- **The rules leave no choice.** -/
theorem Named.unique {found' : Option Ident} (h : Named count given e found)
    (h' : Named count given e found') : found = found' := by
  cases h with
  | made hmade =>
    cases h' with
    | made hmade' => rw [hmade.unique hmade']
    | kept hnone => exact absurd hmade (hnone _)
  | kept hnone =>
    cases h' with
    | made hmade' => exact absurd hmade' (hnone _)
    | kept _ => rfl

/-- An item is named as its alias says. -/
theorem named_iff : Named count given e found ↔ found = aliasOf count given e :=
  ⟨fun h => h.unique (named_aliasOf count given e), fun h => h ▸ named_aliasOf count given e⟩

/-- The entries that expressions become are named one by one. -/
theorem namedAll_iff {es : List Expr} {group : List SelectItem} :
    NamedAll given es group ↔ group = es.map fun x => .column x (aliasOf es.length given x) := by
  have hiff : ∀ n, List.Forall₂ (fun x item => ∃ a, item = .column x a ∧ Named n given x a) es group ↔
      group = es.map fun x => .column x (aliasOf n given x) := by
    intro n
    induction es generalizing group with
    | nil => simp
    | cons e es ih =>
      simp only [List.forall₂_cons_left_iff, ih]
      simp [named_iff]
  exact hiff es.length

end Clause
end QueryTemplate
