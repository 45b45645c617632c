/-
# References that are replaced at once

The columns inside an expression are looked up name by name, each name once, and then replaced
in one go.  What comes out is determined by the expression and by one list of expressions for
each name, in whatever order the names were visited.

| `a` becomes | `b` becomes | expression | result |
| --- | --- | --- | --- |
| `b` | `a` | `t.a + b` | `b + a` |
| `b + 1` | `c` | `a = b` | `(b + 1) = c` |
| `c` | nothing | `f(a, t.b)` | `f(c, t.b)` |

A substitution succeeds just when every name has an answer, and its result is then the only
expression that is the given one with its references replaced (`substitute_at_once`).  The
references of the result are those that were put in and those that were kept: nothing that was
put in is replaced again.

What is no column reference stays.  The name of a named argument is none, but in `postgres` it
is read as an expression, so `f(a => b)` becomes `f(b => a)` there (`substitute_replaces_label`).
-/

import QueryTemplate.Proofs.Clause.Agreement
import QueryTemplate.Proofs.Grammar.Closing
import QueryTemplate.Sql.Grammar.Function

namespace QueryTemplate
namespace Sql

/-! ## References of the result -/

section Names

variable (values : String → List Expr)

/-- What stands for a reference in the end: the references of the first expression that belongs
to its name, or the reference itself if there is none. -/
def Ident.becomes (i : Ident) : List Ident :=
  match (values i.text).head? with
  | some e => e.columnNames
  | none => [i]

mutual

/-- **What is put in is not searched again**, so its references stay. -/
theorem Expr.columnNames_firstOnly :
    (e : Expr) → (e.firstOnly values).columnNames = e.columnNames.flatMap (Ident.becomes values)
  | .column qualifier name => by
    rw [Expr.firstOnly, Expr.substitute, Expr.columnNames, List.flatMap_singleton, Ident.becomes]
    cases (values name.text).head? <;> rfl
  | .literal _ => rfl
  | .nested inner => inner.columnNames_firstOnly
  | .unary _ operand => operand.columnNames_firstOnly
  | .binary left _ right => by
    have hl := left.columnNames_firstOnly
    have hr := right.columnNames_firstOnly
    rw [Expr.firstOnly] at hl hr ⊢
    rw [Expr.substitute, Expr.columnNames, Expr.columnNames, List.flatMap_append, hl, hr]
  | .phrase parts => Part.allColumnNames_firstOnly parts
  termination_by structural e => e

/-- The columns of a filled part are those of the values that were put there. -/
theorem Part.columnNames_firstOnly : (p : Part) →
    (p.substitute fun name => (values name).head?).columnNames =
      p.columnNames.flatMap (Ident.becomes values)
  | .words _ => rfl
  | .operand e | .deferred e | .enclosed e => e.columnNames_firstOnly
  termination_by structural p => p

/-- The columns of filled parts are those of the values that were put there. -/
theorem Part.allColumnNames_firstOnly : (ps : List Part) →
    Part.allColumnNames (Part.substituteAll (fun name => (values name).head?) ps) =
      (Part.allColumnNames ps).flatMap (Ident.becomes values)
  | [] => rfl
  | p :: rest => by
    rw [Part.substituteAll, Part.allColumnNames, Part.allColumnNames, List.flatMap_append,
      p.columnNames_firstOnly, Part.allColumnNames_firstOnly rest]
  termination_by structural ps => ps

end

end Names

/-! ## Names that are found -/

section Found

variable {found : String → List Expr → Prop}

mutual

/-- An expression is replaced only if something was found for each of its names. -/
theorem Expr.Replaced.exists_found : (e e' : Expr) → e.Replaced found e' →
    ∀ i ∈ e.columnNames, ∃ es, found i.text es
  | .column _ name, _, h => by
    intro i hi
    obtain rfl := List.mem_singleton.1 hi
    cases h with
    | column hes => exact ⟨_, hes⟩
    | kept hes => exact ⟨_, hes⟩
  | .literal _, _, _ => fun i hi => absurd hi List.not_mem_nil
  | .nested inner, _, h => by
    cases h with
    | nested h => exact Expr.Replaced.exists_found inner _ h
  | .unary _ operand, _, h => by
    cases h with
    | unary h => exact Expr.Replaced.exists_found operand _ h
  | .binary left _ right, _, h => by
    cases h with
    | binary hl hr =>
      exact List.forall_mem_append.2
        ⟨Expr.Replaced.exists_found left _ hl, Expr.Replaced.exists_found right _ hr⟩
  | .phrase parts, _, h => by
    cases h with
    | phrase h => exact Part.AllReplaced.exists_found parts _ h
  termination_by structural e => e

/-- Something was found for every column of a part that is replaced. -/
theorem Part.Replaced.exists_found : (p p' : Part) → p.Replaced found p' →
    ∀ i ∈ p.columnNames, ∃ es, found i.text es
  | .words _, _, _ => fun i hi => absurd hi List.not_mem_nil
  | .operand e, _, h => by
    cases h with
    | operand h => exact Expr.Replaced.exists_found e _ h
  | .deferred e, _, h => by
    cases h with
    | deferred h => exact Expr.Replaced.exists_found e _ h
  | .enclosed e, _, h => by
    cases h with
    | enclosed h => exact Expr.Replaced.exists_found e _ h
  termination_by structural p => p

/-- Something was found for every column of parts that are replaced. -/
theorem Part.AllReplaced.exists_found : (ps ps' : List Part) → Part.AllReplaced found ps ps' →
    ∀ i ∈ Part.allColumnNames ps, ∃ es, found i.text es
  | [], _, _ => fun i hi => absurd hi List.not_mem_nil
  | p :: rest, _, h => by
    cases h with
    | cons hp hrest =>
      exact List.forall_mem_append.2
        ⟨Part.Replaced.exists_found p _ hp, Part.AllReplaced.exists_found rest _ hrest⟩
  termination_by structural ps => ps

end

end Found

/-! ## The name of an argument -/

namespace Grammar

variable {env : Nested} {s t : List Item} {ps : List Part}

/-- What was read with success was read by the rule itself. -/
theorem attempt_eq_some {α : Type} {R : Rule α} {a : α} (h : attempt R env s = .ok (some a, t)) :
    R env s = .ok (a, t) := by
  unfold attempt at h
  split at h
  · rename_i hR
    cases h
    exact hR
  · cases h
  · cases h

/-- A star or an expression is one piece. -/
theorem starOrExpr_eq_ok (h : starOrExpr env s = .ok (ps, t)) : ∃ p, ps = [p] := by
  unfold starOrExpr at h
  replace h := eq_of_bind h rfl
  replace h := eq_of_bind h rfl
  split at h
  · exact ⟨_, (pure_eq_ok h).1.symm⟩
  · extract_lets first? withExpr at h
    have hexpr : ∀ {u}, withExpr () env u = .ok (ps, t) → ∃ p, ps = [p] := by
      intro u hu
      obtain ⟨_, _, -, hu⟩ := bind_eq_ok_iff.1 hu
      obtain ⟨e, _, -, hu⟩ := bind_eq_ok_iff.1 hu
      exact ⟨_, (pure_eq_ok hu).1.symm⟩
    clear_value first?
    cases first? with
    | none => exact hexpr h
    | some first =>
      replace h := eq_of_bind h rfl
      split at h
      · obtain ⟨⟨names, star⟩, _, -, h⟩ := bind_eq_ok_iff.1 h
        dsimp only at h
        split at h
        · exact ⟨_, (pure_eq_ok h).1.symm⟩
        · exact hexpr h
      · exact hexpr h

/-- **The pieces of an argument** are a value, which may have a name in front of it.  The name is
part of the words, but in `postgres` an expression. -/
theorem argument_eq_ok (h : argument env s = .ok (ps, t)) : (∃ p, ps = [p]) ∨
    (env.dialect ≠ .postgres ∧ ∃ (n : Ident) (operator : String) (p : Part),
      ps = [.words n.sql, .words operator, p]) ∨
    (env.dialect = .postgres ∧ ∃ (e : Expr) (operator : String) (p : Part),
      ps = [.operand e, .words operator, p]) := by
  unfold argument at h
  replace h := eq_of_bind h rfl
  obtain ⟨named, u, hnamed, h⟩ := bind_eq_ok_iff.1 h
  cases named with
  | none =>
    exact .inl (starOrExpr_eq_ok h)
  | some found =>
    obtain ⟨rfl, -⟩ := pure_eq_ok h
    replace hnamed := attempt_eq_some hnamed
    have hlabel : ∀ {label : List Part} {v : List Item}, (do
        let operator ← namedArgumentOperator
        let value ← starOrExpr
        pure (label ++ .words operator :: value) : Rule (List Part)) env v = .ok (found, u) →
          ∃ operator p, found = label ++ [.words operator, p] := by
      intro label v hv
      obtain ⟨operator, _, -, hv⟩ := bind_eq_ok_iff.1 hv
      obtain ⟨value, _, hvalue, hv⟩ := bind_eq_ok_iff.1 hv
      obtain ⟨p, rfl⟩ := starOrExpr_eq_ok hvalue
      exact ⟨operator, p, (pure_eq_ok hv).1.symm⟩
    split at hnamed
    · rename_i hd
      obtain ⟨e, _, -, hnamed⟩ := bind_eq_ok_iff.1 hnamed
      replace hnamed := eq_of_bind hnamed rfl
      obtain ⟨operator, p, rfl⟩ := hlabel hnamed
      exact .inr (.inr ⟨beq_iff_eq.1 hd, e, operator, p, rfl⟩)
    · rename_i hd
      obtain ⟨n, _, -, hnamed⟩ := bind_eq_ok_iff.1 hnamed
      replace hnamed := eq_of_bind hnamed rfl
      obtain ⟨operator, p, rfl⟩ := hlabel hnamed
      exact .inr (.inl ⟨by simpa using hd, n, operator, p, rfl⟩)

/-- What an argument becomes.  In most dialects its name is no expression, and stays; in
`postgres` it is one, and is replaced like any other. -/
inductive ArgumentReplaced (d : Dialect) (found : String → List Expr → Prop) :
    List Part → List Part → Prop
  | value {p p' : Part} : p.Replaced found p' → ArgumentReplaced d found [p] [p']
  | named {n : Ident} {operator : String} {p p' : Part} : d ≠ .postgres → p.Replaced found p' →
      ArgumentReplaced d found [.words n.sql, .words operator, p]
        [.words n.sql, .words operator, p']
  | labelled {e e' : Expr} {operator : String} {p p' : Part} : d = .postgres →
      e.Replaced found e' → p.Replaced found p' →
        ArgumentReplaced d found [.operand e, .words operator, p] [.operand e', .words operator, p']

/-- **The name of an argument is replaced in `postgres` only.** -/
theorem argumentReplaced {found : String → List Expr → Prop} {ps' : List Part}
    (h : argument env s = .ok (ps, t)) (hps : Part.AllReplaced found ps ps') :
    ArgumentReplaced env.dialect found ps ps' := by
  rcases argument_eq_ok h with ⟨p, rfl⟩ | ⟨hd, n, operator, p, rfl⟩ | ⟨hd, e, operator, p, rfl⟩
  · obtain _ | ⟨hp, ⟨⟩⟩ := hps
    exact .value hp
  · obtain _ | ⟨⟨⟩, _ | ⟨⟨⟩, _ | ⟨hp, ⟨⟩⟩⟩⟩ := hps
    exact .named hd hp
  · obtain _ | ⟨_ | he, _ | ⟨⟨⟩, _ | ⟨hp, ⟨⟩⟩⟩⟩ := hps
    exact .labelled hd he hp

end Grammar

end Sql

open Sql (Expr)

namespace Column

variable {rules : ValueRules} {r : Resolver} {sources : List String}

/-- The expressions that a resolver gives for a name, for a query from the tables `sources`; none
if it gives no answer. -/
def valuesOf (rules : ValueRules) (r : Resolver) (sources : List String) (name : String) :
    List Expr :=
  Aggregate.combine (Placeholder.parse name).hint
    ((answer rules r [] (request sources name)).toOption.getD [])

/-- What is found for a name is all that the resolver gives for it. -/
theorem Resolves.eq_valuesOf {name : String} {es : List Expr} (h : Resolves rules r sources name es) :
    es = valuesOf rules r sources name := by
  obtain ⟨values, hvalues, rfl⟩ := h
  rw [valuesOf, hvalues]
  rfl

/-- Whatever is replaced by the answers of a resolver becomes one expression only. -/
theorem Resolves.eq_firstOnly {e e' : Expr} (h : e.Replaced (Resolves rules r sources) e') :
    e' = e.firstOnly (valuesOf rules r sources) := by
  have hvalues : ∀ n es, Resolves rules r sources n es → es = valuesOf rules r sources n :=
    fun _ _ hes => hes.eq_valuesOf
  exact e.eq_firstOnly hvalues e' h

/-- **References are replaced at once.**  Let the answers of a resolver depend on the request
alone.  A substitution gives an expression just when this is the given one with every reference
replaced: by the first expression that the resolver gives for its name, or kept with its
qualifier if there is none; everything else is as it was.  Every name has an answer then.  The
references of the result are those of the expressions that were put in, and those that were
kept.  The name of a named argument is as it was, but in `postgres`, where it is an expression,
its references are replaced as well. -/
theorem substitute_at_once (hr : r.IsFunction) (earlier : List Request) {e e' : Expr} :
    ((run rules r earlier (substitute sources e)).result = .ok e' ↔
      e.Replaced (Resolves rules r sources) e') ∧
    (e.Replaced (Resolves rules r sources) e' →
      e'.columnNames = e.columnNames.flatMap (Sql.Ident.becomes (valuesOf rules r sources))) ∧
    ∀ env s t ps ps', Sql.Grammar.argument env s = .ok (ps, t) →
      Sql.Part.AllReplaced (Resolves rules r sources) ps ps' →
        Sql.Grammar.ArgumentReplaced env.dialect (Resolves rules r sources) ps ps' := by
  have hreplaced : ∀ x, (run rules r earlier (substitute sources e)).result = .ok x →
      e.Replaced (Resolves rules r sources) x :=
    fun x hx => replaced_of_yields (yields_answer hr (Plan.yields_of_run hx))
  refine ⟨⟨hreplaced e', fun h => ?_⟩, fun h => ?_, fun _ _ _ _ _ => Sql.Grammar.argumentReplaced⟩
  · -- every name has an answer, so the run succeeds, and with the only expression there is
    have hanswered : ∀ before, ∀ request ∈ (substitute sources e).requests,
        answer rules r before request =
          .ok ((answer rules r [] request).toOption.getD []) := by
      intro before request hrequest
      rw [requests_substitute] at hrequest
      obtain ⟨name, hname, rfl⟩ := mem_insideRequests_iff.1 hrequest
      obtain ⟨i, hi, rfl⟩ := e.mem_references_iff.1 hname
      obtain ⟨es, values, hvalues, -⟩ := Expr.Replaced.exists_found e e' h i hi
      rw [answer_eq hr, hvalues]
      rfl
    have hrun : (run rules r earlier (substitute sources e)).result = .ok _ :=
      Plan.run_eq_given hanswered
    rw [Resolves.eq_firstOnly h, ← Resolves.eq_firstOnly (hreplaced _ hrun)]
    exact hrun
  · rw [Resolves.eq_firstOnly h, Expr.columnNames_firstOnly]

/-- `a` and `b` stand for each other, and nothing stands for `ghost`. -/
def swapped (request : Request) : Answer :=
  .ok (if request.name = "a" then ["b"] else if request.name = "b" then ["a"] else [])

/-- Two names that stand for each other change places, and a name behind a dot stays. -/
theorem substitute_swapped :
    ((Sql.parseCondition .postgres
      "CASE WHEN t.a > 1 THEN b + a ELSE f(a => t.ghost) END").toOption.map
        fun e => (run ⟨.postgres, false⟩ (.ofFunction swapped) []
          (substitute ["users"] e)).result.toOption.map Expr.sql) =
      some (some "(CASE WHEN b > 1 THEN a + b ELSE f(b => t.ghost) END)") := by
  decide +kernel

/-- Two names that stand for each other, one of them qualified and as the name of an argument, and
one that nothing stands for. -/
theorem substitute_at_once_swapped :
    let rules : ValueRules := ⟨.postgres, false⟩
    let r : Resolver := .ofFunction swapped
    ∃ e e', Sql.parseCondition .postgres
        "CASE WHEN t.a > 1 THEN b + a ELSE f(a => t.ghost) END" = .ok e ∧
      r.IsFunction ∧ (run rules r [] (substitute ["users"] e)).result = .ok e' ∧
      e'.sql = "(CASE WHEN b > 1 THEN a + b ELSE f(b => t.ghost) END)" ∧
      e.Replaced (Resolves rules r ["users"]) e' ∧
      e'.columnNames = e.columnNames.flatMap
        (Sql.Ident.becomes (valuesOf rules r ["users"])) := by
  intro rules r
  have hr : r.IsFunction := fun _ _ _ => rfl
  obtain ⟨e, he, hrun⟩ := Option.map_eq_some_iff.1 substitute_swapped
  obtain ⟨e', he', hsql⟩ := Option.map_eq_some_iff.1 hrun
  have hresult := eq_ok_of_toOption he'
  have hreplaced := (substitute_at_once hr []).1.1 hresult
  exact ⟨e, e', eq_ok_of_toOption he, hr, hresult, hsql, hreplaced,
    (substitute_at_once hr []).2.1 hreplaced⟩

/-- The label of an argument is replaced like a column. -/
theorem substitute_label :
    let r : Resolver := .ofFunction fun request => .ok [if request.name = "days" then "x" else "y"]
    let filled (d : Sql.Dialect) := (Sql.parseCondition d "f(days => a)").toOption.map fun e =>
      (e.sql, (run ⟨d, false⟩ r [] (substitute [] e)).result.toOption.map Expr.sql)
    filled .ansi = some ("(f(days => a))", some "(f(days => y))") ∧
      filled .postgres = some ("(f(days => a))", some "(f(x => y))") := by
  decide +kernel

/-- **In `postgres` the name of an argument is replaced.**  The resolver has a value for a column
with this name, and it stands in the place of the name, which is kept in `ansi`. -/
theorem substitute_replaces_label :
    let r : Resolver := .ofFunction fun request => .ok [if request.name = "days" then "x" else "y"]
    r.IsFunction ∧
      (∃ e e', Sql.parseCondition .ansi "f(days => a)" = .ok e ∧
        (run ⟨.ansi, false⟩ r [] (substitute [] e)).result = .ok e' ∧
        e.sql = "(f(days => a))" ∧ e'.sql = "(f(days => y))") ∧
      ∃ e e', Sql.parseCondition .postgres "f(days => a)" = .ok e ∧
        (run ⟨.postgres, false⟩ r [] (substitute [] e)).result = .ok e' ∧
        e.sql = "(f(days => a))" ∧ e'.sql = "(f(x => y))" := by
  intro r
  obtain ⟨hansi, hpostgres⟩ := substitute_label
  obtain ⟨e, he, hfilled⟩ := Option.map_eq_some_iff.1 hansi
  obtain ⟨hsql, hrun⟩ := Prod.mk.inj hfilled
  obtain ⟨e', he', hsql'⟩ := Option.map_eq_some_iff.1 hrun
  obtain ⟨f, hf, hfilled⟩ := Option.map_eq_some_iff.1 hpostgres
  obtain ⟨hfsql, hrun⟩ := Prod.mk.inj hfilled
  obtain ⟨f', hf', hfsql'⟩ := Option.map_eq_some_iff.1 hrun
  exact ⟨fun _ _ _ => rfl,
    ⟨e, e', eq_ok_of_toOption he, eq_ok_of_toOption he', hsql, hsql'⟩,
    ⟨f, f', eq_ok_of_toOption hf, eq_ok_of_toOption hf', hfsql, hfsql'⟩⟩

end Column
end QueryTemplate
