/-
# The columns that a visit finds

A visit of an expression comes to each expression that stands in it once (`mem_visited_iff`): to
the whole before its operands, and to the deferred operands of a phrase after its other ones.

| expression | visited |
| --- | --- |
| `a + t.b` | `a + t.b`, `a`, `t.b` |
| `CASE WHEN a THEN b WHEN c THEN a END` | the whole, `a`, `c`, `b`, `a` |
| `x IN (SELECT y FROM t WHERE y = x)` | the whole, `x`, the sub-query, `y`, `y = x`, `y`, `x` |

The placeholders of an expression are the names of the columns that its visit comes to, each
where it is met first (`placeholders_exact`).
-/

import QueryTemplate.Proofs.Lookup.Requests

namespace QueryTemplate
namespace Sql

variable {x : Expr} {n : String}

/-! ## Expressions inside expressions -/

/-- The expression that a piece holds. -/
def Part.expr? : Part → Option Expr
  | .words _ => none
  | .operand e | .deferred e | .enclosed e => some e

/-- The first expression stands somewhere in the second one, sub-queries included. -/
inductive Expr.Within (x : Expr) : Expr → Prop
  | self : Within x x
  | nested {inner : Expr} : Within x inner → Within x (.nested inner)
  | unary {op : PrefixOp} {operand : Expr} : Within x operand → Within x (.unary op operand)
  | left {op : BinaryOp} {l r : Expr} : Within x l → Within x (.binary l op r)
  | right {op : BinaryOp} {l r : Expr} : Within x r → Within x (.binary l op r)
  | part {parts : List Part} {p : Part} {e : Expr} : p ∈ parts → p.expr? = some e →
      Within x e → Within x (.phrase parts)

mutual

/-- The expressions in an expression, in the order of the visit. -/
def Expr.visited : Expr → List Expr
  | .column qualifier name => [.column qualifier name]
  | .literal value => [.literal value]
  | .nested inner => .nested inner :: inner.visited
  | .unary op operand => .unary op operand :: operand.visited
  | .binary left op right => .binary left op right :: (left.visited ++ right.visited)
  | .phrase parts => .phrase parts :: (Part.firstVisited parts ++ Part.laterVisited parts)
  termination_by structural e => e

/-- The expressions in operands that are visited where they stand. -/
def Part.firstVisited : List Part → List Expr
  | [] => []
  | p :: rest => p.visitedNow ++ Part.firstVisited rest
  termination_by structural ps => ps

/-- The expressions in deferred operands. -/
def Part.laterVisited : List Part → List Expr
  | [] => []
  | p :: rest => p.visitedLater ++ Part.laterVisited rest
  termination_by structural ps => ps

/-- The expressions in an operand that is visited where it stands. -/
def Part.visitedNow : Part → List Expr
  | .operand e | .enclosed e => e.visited
  | .words _ | .deferred _ => []
  termination_by structural p => p

/-- The expressions in a deferred operand. -/
def Part.visitedLater : Part → List Expr
  | .deferred e => e.visited
  | .words _ | .operand _ | .enclosed _ => []
  termination_by structural p => p

end

/-- Within parentheses stands what stands within the inner expression. -/
theorem Expr.within_nested_iff {inner : Expr} :
    x.Within (.nested inner) ↔ x = .nested inner ∨ x.Within inner := by
  constructor
  · intro h
    cases h with
    | self => exact .inl rfl
    | nested h => exact .inr h
  · rintro (rfl | h)
    · exact .self
    · exact .nested h

/-- Within a prefixed expression stands what stands within its operand. -/
theorem Expr.within_unary_iff {op : PrefixOp} {operand : Expr} :
    x.Within (.unary op operand) ↔ x = .unary op operand ∨ x.Within operand := by
  constructor
  · intro h
    cases h with
    | self => exact .inl rfl
    | unary h => exact .inr h
  · rintro (rfl | h)
    · exact .self
    · exact .unary h

/-- Within a binary expression stands what stands within one of its operands. -/
theorem Expr.within_binary_iff {l r : Expr} {op : BinaryOp} :
    x.Within (.binary l op r) ↔ x = .binary l op r ∨ x.Within l ∨ x.Within r := by
  constructor
  · intro h
    cases h with
    | self => exact .inl rfl
    | left h => exact .inr (.inl h)
    | right h => exact .inr (.inr h)
  · rintro (rfl | h | h)
    · exact .self
    · exact .left h
    · exact .right h

/-- Within a phrase stands what stands within one of its operands. -/
theorem Expr.within_phrase_iff {parts : List Part} :
    x.Within (.phrase parts) ↔
      x = .phrase parts ∨ ∃ p ∈ parts, ∃ e, p.expr? = some e ∧ x.Within e := by
  constructor
  · intro h
    cases h with
    | self => exact .inl rfl
    | part hp he h => exact .inr ⟨_, hp, _, he, h⟩
  · rintro (rfl | ⟨p, hp, e, he, h⟩)
    · exact .self
    · exact .part hp he h

mutual

/-- **The visit comes to everything that stands in an expression**, and to nothing else. -/
theorem Expr.mem_visited_iff : (e : Expr) → (x ∈ e.visited ↔ x.Within e)
  | .column qualifier name => by
    rw [Expr.visited, List.mem_singleton]
    refine ⟨fun h => h ▸ .self, fun h => ?_⟩
    cases h
    rfl
  | .literal value => by
    rw [Expr.visited, List.mem_singleton]
    refine ⟨fun h => h ▸ .self, fun h => ?_⟩
    cases h
    rfl
  | .nested inner => by
    rw [Expr.visited, List.mem_cons, inner.mem_visited_iff, Expr.within_nested_iff]
  | .unary op operand => by
    rw [Expr.visited, List.mem_cons, operand.mem_visited_iff, Expr.within_unary_iff]
  | .binary left op right => by
    rw [Expr.visited, List.mem_cons, List.mem_append, left.mem_visited_iff,
      right.mem_visited_iff, Expr.within_binary_iff]
  | .phrase parts => by
    rw [Expr.visited, List.mem_cons, List.mem_append, Part.mem_allVisited_iff parts,
      Expr.within_phrase_iff]
  termination_by structural e => e

/-- A part is visited at once or later where something stands within its expression. -/
theorem Part.mem_visited_iff : (p : Part) →
    (x ∈ p.visitedNow ∨ x ∈ p.visitedLater ↔ ∃ e, p.expr? = some e ∧ x.Within e)
  | .words _ => by simp [Part.visitedNow, Part.visitedLater, Part.expr?]
  | .operand e | .deferred e | .enclosed e => by
    simp [Part.visitedNow, Part.visitedLater, Part.expr?, e.mem_visited_iff]
  termination_by structural p => p

/-- Parts are visited at once or later where something stands within one of their expressions. -/
theorem Part.mem_allVisited_iff : (ps : List Part) →
    (x ∈ Part.firstVisited ps ∨ x ∈ Part.laterVisited ps ↔
      ∃ p ∈ ps, ∃ e, p.expr? = some e ∧ x.Within e)
  | [] => by simp [Part.firstVisited, Part.laterVisited]
  | p :: rest => by
    rw [Part.firstVisited, Part.laterVisited, List.mem_append, List.mem_append, or_or_or_comm,
      p.mem_visited_iff, Part.mem_allVisited_iff rest, List.exists_mem_cons_iff]
  termination_by structural ps => ps

end

mutual

/-- **The names are those of the columns that are visited**, in the same order. -/
theorem Expr.references_eq_visited : (e : Expr) →
    e.references = e.visited.filterMap Expr.columnName?
  | .column _ _ | .literal _ => rfl
  | .nested inner => inner.references_eq_visited
  | .unary _ operand => operand.references_eq_visited
  | .binary left _ right => by
    rw [Expr.references, Expr.visited, List.filterMap_cons_none rfl, List.filterMap_append,
      left.references_eq_visited, right.references_eq_visited]
  | .phrase parts => by
    rw [Expr.references, Expr.visited, List.filterMap_cons_none rfl, List.filterMap_append,
      Part.firstReferences_eq_visited parts, Part.laterReferences_eq_visited parts]
  termination_by structural e => e

/-- The names that parts refer to at once are those of the columns visited at once. -/
theorem Part.firstReferences_eq_visited : (ps : List Part) →
    Part.firstReferences ps = (Part.firstVisited ps).filterMap Expr.columnName?
  | [] => rfl
  | p :: rest => by
    rw [Part.firstReferences, Part.firstVisited, List.filterMap_append, p.now_eq_visited,
      Part.firstReferences_eq_visited rest]
  termination_by structural ps => ps

/-- The names that parts refer to later are those of the columns visited later. -/
theorem Part.laterReferences_eq_visited : (ps : List Part) →
    Part.laterReferences ps = (Part.laterVisited ps).filterMap Expr.columnName?
  | [] => rfl
  | p :: rest => by
    rw [Part.laterReferences, Part.laterVisited, List.filterMap_append, p.later_eq_visited,
      Part.laterReferences_eq_visited rest]
  termination_by structural ps => ps

/-- The names that a part refers to at once are those of the columns visited at once. -/
theorem Part.now_eq_visited : (p : Part) →
    p.now = p.visitedNow.filterMap Expr.columnName?
  | .words _ | .deferred _ => rfl
  | .operand e | .enclosed e => e.references_eq_visited
  termination_by structural p => p

/-- The names that a part refers to later are those of the columns visited later. -/
theorem Part.later_eq_visited : (p : Part) →
    p.later = p.visitedLater.filterMap Expr.columnName?
  | .words _ | .operand _ | .enclosed _ => rfl
  | .deferred e => e.references_eq_visited
  termination_by structural p => p

end

/-! ## Where a name is met first -/

/-- Whether an expression is a column reference with this last name. -/
def Expr.isNamed (n : String) (e : Expr) : Bool := e.columnName? == some n

/-- An expression is named `n` if it is a column of that name, however qualified. -/
theorem Expr.isNamed_iff {e : Expr} :
    e.isNamed n = true ↔ ∃ qualifier name, e = .column qualifier name ∧ name.text = n := by
  cases e <;> simp [Expr.isNamed, Expr.columnName?]

/-- How many expressions are visited before a column of this name. -/
def Expr.firstVisit (e : Expr) (n : String) : Nat := e.visited.findIdx (Expr.isNamed n)

/-- A list without later repeats is in the order of the first occurrences. -/
theorem pairwise_distinct (es : List Expr) :
    (distinct (es.filterMap Expr.columnName?)).Pairwise fun m n =>
      es.findIdx (Expr.isNamed m) < es.findIdx (Expr.isNamed n) := by
  induction es using List.reverseRecOn with
  | nil => exact .nil
  | append_singleton es e ih =>
    -- a name that was met before is met first where it was
    have hmet (m : String) (hm : m ∈ distinct (es.filterMap Expr.columnName?)) :
        es.findIdx (Expr.isNamed m) < es.length ∧
          (es ++ [e]).findIdx (Expr.isNamed m) = es.findIdx (Expr.isNamed m) := by
      obtain ⟨x, hx, hname⟩ := List.mem_filterMap.1 (mem_distinct.1 hm)
      have hlt : es.findIdx (Expr.isNamed m) < es.length :=
        List.findIdx_lt_length_of_exists ⟨x, hx, beq_iff_eq.2 hname⟩
      exact ⟨hlt, by rw [List.findIdx_append, if_pos hlt]⟩
    have hold : (distinct (es.filterMap Expr.columnName?)).Pairwise fun m n =>
        (es ++ [e]).findIdx (Expr.isNamed m) < (es ++ [e]).findIdx (Expr.isNamed n) :=
      ih.imp_of_mem fun hm hn hlt => by rwa [(hmet _ hm).2, (hmet _ hn).2]
    rw [List.filterMap_append]
    cases hname : e.columnName? with
    | none => rwa [List.filterMap_cons_none hname, List.filterMap_nil, List.append_nil]
    | some n =>
      rw [List.filterMap_cons_some hname, List.filterMap_nil, distinct_concat]
      split
      case isTrue => exact hold
      case isFalse hn =>
        refine List.pairwise_append.2 ⟨hold, List.pairwise_singleton _ _, fun m hm n' hn' => ?_⟩
        obtain rfl := List.mem_singleton.1 hn'
        have hnew : es.length ≤ (es ++ [e]).findIdx (Expr.isNamed n') := by
          have hlength : es.findIdx (Expr.isNamed n') = es.length :=
            List.findIdx_eq_length.2 fun x hx => by
              rw [Expr.isNamed, beq_eq_false_iff_ne]
              exact fun hx' => hn (mem_distinct.2 (List.mem_filterMap.2 ⟨x, hx, hx'⟩))
          rw [List.findIdx_append, hlength, if_neg (Nat.lt_irrefl _)]
          exact Nat.le_add_left _ _
        rw [(hmet m hm).2]
        exact Nat.lt_of_lt_of_le (hmet m hm).1 hnew

/-- These are the names of the columns in an expression, each of them once, in the order in which
the visit meets them. -/
structure Expr.Names (e : Expr) (names : List String) : Prop where
  nodup : names.Nodup
  mem_iff : ∀ n, n ∈ names ↔ ∃ qualifier name, (Expr.column qualifier name).Within e ∧ name.text = n
  ordered : names.Pairwise fun m n => e.firstVisit m < e.firstVisit n

/-- **The placeholders of an expression are the names of its columns.** -/
theorem Expr.names_placeholders (e : Expr) : e.Names e.placeholders := by
  have hnames : e.placeholders = distinct (e.visited.filterMap Expr.columnName?) := by
    rw [Expr.placeholders, e.references_eq_visited]
  refine ⟨nodup_distinct _, fun n => ?_, ?_⟩
  · rw [hnames, mem_distinct, List.mem_filterMap]
    constructor
    · rintro ⟨x, hx, hname⟩
      obtain ⟨qualifier, name, rfl, rfl⟩ := Expr.isNamed_iff.1 (beq_iff_eq.2 hname)
      exact ⟨qualifier, name, (Expr.mem_visited_iff e).1 hx, rfl⟩
    · rintro ⟨qualifier, name, hwithin, rfl⟩
      exact ⟨_, (Expr.mem_visited_iff e).2 hwithin, rfl⟩
  · rw [hnames]
    exact pairwise_distinct e.visited

end Sql

open Sql (Expr)

/-! ## The placeholders of an expression -/

/-- **The placeholders of an expression are the names of the columns in it**, each once and in the
order in which the visit meets them; there are none just if replacing them asks for nothing. -/
theorem Column.placeholders_exact (e : Expr) :
    e.placeholders.Nodup ∧
    (∀ n, n ∈ e.placeholders ↔
      ∃ qualifier name, (Expr.column qualifier name).Within e ∧ name.text = n) ∧
    e.placeholders.Pairwise (fun m n => e.firstVisit m < e.firstVisit n) ∧
    ∀ (rules : ValueRules) (r : Resolver) (earlier : List Request) (sources : List String),
      e.placeholders = [] ↔ (run rules r earlier (substitute sources e)).requests = [] := by
  have hnames := e.names_placeholders
  refine ⟨hnames.nodup, hnames.mem_iff, hnames.ordered, fun rules r earlier sources => ?_⟩
  rw [run, Plan.requests_run_eq_nil_iff, requests_substitute, insideRequests, List.map_eq_nil_iff]

end QueryTemplate
