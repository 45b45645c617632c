/-
# The history of memories

What an operation gives follows from the operations before it.  Handles that come from one
another by copying are a family, named by its first handle; `changesOf` lists what happened
to a family, through whichever of its handles.

| looked at | is |
| --- | --- |
| the answer for a key | the last failure that was kept for it, in spite of later values |
| without a failure | the last values that were kept for it, or none |
| the requests | those since they were last cleared, in order, answered or not |

A family is what copying makes of the handles (`kin_iff`), and nothing has happened to it
before its first handle is there (`changesOf_fresh`).
-/

import Mathlib.Data.List.DropRight
import Mathlib.Data.List.Basic
import Mathlib.Logic.Relation
import QueryTemplate.Lookup.Memory.Operation

namespace QueryTemplate
namespace Memory

/-! ## Changes of one memory -/

/-- What happens to a memory. -/
inductive Change where
  | values (k : Key) (vs : List String)
  | failure (k : Key) (e : LookupError)
  | request (r : Request)
  | clear
deriving DecidableEq, Repr

namespace Change

/-- The values that are kept for a key. -/
def valuesFor? (k : Key) : Change → Option (List String)
  | .values k' vs => if k' = k then some vs else none
  | _ => none

/-- The failure that is kept for a key. -/
def failureFor? (k : Key) : Change → Option LookupError
  | .failure k' e => if k' = k then some e else none
  | _ => none

/-- The request that is recorded. -/
def request? : Change → Option Request
  | .request r => some r
  | _ => none

/-- The answer for a key after changes. -/
def answerFor (k : Key) (cs : List Change) : Answer :=
  match (cs.filterMap (failureFor? k)).getLast? with
  | some e => .error e
  | none => .ok ((cs.filterMap (valuesFor? k)).getLast?.getD [])

/-- The requests since they were last cleared. -/
def requestsOf (cs : List Change) : List Request :=
  (cs.rtakeWhile (· ≠ .clear)).filterMap request?

/-- The last change adds its request or clears them all. -/
@[simp] theorem requestsOf_concat (cs : List Change) (c : Change) :
    requestsOf (cs ++ [c]) = if c = .clear then [] else requestsOf cs ++ c.request?.toList := by
  by_cases h : c = .clear
  · simp [requestsOf, h]
  · have hrest : (cs ++ [c]).rtakeWhile (· ≠ .clear) = cs.rtakeWhile (· ≠ .clear) ++ [c] := by
      simp [h]
    rw [requestsOf, hrest, List.filterMap_append, if_neg h]
    cases c <;> rfl

/-- A memory after a change. -/
def apply (m : Memory) : Change → Memory
  | .values k vs => m.insert k vs
  | .failure k e => m.insertFailure k e
  | .request r => m.record [r]
  | .clear => m.clear

end Change

open Change

/-- What a setting of a draft changes. -/
def Setting.change? : Setting → Option Change
  | .values k vs => some (.values k vs)
  | .failure k e => some (.failure k e)
  | .latency _ => none

/-- A memory that is made from a draft has been changed by the settings. -/
theorem Draft.memory_ofSettings (settings : List Setting) :
    (ofSettings settings).memory = (settings.filterMap Setting.change?).foldl apply .empty := by
  induction settings using List.reverseRecOn with
  | nil => rfl
  | append_singleton settings s ih =>
    rw [ofSettings, List.foldl_append, List.filterMap_append, List.foldl_append, ← ih]
    cases s <;> rfl

/-- A memory holds what its changes left behind. -/
structure Recalls (m : Memory) (cs : List Change) : Prop where
  values : ∀ k, newestOf? k m.values = (cs.filterMap (valuesFor? k)).getLast?
  failures : ∀ k, newestOf? k m.failures = (cs.filterMap (failureFor? k)).getLast?
  requests : m.requests = requestsOf cs

/-- The newest entry for a key is the first one that has it. -/
theorem newestOf?_cons {α : Type} (k k' : Key) (a : α) (entries : List (Key × α)) :
    newestOf? k ((k', a) :: entries) = if k' = k then some a else newestOf? k entries := by
  by_cases h : k' = k <;> simp [newestOf?, h]

/-- An empty memory recalls no change. -/
theorem recalls_empty : empty.Recalls [] := ⟨fun _ => rfl, fun _ => rfl, rfl⟩

namespace Recalls

variable {m : Memory} {cs : List Change}

/-- A memory recalls one change more after it is made. -/
theorem apply (h : m.Recalls cs) (c : Change) : (c.apply m).Recalls (cs ++ [c]) := by
  constructor
  case values =>
    intro k
    cases c with
    | values k' vs =>
      rw [Change.apply, insert, newestOf?_cons, h.values, List.filterMap_append]
      by_cases hk : k' = k <;> simp [valuesFor?, hk]
    | _ => simpa [Change.apply, insertFailure, record, clear, valuesFor?] using h.values k
  case failures =>
    intro k
    cases c with
    | failure k' e =>
      rw [Change.apply, insertFailure, newestOf?_cons, h.failures, List.filterMap_append]
      by_cases hk : k' = k <;> simp [failureFor?, hk]
    | _ => simpa [Change.apply, insert, record, clear, failureFor?] using h.failures k
  case requests =>
    cases c <;> simp [Change.apply, insert, insertFailure, record, clear, request?, h.requests]

/-- A memory recalls all changes that are made to it. -/
theorem applyAll (h : m.Recalls cs) (later : List Change) :
    (later.foldl Change.apply m).Recalls (cs ++ later) := by
  induction later generalizing m cs with
  | nil => simpa using h
  | cons c later ih => simpa using ih (h.apply c)

/-- What a memory answers is what its changes left behind for the key. -/
theorem answer (h : m.Recalls cs) (k : Key) : m.answer k = answerFor k cs := by
  rw [Memory.answer, h.failures, h.values]
  rfl

end Recalls
end Memory

open Memory Memory.Change

/-! ## The history of operations -/

namespace Operation

/-- The handle that an operation goes through. -/
def handle? : Operation → Option Nat
  | .create | .build _ => none
  | .copy n | .delay n _ | .insert n _ _ | .insertFailure n _ _ | .resolve n _ | .requests n
  | .count n | .clear n => some n

/-- The handle that an operation copies. -/
def copied? : Operation → Option Nat
  | .copy n | .delay n _ => some n
  | _ => none

/-- What an operation does to a memory. -/
def changes : Operation → List Change
  | .build settings => settings.filterMap Setting.change?
  | .insert _ k vs => [.values k vs]
  | .insertFailure _ k e => [.failure k e]
  | .resolve _ r => [.request r]
  | .clear _ => [.clear]
  | _ => []

/-- The family that an operation is about, if `families` are those of the handles. -/
def family? (families : List Nat) (op : Operation) : Option Nat :=
  match op with
  | .create | .build _ => some families.length
  | op => op.handle?.bind (families[·]?)

/-- What an operation does to the memory of one family. -/
def changesFor (f : Nat) (families : List Nat) (op : Operation) : List Change :=
  if op.family? families = some f then op.changes else []

/-- The families of the handles after an operation. -/
def addFamily (families : List Nat) (op : Operation) : List Nat :=
  match op with
  | .create | .build _ => families ++ [families.length]
  | op => families ++ (op.copied?.bind (families[·]?)).toList

/-- What an operation gives, if the next handle has the number `fresh` and `cs` happened to
the family. -/
def given (fresh : Nat) (cs : List Change) : Operation → Observation
  | .create | .build _ | .copy _ | .delay _ _ => .handle fresh
  | .insert _ _ _ | .insertFailure _ _ _ | .clear _ => .done
  | .resolve _ r => .answer (answerFor r.key cs)
  | .requests _ => .requests (requestsOf cs)
  | .count _ => .count (requestsOf cs).length

end Operation

/-- The operations so far, first ones first. -/
abbrev History := List Operation

namespace History

/-- The family of every handle. -/
def families (ops : History) : List Nat := ops.foldl Operation.addFamily []

/-- The changes of a family, if `fs` are the families of the handles before. -/
def changesFrom (f : Nat) (fs : List Nat) : History → List Change
  | [] => []
  | op :: rest => op.changesFor f fs ++ changesFrom f (op.addFamily fs) rest

/-- What happened to the memory of a family. -/
def changesOf (ops : History) (f : Nat) : List Change := changesFrom f [] ops

/-- What an operation gives after others. -/
def gives (ops : History) (op : Operation) : Observation :=
  match op.family? (families ops) with
  | none => .noHandle
  | some f => op.given (families ops).length (changesOf ops f)

/-- The second handle was made as a copy of the first. -/
def Copied (ops : History) (a b : Nat) : Prop :=
  ∃ before op after, ops = before ++ op :: after ∧ op.copied? = some a ∧
    a < (families before).length ∧ b = (families before).length

/-- Two handles are of one family. -/
def Kin (ops : History) (a b : Nat) : Prop := ∃ f ∈ (families ops)[a]?, f ∈ (families ops)[b]?

variable {ops : History} {op : Operation} {f n : Nat} {fs : List Nat}

/-- The last operation adds at most one handle. -/
@[simp] theorem families_concat (ops : History) (op : Operation) :
    families (ops ++ [op]) = op.addFamily (families ops) := by
  simp [families]

/-- The last operation changes a family by what it does to it. -/
theorem changesFrom_concat (ops : History) (op : Operation) (f : Nat) (fs : List Nat) :
    changesFrom f fs (ops ++ [op]) =
      changesFrom f fs ops ++ op.changesFor f (ops.foldl Operation.addFamily fs) := by
  induction ops generalizing fs with
  | nil => simp [changesFrom]
  | cons first ops ih => simp [changesFrom, ih]

/-- The last operation adds its changes to the family's. -/
theorem changesOf_concat (ops : History) (op : Operation) (f : Nat) :
    changesOf (ops ++ [op]) f = changesOf ops f ++ op.changesFor f (families ops) :=
  changesFrom_concat ops op f []

/-- An operation on another family changes nothing. -/
theorem changesOf_concat_of_ne (h : op.family? (families ops) ≠ some f) :
    changesOf (ops ++ [op]) f = changesOf ops f := by
  rw [changesOf_concat, Operation.changesFor, if_neg h, List.append_nil]

/-- An operation on the family adds its changes. -/
theorem changesOf_concat_of_eq (h : op.family? (families ops) = some f) :
    changesOf (ops ++ [op]) f = changesOf ops f ++ op.changes := by
  rw [changesOf_concat, Operation.changesFor, if_pos h]

/-! ## Families -/

/-- An operation keeps the handles that exist. -/
theorem addFamily_extends (op : Operation) (fs : List Nat) : fs <+: op.addFamily fs := by
  cases op <;> exact List.prefix_append _ _

/-- Later operations keep the handles that exist. -/
theorem families_extend (ops later : History) : families ops <+: families (ops ++ later) := by
  induction later using List.reverseRecOn with
  | nil => simp
  | append_singleton later op ih =>
    rw [← List.append_assoc, families_concat]
    exact ih.trans (addFamily_extends op _)

/-- A handle stays in its family. -/
theorem families_append (h : (families ops)[n]? = some f) (later : History) :
    (families (ops ++ later))[n]? = some f := by
  obtain ⟨rest, hrest⟩ := families_extend ops later
  rw [← hrest, List.getElem?_append_left (List.getElem?_eq_some_iff.1 h).1, h]

/-- What a new handle is: one of a family of its own, or a copy. -/
theorem addFamily_cases (op : Operation) (fs : List Nat) :
    op.addFamily fs = fs ∨ op.addFamily fs = fs ++ [fs.length] ∨
      ∃ a f, op.copied? = some a ∧ fs[a]? = some f ∧ op.addFamily fs = fs ++ [f] := by
  have hcopy (a : Nat) (ha : op.copied? = some a)
      (heq : op.addFamily fs = fs ++ fs[a]?.toList) : op.addFamily fs = fs ∨
      ∃ a f, op.copied? = some a ∧ fs[a]? = some f ∧ op.addFamily fs = fs ++ [f] := by
    cases hf : fs[a]? with
    | none => exact .inl (by simpa [hf] using heq)
    | some f => exact .inr ⟨a, f, ha, hf, by simpa [hf] using heq⟩
  cases op with
  | create => exact .inr (.inl rfl)
  | build => exact .inr (.inl rfl)
  | copy a => exact (hcopy a rfl rfl).imp_right .inr
  | delay a => exact (hcopy a rfl rfl).imp_right .inr
  | _ => exact .inl (List.append_nil fs)

/-- A family is named by its first handle, and every other one is a copy of a copy of it. -/
theorem families_eq_some (h : (families ops)[n]? = some f) :
    (families ops)[f]? = some f ∧ Relation.EqvGen (Copied ops) f n := by
  induction ops using List.reverseRecOn generalizing n f with
  | nil => simp [families] at h
  | append_singleton ops op ih =>
    -- Copies of the shorter history are copies of the longer one.
    have hmono {a b : Nat} (hab : Relation.EqvGen (Copied ops) a b) :
        Relation.EqvGen (Copied (ops ++ [op])) a b :=
      hab.mono fun a b ⟨before, op', after, hops, hrest⟩ =>
        ⟨before, op', after ++ [op], by simp [hops], hrest⟩
    have hold {n f : Nat} (h : (families ops)[n]? = some f) :=
      And.intro (families_append (ih h).1 [op]) (hmono (ih h).2)
    have hnew (f' : Nat) (heq : op.addFamily (families ops) = families ops ++ [f']) :
        (families ops)[n]? = some f ∨ n = (families ops).length ∧ f = f' := by
      rw [families_concat, heq, List.getElem?_append] at h
      split at h
      · exact .inl h
      · obtain ⟨hn, rfl⟩ : n - (families ops).length = 0 ∧ f' = f := by
          simpa [List.getElem?_singleton] using h
        exact .inr ⟨by omega, rfl⟩
    obtain heq | heq | ⟨a, f', ha, hf', heq⟩ := addFamily_cases op (families ops)
    · exact hold (by simpa [heq] using h)
    · obtain h' | ⟨rfl, rfl⟩ := hnew _ heq
      · exact hold h'
      · exact ⟨h, .refl _⟩
    · obtain h' | ⟨rfl, rfl⟩ := hnew _ heq
      · exact hold h'
      · have hlength := (List.getElem?_eq_some_iff.1 hf').1
        have hcopied : Copied (ops ++ [op]) a (families ops).length :=
          ⟨ops, op, [], rfl, ha, hlength, rfl⟩
        exact ⟨(hold hf').1, (hold hf').2.trans _ _ _ (.rel _ _ hcopied)⟩

/-- **Families are what copying makes of the handles.** -/
theorem kin_iff (a b : Nat) :
    Kin ops a b ↔ a < (families ops).length ∧ Relation.EqvGen (Copied ops) a b := by
  constructor
  · rintro ⟨f, ha, hb⟩
    have hname := (families_eq_some ha).2.symm
    exact ⟨(List.getElem?_eq_some_iff.1 ha).1, hname.trans _ _ _ (families_eq_some hb).2⟩
  · rintro ⟨hlt, hab⟩
    have hcopied {a b : Nat} (h : Copied ops a b) : (families ops)[a]? = (families ops)[b]? := by
      obtain ⟨before, op, after, rfl, ha, hlt, rfl⟩ := h
      obtain ⟨f, hf⟩ : ∃ f, (families before)[a]? = some f := ⟨_, List.getElem?_eq_getElem hlt⟩
      have heq : families (before ++ [op]) = families before ++ [f] := by
        rw [families_concat]
        cases op <;> simp_all [Operation.copied?, Operation.addFamily]
      have hb : (families (before ++ [op]))[(families before).length]? = some f := by simp [heq]
      rw [families_append hf, List.append_cons, families_append hb]
    have heq : (families ops)[a]? = (families ops)[b]? := by
      clear hlt
      induction hab with
      | rel _ _ h => exact hcopied h
      | refl => rfl
      | symm _ _ _ ih => exact ih.symm
      | trans _ _ _ _ _ ih ih' => exact ih.trans ih'
    exact ⟨_, List.getElem?_eq_getElem hlt, heq ▸ List.getElem?_eq_getElem hlt⟩

/-- A family is numbered by one of its handles. -/
theorem families_lt (h : f ∈ families ops) : f < (families ops).length := by
  obtain ⟨n, hn⟩ := List.mem_iff_getElem?.1 h
  exact (List.getElem?_eq_some_iff.1 (families_eq_some hn).1).1

/-- Nothing has happened to a family that is not there yet. -/
theorem changesOf_fresh (ops : History) :
    ∀ f, (families ops).length ≤ f → changesOf ops f = [] := by
  induction ops using List.reverseRecOn with
  | nil => intros; rfl
  | append_singleton ops op ih =>
    intro f hf
    have hold := (addFamily_extends op (families ops)).length_le
    rw [families_concat] at hf
    rw [changesOf_concat_of_ne, ih f (hold.trans hf)]
    intro hop
    cases op with
    | create | build =>
      cases hop
      exact absurd hf (by simp [Operation.addFamily])
    | _ =>
      have := families_lt (List.mem_of_getElem? hop)
      omega

end History
end QueryTemplate
