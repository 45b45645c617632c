/-
# What memories show of their history

`Mirrors` relates memories to the operations that made them: every handle has the family that
the history says, and the memory of a family recalls what happened to it.  Each operation
keeps this and gives what the history says.  So every run does, an operation shows in its own
family only, and families are what copying makes of the handles (`run_shows_history`).
-/

import Mathlib.Data.List.Nodup
import QueryTemplate.Proofs.Lookup.History

namespace QueryTemplate

open Memory Memory.Change

namespace History

/-- Memories are what a history left behind; `names` are the names of the families in the order
of their memories. -/
structure Mirrors (ops : History) (names : List Nat) (ms : Memories) : Prop where
  handles : ms.handles.map (names[·.family]?) = (families ops).map some
  length : ms.families.length = names.length
  recalls : ∀ (i f : Nat) (m : Memory), ms.families[i]? = some m → names[i]? = some f →
    m.Recalls (changesOf ops f)
  nodup : names.Nodup
  lt : ∀ f ∈ names, f < (families ops).length

namespace Mirrors

variable {ms : Memories} {names : List Nat} {ops : History} {op : Operation} {h : Handle}
  {f n : Nat}

theorem empty : Mirrors [] [] .empty := ⟨rfl, rfl, by simp, List.nodup_nil, by simp⟩

/-- There are as many handles as operations made. -/
theorem handles_length (hm : Mirrors ops names ms) :
    ms.handles.length = (families ops).length := by
  simpa using congrArg List.length hm.handles

/-! ## Keeping the relation -/

/-- A handle of a family of its own. -/
theorem build (hm : Mirrors ops names ms) (d : Draft)
    (hfamilies : op.addFamily (families ops) = families ops ++ [(families ops).length])
    (hfamily : op.family? (families ops) = some (families ops).length)
    (hd : d.memory.Recalls op.changes) :
    Mirrors (ops ++ [op]) (names ++ [(families ops).length]) (ms.build d).1 where
  handles := by
    have hold : ms.handles.map ((names ++ [(families ops).length])[·.family]?) =
        ms.handles.map (names[·.family]?) := by
      refine List.map_congr_left fun h hh => List.getElem?_append_left ?_
      have hsome : names[h.family]? ∈ (families ops).map some :=
        hm.handles ▸ List.mem_map_of_mem hh
      obtain ⟨f, -, hf⟩ := List.mem_map.1 hsome
      exact (List.getElem?_eq_some_iff.1 hf.symm).1
    simp [Memories.build, hold, hm.handles, hfamilies, hm.length]
  length := by simp [Memories.build, hm.length]
  recalls := by
    intro i f m hi hf
    rw [Memories.build, List.getElem?_append] at hi
    rw [List.getElem?_append, ← hm.length] at hf
    split at hi
    · rw [if_pos ‹_›] at hf
      have hlt := hm.lt f (List.mem_of_getElem? hf)
      rw [changesOf_concat_of_ne (by simp [hfamily]; omega)]
      exact hm.recalls i f m hi hf
    · rw [if_neg ‹_›, List.getElem?_singleton, Option.ite_none_right_eq_some] at hf
      obtain ⟨hzero, ⟨⟩⟩ := hf
      obtain rfl : d.memory = m := by simpa [hzero] using hi
      rwa [changesOf_concat_of_eq hfamily, changesOf_fresh _ _ le_rfl, List.nil_append]
  nodup := by
    rw [← List.concat_eq_append]
    exact hm.nodup.concat fun hmem => absurd (hm.lt _ hmem) (lt_irrefl _)
  lt := by
    intro f hf
    rw [families_concat, hfamilies, List.length_append]
    obtain hf | hf := List.mem_append.1 hf
    · exact (hm.lt f hf).trans_le (Nat.le_add_right _ _)
    · simp_all

/-- An operation that changes no memory. -/
theorem unchanged (hm : Mirrors ops names ms) (handles : List Handle)
    (hhandles : handles.map (names[·.family]?) = (op.addFamily (families ops)).map some)
    (hop : op.family? (families ops) = none ∨ op.changes = []) :
    Mirrors (ops ++ [op]) names { ms with handles := handles } where
  handles := by simpa using hhandles
  length := hm.length
  recalls := by
    intro i f m hi hf
    have hchanges : op.changesFor f (families ops) = [] := by
      rw [Operation.changesFor]
      obtain hnone | hnil := hop <;> simp [*]
    rw [changesOf_concat, hchanges, List.append_nil]
    exact hm.recalls i f m hi hf
  nodup := hm.nodup
  lt := by
    intro f hf
    rw [families_concat]
    exact (hm.lt f hf).trans_le (addFamily_extends op _).length_le

/-- An operation that makes no handle and changes no memory. -/
theorem idle (hm : Mirrors ops names ms) (hfamilies : op.addFamily (families ops) = families ops)
    (hop : op.family? (families ops) = none ∨ op.changes = []) :
    Mirrors (ops ++ [op]) names ms :=
  hm.unchanged ms.handles (hfamilies.symm ▸ hm.handles) hop

/-- A further handle of a family. -/
theorem copy (hm : Mirrors ops names ms) (delayed : Bool) (hf : names[h.family]? = some f)
    (hfamilies : op.addFamily (families ops) = families ops ++ [f]) (hop : op.changes = []) :
    Mirrors (ops ++ [op]) names (ms.copy h delayed).1 :=
  hm.unchanged _ (by simp [hm.handles, hf, hfamilies]) (.inr hop)

/-- A change of the memory of a family. -/
theorem update (hm : Mirrors ops names ms) (hf : names[h.family]? = some f)
    (hfamilies : op.addFamily (families ops) = families ops)
    (hfamily : op.family? (families ops) = some f) :
    Mirrors (ops ++ [op]) names (ms.update h (op.changes.foldl apply)) where
  handles := by simp [Memories.update, hm.handles, hfamilies]
  length := by simp [Memories.update, hm.length]
  recalls := by
    intro i f' m hi hf'
    rw [Memories.update, List.getElem?_modify] at hi
    obtain ⟨m', hm', rfl⟩ := Option.map_eq_some_iff.1 hi
    have hrecalls := hm.recalls i f' m' hm' hf'
    by_cases heq : h.family = i
    · subst heq
      obtain rfl : f = f' := Option.some.inj (hf.symm.trans hf')
      rw [if_pos rfl, changesOf_concat_of_eq hfamily]
      exact hrecalls.applyAll _
    · have hne : f ≠ f' := by
        rintro rfl
        have hlt := (List.getElem?_eq_some_iff.1 hf).1
        exact heq ((List.getElem?_inj hlt hm.nodup).1 (hf.trans hf'.symm))
      rw [if_neg heq, changesOf_concat_of_ne (by simpa [hfamily] using hne)]
      exact hrecalls
  nodup := hm.nodup
  lt := by simpa [hfamilies] using hm.lt

/-- The handle and the memory that an operation reaches. -/
theorem withHandle (hm : Mirrors ops names ms) (hn : op.handle? = some n)
    (g : Handle → Memory → Memories × Observation)
    (hg : ∀ h m f, (families ops)[n]? = some f → op.family? (families ops) = some f →
      names[h.family]? = some f → m.Recalls (changesOf ops f) →
      Mirrors (ops ++ [op]) names (g h m).1 ∧
        (g h m).2 = op.given (families ops).length (changesOf ops f)) :
    Mirrors (ops ++ [op]) names (ms.withHandle n g).1 ∧ (ms.withHandle n g).2 = gives ops op := by
  have hfamily : op.family? (families ops) = (families ops)[n]? := by
    cases op <;> cases hn <;> rfl
  have hhandle := congrArg (·[n]?) hm.handles
  simp only [List.getElem?_map] at hhandle
  rw [gives, hfamily]
  cases hf : (families ops)[n]? with
  | none =>
    have hnone : ms.handles[n]? = none := by simpa [hf] using hhandle
    have hfamilies : op.addFamily (families ops) = families ops := by
      cases op <;> cases hn <;> simp [Operation.addFamily, Operation.copied?, hf]
    rw [Memories.withHandle, hnone]
    exact ⟨hm.idle hfamilies (.inl (hfamily.trans hf)), rfl⟩
  | some f =>
    obtain ⟨h, hh, hname⟩ : ∃ h, ms.handles[n]? = some h ∧ names[h.family]? = some f := by
      simpa [hf] using hhandle
    have hlt : h.family < ms.families.length :=
      hm.length ▸ (List.getElem?_eq_some_iff.1 hname).1
    have hmemory := List.getElem?_eq_getElem hlt
    rw [Memories.withHandle, hh]
    simp only [Memories.memory?, hmemory]
    exact hg h _ f hf (hfamily.trans hf) hname (hm.recalls _ f _ hmemory hname)

/-- **Every operation gives what the history says, and goes on with it.** -/
theorem step (hm : Mirrors ops names ms) (op : Operation) :
    ∃ names, Mirrors (ops ++ [op]) names (ms.step op).1 ∧ (ms.step op).2 = gives ops op := by
  have hmade : Observation.handle ms.handles.length = .handle (families ops).length := by
    rw [hm.handles_length]
  cases op with
  | create => exact ⟨_, hm.build .empty rfl rfl recalls_empty, hmade⟩
  | build settings =>
    refine ⟨_, hm.build _ rfl rfl ?_, hmade⟩
    rw [Draft.memory_ofSettings]
    exact recalls_empty.applyAll _
  | copy n =>
    refine ⟨_, hm.withHandle rfl _ fun h m f hf _ hname _ => ⟨hm.copy _ hname ?_ rfl, hmade⟩⟩
    simp [Operation.addFamily, Operation.copied?, hf]
  | delay n =>
    refine ⟨_, hm.withHandle rfl _ fun h m f hf _ hname _ => ⟨hm.copy _ hname ?_ rfl, hmade⟩⟩
    simp [Operation.addFamily, Operation.copied?, hf]
  | insert | insertFailure | clear =>
    exact ⟨_, hm.withHandle rfl _ fun h m f _ hfamily hname _ =>
      ⟨hm.update hname (List.append_nil _) hfamily, rfl⟩⟩
  | resolve n r =>
    exact ⟨_, hm.withHandle rfl _ fun h m f _ hfamily hname hrecalls =>
      ⟨hm.update hname (List.append_nil _) hfamily,
        congrArg Observation.answer (hrecalls.answer r.key)⟩⟩
  | requests =>
    exact ⟨_, hm.withHandle rfl _ fun h m f _ _ _ hrecalls =>
      ⟨hm.idle (List.append_nil _) (.inr rfl), congrArg Observation.requests hrecalls.requests⟩⟩
  | count =>
    exact ⟨_, hm.withHandle rfl _ fun h m f _ _ _ hrecalls =>
      ⟨hm.idle (List.append_nil _) (.inr rfl),
        congrArg (fun rs => Observation.count rs.length) hrecalls.requests⟩⟩

end Mirrors

/-! ## Runs -/

/-- **Memories after operations are what their history left behind.** -/
theorem mirrors_after (ops : History) : ∃ names, Mirrors ops names (Memories.empty.after ops) := by
  induction ops using List.reverseRecOn with
  | nil => exact ⟨[], .empty⟩
  | append_singleton ops op ih =>
    obtain ⟨names, hm⟩ := ih
    obtain ⟨names, hm, -⟩ := hm.step op
    exact ⟨names, by simpa [Memories.after] using hm⟩

/-- An operation gives what the history says. -/
theorem step_after (ops : History) (op : Operation) :
    ((Memories.empty.after ops).step op).2 = gives ops op := by
  obtain ⟨names, hm⟩ := mirrors_after ops
  obtain ⟨-, -, h⟩ := hm.step op
  exact h

/-- What an operation gives is observed at its place in the history. -/
theorem observations_getElem? (ms : Memories) (before after : History) (op : Operation) :
    (ms.observations (before ++ op :: after))[before.length]? =
      some ((ms.after before).step op).2 := by
  induction before generalizing ms with
  | nil => rfl
  | cons first before ih => simpa [Memories.observations, Memories.after] using ih (ms.step first).1

/-- What happens to one family does not show in another. -/
theorem gives_concat_of_ne {ops : History} {op q : Operation} {f n : Nat} {r : Request}
    (hn : (families ops)[n]? = some f) (hne : op.family? (families ops) ≠ some f)
    (hq : q ∈ [.resolve n r, .requests n, .count n]) : gives (ops ++ [op]) q = gives ops q := by
  have hfamily {q : Operation} (hq : ∀ fs, q.family? fs = fs[n]?) :
      gives (ops ++ [op]) q = q.given (families (ops ++ [op])).length (changesOf ops f) ∧
      gives ops q = q.given (families ops).length (changesOf ops f) := by
    simp only [gives, hq, hn, families_append hn, changesOf_concat_of_ne hne, and_self]
  simp only [List.mem_cons, List.not_mem_nil, or_false] at hq
  obtain rfl | rfl | rfl := hq <;> rw [(hfamily fun _ => rfl).1, (hfamily fun _ => rfl).2] <;> rfl

/-- **Memories show their history.**  Every operation of a run gives what the operations before
it say, through whichever handle of a family they went; two handles are of one family just
when they come from one another by copying; and what is seen through a handle stays the same
if an operation is about another family. -/
theorem run_shows_history :
    (∀ before op after,
      (Memories.empty.observations (before ++ op :: after))[before.length]? =
        some (gives before op)) ∧
    (∀ ops a b, Kin ops a b ↔
      a < (families ops).length ∧ Relation.EqvGen (Copied ops) a b) ∧
    ∀ ops op n f r, (families ops)[n]? = some f → op.family? (families ops) ≠ some f →
      ∀ q ∈ [Operation.resolve n r, .requests n, .count n],
        ((Memories.empty.after (ops ++ [op])).step q).2 =
          ((Memories.empty.after ops).step q).2 := by
  refine ⟨fun before op after => ?_, fun ops a b => kin_iff a b, ?_⟩
  · rw [observations_getElem?, step_after]
  · intro ops op n f r hn hne q hq
    rw [step_after, step_after, gives_concat_of_ne hn hne hq]

-- A failure through the copy shows in the first handle, in spite of the later values, and a
-- handle of another family sees neither of them.
example :
    Memories.empty.observations
      [.create, .copy 0, .insertFailure 1 ⟨.table, "t"⟩ (.backend "down"),
        .insert 0 ⟨.table, "t"⟩ ["users"], .create, .resolve 0 (.table "t"),
        .resolve 2 (.table "t"), .count 1] =
      [.handle 0, .handle 1, .done, .done, .handle 2, .answer (.error (.backend "down")),
        .answer (.ok []), .count 1] := rfl

end History
end QueryTemplate
