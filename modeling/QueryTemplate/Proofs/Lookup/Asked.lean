/-
# What a plan asks

The requests of a plan are known before any answer.  This file computes them for plans
that are put together from others (`Plan.requests_all`), and says what becomes of a list
of requests that are made one after the other: either all of them are answered, or they
end at the first that is not (`askInOrder_asks`).
-/

import Mathlib.Data.List.Forall2
import QueryTemplate.Lookup.Plan

namespace QueryTemplate

/-! ## Plans -/

namespace Plan

variable {γ α β : Type}

@[simp] theorem requests_ofValue (a : α) : (ofValue a : Plan γ α).requests = [] := rfl

@[simp] theorem requests_ask (r : Request) : (ask r : Plan γ (List γ)).requests = [r] := rfl

@[simp] theorem requests_map (f : α → β) (p : Plan γ α) : (p.map f).requests = p.requests := rfl

@[simp] theorem requests_both (p : Plan γ α) (q : Plan γ β) :
    (both p q).requests = p.requests ++ q.requests := rfl

/-- **Plans one after the other ask what each of them asks, in their order.** -/
@[simp] theorem requests_all (ps : List (Plan γ α)) :
    (all ps).requests = ps.flatMap Plan.requests := by
  induction ps with
  | nil => rfl
  | cons p ps ih => simp [all, ih]

/-- Plans that ask one request each hand its answer on. -/
theorem finish_all_ask (rs : List Request) (answers : List (List γ))
    (h : answers.length = rs.length) :
    (all (rs.map (ask : Request → Plan γ (List γ)))).finish answers = answers := by
  induction rs generalizing answers with
  | nil => exact (List.eq_nil_of_length_eq_zero h).symm
  | cons r rs ih =>
    obtain ⟨a, rest, rfl⟩ := List.exists_cons_of_length_eq_add_one h
    have hrest : rest.length = rs.length := by simpa using h
    have := ih rest hrest
    simp_all [all, both, map, ask]

/-- What a plan makes of the answers that a function of the request gives. -/
def given (values : Request → List γ) (p : Plan γ α) : α := p.finish (p.requests.map values)

section Given

variable (values : Request → List γ)

@[simp] theorem given_ofValue (a : α) : (ofValue a).given values = a := rfl

@[simp] theorem given_ask (r : Request) : (ask r).given values = values r := rfl

@[simp] theorem given_map (f : α → β) (p : Plan γ α) :
    (p.map f).given values = f (p.given values) := rfl

/-- Two plans do not see each other's answers. -/
@[simp] theorem given_both (p : Plan γ α) (q : Plan γ β) :
    (both p q).given values = (p.given values, q.given values) := by
  simp [given, both]

/-- **Plans one after the other do not see each other's answers.** -/
@[simp] theorem given_all (ps : List (Plan γ α)) :
    (all ps).given values = ps.map (Plan.given values) := by
  induction ps with
  | nil => rfl
  | cons p ps ih => simp [all, ih]

end Given

end Plan

/-! ## Requests one after the other -/

section Asking

variable {ε γ : Type} (answer : List Request → Request → Except ε (List γ))

/-- The requests are answered by `values`, each request being made after `earlier` ones
and those before it. -/
inductive Answers : (earlier rs : List Request) → (values : List (List γ)) → Prop
  | nil (earlier : List Request) : Answers earlier [] []
  | cons {earlier rs : List Request} {r : Request} {v : List γ} {values : List (List γ)} :
      answer earlier r = .ok v → Answers (earlier ++ [r]) rs values →
        Answers earlier (r :: rs) (v :: values)

/-- What making the requests of a plan in order leads to: all of them are made and
answered, or they end at the first failure. -/
inductive Asks (earlier plan : List Request) :
    (asked : List Request) → (found : Except ε (List (List γ))) → Prop
  | complete {values : List (List γ)} :
      Answers answer earlier plan values → Asks earlier plan plan (.ok values)
  | cut {before after : List Request} {r : Request} {values : List (List γ)} {e : ε} :
      plan = before ++ r :: after → Answers answer earlier before values →
        answer (earlier ++ before) r = .error e →
          Asks earlier plan (before ++ [r]) (.error e)

variable {answer}

/-- There is one answer for each request. -/
theorem Answers.length_eq {earlier rs : List Request} {values : List (List γ)}
    (h : Answers answer earlier rs values) : values.length = rs.length := by
  induction h with
  | nil => rfl
  | cons _ _ ih => simp [ih]

/-- Requests that are all answered are all made. -/
theorem Answers.askInOrder_eq {earlier rs : List Request} {values : List (List γ)}
    (h : Answers answer earlier rs values) : askInOrder answer earlier rs = ⟨rs, .ok values⟩ := by
  induction h with
  | nil => rfl
  | cons hr _ ih => simp [askInOrder, hr, ih, Except.map]

/-- The requests that are made are the first ones of the plan. -/
theorem Asks.isPrefix {earlier plan asked : List Request} {found : Except ε (List (List γ))}
    (h : Asks answer earlier plan asked found) : asked <+: plan := by
  cases h with
  | complete _ => exact List.prefix_rfl
  | cut hplan _ _ => exact ⟨_, by rw [hplan, List.append_assoc]; rfl⟩

/-- **Requests made in order are answered one by one, up to the first failure.** -/
theorem askInOrder_asks (earlier plan : List Request) :
    Asks answer earlier plan (askInOrder answer earlier plan).requests
      (askInOrder answer earlier plan).result := by
  induction plan generalizing earlier with
  | nil => exact .complete (.nil earlier)
  | cons r rest ih =>
    rw [askInOrder]
    cases hr : answer earlier r with
    | error e => exact .cut (List.nil_append _).symm (.nil earlier) (by simpa using hr)
    | ok v =>
      have htail := ih (earlier ++ [r])
      generalize askInOrder answer (earlier ++ [r]) rest = t at htail ⊢
      obtain ⟨asked, found⟩ := t
      cases htail with
      | complete hvalues => exact .complete (.cons hr hvalues)
      | @cut before after r' _ _ hplan hvalues he =>
        have hcons : r :: rest = (r :: before) ++ r' :: after := by rw [hplan, List.cons_append]
        refine .cut hcons (.cons hr hvalues) ?_
        rwa [List.append_assoc, List.singleton_append] at he

/-- **A run asks in order and finishes what was found.**  If the answers are waited for, all of the
requests have been made, also when one of them fails. -/
theorem Plan.exists_run_eq {α : Type} (p : Plan γ α)
    (answer : List Request → Request → Except ε (List γ)) (delayed : Bool)
    (earlier : List Request) :
    ∃ asked found, Asks answer earlier p.requests asked found ∧ p.run answer delayed earlier =
      ⟨if delayed then p.requests else asked, found.map p.finish⟩ :=
  ⟨_, _, askInOrder_asks earlier p.requests, rfl⟩

/-- What a plan gives, it makes of answers to all of its requests. -/
theorem Plan.run_eq_ok {α : Type} {p : Plan γ α} {delayed : Bool} {earlier : List Request} {a : α}
    (h : (p.run answer delayed earlier).result = .ok a) :
    ∃ values, Answers answer earlier p.requests values ∧ a = p.finish values := by
  obtain ⟨asked, found, hasks, hrun⟩ := p.exists_run_eq answer delayed earlier
  rw [hrun] at h
  cases hasks with
  | complete hvalues => exact ⟨_, hvalues, (Except.ok.inj h).symm⟩
  | cut _ _ _ => cases h

/-- A run makes no requests just if its plan has none. -/
theorem Plan.requests_run_eq_nil_iff {α : Type} {p : Plan γ α} {delayed : Bool}
    {earlier : List Request} :
    (p.run answer delayed earlier).requests = [] ↔ p.requests = [] := by
  constructor
  · intro h
    obtain ⟨asked, found, hasks, hrun⟩ := p.exists_run_eq answer delayed earlier
    rw [hrun] at h
    cases hasks with
    | complete _ => simpa using h
    | cut hplan _ _ => cases delayed <;> simp_all
  · intro h
    cases delayed <;> simp [Plan.run, h, askInOrder]

end Asking

section Independent

variable {ε γ : Type} {answer : Request → Except ε (List γ)} {earlier rs : List Request}

variable (answer earlier rs) in
/-- Answers that do not depend on earlier requests come out the same after other ones. -/
theorem askInOrder_earlier (other : List Request) :
    askInOrder (fun _ => answer) earlier rs = askInOrder (fun _ => answer) other rs := by
  induction rs generalizing earlier other with
  | nil => rfl
  | cons r rest ih =>
    rw [askInOrder, askInOrder]
    cases answer r with
    | error e => rfl
    | ok v => rw [ih (other ++ [r])]

/-- **Answers that do not depend on earlier requests** are the answers of the requests taken
alone. -/
theorem askInOrder_eq_ok_iff {values : List (List γ)} :
    (askInOrder (fun _ => answer) earlier rs).result = .ok values ↔
      List.Forall₂ (fun r v => answer r = .ok v) rs values := by
  induction rs generalizing earlier values with
  | nil => simp [askInOrder, eq_comm]
  | cons r rest ih =>
    rw [askInOrder]
    cases hr : answer r with
    | error e => simp [List.forall₂_cons_left_iff, hr]
    | ok v =>
      rw [List.forall₂_cons_left_iff]
      constructor
      · intro h
        cases hrest : (askInOrder (fun _ => answer) (earlier ++ [r]) rest).result with
        | error e => simp [hrest, Except.map] at h
        | ok vs =>
          obtain rfl : v :: vs = values := by simpa [hrest, Except.map] using h
          exact ⟨v, vs, hr, ih.1 hrest, rfl⟩
      · rintro ⟨v', vs, hv', hvs, rfl⟩
        obtain rfl : v = v' := by simpa [hr] using hv'
        simp [ih.2 hvs, Except.map]

variable (earlier) in
/-- One failure is enough. -/
theorem askInOrder_eq_error_of_mem {r : Request} {e : ε} (hr : r ∈ rs)
    (he : answer r = .error e) :
    ∃ e', (askInOrder (fun _ => answer) earlier rs).result = .error e' := by
  cases h : (askInOrder (fun _ => answer) earlier rs).result with
  | error e' => exact ⟨e', rfl⟩
  | ok values =>
    obtain ⟨i, hi, rfl⟩ := List.getElem_of_mem hr
    have hall := askInOrder_eq_ok_iff.1 h
    have := hall.get hi (hall.length_eq ▸ hi)
    simp [he] at this

end Independent

end QueryTemplate
