/-
# What a plan may give

A relation `R` between requests and lists of values says which answers are possible.  A plan
*yields* a value if it makes the value of possible answers to its requests (`Plan.Yields`).
Each way to put plans together has one equivalence, so what a plan yields is computed from
what its parts yield.  A run that succeeds yields what it gives, for the relation
`AnsweredIn` of requests to the answers that they got in the course of the run
(`Plan.yields_of_run`).
-/

import QueryTemplate.Proofs.Lookup.Asked

namespace QueryTemplate

namespace Plan

variable {γ α β : Type} {R : Request → List γ → Prop}

/-- The plan makes `a` of answers that `R` allows for its requests. -/
def Yields (R : Request → List γ → Prop) (p : Plan γ α) (a : α) : Prop :=
  ∃ answers, List.Forall₂ R p.requests answers ∧ a = p.finish answers

@[simp] theorem yields_ofValue_iff {a b : α} : (ofValue a : Plan γ α).Yields R b ↔ b = a := by
  simp [Yields, ofValue]

@[simp] theorem yields_ask_iff {r : Request} {values : List γ} :
    (ask r).Yields R values ↔ R r values := by
  constructor
  · rintro ⟨answers, hanswers, rfl⟩
    obtain ⟨v, hv, rfl⟩ : ∃ v, R r v ∧ answers = [v] := by
      simpa [ask, List.forall₂_cons_left_iff] using hanswers
    exact hv
  · exact fun h => ⟨[values], .cons h .nil, rfl⟩

@[simp] theorem yields_map_iff {f : α → β} {p : Plan γ α} {b : β} :
    (p.map f).Yields R b ↔ ∃ a, p.Yields R a ∧ b = f a := by
  constructor
  · rintro ⟨answers, hanswers, rfl⟩
    exact ⟨_, ⟨answers, hanswers, rfl⟩, rfl⟩
  · rintro ⟨_, ⟨answers, hanswers, rfl⟩, rfl⟩
    exact ⟨answers, hanswers, rfl⟩

/-- Two plans yield what each of them yields. -/
@[simp] theorem yields_both_iff {p : Plan γ α} {q : Plan γ β} {ab : α × β} :
    (both p q).Yields R ab ↔ p.Yields R ab.1 ∧ q.Yields R ab.2 := by
  constructor
  · rintro ⟨answers, hanswers, rfl⟩
    have hlen := List.forall₂_take_append answers p.requests q.requests hanswers.flip
    have hlen' := List.forall₂_drop_append answers p.requests q.requests hanswers.flip
    exact ⟨⟨_, hlen.flip, rfl⟩, ⟨_, hlen'.flip, rfl⟩⟩
  · obtain ⟨a, b⟩ := ab
    rintro ⟨⟨answers, hanswers, rfl⟩, ⟨answers', hanswers', rfl⟩⟩
    exact ⟨answers ++ answers', List.rel_append hanswers hanswers',
      by simp [both, hanswers.length_eq]⟩

/-- **Plans one after the other yield what each of them yields.** -/
@[simp] theorem yields_all_iff {ps : List (Plan γ α)} {as : List α} :
    (all ps).Yields R as ↔ List.Forall₂ (Yields R) ps as := by
  induction ps generalizing as with
  | nil => simp [all, List.forall₂_nil_left_iff]
  | cons p ps ih =>
    simp only [all, yields_map_iff, yields_both_iff, ih, List.forall₂_cons_left_iff]
    constructor
    · rintro ⟨⟨a, as⟩, ⟨ha, has⟩, rfl⟩
      exact ⟨a, as, ha, has, rfl⟩
    · rintro ⟨a, as, ha, has, rfl⟩
      exact ⟨(a, as), ⟨ha, has⟩, rfl⟩

/-- Answers by a function of the request are one possibility. -/
theorem yields_given (p : Plan γ α) {values : Request → List γ}
    (h : ∀ r ∈ p.requests, R r (values r)) : p.Yields R (p.given values) := by
  refine ⟨p.requests.map values, ?_, rfl⟩
  rw [List.forall₂_map_right_iff, List.forall₂_same]
  exact h

end Plan

section Running

variable {ε γ α : Type} {answer : List Request → Request → Except ε (List γ)}
  {earlier rs : List Request}

/-- Among the requests of a trace there is this one, and it was answered by `values`. -/
def AnsweredIn (answer : List Request → Request → Except ε (List γ)) (trace : List Request)
    (r : Request) (values : List γ) : Prop :=
  ∃ before after, trace = before ++ r :: after ∧ answer before r = .ok values

/-- Each answer is one that its request gets among those before it. -/
theorem Answers.forall₂ {values : List (List γ)} (h : Answers answer earlier rs values) :
    List.Forall₂ (AnsweredIn answer (earlier ++ rs)) rs values := by
  induction h with
  | nil => exact .nil
  | @cons earlier rs r v values hv _ ih =>
    rw [List.append_assoc, List.singleton_append] at ih
    exact .cons ⟨earlier, rs, rfl, hv⟩ ih

/-- **A run that succeeds yields what it gives**, from the answers in its trace. -/
theorem Plan.yields_of_run {p : Plan γ α} {delayed : Bool} {a : α}
    (h : (p.run answer delayed earlier).result = .ok a) :
    p.Yields (AnsweredIn answer (earlier ++ p.requests)) a := by
  obtain ⟨values, hvalues, ha⟩ := Plan.run_eq_ok h
  exact ⟨values, hvalues.forall₂, ha⟩

/-- It has made all of its requests. -/
theorem Plan.requests_run {p : Plan γ α} {delayed : Bool} {a : α}
    (h : (p.run answer delayed earlier).result = .ok a) :
    (p.run answer delayed earlier).requests = p.requests := by
  obtain ⟨asked, found, hasks, hrun⟩ := p.exists_run_eq answer delayed earlier
  rw [hrun] at h ⊢
  cases hasks with
  | complete _ => simp
  | cut _ _ _ => cases h

/-- It makes no others, also if it fails. -/
theorem Plan.mem_requests_run {p : Plan γ α} {delayed : Bool} {r : Request}
    (h : r ∈ (p.run answer delayed earlier).requests) : r ∈ p.requests := by
  obtain ⟨asked, found, hasks, hrun⟩ := p.exists_run_eq answer delayed earlier
  rw [hrun] at h
  cases delayed with
  | true => exact h
  | false => exact hasks.isPrefix.subset h

/-- A run whose requests are all answered by a function of the request succeeds. -/
theorem Plan.run_eq_given {p : Plan γ α} {delayed : Bool} {values : Request → List γ}
    (h : ∀ earlier, ∀ r ∈ p.requests, answer earlier r = .ok (values r)) :
    (p.run answer delayed earlier).result = .ok (p.given values) := by
  have hall : ∀ rs earlier, (∀ earlier, ∀ r ∈ rs, answer earlier r = .ok (values r)) →
      (askInOrder answer earlier rs).result = .ok (rs.map values) := by
    intro rs
    induction rs with
    | nil => exact fun _ _ => rfl
    | cons r rs ih =>
      intro earlier hrs
      have hrest := ih (earlier ++ [r]) fun earlier r' hr' => hrs earlier r' (by simp [hr'])
      simp [askInOrder, hrs earlier r (by simp), hrest, Except.map]
  simp [Plan.run, hall p.requests earlier h, Except.map, Plan.given]

end Running

end QueryTemplate
