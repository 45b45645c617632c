/-
# Answers that arrive one by one

With delay, all requests of a group are under way before the first of them is answered,
and the answers arrive in any order.  `Pending` is such a group: its requests, and the
answers so far, each with the place of its request.  Once no request waits, the answers
are put back into the order of the requests, so nothing is left of the order in which they
came (`Pending.Sound.answers?_eq_some`).
-/

import Mathlib.Data.Finset.Card
import Mathlib.Data.Finset.Range
import Mathlib.Data.List.Forall2
import QueryTemplate.Lookup

namespace QueryTemplate

/-- Requests that are under way together. -/
structure Pending (γ : Type) where
  requests : List Request
  /-- The answers so far in the order in which they came, each with the place of its
  request. -/
  arrived : List (Nat × List γ)

namespace Pending

variable {γ ε : Type}

/-- The request at a place, if it waits for its answer. -/
def waiting? (p : Pending γ) (place : Nat) : Option Request :=
  if (p.arrived.lookup place).isSome then none else p.requests[place]?

/-- An answer arrives. -/
def arrive (p : Pending γ) (place : Nat) (values : List γ) : Pending γ :=
  { p with arrived := p.arrived ++ [(place, values)] }

/-- The answers to requests that stand from `place` on, if all of them are there. -/
def answersFrom? (arrived : List (Nat × List γ)) : Nat → List Request → Option (List (List γ))
  | _, [] => some []
  | place, _ :: rest =>
    match arrived.lookup place, answersFrom? arrived (place + 1) rest with
    | some values, some answers => some (values :: answers)
    | _, _ => none

/-- All answers in the order of the requests, once they are there. -/
def answers? (p : Pending γ) : Option (List (List γ)) := answersFrom? p.arrived 0 p.requests

/-- Every answer so far is the one that its request gets. -/
def Sound (answer : Request → Except ε (List γ)) (p : Pending γ) : Prop :=
  ∀ place values, p.arrived.lookup place = some values →
    ∃ r, p.requests[place]? = some r ∧ answer r = .ok values

variable {answer : Request → Except ε (List γ)} {p : Pending γ} {place : Nat}

theorem sound_start (requests : List Request) : Sound answer (⟨requests, []⟩ : Pending γ) := by
  intro place values h
  simp at h

/-- A request that waits has its answer once it arrives. -/
theorem lookup_arrive_self {values : List γ} {r : Request} (h : p.waiting? place = some r) :
    (p.arrive place values).arrived.lookup place = some values := by
  unfold waiting? at h
  split at h
  · cases h
  · rename_i hnone
    simp [arrive, List.lookup_append, Option.not_isSome_iff_eq_none.1 hnone]

/-- The answers to other requests are what they were. -/
theorem lookup_arrive_ne {values : List γ} {other : Nat} (h : other ≠ place) :
    (p.arrive place values).arrived.lookup other = p.arrived.lookup other := by
  have hne : (other == place) = false := by simpa using h
  simp [arrive, List.lookup_append, List.lookup_cons, hne]

/-- A request that waits is one of the requests. -/
theorem getElem?_of_waiting? {r : Request} (h : p.waiting? place = some r) :
    p.requests[place]? = some r := by
  unfold waiting? at h
  split at h
  · cases h
  · exact h

/-- The answer to a request that waits keeps the answers sound. -/
theorem Sound.arrive {values : List γ} {r : Request} (hp : Sound answer p)
    (hr : p.waiting? place = some r) (hv : answer r = .ok values) :
    Sound answer (p.arrive place values) := by
  intro other found hfound
  by_cases hother : other = place
  · rw [hother, lookup_arrive_self hr] at hfound
    obtain rfl := Option.some.inj hfound
    have hplace := getElem?_of_waiting? hr
    exact ⟨r, by rw [hother]; exact hplace, hv⟩
  · rw [lookup_arrive_ne hother] at hfound
    exact hp other found hfound

/-- Sound answers that are all there are the requests' answers. -/
theorem answersFrom?_eq_some {arrived : List (Nat × List γ)} {rs : List Request}
    {answers : List (List γ)} (h : answersFrom? arrived place rs = some answers)
    (hsound : ∀ i r values, rs[i]? = some r → arrived.lookup (place + i) = some values →
      answer r = .ok values) :
    List.Forall₂ (fun r values => answer r = .ok values) rs answers ∧
      ∀ i, i < rs.length → (arrived.lookup (place + i)).isSome := by
  induction rs generalizing place answers with
  | nil =>
    obtain rfl : [] = answers := by simpa [answersFrom?] using h
    exact ⟨.nil, fun i hi => absurd hi (Nat.not_lt_zero i)⟩
  | cons r rest ih =>
    rw [answersFrom?] at h
    split at h
    · rename_i values answers' hvalues hrest
      obtain rfl := Option.some.inj h
      have htail := ih hrest fun i r' vs hr' hvs =>
        hsound (i + 1) r' vs (by simpa using hr') (by rwa [Nat.add_right_comm] at hvs)
      refine ⟨.cons (hsound 0 r values rfl hvalues) htail.1, fun i hi => ?_⟩
      cases i with
      | zero => simp [hvalues]
      | succ i =>
        have := htail.2 i (by simpa using hi)
        rwa [Nat.add_right_comm] at this
    · cases h

/-- Where answers lack, there is a request without one. -/
theorem answersFrom?_eq_none {arrived : List (Nat × List γ)} {rs : List Request}
    (h : answersFrom? arrived place rs = none) :
    ∃ i, i < rs.length ∧ arrived.lookup (place + i) = none := by
  induction rs generalizing place with
  | nil => simp [answersFrom?] at h
  | cons r rest ih =>
    rw [answersFrom?] at h
    cases hvalues : arrived.lookup place with
    | none => exact ⟨0, by simp, by simpa using hvalues⟩
    | some values =>
      cases hrest : answersFrom? arrived (place + 1) rest with
      | none =>
        obtain ⟨i, hi, hnone⟩ := ih hrest
        exact ⟨i + 1, by simpa using hi, by rwa [Nat.add_right_comm] at hnone⟩
      | some answers => simp [hvalues, hrest] at h

/-- **All answers, once there, are those of the requests in their order.** -/
theorem Sound.answers?_eq_some {answers : List (List γ)} (hp : Sound answer p)
    (h : p.answers? = some answers) :
    List.Forall₂ (fun r values => answer r = .ok values) p.requests answers ∧
      ∀ i, i < p.requests.length → (p.arrived.lookup i).isSome := by
  have hsound : ∀ i r values, p.requests[i]? = some r → p.arrived.lookup (0 + i) = some values →
      answer r = .ok values := by
    intro i r values hr hvalues
    rw [Nat.zero_add] at hvalues
    obtain ⟨r', hr', hok⟩ := hp i values hvalues
    rw [hr] at hr'
    exact Option.some.inj hr' ▸ hok
  simpa using answersFrom?_eq_some h hsound

/-- While answers are missing, some request waits. -/
theorem exists_waiting? (h : p.answers? = none) : ∃ place r, p.waiting? place = some r := by
  obtain ⟨i, hi, hnone⟩ := answersFrom?_eq_none h
  rw [Nat.zero_add] at hnone
  exact ⟨i, p.requests[i], by simp [waiting?, hnone, hi]⟩

/-- The places of the requests that wait for their answer. -/
def waiting (p : Pending γ) : Finset Nat :=
  (Finset.range p.requests.length).filter fun i => (p.arrived.lookup i).isNone

/-- The requests that wait become fewer with each answer. -/
theorem card_waiting_arrive {r : Request} (h : p.waiting? place = some r) (values : List γ) :
    (p.arrive place values).waiting.card < p.waiting.card := by
  have hplace : place < p.requests.length :=
    (List.getElem?_eq_some_iff.1 (getElem?_of_waiting? h)).1
  have hnone : p.arrived.lookup place = none := by
    unfold waiting? at h
    split at h
    · cases h
    · rename_i hnone
      exact Option.not_isSome_iff_eq_none.1 hnone
  apply Finset.card_lt_card
  rw [Finset.ssubset_iff_of_subset]
  · exact ⟨place, by simp [waiting, hplace, hnone], by simp [waiting, lookup_arrive_self h]⟩
  · intro i hi
    rw [waiting, Finset.mem_filter, Finset.mem_range, Option.isNone_iff_eq_none] at hi
    have hne : i ≠ place := by
      rintro rfl
      rw [lookup_arrive_self h] at hi
      simp at hi
    rw [lookup_arrive_ne hne] at hi
    rw [waiting, Finset.mem_filter, Finset.mem_range, Option.isNone_iff_eq_none]
    exact hi

/-- At the start all requests wait. -/
theorem card_waiting_start (requests : List Request) :
    (⟨requests, []⟩ : Pending γ).waiting.card = requests.length := by
  simp [waiting]

end Pending

end QueryTemplate
