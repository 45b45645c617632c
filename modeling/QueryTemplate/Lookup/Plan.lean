/-
# Plans of lookups

A plan lists the requests that a computation needs, and says what it makes of the
answers.  The list does not depend on any answer, so plans are put together by
appending their requests and dealing the answers out again.

To run a plan, its requests are made in order.  The first failure ends it: without
delay no further request is made, with delay all of them have been made by then.
-/

import QueryTemplate.Lookup

namespace QueryTemplate

/-- Requests, and what is made of their answers: for each request a list of values. -/
structure Plan (γ α : Type) where
  requests : List Request
  finish : List (List γ) → α

namespace Plan

variable {γ α β : Type}

/-- A value that needs no lookup. -/
def ofValue (a : α) : Plan γ α := ⟨[], fun _ => a⟩

/-- The values for one request. -/
def ask (r : Request) : Plan γ (List γ) := ⟨[r], fun answers => answers.headD []⟩

/-- A function of what a plan gives. -/
def map (f : α → β) (p : Plan γ α) : Plan γ β := ⟨p.requests, fun answers => f (p.finish answers)⟩

/-- Two plans, one after the other. -/
def both (p : Plan γ α) (q : Plan γ β) : Plan γ (α × β) :=
  ⟨p.requests ++ q.requests, fun answers =>
    (p.finish (answers.take p.requests.length), q.finish (answers.drop p.requests.length))⟩

/-- Any number of plans, one after the other. -/
def all : List (Plan γ α) → Plan γ (List α)
  | [] => ofValue []
  | p :: ps => (both p (all ps)).map fun r => r.1 :: r.2

end Plan

/-- What became of a computation, and the requests that it made. -/
structure Traced (ε α : Type) where
  requests : List Request
  result : Except ε α

namespace Traced

variable {ε α β : Type}

/-- A function of what a computation gives. -/
def map (f : α → β) (t : Traced ε α) : Traced ε β := ⟨t.requests, t.result.map f⟩

/-- Goes on with what a computation gives, unless it failed. -/
def andThen (t : Traced ε α) (next : α → Traced ε β) : Traced ε β :=
  match t.result with
  | .error e => ⟨t.requests, .error e⟩
  | .ok a =>
    let u := next a
    ⟨t.requests ++ u.requests, u.result⟩

end Traced

/-- Makes requests in order until one fails. -/
def askInOrder {ε γ : Type} (answer : List Request → Request → Except ε (List γ))
    (earlier : List Request) : List Request → Traced ε (List (List γ))
  | [] => ⟨[], .ok []⟩
  | r :: rest =>
    match answer earlier r with
    | .error e => ⟨[r], .error e⟩
    | .ok values =>
      let t := askInOrder answer (earlier ++ [r]) rest
      ⟨r :: t.requests, t.result.map (values :: ·)⟩

/-- Runs a plan after `earlier` requests. -/
def Plan.run {ε γ α : Type} (p : Plan γ α) (answer : List Request → Request → Except ε (List γ))
    (delayed : Bool) (earlier : List Request) : Traced ε α :=
  let t := askInOrder answer earlier p.requests
  ⟨if delayed then p.requests else t.requests, t.result.map p.finish⟩

end QueryTemplate
