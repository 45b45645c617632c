/-
# Operations on memories

Memories are reached through numbered handles.  An operation makes a handle, changes the
memory behind one or looks into it.

| operation | gives |
| --- | --- |
| `create`, `build`, `copy`, `delay` | the number of a new handle |
| `insert`, `insertFailure`, `clear` | nothing |
| `resolve` | the answer to a request, which is recorded |
| `requests`, `count` | the requests that were recorded, their number |

A copy shares the memory of its handle, also if it answers at another pace.  A memory that is
made from a draft holds what was put into the draft.
-/

import QueryTemplate.Lookup.Memory

namespace QueryTemplate
namespace Memory

/-- One thing that is put into a draft. -/
inductive Setting where
  | values (k : Key) (vs : List String)
  | failure (k : Key) (e : LookupError)
  | latency (milliseconds : Nat)
deriving DecidableEq, Repr

/-- What a memory is made from. -/
structure Draft where
  values : List (Key × List String)
  failures : List (Key × LookupError)
  /-- How long an answer takes, in milliseconds. -/
  latency : Nat
deriving Repr, Inhabited

namespace Draft

/-- A draft without anything in it. -/
def empty : Draft := ⟨[], [], 0⟩

/-- Puts something into a draft. -/
def add (d : Draft) : Setting → Draft
  | .values k vs => { d with values := (k, vs) :: d.values }
  | .failure k e => { d with failures := (k, e) :: d.failures }
  | .latency milliseconds => { d with latency := milliseconds }

/-- A draft with several things in it, later ones put in later. -/
def ofSettings (settings : List Setting) : Draft := settings.foldl add empty

/-- The memory that is made from a draft. -/
def memory (d : Draft) : Memory := ⟨d.values, d.failures, []⟩

/-- Whether answers take time. -/
def delayed (d : Draft) : Bool := 0 < d.latency

end Draft
end Memory

/-- An operation, with the number of the handle that it goes through. -/
inductive Operation where
  | create
  | build (settings : List Memory.Setting)
  | copy (handle : Nat)
  /-- A copy with a latency of its own. -/
  | delay (handle milliseconds : Nat)
  | insert (handle : Nat) (k : Key) (vs : List String)
  | insertFailure (handle : Nat) (k : Key) (e : LookupError)
  | resolve (handle : Nat) (r : Request)
  | requests (handle : Nat)
  | count (handle : Nat)
  | clear (handle : Nat)
deriving DecidableEq, Repr

/-- What an operation gives. -/
inductive Observation where
  | done
  | handle (number : Nat)
  | answer (a : Answer)
  | requests (rs : List Request)
  | count (n : Nat)
  /-- There is no handle of that number. -/
  | noHandle
deriving Repr

namespace Memories

/-- No handles. -/
def empty : Memories := ⟨[], []⟩

/-- A handle on a memory of its own that is made from a draft, and its number. -/
def build (ms : Memories) (d : Memory.Draft) : Memories × Nat :=
  (⟨ms.handles ++ [⟨ms.families.length, d.delayed⟩], ms.families ++ [d.memory]⟩,
    ms.handles.length)

/-- Goes on with the handle of a number and with its memory. -/
def withHandle (ms : Memories) (number : Nat)
    (f : Handle → Memory → Memories × Observation) : Memories × Observation :=
  match ms.handles[number]? with
  | none => (ms, .noHandle)
  | some h =>
    match ms.memory? h with
    | none => (ms, .noHandle)
    | some m => f h m

/-- What making a handle gives. -/
def made (r : Memories × Nat) : Memories × Observation := (r.1, .handle r.2)

/-- Carries out an operation. -/
def step (ms : Memories) : Operation → Memories × Observation
  | .create => made ms.create
  | .build settings => made (ms.build (.ofSettings settings))
  | .copy n => ms.withHandle n fun h _ => made (ms.copy h h.delayed)
  | .delay n milliseconds => ms.withHandle n fun h _ => made (ms.copy h (0 < milliseconds))
  | .insert n k vs => ms.withHandle n fun h _ => (ms.update h (·.insert k vs), .done)
  | .insertFailure n k e => ms.withHandle n fun h _ => (ms.update h (·.insertFailure k e), .done)
  | .resolve n r =>
    ms.withHandle n fun h m => (ms.update h (·.record [r]), .answer (m.answer r.key))
  | .requests n => ms.withHandle n fun _ m => (ms, .requests m.requests)
  | .count n => ms.withHandle n fun _ m => (ms, .count m.requests.length)
  | .clear n => ms.withHandle n fun h _ => (ms.update h (·.clear), .done)

/-- The memories after operations. -/
def after (ms : Memories) (ops : List Operation) : Memories :=
  ops.foldl (fun ms op => (ms.step op).1) ms

/-- What operations give one after the other. -/
def observations (ms : Memories) : List Operation → List Observation
  | [] => []
  | op :: rest => (ms.step op).2 :: observations (ms.step op).1 rest

end Memories
end QueryTemplate
