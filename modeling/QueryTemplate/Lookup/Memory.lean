/-
# Answers kept in memory

A `Memory` holds values and failures by kind and name, and the requests that it got.
A failure hides the values of its placeholder; a placeholder that is not there has no
values.  Handles made from one another by copying share their memory; `Memories` keeps
all of them apart from those of other families.
-/

import QueryTemplate.Lookup

namespace QueryTemplate

/-- What a placeholder is kept under. -/
structure Key where
  kind : Kind
  name : String
deriving DecidableEq, Repr

/-- The key of a request. -/
def Request.key (r : Request) : Key := ⟨r.kind, r.name⟩

/-- The entry for a key that was made last; newer entries stand in front. -/
def newestOf? {α : Type} (k : Key) (entries : List (Key × α)) : Option α :=
  (entries.find? fun e => e.1 == k).map Prod.snd

/-- Values, failures and requests. -/
structure Memory where
  values : List (Key × List String)
  failures : List (Key × LookupError)
  requests : List Request
deriving Repr, Inhabited

namespace Memory

/-- A memory without entries. -/
def empty : Memory := ⟨[], [], []⟩

/-- Keeps the values of a placeholder. -/
def insert (m : Memory) (k : Key) (vs : List String) : Memory :=
  { m with values := (k, vs) :: m.values }

/-- Lets lookups of a placeholder fail. -/
def insertFailure (m : Memory) (k : Key) (e : LookupError) : Memory :=
  { m with failures := (k, e) :: m.failures }

/-- The answer for a placeholder. -/
def answer (m : Memory) (k : Key) : Answer :=
  match newestOf? k m.failures with
  | some e => .error e
  | none => .ok ((newestOf? k m.values).getD [])

/-- Records requests. -/
def record (m : Memory) (rs : List Request) : Memory :=
  { m with requests := m.requests ++ rs }

/-- Forgets the requests. -/
def clear (m : Memory) : Memory := { m with requests := [] }

/-- The memory as a resolver. -/
def resolver (m : Memory) (delayed : Bool) : Resolver :=
  ⟨fun _ r => m.answer r.key, delayed⟩

end Memory

/-- A handle on a memory of a family. -/
structure Handle where
  family : Nat
  delayed : Bool
deriving DecidableEq, Repr, Inhabited

/-- Handles, and the memories of their families. -/
structure Memories where
  handles : List Handle
  families : List Memory
deriving Repr, Inhabited

namespace Memories

/-- One handle on a memory. -/
def ofMemory (m : Memory) (delayed : Bool) : Memories := ⟨[⟨0, delayed⟩], [m]⟩

/-- The memory of a handle. -/
def memory? (ms : Memories) (h : Handle) : Option Memory := ms.families[h.family]?

/-- A further handle on the same memory, and its number. -/
def copy (ms : Memories) (h : Handle) (delayed : Bool) : Memories × Nat :=
  ({ ms with handles := ms.handles ++ [⟨h.family, delayed⟩] }, ms.handles.length)

/-- A handle on an empty memory of its own, and its number. -/
def create (ms : Memories) : Memories × Nat :=
  (⟨ms.handles ++ [⟨ms.families.length, false⟩], ms.families ++ [.empty]⟩, ms.handles.length)

/-- Changes the memory of a handle. -/
def update (ms : Memories) (h : Handle) (f : Memory → Memory) : Memories :=
  { ms with families := ms.families.modify h.family f }

end Memories
end QueryTemplate
