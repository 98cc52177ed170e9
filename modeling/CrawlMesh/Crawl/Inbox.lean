/-
# Inboxes

A pool together with the items that wait to enter it. Whoever puts an item into a full pool need
not wait: the item does, and enters when there is room. When the pool closes, what waits is
dropped.
-/
import CrawlMesh.Pool

namespace CrawlMesh

set_option autoImplicit false

/-- A pool and what waits to enter it, first one first. -/
structure Inbox (α : Type) where
  pool : Pool α
  waiting : List α
deriving Repr, Inhabited

namespace Inbox

variable {α : Type}

/-- An empty inbox of a size. -/
def new (bufferCap maxBuffers : UInt32) : Outcome (Inbox α) := do
  return ⟨← Pool.new bufferCap maxBuffers, []⟩

/-- Put an item, which waits if there is no room. Nothing if the pool is closed. -/
def put? (b : Inbox α) (x : α) : Option (Inbox α) :=
  match b.pool.tryPut x with
  | .ok pool => some { b with pool := pool }
  | .error (.full x) => some { b with waiting := b.waiting ++ [x] }
  | .error (.closed _) => none

/-- Put an item, which is dropped if the pool is closed. -/
def put (b : Inbox α) (x : α) : Inbox α := (b.put? x).getD b

/-- Let the item at a place among the waiting ones enter, or drop it if the pool is closed.
Nothing if there is no room for it. -/
def admit? (b : Inbox α) (place : Nat) : Option (Inbox α) :=
  match b.waiting[place]? with
  | none => none
  | some x =>
    let rest := b.waiting.eraseIdx place
    match b.pool.tryPut x with
    | .ok pool => some ⟨pool, rest⟩
    | .error (.full _) => none
    | .error (.closed _) => some { b with waiting := rest }

/-- Let items enter in their order as long as there is room. -/
def admitAll (b : Inbox α) : Inbox α :=
  go b.waiting.length b
where
  /-- At most so many enter. -/
  go : Nat → Inbox α → Inbox α
    | 0, b => b
    | n + 1, b =>
      match b.admit? 0 with
      | some b => go n b
      | none => b

/-- Take an item out of the pool, if it is open and holds one. -/
def take? (b : Inbox α) : Option (α × Inbox α) :=
  match b.pool.tryGet with
  | .ok (some (x, pool)) => some (x, { b with pool := pool })
  | _ => none

/-- Take everything, what waits following as room is made. -/
def drain (b : Inbox α) : List α × Inbox α :=
  go (b.pool.total + b.waiting.length) b
where
  /-- At most so many are taken. -/
  go : Nat → Inbox α → List α × Inbox α
    | 0, b => ([], b)
    | n + 1, b =>
      match b.take? with
      | some (x, b) =>
        let (rest, b) := go n b.admitAll
        (x :: rest, b)
      | none => ([], b)

/-- Close the pool. The answer tells whether it was open. -/
def close (b : Inbox α) : Bool × Inbox α :=
  let (wasOpen, pool) := b.pool.close
  (wasOpen, { b with pool := pool })

end Inbox

end CrawlMesh
