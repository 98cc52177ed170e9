/-
# Pools

A pool is a bounded queue in several buffers. A buffer is added when all are full and taken away
when it drains, so that an idle pool has a single one. Items leave from the buffers in turn, and
how many there are is counted as they come and go. A closed pool is empty and takes and gives
nothing.
-/
import CrawlMesh.Error

namespace CrawlMesh

set_option autoImplicit false

/-! ## Buffers -/

/-- A bounded queue. -/
structure Buffer (α : Type) where
  cap : Nat
  items : List α
deriving Repr, Inhabited

namespace Buffer

variable {α : Type}

def new (cap : Nat) : Buffer α := ⟨cap, []⟩

def isFull (b : Buffer α) : Bool := b.cap ≤ b.items.length

def isEmpty (b : Buffer α) : Bool := b.items.isEmpty

/-- The buffer with an item more, if there is room. -/
def put? (b : Buffer α) (x : α) : Option (Buffer α) :=
  if b.isFull then none else some { b with items := b.items ++ [x] }

/-- The oldest item and the buffer without it. -/
def take? (b : Buffer α) : Option (α × Buffer α) :=
  match b.items with
  | [] => none
  | x :: rest => some (x, { b with items := rest })

end Buffer

/-! ## Pools -/

/-- Why an item was not taken; it is handed back. -/
inductive PutRefusal (α : Type)
  | full (item : α)
  | closed (item : α)
deriving Repr

namespace PutRefusal

def item {α : Type} : PutRefusal α → α
  | .full x | .closed x => x

/-- The refusal in running text. -/
def text {α : Type} : PutRefusal α → String
  | .full _ => "PutError::Full(..)"
  | .closed _ => "PutError::Closed(..)"

end PutRefusal

/-- A pool. The total counts the items in all buffers. The cursor tells from which buffer the
next item is taken, if it has one. -/
structure Pool (α : Type) where
  bufferCap : Nat
  maxBuffers : Nat
  buffers : List (Buffer α)
  total : Nat
  cursor : Nat
  closed : Bool
deriving Repr, Inhabited

namespace Pool

variable {α : Type}

/-- A new pool of one empty buffer. -/
def new (bufferCap maxBuffers : UInt32) : Outcome (Pool α) :=
  if bufferCap == 0 then .error (.argument "zero buffer capacity")
  else if maxBuffers == 0 then .error (.argument "zero max buffer number")
  else .ok ⟨bufferCap.toNat, maxBuffers.toNat, [.new bufferCap.toNat], 0, 0, false⟩

/-- The largest number that a count can be. -/
def largestCount : Nat := UInt64.size - 1

/-- How many items a pool may hold. -/
def ceiling (p : Pool α) : Nat := min (p.bufferCap * p.maxBuffers) largestCount

def isEmpty (p : Pool α) : Bool := p.total == 0

/-- Put an item into the first buffer with room, or into a new one. Nothing if that buffer
refuses it. -/
def putFirst (cap : Nat) (x : α) : List (Buffer α) → Option (List (Buffer α))
  | [] => ((Buffer.new cap).put? x).map fun b => [b]
  | b :: rest =>
    if b.isFull then (putFirst cap x rest).map (b :: ·)
    else (b.put? x).map (· :: rest)

/-- Put an item, if the pool is open and has room. -/
def tryPut (p : Pool α) (x : α) : Except (PutRefusal α) (Pool α) :=
  if p.closed then .error (.closed x)
  else if p.ceiling ≤ p.total then .error (.full x)
  else
    match putFirst p.bufferCap x p.buffers with
    | some buffers => .ok { p with buffers := buffers, total := p.total + 1 }
    | none => .error (.full x)

/-- The places of `count` buffers in turn, from a start on. -/
def turn (start count : Nat) : List Nat := (List.range count).map fun i => (start + i) % count

/-- Take the oldest item out of the buffer at a place. -/
def takeAt (buffers : List (Buffer α)) (i : Nat) : Option (α × Buffer α) :=
  buffers[i]?.bind Buffer.take?

/-- The first place in turn whose buffer gives an item. -/
def firstFilled (buffers : List (Buffer α)) : List Nat → Option (Nat × α × Buffer α)
  | [] => none
  | i :: rest =>
    match takeAt buffers i with
    | some (x, b) => some (i, x, b)
    | none => firstFilled buffers rest

def getClosed : CrawlError := .capacity "get from a closed pool"

def putClosed : CrawlError := .capacity "put into a closed pool"

/-- Take an item, if there is one, out of an open pool. -/
def tryGet (p : Pool α) : Outcome (Option (α × Pool α)) :=
  if p.closed then .error getClosed
  else if p.total == 0 then .ok none
  else
    match firstFilled p.buffers (turn (p.cursor % p.buffers.length) p.buffers.length) with
    | none => .ok none
    | some (i, x, b) =>
      let rest := { p with total := p.total - 1 }
      if b.isEmpty && p.buffers.length > 1 then
        .ok (some (x, { rest with buffers := p.buffers.eraseIdx i, cursor := i }))
      else .ok (some (x, { rest with buffers := p.buffers.set i b, cursor := i + 1 }))

/-- Close a pool and drop what it holds. The answer tells whether it was open. -/
def close (p : Pool α) : Bool × Pool α :=
  if p.closed then (false, p)
  else
    (true, { p with
      closed := true, buffers := p.buffers.map fun b => { b with items := [] }, total := 0 })

/-- The state of a pool in running text. -/
def text (p : Pool α) : String :=
  "Pool \x7b buffer_cap: " ++ toString p.bufferCap ++ ", max_buffer_number: " ++
    toString p.maxBuffers ++ ", buffer_number: " ++ toString p.buffers.length ++ ", total: " ++
    toString p.total ++ ", closed: " ++ toString p.closed ++ " \x7d"

/-- Everything that can be taken, and the pool after it. -/
def drain (p : Pool α) : List α × Pool α :=
  go (p.total + 1) p
where
  /-- Take item after item. -/
  go : Nat → Pool α → List α × Pool α
    | 0, p => ([], p)
    | fuel + 1, p =>
      match p.tryGet with
      | .ok (some (x, p)) =>
        let (rest, p) := go fuel p
        (x :: rest, p)
      | _ => ([], p)

/-! ## Waiting -/

/-- An operation that waits for room or for an item. -/
inductive Wait (α : Type)
  | put (item : α)
  | get
deriving Repr

/-- Try a waiting operation: nothing if it still has to wait, or how it ended. -/
def attempt (p : Pool α) : Wait α → Option (Outcome (Option α) × Pool α)
  | .put x =>
    match p.tryPut x with
    | .ok p => some (.ok none, p)
    | .error (.closed _) => some (.error putClosed, p)
    | .error (.full _) => none
  | .get =>
    match p.tryGet with
    | .ok (some (x, p)) => some (.ok (some x), p)
    | .ok none => none
    | .error e => some (.error e, p)

/-- What became of waiting operations: the pool, those that wait on, and the others with their
ends, first one first. -/
structure Settled (ι α : Type) where
  pool : Pool α
  waiting : List (ι × Wait α)
  done : List (ι × Outcome (Option α))

/-- Try every waiting operation once. -/
def attemptAll {ι : Type} (p : Pool α) : List (ι × Wait α) → Settled ι α
  | [] => ⟨p, [], []⟩
  | (i, w) :: rest =>
    match p.attempt w with
    | some (r, p) =>
      let s := attemptAll p rest
      { s with done := (i, r) :: s.done }
    | none =>
      let s := attemptAll p rest
      { s with waiting := (i, w) :: s.waiting }

/-- Try all waiting operations, again and again, until none of them ends. -/
def settle {ι : Type} (p : Pool α) (waiting : List (ι × Wait α)) : Settled ι α :=
  go (waiting.length + 1) p waiting
where
  /-- Every round but the last one ends an operation. -/
  go : Nat → Pool α → List (ι × Wait α) → Settled ι α
    | 0, p, waiting => ⟨p, waiting, []⟩
    | fuel + 1, p, waiting =>
      let s := attemptAll p waiting
      if s.done.isEmpty then s
      else
        let t := go fuel s.pool s.waiting
        { t with done := s.done ++ t.done }

end Pool

end CrawlMesh
