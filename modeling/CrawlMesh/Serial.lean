/-
# Serial numbers

A generator runs through the numbers from its start to its maximum and begins again, counting
the rounds.
-/
namespace CrawlMesh

set_option autoImplicit false

/-- A generator of serial numbers. -/
structure Serial where
  start : UInt64
  max : UInt64
  next : UInt64
  rounds : UInt64
deriving DecidableEq, Repr, Inhabited

namespace Serial

/-- A new generator. A maximum of zero means the largest number there is, and a start beyond the
maximum counts as the maximum. -/
def new (start max : UInt64) : Serial :=
  let max := if max == 0 then 0xFFFFFFFFFFFFFFFF else max
  let start := if start ≤ max then start else max
  ⟨start, max, start, 0⟩

/-- The next number, and the generator after it. -/
def get (s : Serial) : UInt64 × Serial :=
  if s.next == s.max then (s.next, { s with next := s.start, rounds := s.rounds + 1 })
  else (s.next, { s with next := s.next + 1 })

/-- The next numbers in turn, each with the generator after it. -/
def run (s : Serial) : Nat → List (UInt64 × Serial)
  | 0 => []
  | n + 1 =>
    let (k, s) := s.get
    (k, s) :: run s n

end Serial

end CrawlMesh
