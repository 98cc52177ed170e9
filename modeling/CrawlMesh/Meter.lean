/-
# Meters

Every module counts its work: the calls, how many of them were accepted, how many completed, and
how many are in progress. From the counts comes a score, low for a module with little to do.
-/
import CrawlMesh.Json.Record
import CrawlMesh.ModuleId

namespace CrawlMesh

set_option autoImplicit false

/-- The counts of a module. They wrap around at the end of their range. -/
structure Counts where
  called : UInt64
  accepted : UInt64
  completed : UInt64
  handling : UInt64
deriving DecidableEq, Repr, Inhabited

namespace Counts

def zero : Counts := ⟨0, 0, 0, 0⟩

/-- The usual score: every further stage that a call has reached weighs twice the one before. -/
def simpleScore (c : Counts) : UInt64 :=
  c.called + (c.accepted <<< 1) + (c.completed <<< 2) + (c.handling <<< 4)

def fieldNames : List String := ["called", "accepted", "completed", "handling"]

def fields (c : Counts) : Json.Fields :=
  fieldNames.zip [.nat c.called.toNat, .nat c.accepted.toNat, .nat c.completed.toNat,
    .nat c.handling.toNat]

def toJson (c : Counts) : Json := .object c.fields

def ofJson? (j : Json) : Option Counts := do
  match ← j.slots? fieldNames with
  | [called, accepted, completed, handling] =>
    some ⟨← called.required Json.asUInt64?, ← accepted.required Json.asUInt64?,
      ← completed.required Json.asUInt64?, ← handling.required Json.asUInt64?⟩
  | _ => none

end Counts

/-- The identity of a module, its counts and its last score. -/
structure Meter where
  id : ModuleId
  role : Role
  calculator : Counts → UInt64
  counts : Counts
  score : UInt64

namespace Meter

/-- The meter of a new module; the identifier has to be well formed. -/
def new (id : ModuleId) (calculator : Counts → UInt64) : Outcome Meter := do
  return ⟨id, ← id.role, calculator, .zero, 0⟩

def called (m : Meter) : Meter := { m with counts.called := m.counts.called + 1 }

def accepted (m : Meter) : Meter := { m with counts.accepted := m.counts.accepted + 1 }

def completed (m : Meter) : Meter := { m with counts.completed := m.counts.completed + 1 }

/-- One more call is in progress. -/
def hold (m : Meter) : Meter := { m with counts.handling := m.counts.handling + 1 }

/-- A call is over. -/
def release (m : Meter) : Meter := { m with counts.handling := m.counts.handling - 1 }

/-- A call begins, and is accepted or not. -/
def begin (m : Meter) (accepts : Bool) : Meter :=
  if accepts then m.hold.called.accepted else m.hold.called

/-- A call is over, completed or not. -/
def finish (m : Meter) (completes : Bool) : Meter :=
  if completes then m.completed.release else m.release

/-- A call from its beginning to its end. -/
def count (m : Meter) (accepts completes : Bool) : Meter := (m.begin accepts).finish completes

def setScore (m : Meter) (score : UInt64) : Meter := { m with score := score }

/-- Compute the score anew. -/
def updateScore (m : Meter) : Meter := m.setScore (m.calculator m.counts)

def clear (m : Meter) : Meter := { m with counts := .zero, score := 0 }

/-- The counts as a summary, with what the module adds to it. -/
def summary (m : Meter) (extra : Option Json) : Json :=
  .object (("id", .text m.id.text) :: m.counts.fields
    ++ (match extra with
        | some j => [("extra", j)]
        | none => []))

/-- Refuse an identifier of another role. -/
def expect (m : Meter) (role : Role) : Outcome Unit :=
  if m.role = role then .ok ()
  else .error (.argument s!"module {m.id.text} is not a {role.text}")

/-- The meter of a new module of a role. -/
def ofRole (id : ModuleId) (calculator : Counts → UInt64) (role : Role) : Outcome Meter := do
  let m ← new id calculator
  m.expect role
  return m

end Meter

end CrawlMesh
