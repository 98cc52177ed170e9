/-
# Distribution

Which member of a mesh gets the next request. The members are picked in the order of their names,
beginning again behind the last one. A cursor that is past the end, because members have left,
counts as one at the start.
-/
import CrawlMesh.Mesh.Membership
import CrawlMesh.Request

namespace CrawlMesh

set_option autoImplicit false

/-- Whether the requests of the queue are distributed. -/
inductive DistributionState
  | stopped
  | running
  | paused
deriving DecidableEq, Repr, Inhabited

def DistributionState.text : DistributionState → String
  | .stopped => "stopped"
  | .running => "running"
  | .paused => "paused"

/-- The distribution of a node: its state, and the place of the member to be picked next. -/
structure Distribution where
  state : DistributionState
  cursor : Nat
deriving DecidableEq, Repr, Inhabited

namespace Distribution

/-- A distribution that is not started. -/
def new : Distribution := ⟨.stopped, 0⟩

/-- Start it, or let it go on. -/
def start (d : Distribution) : Distribution := { d with state := .running }

def pause (d : Distribution) : Distribution :=
  if d.state = .running then { d with state := .paused } else d

/-- Let it go on if it is paused. -/
def resume (d : Distribution) : Distribution :=
  if d.state = .paused then { d with state := .running } else d

def stop (d : Distribution) : Distribution := { d with state := .stopped }

/-- The change that a word stands for. -/
def change? (d : Distribution) : String → Option Distribution
  | "start" => some d.start
  | "pause" => some d.pause
  | "resume" => some d.resume
  | "stop" => some d.stop
  | _ => none

/-- The place of the member to be picked from so many. -/
def place (d : Distribution) (members : Nat) : Nat := if members ≤ d.cursor then 0 else d.cursor

/-- Pick a member, if there is any, and note on the request which one it is. -/
def assign (d : Distribution) (m : Membership) (r : Request) :
    Option String × Request × Distribution :=
  match m.members[d.place m.size]? with
  | none => (none, r, d)
  | some node =>
    (some node.name, { r with nodeName := some node.name },
      { d with cursor := d.place m.size + 1 })

end Distribution

end CrawlMesh
