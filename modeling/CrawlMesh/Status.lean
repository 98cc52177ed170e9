/-
# The life of a scheduler

The statuses of a scheduler and which of them may follow which. A change passes through a
transitional status, and while one is in force no other change begins.
-/
import CrawlMesh.Error

namespace CrawlMesh

set_option autoImplicit false

/-- The statuses of a scheduler. -/
inductive Status
  | unprepared
  | preparing
  | prepared
  | starting
  | started
  | pausing
  | paused
  | stopping
  | stopped
deriving DecidableEq, Repr, Inhabited

namespace Status

def all : List Status :=
  [.unprepared, .preparing, .prepared, .starting, .started, .pausing, .paused, .stopping, .stopped]

def text : Status → String
  | .unprepared => "unprepared"
  | .preparing => "preparing"
  | .prepared => "prepared"
  | .starting => "starting"
  | .started => "started"
  | .pausing => "pausing"
  | .paused => "paused"
  | .stopping => "stopping"
  | .stopped => "stopped"

def ofText? (s : String) : Option Status := all.find? (·.text == s)

/-- Is a change under way? -/
def isTransitional : Status → Bool
  | .preparing | .starting | .pausing | .stopping => true
  | _ => false

/-- Why a change is refused. -/
inductive Refusal
  | busy
  | notTransitional
  | notAllowed
deriving DecidableEq, Repr

def Refusal.message : Refusal → String
  | .busy => "scheduler is busy"
  | .notTransitional => "not a transitional status"
  | .notAllowed => "transition not allowed"

/-- The statuses from which a transitional status may be entered. -/
def origins? : Status → Option (List Status)
  | .preparing => some [.unprepared]
  | .starting => some [.prepared, .paused]
  | .pausing => some [.started]
  | .stopping => some [.started, .paused]
  | _ => none

/-- Why `wanted` cannot follow `current`, if it cannot. -/
def refusal? (current wanted : Status) : Option Refusal :=
  if current.isTransitional then some .busy
  else
    match wanted.origins? with
    | none => some .notTransitional
    | some origins => if origins.contains current then none else some .notAllowed

/-- May `wanted` follow `current`? -/
def check (current wanted : Status) : Outcome Unit :=
  match refusal? current wanted with
  | none => .ok ()
  | some why => .error (.statusConflict s!"{current.text} -> {wanted.text}: {why.message}")

end Status

end CrawlMesh
