/-
# The registrar

All modules of a scheduler in the order of their identifiers. Work goes to the module of a role
with the lowest score; of several the first one gets it.
-/
import CrawlMesh.Meter

namespace CrawlMesh

set_option autoImplicit false

/-- A module: what it is registered as, its meter, and what it works with. -/
structure Module (α : Type) where
  role : Role
  meter : Meter
  body : α

namespace Module

variable {α : Type}

def id (m : Module α) : ModuleId := m.meter.id

/-- A module in running text. -/
def text (m : Module α) : String := s!"{m.role.text}({m.id.text})"

def withRole (m : Module α) (role : Role) : Module α := { m with role := role }

def updateScore (m : Module α) : Module α := { m with meter := m.meter.updateScore }

end Module

/-- Modules in ascending order of their identifiers, no two with the same one. -/
structure Registrar (α : Type) where
  modules : List (Module α)

namespace Registrar

variable {α : Type}

def empty : Registrar α := ⟨[]⟩

def get? (r : Registrar α) (id : ModuleId) : Option (Module α) := r.modules.find? (·.id == id)

/-- Put a module at its place among modules in ascending order. -/
def insertModule (m : Module α) : List (Module α) → List (Module α)
  | [] => [m]
  | n :: rest =>
    if m.id.text < n.id.text then m :: n :: rest
    else if m.id == n.id then m :: rest
    else n :: insertModule m rest

/-- Register a module in place of one with the same identifier. The answer tells whether there
was none. -/
def register (r : Registrar α) (m : Module α) : Outcome (Bool × Registrar α) := do
  let parts ← m.id.parts
  if parts.role = m.role then
    return ((r.get? m.id).isNone, ⟨insertModule m r.modules⟩)
  else
    throw (.argument s!"module type mismatch: MID {m.id.text} is a {parts.role.text}, module is a {m.role.text}")

/-- Take a module out. -/
def unregister (r : Registrar α) (id : ModuleId) : Outcome (Module α × Registrar α) := do
  let role ← id.role
  match r.get? id with
  | some m =>
    if m.role = role then return (m, ⟨r.modules.filter (·.id != id)⟩)
    else throw (.notFound s!"module {id.text}")
  | none => throw (.notFound s!"module {id.text}")

/-- The modules of a role. -/
def ofRole (r : Registrar α) (role : Role) : List (Module α) :=
  r.modules.filter (·.role == role)

/-- The first of the modules with the lowest score. -/
def leastLoaded : List (Module α) → Option (Module α)
  | [] => none
  | m :: rest =>
    match leastLoaded rest with
    | none => some m
    | some n => if m.meter.score ≤ n.meter.score then some m else some n

/-- Compute the scores of all modules of a role. -/
def updateScores (r : Registrar α) (role : Role) : Registrar α :=
  ⟨r.modules.map fun m => if m.role = role then m.updateScore else m⟩

def noneRegistered (role : Role) : CrawlError := .notFound s!"no {role.text} registered"

/-- The module of a role that has least to do, after computing the scores of the role. -/
def select (r : Registrar α) (role : Role) : Outcome (Module α) × Registrar α :=
  let r := r.updateScores role
  match leastLoaded (r.ofRole role) with
  | some m => (.ok m, r)
  | none => (.error (noneRegistered role), r)

/-- All modules of a role, of which there has to be one. -/
def allOfRole (r : Registrar α) (role : Role) : Outcome (List (Module α)) :=
  match r.ofRole role with
  | [] => .error (noneRegistered role)
  | ms => .ok ms

/-- Change the module of an identifier. -/
def modify (r : Registrar α) (id : ModuleId) (f : Module α → Module α) : Registrar α :=
  ⟨r.modules.map fun m => if m.id == id then f m else m⟩

/-- Change the meter of a module. -/
def modifyMeter (r : Registrar α) (id : ModuleId) (f : Meter → Meter) : Registrar α :=
  r.modify id fun m => { m with meter := f m.meter }

end Registrar

end CrawlMesh
