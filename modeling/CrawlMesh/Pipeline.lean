/-
# Pipelines

A pipeline sends an item through its steps in order. A step that fails leaves the item to the
next step as it was; a pipeline that fails fast stops there.
-/
import CrawlMesh.Meter
import CrawlMesh.Processor

namespace CrawlMesh

set_option autoImplicit false

/-- A pipeline: steps in the order in which they run. -/
structure Pipeline (σ : Type) where
  steps : List (Processor σ)
  failFast : Bool

namespace Pipeline

variable {σ : Type}

/-- A pipeline of at least one step. -/
def of (steps : List (Processor σ)) (failFast : Bool) : Outcome (Pipeline σ) :=
  if steps.isEmpty then .error (.argument "pipeline needs at least one item processor")
  else .ok ⟨steps, failFast⟩

/-- The error of the step at a place. -/
def stepError (place : Nat) (e : CrawlError) : CrawlError := e.inStage .process s!"processor #{place}"

/-- What comes out of a pipeline: the last item that a step made, and the errors. -/
structure Result where
  item : Item
  errors : List CrawlError
deriving Repr, Inhabited

/-- Run steps from a place on. -/
def runFrom (failFast : Bool) (place : Nat) (item : Item) (s : σ) :
    List (Processor σ) → Result × σ
  | [] => (⟨item, []⟩, s)
  | step :: rest =>
    match step item s with
    | (.ok next, s) => runFrom failFast (place + 1) next s rest
    | (.error e, s) =>
      if failFast then (⟨item, [stepError place e]⟩, s)
      else
        let (r, s) := runFrom failFast (place + 1) item s rest
        ({ r with errors := stepError place e :: r.errors }, s)

/-- Send an item through all steps. -/
def run (p : Pipeline σ) (item : Item) (s : σ) : Result × σ := runFrom p.failFast 0 item s p.steps

/-- A call of a pipeline with a meter. Every item is accepted. -/
def call (p : Pipeline σ) (m : Meter) (item : Item) (s : σ) : Result × σ × Meter :=
  let (r, s) := p.run item s
  (r, s, m.count true r.errors.isEmpty)

end Pipeline

end CrawlMesh
