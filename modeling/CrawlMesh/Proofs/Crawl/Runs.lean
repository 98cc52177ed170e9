/-
# Runs of a scheduler

What can happen to a scheduler is an operation, the end of a stop that waits, a request that is
sent to it, or a move of the work on its session (`Event`).  The moves go on while a stop waits,
and so may every operation.  A run takes events one after the other and keeps a record of them
(`run?`); what holds at its start and is kept by every event holds at its end (`run?_induction`).
Where no record is needed, `Reaches` tells where a scheduler can get by events that are allowed.
-/
import CrawlMesh.Proofs.Crawl.Moves

namespace CrawlMesh.Scheduler

set_option autoImplicit false

/-! ## Events -/

/-- An operation of the life of a scheduler. A stop only begins; it ends by an event of its own. -/
inductive Operation
  | init (policy : CrawlPolicy) (sizes : PoolSizes) (modules : ModuleSet)
  | start (seeds : Option (List Request))
  | pause
  | recover
  | stop

/-- What an operation answers, and the scheduler after it. -/
def perform (s : Scheduler) : Operation → Outcome Unit × Scheduler
  | .init policy sizes modules => s.init policy sizes modules
  | .start seeds => s.start seeds
  | .pause => s.pause
  | .recover => s.recover
  | .stop => s.beginStop

/-- What can happen to a scheduler. A move may put a request into the queue of the outlet, which
is arbitrary. -/
inductive Event
  | operation (op : Operation)
  | endStop
  | send (r : Request)
  | work (queue : Inbox Request) (m : Move)

/-- The scheduler after an event, if it is possible. -/
def step? (s : Scheduler) : Event → Option Scheduler
  | .operation op => some (s.perform op).2
  | .endStop => s.endStop?
  | .send r => some (s.send r).2
  | .work queue m => (s.move? queue m).map (·.1)

/-! ## Runs -/

/-- The scheduler after events that are all possible, and a record that every event adds to. -/
def run? {γ : Type} (record : γ → Scheduler → Event → γ) (s : Scheduler) (g : γ) :
    List Event → Option (Scheduler × γ)
  | [] => some (s, g)
  | e :: rest => (s.step? e).bind fun t => run? record t (record g s e) rest

theorem run?_induction {γ : Type} {record : γ → Scheduler → Event → γ}
    {P : Scheduler → γ → Prop}
    (step : ∀ s g e t, P s g → s.step? e = some t → P t (record g s e))
    {s t : Scheduler} {g after : γ} {events : List Event} (start : P s g)
    (run : run? record s g events = some (t, after)) : P t after := by
  induction events generalizing s g with
  | nil =>
      cases run
      exact start
  | cons e rest ih =>
      obtain ⟨middle, next, run⟩ := Option.bind_eq_some_iff.mp run
      exact ih (step s g e middle start next) run

/-- Where a scheduler can get by events of which each is allowed when it happens. -/
inductive Reaches (allowed : Scheduler → Event → Prop) (s : Scheduler) : Scheduler → Prop
  | start : Reaches allowed s s
  | step {t u : Scheduler} {e : Event} (reached : Reaches allowed s t) (may : allowed t e)
      (happens : t.step? e = some u) : Reaches allowed s u

/-- What every event keeps that is allowed holds wherever a scheduler can get. -/
theorem Reaches.keeps {allowed : Scheduler → Event → Prop} {P : Scheduler → Prop} {s t : Scheduler}
    (reached : Reaches allowed s t) (start : P s)
    (step : ∀ t e u, P t → allowed t e → t.step? e = some u → P u) : P t := by
  induction reached with
  | start => exact start
  | step _ may happens ih => exact step _ _ _ ih may happens

/-! ## Modules and requests to run with -/

/-- A module as it is registered first. -/
def freshModule (id : String) (role : Role) (body : Worker) : Module Worker :=
  ⟨role, ⟨⟨id⟩, role, Counts.simpleScore, .zero, 0⟩, body⟩

/-- One module of every role, which all do nothing. -/
def oneOfEach : ModuleSet where
  downloaders :=
    [freshModule "D1" .downloader (.downloader ⟨fun _ => .unanswered (.transport "offline"), none⟩)]
  analyzers := [freshModule "A2" .analyzer (.analyzer ⟨[fun _ => .empty]⟩)]
  pipelines :=
    [freshModule "P3" .pipeline (.pipeline ⟨[fun item storage => (.ok item, storage)], true⟩)]

/-- The request for a file of a small site. -/
def page (file : String) : Request :=
  .ofUrl ⟨"http", some ⟨"", none, .domain "a.bc", none⟩, .segments [file], none, none⟩

end CrawlMesh.Scheduler
