/-
# Schedulers

A scheduler takes a spider through its life: it prepares a session with modules, starts, pauses
and stops the work on it, and accepts requests. Stopping is two steps, since work in progress is
finished in between: nothing else may begin then.
-/
import CrawlMesh.Crawl.Session
import CrawlMesh.Registrar
import CrawlMesh.Status

namespace CrawlMesh

set_option autoImplicit false

/-- What the stages of a scheduler are told to do. -/
inductive RunState
  | paused
  | running
  | stopped
deriving DecidableEq, Repr, Inhabited

/-- A scheduler. A crew is a set of workers, one for every stage, that works on the session. With
an outlet, the requests found on pages go to the queue of that number and not to the session. -/
structure Scheduler where
  status : Status
  run : RunState
  session : Option Session
  crews : Nat
  registrar : Registrar Worker
  outlet : Option Nat
  maxConcurrency : Nat

namespace Scheduler

/-- How much a stage works on at a time, unless said otherwise. -/
def usualConcurrency : Nat := 16

/-- A scheduler with nothing prepared. A stage works on one unit at least. -/
def new (maxConcurrency : Nat) : Scheduler where
  status := .unprepared
  run := .paused
  session := none
  crews := 0
  registrar := .empty
  outlet := none
  maxConcurrency := max maxConcurrency 1

/-! ## Preparing -/

/-- Register modules one after the other, up to the first that is refused. -/
def registerAll (registrar : Registrar Worker) :
    List (Module Worker) → Outcome Unit × Registrar Worker
  | [] => (.ok (), registrar)
  | m :: rest =>
    match registrar.register m with
    | .error e => (.error e, registrar)
    | .ok (_, registrar) => registerAll registrar rest

/-- Give the scheduler a new session and new modules. -/
def prepare (s : Scheduler) (policy : CrawlPolicy) (sizes : PoolSizes) (modules : ModuleSet) :
    Outcome Unit × Scheduler :=
  match Session.new policy sizes with
  | .error e => (.error e, s)
  | .ok session =>
    match registerAll .empty modules.all with
    | (.error e, registrar) => (.error e, { s with registrar := registrar })
    | (.ok _, registrar) =>
      (.ok (), { s with registrar := registrar, session := some session, run := .paused })

/-- The arguments of a preparation have to be sensible. -/
def checkArguments (policy : CrawlPolicy) (sizes : PoolSizes) (modules : ModuleSet) :
    Outcome Unit := do
  policy.check
  sizes.check
  modules.check

/-- Prepare the scheduler, if it is not; a stopped one can be prepared again. A preparation that
fails leaves the status as it was. -/
def init (s : Scheduler) (policy : CrawlPolicy) (sizes : PoolSizes) (modules : ModuleSet) :
    Outcome Unit × Scheduler :=
  match checkArguments policy sizes modules with
  | .error e => (.error e, s)
  | .ok _ =>
    let previous := s.status
    if previous = .prepared then (.ok (), s)
    else
      match (if previous = .stopped then Status.unprepared else previous).check .preparing with
      | .error e => (.error e, s)
      | .ok _ =>
        match { s with status := .preparing }.prepare policy sizes modules with
        | (.ok _, s) => (.ok (), { s with status := .prepared })
        | (.error e, s) => (.error e, { s with status := previous })

/-! ## Requests -/

/-- Accept a request, unless the scheduler is not prepared or stopped. -/
def send (s : Scheduler) (r : Request) : Bool × Scheduler :=
  match s.session with
  | none => (false, s)
  | some session =>
    if s.run = .stopped then (false, s)
    else
      let (accepted, session) := session.send r
      (accepted, { s with session := some session })

def sendAll (s : Scheduler) (l : List Request) : Scheduler := l.foldl (fun s r => (s.send r).2) s

/-- Has an address been accepted in the present session? -/
def has (s : Scheduler) (url : Url) : Bool :=
  match s.session with
  | some session => session.has url
  | none => false

/-- How many addresses the present session has accepted. -/
def urlCount (s : Scheduler) : Nat := ((s.session).map (·.seen.length)).getD 0

/-- How many requests are in the pool of the present session. -/
def requestCount (s : Scheduler) : Nat := ((s.session).map (·.requests.pool.total)).getD 0

/-! ## Starting, pausing and stopping -/

def noSession : CrawlError := .statusConflict "scheduler has no prepared session"

/-- Start a prepared scheduler or a paused one, with first requests that all have to pass. A start
that fails leaves the status as it was. A crew begins to work on a prepared session; that of a
paused one is at work already. -/
def start (s : Scheduler) (seeds : Option (List Request)) : Outcome Unit × Scheduler :=
  match s.status.check .starting with
  | .error e => (.error e, s)
  | .ok _ =>
    let previous := s.status
    let s := { s with status := .starting }
    match s.session with
    | none => (.error noSession, { s with status := previous })
    | some session =>
      match (seeds.getD []).forM session.checkSeed with
      | .error e => (.error e, { s with status := previous })
      | .ok _ =>
        let crews := if previous = .prepared then s.crews + 1 else s.crews
        let s := { s with crews := crews, run := .running, status := .started }
        (.ok (), s.sendAll (seeds.getD []))

def pause (s : Scheduler) : Outcome Unit × Scheduler :=
  match s.status.check .pausing with
  | .error e => (.error e, s)
  | .ok _ => (.ok (), { s with run := .paused, status := .paused })

/-- Let a paused scheduler go on. -/
def recover (s : Scheduler) : Outcome Unit × Scheduler :=
  if s.status ≠ .paused then
    (.error (.statusConflict s!"cannot recover a {s.status.text} scheduler"), s)
  else
    match s.status.check .starting with
    | .error e => (.error e, s)
    | .ok _ => (.ok (), { s with run := .running, status := .started })

/-- Begin to stop: no work is taken on any more, and all pools close. -/
def beginStop (s : Scheduler) : Outcome Unit × Scheduler :=
  match s.status.check .stopping with
  | .error e => (.error e, s)
  | .ok _ =>
    (.ok (), { s with status := .stopping, run := .stopped, session := s.session.map Session.close })

/-- How many units of work are counted as in progress. -/
def inProgress (s : Scheduler) : Nat := ((s.session).map Session.inProgress).getD 0

/-- How many units are in the hands of the stages. -/
def inHands (s : Scheduler) : Nat := ((s.session).map Session.inHands).getD 0

/-- End a stop, once the stages have nothing in their hands and the crews have gone. -/
def endStop? (s : Scheduler) : Option Scheduler :=
  if s.status = .stopping && s.inHands == 0 then
    some { s with status := .stopped, crews := 0 }
  else none

/-- All errors reported so far, those that wait for room following as it is made, and whether
there will be no more. -/
def takeErrors (s : Scheduler) : (List CrawlError × Bool) × Scheduler :=
  match s.session with
  | none => (([], true), s)
  | some session =>
    let (errors, inbox) := session.errors.drain
    ((errors, inbox.pool.closed), { s with session := some { session with errors := inbox } })

/-! ## Looking at a scheduler -/

/-- Is nothing left to do? -/
def idle (s : Scheduler) : Bool :=
  match s.session with
  | none => false
  | some session =>
    session.requests.pool.isEmpty && session.responses.isEmpty && session.items.isEmpty
      && session.inProgress == 0 && s.registrar.modules.all (·.meter.counts.handling == 0)

/-- A pool as it is shown. -/
def poolJson {α : Type} (p : Pool α) : Json :=
  .object [("buffer_cap", .nat p.bufferCap), ("max_buffer_number", .nat p.maxBuffers),
    ("buffer_number", .nat p.buffers.length), ("total", .nat p.total), ("closed", .bool p.closed)]

/-- All there is to see of a scheduler. -/
def summary (s : Scheduler) : Json :=
  let modules (role : Role) : Json := .list ((s.registrar.ofRole role).map Module.summary)
  let part (f : Session → Json) : Json := Json.ofOption f s.session
  .object [
    ("status", .text s.status.text),
    ("request_args", part (·.policy.toJson)), ("data_args", part (·.sizes.toJson)),
    ("downloaders", modules .downloader), ("analyzers", modules .analyzer),
    ("pipelines", modules .pipeline),
    ("req_buffer", part (poolJson ·.requests.pool)), ("resp_buffer", part (poolJson ·.responses)),
    ("item_buffer", part (poolJson ·.items)), ("error_buffer", part (poolJson ·.errors.pool)),
    ("url_number", .nat s.urlCount), ("in_flight", .nat s.inProgress)]

end Scheduler

end CrawlMesh
