/-
# Spiders

A spider is a definition with the scheduler that crawls by it. It is started with the first
requests of its definition on one node of a mesh, and without any on the others, where work
arrives from elsewhere.
-/
import CrawlMesh.Crawl.Work

namespace CrawlMesh

set_option autoImplicit false

/-! ## Statuses -/

/-- What is told of a spider: the calls of its downloaders, how many completed and how many are
under way, the requests in its pool, and the moments of its last start and stop. -/
structure SpiderStatus where
  name : String
  status : Status
  crawled : UInt64
  success : UInt64
  running : UInt64
  waiting : Nat
  startTime : Option String
  endTime : Option String
deriving DecidableEq, Repr, Inhabited

namespace SpiderStatus

def fieldNames : List String :=
  ["name", "status", "crawled", "success", "running", "waiting", "start_time", "end_time"]

def toJson (s : SpiderStatus) : Json :=
  .object (fieldNames.zip
    [.text s.name, .text s.status.text, .nat s.crawled.toNat, .nat s.success.toNat,
      .nat s.running.toNat, .nat s.waiting, Json.ofOption .text s.startTime,
      Json.ofOption .text s.endTime])

end SpiderStatus

/-! ## Spiders -/

/-- A spider. -/
structure Spider where
  definition : SpiderDefinition
  scheduler : Scheduler
  startTime : Option String
  endTime : Option String

namespace Spider

/-- A new spider, if its definition is sensible. -/
def new (d : SpiderDefinition) : Outcome Spider := do
  d.check
  let concurrency := ((d.maxConcurrency.map UInt64.toNat).getD Scheduler.usualConcurrency)
  return ⟨d, .new concurrency, none, none⟩

def name (s : Spider) : String := s.definition.name

def withScheduler (s : Spider) (scheduler : Scheduler) : Spider := { s with scheduler := scheduler }

/-- Build new modules and prepare the scheduler, unless it is prepared. -/
def init (s : Spider) (factory : ModuleFactory) (w : Workshop) :
    Outcome Unit × Spider × Workshop :=
  if s.scheduler.status = .prepared then (.ok (), s, w)
  else
    match factory s.definition w with
    | (.error e, w) => (.error e, s, w)
    | (.ok modules, w) =>
      let (outcome, scheduler) := s.scheduler.init s.definition.policy s.definition.sizes modules
      (outcome, s.withScheduler scheduler, w)

/-- Start with some first requests at a moment; those found on pages go to the outlet. -/
def startWith (s : Spider) (outlet : Option Nat) (seeds : Option (List Request)) (now : String) :
    Outcome Unit × Spider :=
  match { s.scheduler with outlet := outlet }.start seeds with
  | (.error e, scheduler) => (.error e, s.withScheduler scheduler)
  | (.ok _, scheduler) =>
    (.ok (), { s.withScheduler scheduler with startTime := some now })

/-- Start with the first requests of the definition. -/
def firstStart (s : Spider) (outlet : Option Nat) (now : String) : Outcome Unit × Spider :=
  s.startWith outlet (some s.definition.initialRequests) now

/-- Start without first requests. -/
def start (s : Spider) (outlet : Option Nat) (now : String) : Outcome Unit × Spider :=
  s.startWith outlet none now

/-- Stop at a moment and wait for the work in progress. -/
def stop (s : Spider) (c : Commons) (now : String) : Outcome Unit × Spider × Commons :=
  match s.scheduler.stop c with
  | (.error e, scheduler, c) => (.error e, s.withScheduler scheduler, c)
  | (.ok _, scheduler, c) => (.ok (), { s.withScheduler scheduler with endTime := some now }, c)

def pause (s : Spider) : Outcome Unit × Spider :=
  let (outcome, scheduler) := s.scheduler.pause
  (outcome, s.withScheduler scheduler)

def recover (s : Spider) : Outcome Unit × Spider :=
  let (outcome, scheduler) := s.scheduler.recover
  (outcome, s.withScheduler scheduler)

/-- Accept a request. The answer tells whether it was. -/
def accept (s : Spider) (r : Request) : Bool × Spider :=
  let (accepted, scheduler) := s.scheduler.send r
  (accepted, s.withScheduler scheduler)

def has (s : Spider) (url : Url) : Bool := s.scheduler.has url

/-- Is nothing left to do? -/
def idle (s : Spider) : Bool := s.scheduler.idle

def canStart (s : Spider) : Bool := (s.scheduler.status.check .starting).isOk

/-- Is the spider started or paused? -/
def isActive (s : Spider) : Bool :=
  s.scheduler.status = .started || s.scheduler.status = .paused

/-- The sum of a count over the downloaders. -/
def countSum (s : Spider) (count : Counts → UInt64) : UInt64 :=
  ((s.scheduler.registrar.ofRole .downloader).map fun m => count m.meter.counts).foldl (· + ·) 0

def status (s : Spider) : SpiderStatus where
  name := s.name
  status := s.scheduler.status
  crawled := s.countSum (·.called)
  success := s.countSum (·.completed)
  running := s.countSum (·.handling)
  waiting := s.scheduler.requestCount
  startTime := s.startTime
  endTime := s.endTime

end Spider

end CrawlMesh
