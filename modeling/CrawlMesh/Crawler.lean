/-
# Crawlers

The spiders of a node in ascending order of their names, the workshop their modules are built in,
and the queue of requests that are to be distributed. Adding a spider takes three steps: its name
has to be free, then it is built and prepared, and then it is put among the others, if its name
is still free.
-/
import CrawlMesh.Journal
import CrawlMesh.Spider.Basic

namespace CrawlMesh

set_option autoImplicit false

/-- A crawler. -/
structure Crawler where
  spiders : List Spider
  workshop : Workshop
  queue : Inbox Request
  factory : ModuleFactory
  journal : Journal

namespace Crawler

/-- The size of a queue, unless said otherwise. -/
def usualQueue : PoolSize := ⟨50, 20000⟩

/-- A crawler without spiders. -/
def new (factory : ModuleFactory) (storage : Storage) (queue : PoolSize) : Outcome Crawler := do
  return ⟨[], .new storage, ← Inbox.new queue.bufferCap queue.maxBuffers, factory, []⟩

/-- The number of the queue where it serves as an outlet. -/
def outlet : Option Nat := some 0

def note (c : Crawler) (level : Level) (origin : Origin) (text : String) : Crawler :=
  { c with journal := c.journal ++ [⟨level, origin, text⟩] }

/-! ## What the spiders share -/

def commons (c : Crawler) : Commons := ⟨c.workshop.storage, c.queue⟩

def withCommons (c : Crawler) (s : Commons) : Crawler :=
  { c with workshop := { c.workshop with storage := s.storage }, queue := s.queue }

/-- The present moment. -/
def now (c : Crawler) : String × Crawler :=
  let (stamp, storage) := c.workshop.storage.nextStamp
  (stamp.time, { c with workshop := { c.workshop with storage := storage } })

/-! ## The spiders -/

def get? (c : Crawler) (name : String) : Option Spider := c.spiders.find? (·.name == name)

def contains (c : Crawler) (name : String) : Bool := (c.get? name).isSome

def unknown (name : String) : CrawlError := .notFound s!"spider {name}"

def get (c : Crawler) (name : String) : Outcome Spider :=
  match c.get? name with
  | some s => .ok s
  | none => .error (unknown name)

/-- Put a spider at its place among spiders in ascending order. -/
def insertSpider (spider : Spider) : List Spider → List Spider
  | [] => [spider]
  | s :: rest =>
    if spider.name < s.name then spider :: s :: rest
    else if spider.name == s.name then spider :: rest
    else s :: insertSpider spider rest

/-- Put a spider in place of the one of its name. -/
def put (c : Crawler) (spider : Spider) : Crawler :=
  { c with spiders := c.spiders.map fun s => if s.name == spider.name then spider else s }

def names (c : Crawler) : List String := c.spiders.map Spider.name

/-- Change the spider of a name. -/
def change {α : Type} (c : Crawler) (name : String) (f : Spider → Outcome α × Spider) :
    Outcome α × Crawler :=
  match c.get? name with
  | none => (.error (unknown name), c)
  | some spider =>
    let (outcome, spider) := f spider
    (outcome, c.put spider)

/-! ## Adding and deleting -/

/-- A name is free if no spider has it. -/
def checkFree (c : Crawler) (name : String) : Outcome Unit :=
  if c.contains name then .error (.argument s!"spider {name} already exists") else .ok ()

/-- Build and prepare a spider that is not among the others. -/
def build (c : Crawler) (d : SpiderDefinition) : Outcome Spider × Crawler :=
  match Spider.new d with
  | .error e => (.error e, c)
  | .ok spider =>
    let (outcome, spider, workshop) := spider.init c.factory c.workshop
    (outcome.map fun _ => spider, { c with workshop := workshop })

/-- Put a spider among the others. -/
def insert (c : Crawler) (spider : Spider) : Outcome Unit × Crawler :=
  match c.checkFree spider.name with
  | .error e => (.error e, c)
  | .ok _ =>
    (.ok (), { c with spiders := insertSpider spider c.spiders }.note .info .crawler
      s!"Added spider {spider.name}")

/-- Add a spider. -/
def add (c : Crawler) (d : SpiderDefinition) : Outcome Unit × Crawler :=
  match c.checkFree d.name with
  | .error e => (.error e, c)
  | .ok _ =>
    match c.build d with
    | (.error e, c) => (.error e, c)
    | (.ok spider, c) => c.insert spider

/-- Stop a spider that need not be among the others. -/
def stopSpider (c : Crawler) (spider : Spider) : Outcome Unit × Spider × Crawler :=
  let (now, c) := c.now
  let (outcome, spider, commons) := spider.stop c.commons now
  (outcome, spider, c.withCommons commons)

/-- Delete a spider, which is stopped if it is active. -/
def delete (c : Crawler) (name : String) : Outcome Unit × Crawler :=
  match c.get? name with
  | none => (.error (unknown name), c)
  | some spider =>
    let c := { c with spiders := c.spiders.filter (·.name != name) }
    let c := if spider.isActive then (c.stopSpider spider).2.2 else c
    (.ok (), c.note .info .crawler s!"Deleted spider {name}")

/-! ## The queue -/

/-- Put a request into the queue or end with its failure; nothing if there is no room. -/
def enqueue? (c : Crawler) (r : Request) : Option (Outcome Unit × Crawler) :=
  (c.queue.pool.attempt (.put r)).map fun (outcome, pool) =>
    (outcome.map fun _ => (), { c with queue := { c.queue with pool := pool } })

/-- Take the next request that is to be distributed; nothing if there is none in an open queue. -/
def popRequest? (c : Crawler) : Option (Outcome Request × Crawler) :=
  match c.queue.pool.tryGet with
  | .error e => some (.error e, c)
  | .ok none => none
  | .ok (some (r, pool)) => some (.ok r, { c with queue := { c.queue with pool := pool } })

/-- Take all requests that are in the queue. -/
def drainQueue (c : Crawler) : List Request × Crawler :=
  let (requests, pool) := c.queue.pool.drain
  (requests, { c with queue := { c.queue with pool := pool } })

/-- Close the queue. The answer tells whether it was open. -/
def closeQueue (c : Crawler) : Bool × Crawler :=
  let (wasOpen, queue) := c.queue.close
  (wasOpen, { c with queue := queue })

/-- The lines of the log, which is empty then. -/
def takeLines (c : Crawler) : List String × Crawler :=
  let (lines, storage) := c.workshop.storage.takeLines
  (lines, { c with workshop := { c.workshop with storage := storage } })

/-! ## Single spiders -/

/-- Prepare a spider again. -/
def init (c : Crawler) (name : String) : Outcome Unit × Crawler :=
  match c.get? name with
  | none => (.error (unknown name), c)
  | some spider =>
    let (outcome, spider, workshop) := spider.init c.factory c.workshop
    (outcome, { c with workshop := workshop }.put spider)

def firstStart (c : Crawler) (name : String) : Outcome Unit × Crawler :=
  let (now, c) := c.now
  c.change name (·.firstStart outlet now)

def start (c : Crawler) (name : String) : Outcome Unit × Crawler :=
  let (now, c) := c.now
  c.change name (·.start outlet now)

def stop (c : Crawler) (name : String) : Outcome Unit × Crawler :=
  match c.get? name with
  | none => (.error (unknown name), c)
  | some spider =>
    let (outcome, spider, c) := c.stopSpider spider
    (outcome, c.put spider)

def pause (c : Crawler) (name : String) : Outcome Unit × Crawler := c.change name Spider.pause

def recover (c : Crawler) (name : String) : Outcome Unit × Crawler := c.change name Spider.recover

/-- What can be done with a spider that is there. -/
inductive Action
  | delete
  | init
  | firstStart
  | start
  | stop
  | pause
  | recover
deriving DecidableEq, Repr, Inhabited

/-- The word for an action. -/
def Action.word : Action → String
  | .delete => "delete"
  | .init => "init"
  | .firstStart => "first_start"
  | .start => "start"
  | .stop => "stop"
  | .pause => "pause"
  | .recover => "recover"

def Action.ofWord? (word : String) : Option Action :=
  [Action.delete, .init, .firstStart, .start, .stop, .pause, .recover].find? (·.word == word)

/-- Do something with the spider of a name. -/
def act (c : Crawler) (name : String) : Action → Outcome Unit × Crawler
  | .delete => c.delete name
  | .init => c.init name
  | .firstStart => c.firstStart name
  | .start => c.start name
  | .stop => c.stop name
  | .pause => c.pause name
  | .recover => c.recover name

/-- Hand a request to the spider it names. The answer tells whether it was accepted. -/
def accept (c : Crawler) (r : Request) : Outcome Bool × Crawler :=
  c.change r.spiderName fun s =>
    let (accepted, s) := s.accept r
    (.ok accepted, s)

/-- All errors of a spider so far, and whether there will be no more. -/
def takeErrors (c : Crawler) (name : String) : Outcome (List CrawlError × Bool) × Crawler :=
  c.change name fun s =>
    let (errors, scheduler) := s.scheduler.takeErrors
    (.ok errors, s.withScheduler scheduler)

/-- Has the spider that a request names accepted its address? -/
def has (c : Crawler) (r : Request) : Outcome Bool := (c.get r.spiderName).map (·.has r.url)

/-- A spider can be stopped when it is idle. -/
def canStop (c : Crawler) (name : String) : Outcome Bool := (c.get name).map Spider.idle

def canStart (c : Crawler) (name : String) : Outcome Bool := (c.get name).map Spider.canStart

def status (c : Crawler) (name : String) : Outcome SpiderStatus := (c.get name).map Spider.status

def statuses (c : Crawler) : List SpiderStatus := c.spiders.map Spider.status

/-! ## The whole -/

/-- Stop a spider that is active. -/
def stopActive (c : Crawler) (spider : Spider) : Crawler :=
  if spider.isActive then
    let (_, spider, c) := c.stopSpider spider
    c.put spider
  else c

/-- Stop all active spiders and close the queue. -/
def shutdown (c : Crawler) : Crawler :=
  (c.spiders.foldl stopActive c).closeQueue.2

/-- Go one move on with the work of the first spider that has any, or let a request that waits
enter the queue. -/
def workOnce? (c : Crawler) : Option Crawler :=
  let move (spider : Spider) : Option Crawler := do
    let (scheduler, commons) ← spider.scheduler.workOnce? c.commons
    return (c.withCommons commons).put (spider.withScheduler scheduler)
  (c.spiders.findSome? move) <|> ((c.queue.admit? 0).map fun q => { c with queue := q })

end Crawler

end CrawlMesh
