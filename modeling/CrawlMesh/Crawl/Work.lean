/-
# Work

How the work on a session goes on, move by move: what waits enters a pool, a stage takes a unit,
counts it and calls a module, the call ends, its output is put. What a call ends with is part of the
move, so that the moves say what may happen whatever the modules do. `work` is one way to go on: it
calls the modules themselves and makes moves until none is possible.
-/
import CrawlMesh.Crawl.Scheduler

namespace CrawlMesh

set_option autoImplicit false

/-- One step of the work. Places are those among the waiting or the work in hand, and a stage is
named by the role of the modules that it calls. -/
inductive Move
  | admitRequest (place : Nat)
  | admitError (place : Nat)
  | takeRequest
  | takeResponse
  | takeItem
  | begin (stage : Role) (place : Nat)
  | call (stage : Role) (place : Nat)
  | endDownload (place : Nat) (outcome : Outcome Response)
  | putResponse (place : Nat)
  | endAnalysis (place : Nat) (found : Yield)
  | breakAnalysis (place : Nat)
  | putDatum (place : Nat)
  | endProcessing (place : Nat) (errors : List CrawlError)

namespace Scheduler

/-! ## Taking work on -/

/-- May a stage take a unit, with such tasks in its hands? A worker of every crew serves it. A worker
counts what it took before it takes more, and works on so many units at most. -/
def mayTake {α β : Type} (s : Scheduler) (tasks : List (Task α β)) : Bool :=
  s.run = .running && tasks.countP (!·.isCounted) < s.crews
    && tasks.length < s.crews * s.maxConcurrency

/-- Choose the module of a role for a unit and begin its call, or tell why there is none. -/
def callModule (s : Scheduler) (role : Role) (accepts : Bool) : Outcome ModuleId × Scheduler :=
  match s.registrar.select role with
  | (.error e, registrar) => (.error e, { s with registrar := registrar })
  | (.ok m, registrar) =>
    (.ok m.id, { s with registrar := registrar.modifyMeter m.id (·.begin accepts) })

/-- The call of a module is over. -/
def endCall (s : Scheduler) (worker : ModuleId) (completes : Bool) : Scheduler :=
  { s with registrar := s.registrar.modifyMeter worker (·.finish completes) }

/-- Put a session in place of the present one. -/
def withSession (s : Scheduler) (session : Session) : Scheduler := { s with session := some session }

/-- The error of a unit that no module can be found for. -/
def noModule (e : CrawlError) (context : String) : CrawlError := .stage .schedule e.text context

/-- Take the next request from its pool. -/
def takeRequest? (s : Scheduler) (session : Session) : Option Scheduler :=
  if s.mayTake session.downloads then
    session.requests.take?.map fun (request, requests) => s.withSession
      { session with requests := requests, downloads := session.downloads ++ [.taken request] }
  else none

/-- Take the next response from its pool. -/
def takeResponse? (s : Scheduler) (session : Session) : Option Scheduler :=
  if s.mayTake session.analyses then
    match session.responses.tryGet with
    | .ok (some (response, responses)) => some (s.withSession
        { session with responses := responses, analyses := session.analyses ++ [.taken response] })
    | _ => none
  else none

/-- Take the next item from its pool. -/
def takeItem? (s : Scheduler) (session : Session) : Option Scheduler :=
  if s.mayTake session.processings then
    match session.items.tryGet with
    | .ok (some (item, items)) => some (s.withSession
        { session with items := items, processings := session.processings ++ [.taken item] })
    | _ => none
  else none

/-- Count what a stage took as work in progress. -/
def begin? (s : Scheduler) (session : Session) (place : Nat) : Role → Option Scheduler
  | .downloader => (Task.beginAt? session.downloads place).map fun downloads =>
      s.withSession { session with downloads := downloads }
  | .analyzer => (Task.beginAt? session.analyses place).map fun analyses =>
      s.withSession { session with analyses := analyses }
  | .pipeline => (Task.beginAt? session.processings place).map fun processings =>
      s.withSession { session with processings := processings }

/-- Call a downloader for a request. -/
def callDownloader? (s : Scheduler) (session : Session) (place : Nat) : Option Scheduler :=
  match session.downloads[place]? with
  | some (.begun request) =>
    match s.callModule .downloader (Downloader.refusal? request).isNone with
    | (.ok worker, s) => some (s.withSession { session with
        downloads := session.downloads.set place (.calling worker request) })
    | (.error e, s) => some (s.withSession ({ session with
        downloads := session.downloads.eraseIdx place }.report (noModule e request.url.text)))
  | _ => none

/-- Call an analyzer for a response. -/
def callAnalyzer? (s : Scheduler) (session : Session) (place : Nat) : Option Scheduler :=
  match session.analyses[place]? with
  | some (.begun response) =>
    match s.callModule .analyzer response.request.validate.isOk with
    | (.ok worker, s) => some (s.withSession { session with
        analyses := session.analyses.set place (.calling worker response) })
    | (.error e, s) => some (s.withSession ({ session with
        analyses := session.analyses.eraseIdx place }.report (noModule e response.url.text)))
  | _ => none

/-- Call a pipeline for an item. -/
def callPipeline? (s : Scheduler) (session : Session) (place : Nat) : Option Scheduler :=
  match session.processings[place]? with
  | some (.begun item) =>
    match s.callModule .pipeline true with
    | (.ok worker, s) => some (s.withSession { session with
        processings := session.processings.set place (.calling worker item) })
    | (.error e, s) => some (s.withSession ({ session with
        processings := session.processings.eraseIdx place }.report (noModule e "item")))
  | _ => none

def call? (s : Scheduler) (session : Session) (place : Nat) : Role → Option Scheduler
  | .downloader => s.callDownloader? session place
  | .analyzer => s.callAnalyzer? session place
  | .pipeline => s.callPipeline? session place

/-! ## Ending calls -/

def endDownload? (s : Scheduler) (session : Session) (place : Nat) (outcome : Outcome Response) :
    Option Scheduler :=
  match session.downloads[place]? with
  | some (.calling worker _) =>
    let session := match outcome with
      | .ok response =>
        { session with downloads := session.downloads.set place (.delivering response) }
      | .error e => { session with downloads := session.downloads.eraseIdx place }.report e
    some ((s.endCall worker outcome.isOk).withSession session)
  | _ => none

def endAnalysis? (s : Scheduler) (session : Session) (place : Nat) (found : Yield) :
    Option Scheduler :=
  match session.analyses[place]? with
  | some (.calling worker _) =>
    some ((s.endCall worker found.errors.isEmpty).withSession
      { session with analyses := session.analyses.set place (.delivering found) })
  | _ => none

/-- The call of an analyzer breaks off, and nothing comes out of it. -/
def breakAnalysis? (s : Scheduler) (session : Session) (place : Nat) : Option Scheduler :=
  match session.analyses[place]? with
  | some (.calling worker _) =>
    some ((s.endCall worker false).withSession { session with
      analyses := session.analyses.eraseIdx place, broken := session.broken + 1 })
  | _ => none

def endProcessing? (s : Scheduler) (session : Session) (place : Nat) (errors : List CrawlError) :
    Option Scheduler :=
  match session.processings[place]? with
  | some (.calling worker _) =>
    let session := { session with processings := session.processings.eraseIdx place }
    some ((s.endCall worker errors.isEmpty).withSession (session.reportAll errors))
  | _ => none

/-! ## Putting output -/

/-- Put the response of a download, once there is room; it is dropped if the pool is closed. -/
def putResponse? (s : Scheduler) (session : Session) (place : Nat) : Option Scheduler :=
  match session.downloads[place]? with
  | some (.delivering response) =>
    let done := { session with downloads := session.downloads.eraseIdx place }
    match session.responses.tryPut response with
    | .ok responses => some (s.withSession { done with responses := responses })
    | .error (.closed _) => some (s.withSession done)
    | .error (.full _) => none
  | _ => none

/-- Send a request that was found on a page to the outlet or, without one, to the session. -/
def route (s : Scheduler) (session : Session) (queue : Inbox Request) (r : Request) :
    Scheduler × Inbox Request :=
  if s.outlet.isNone then ((s.send r).2, queue)
  else if (session.checkPolicy r).isOk then (s, queue.put r)
  else (s, queue)

/-- Hand over what comes first of what an analysis found: a request is routed, an item waits
for room and is dropped if the pool is closed, and the errors come last. -/
def putDatum? (s : Scheduler) (session : Session) (queue : Inbox Request) (place : Nat) :
    Option (Scheduler × Inbox Request) :=
  match session.analyses[place]? with
  | some (.delivering ⟨[], errors⟩) =>
    let session := { session with analyses := session.analyses.eraseIdx place }
    some (s.withSession (session.reportAll errors), queue)
  | some (.delivering ⟨datum :: rest, errors⟩) =>
    let next := { session with analyses := session.analyses.set place (.delivering ⟨rest, errors⟩) }
    match datum with
    | .request r => some ((s.withSession next).route next queue r)
    | .item item =>
      match session.items.tryPut item with
      | .ok items => some (s.withSession { next with items := items }, queue)
      | .error (.closed _) => some (s.withSession next, queue)
      | .error (.full _) => none
  | _ => none

/-! ## Moves -/

/-- The scheduler and the queue after a move, if it is possible. -/
def move? (s : Scheduler) (queue : Inbox Request) (m : Move) :
    Option (Scheduler × Inbox Request) := do
  let session ← s.session
  let alone (s : Option Scheduler) : Option (Scheduler × Inbox Request) := s.map (·, queue)
  match m with
  | .admitRequest place =>
    alone ((session.requests.admit? place).map fun b => s.withSession { session with requests := b })
  | .admitError place =>
    alone ((session.errors.admit? place).map fun b => s.withSession { session with errors := b })
  | .takeRequest => alone (s.takeRequest? session)
  | .takeResponse => alone (s.takeResponse? session)
  | .takeItem => alone (s.takeItem? session)
  | .begin stage place => alone (s.begin? session place stage)
  | .call stage place => alone (s.call? session place stage)
  | .endDownload place outcome => alone (s.endDownload? session place outcome)
  | .putResponse place => alone (s.putResponse? session place)
  | .endAnalysis place found => alone (s.endAnalysis? session place found)
  | .breakAnalysis place => alone (s.breakAnalysis? session place)
  | .putDatum place => s.putDatum? session queue place
  | .endProcessing place errors => alone (s.endProcessing? session place errors)

end Scheduler

/-! ## Working -/

/-- What the spiders of a node share: the places they write to and the queue of requests to be
distributed. -/
structure Commons where
  storage : Storage
  queue : Inbox Request

namespace Scheduler

def worker? (s : Scheduler) (id : ModuleId) : Option Worker := (s.registrar.get? id).map (·.body)

/-- Put a module in place of the one it came from. -/
def withWorker (s : Scheduler) (id : ModuleId) (worker : Worker) : Scheduler :=
  { s with registrar := s.registrar.modify id fun m => { m with body := worker } }

/-- The first place of an element for which a function gives something. -/
def firstPlace {α β : Type} (f : Nat → α → Option β) (l : List α) : Option β :=
  l.zipIdx.findSome? fun (x, place) => f place x

/-- Run the first call that is under way, and tell how it ended. -/
def runCall? (s : Scheduler) (storage : Storage) (session : Session) :
    Option (Move × Scheduler × Storage) :=
  let download (place : Nat) : Download → Option (Move × Scheduler × Storage)
    | .calling id request =>
      match s.worker? id with
      | some (.downloader d) =>
        let (outcome, d) := d.download request
        some (.endDownload place outcome, s.withWorker id (.downloader d), storage)
      | _ => none
    | _ => none
  let analysis (place : Nat) : Analysis → Option (Move × Scheduler × Storage)
    | .calling id response =>
      match s.worker? id with
      | some (.analyzer a) =>
        match a.analyze response with
        | some found => some (.endAnalysis place found, s, storage)
        | none => some (.breakAnalysis place, s, storage)
      | _ => none
    | _ => none
  let processing (place : Nat) : Processing → Option (Move × Scheduler × Storage)
    | .calling id item =>
      match s.worker? id with
      | some (.pipeline pipeline) =>
        let (result, storage) := pipeline.run item storage
        some (.endProcessing place result.errors, s, storage)
      | _ => none
    | _ => none
  firstPlace download session.downloads <|> firstPlace analysis session.analyses
    <|> firstPlace processing session.processings

/-- The places of the tasks in the hands of a stage. -/
def placesOf (session : Session) (stage : Role) : List Nat :=
  .range (match stage with
    | .downloader => session.downloads.length
    | .analyzer => session.analyses.length
    | .pipeline => session.processings.length)

/-- The moves that end no call, in the order in which they are tried: what is in hand comes first,
and later stages before earlier ones. -/
def plainMoves (session : Session) : List Move :=
  Role.all.flatMap (fun stage => (placesOf session stage).map (.call stage))
    ++ Role.all.flatMap (fun stage => (placesOf session stage).map (.begin stage))
    ++ (placesOf session .analyzer).map .putDatum ++ (placesOf session .downloader).map .putResponse
    ++ [.admitError 0, .takeItem, .takeResponse, .takeRequest, .admitRequest 0]

/-- Go one move on, if any is possible. -/
def workOnce? (s : Scheduler) (c : Commons) : Option (Scheduler × Commons) := do
  let session ← s.session
  match s.runCall? c.storage session with
  | some (m, s, storage) =>
    let (s, queue) ← s.move? c.queue m
    some (s, ⟨storage, queue⟩)
  | none =>
    let (s, queue) ← (plainMoves session).findSome? (s.move? c.queue)
    some (s, { c with queue := queue })

/-- Go on as long as moves are possible, with an upper bound on their number. -/
def work (s : Scheduler) (c : Commons) : Nat → Scheduler × Commons
  | 0 => (s, c)
  | n + 1 =>
    match s.workOnce? c with
    | some (s, c) => work s c n
    | none => (s, c)

/-- More moves than a crawl of a sensible size takes. -/
def patience : Nat := 10000000

/-- Let the work go on until nothing is left that can be done now. -/
def settle (s : Scheduler) (c : Commons) : Scheduler × Commons :=
  s.work { c with queue := c.queue.admitAll } patience

/-- Stop a scheduler and wait for the work in progress. -/
def stop (s : Scheduler) (c : Commons) : Outcome Unit × Scheduler × Commons :=
  match s.beginStop with
  | (.error e, s) => (.error e, s, c)
  | (.ok _, s) =>
    let (s, c) := s.work c patience
    (.ok (), (s.endStop?).getD s, c)

end Scheduler

end CrawlMesh
