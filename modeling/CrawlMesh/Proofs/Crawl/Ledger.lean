/-
# The books of a session

`Ledger` keeps books of a session: the requests that were accepted, the downloads that are over
and what they gave, the responses that were handed to analyzers and the analyses that are over, the
items that analyzers returned, those that were sent to pipelines and those that pipelines are done
with, and the errors reported besides those of downloads.  `Ledger.record` enters what an event does;
where there is an outlet, the requests that are found go there and are not entered (`Ledger.book`).

The books balance with what the session holds (`Kept`): a request that was accepted waits, is in
the pool, is in the hands of a stage, or its download is over, and similarly for responses, items
and errors; a call that began is under way or over.  One lemma for every way in which a move goes
shows that it keeps the balance, and `run_conserved` puts them together for whole runs.
-/
import CrawlMesh.Proofs.Crawl.Lifecycle
import Mathlib.Tactic.Abel

namespace CrawlMesh

set_option autoImplicit false

/-! ## What is under way -/

namespace Task

variable {α β : Type}

/-- The unit of a task that nothing came out of yet. -/
def units : Task α β → Multiset α
  | .taken unit | .begun unit | .calling _ unit => {unit}
  | .delivering _ => 0

/-- The unit of a task that no module is called for yet. -/
def uncalled : Task α β → Multiset α
  | .taken unit | .begun unit => {unit}
  | .calling _ _ | .delivering _ => 0

/-- The call that is under way for a task. -/
def calls : Task α β → Multiset (ModuleId × α)
  | .calling worker unit => {(worker, unit)}
  | .taken _ | .begun _ | .delivering _ => 0

/-- What came out of a task and is not put yet. -/
def outputs : Task α β → Multiset β
  | .taken _ | .begun _ | .calling _ _ => 0
  | .delivering output => {output}

end Task

/-- The items among data. -/
def itemsOf : List Datum → Multiset Item
  | [] => 0
  | .item item :: rest => item ::ₘ itemsOf rest
  | .request _ :: rest => itemsOf rest

/-- The items that an analysis has still to hand over. -/
def itemsLeft : Analysis → Multiset Item
  | .taken _ | .begun _ | .calling _ _ => 0
  | .delivering found => itemsOf found.data

namespace Session

/-- The requests that are being downloaded. -/
def downloading (s : Session) : Multiset Request :=
  (s.downloads : Multiset Download).bind Task.units

/-- The responses that wait to enter their pool. -/
def delivered (s : Session) : Multiset Response :=
  (s.downloads : Multiset Download).bind Task.outputs

/-- The responses that were taken from their pool and are not handed to an analyzer yet. -/
def unanalysed (s : Session) : Multiset Response :=
  (s.analyses : Multiset Analysis).bind Task.uncalled

/-- The calls of analyzers that are under way. -/
def analysing (s : Session) : Multiset (ModuleId × Response) :=
  (s.analyses : Multiset Analysis).bind Task.calls

/-- The items that wait to enter their pool. -/
def unhanded (s : Session) : Multiset Item := (s.analyses : Multiset Analysis).bind itemsLeft

/-- The items that were taken from their pool and are not sent to a pipeline yet. -/
def unprocessed (s : Session) : Multiset Item :=
  (s.processings : Multiset Processing).bind Task.uncalled

/-- The calls of pipelines that are under way. -/
def processing (s : Session) : Multiset (ModuleId × Item) :=
  (s.processings : Multiset Processing).bind Task.calls

end Session

/-! ## Books -/

/-- The response that a download gave, if it gave one. -/
def givenBy (finished : Request × Outcome Response) : Multiset Response :=
  match finished.2 with
  | .ok response => {response}
  | .error _ => 0

/-- The error that a download gave, if it gave one. -/
def failureOf (finished : Request × Outcome Response) : Multiset CrawlError :=
  match finished.2 with
  | .ok _ => 0
  | .error e => {e}

/-- Does a move hand over a request that was found on a page? -/
def Session.finds (s : Session) : Move → Bool
  | .putDatum place =>
    match s.analyses[place]? with
    | some (.delivering ⟨.request _ :: _, _⟩) => true
    | _ => false
  | _ => false

/-- The books of a session. A response is handed to an analyzer when the call begins, and its
analysis is over or breaks off when the call ends; it is the same with items and pipelines. -/
structure Ledger where
  accepted : Multiset Request
  finished : Multiset (Request × Outcome Response)
  handed : Multiset (ModuleId × Response)
  analysed : Multiset (ModuleId × Response)
  broken : Multiset (ModuleId × Response)
  returned : Multiset Item
  sent : Multiset (ModuleId × Item)
  processed : Multiset (ModuleId × Item)
  reported : Multiset CrawlError

namespace Ledger

def empty : Ledger := ⟨0, 0, 0, 0, 0, 0, 0, 0, 0⟩

/-- The responses that downloads gave. -/
def responses (l : Ledger) : Multiset Response := l.finished.bind givenBy

/-- The errors that downloads gave. -/
def failures (l : Ledger) : Multiset CrawlError := l.finished.bind failureOf

theorem responses_finish (l : Ledger) (finished : Request × Outcome Response) :
    { l with finished := finished ::ₘ l.finished }.responses = givenBy finished + l.responses :=
  Multiset.cons_bind ..

theorem failures_finish (l : Ledger) (finished : Request × Outcome Response) :
    { l with finished := finished ::ₘ l.finished }.failures = failureOf finished + l.failures :=
  Multiset.cons_bind ..

/-- Enter a request that is sent, if it is accepted. -/
def send (l : Ledger) (s : Scheduler) (r : Request) : Ledger :=
  if (s.send r).1 then { l with accepted := r ::ₘ l.accepted } else l

/-- Enter requests that are sent one after the other. -/
def sendAll (l : Ledger) (s : Scheduler) : List Request → Ledger
  | [] => l
  | r :: rest => (l.send s r).sendAll (s.send r).2 rest

/-- Enter what a move does to a session. -/
def move (l : Ledger) (s : Scheduler) (session : Session) : Move → Ledger
  | .call .analyzer place =>
    match session.analyses[place]?, s.choice .analyzer with
    | some (.begun response), .ok worker => { l with handed := (worker, response) ::ₘ l.handed }
    | _, _ => l
  | .call .pipeline place =>
    match session.processings[place]?, s.choice .pipeline with
    | some (.begun item), .ok worker => { l with sent := (worker, item) ::ₘ l.sent }
    | _, _ => l
  | .endDownload place outcome =>
    match session.downloads[place]? with
    | some (.calling _ request) => { l with finished := (request, outcome) ::ₘ l.finished }
    | _ => l
  | .endAnalysis place found =>
    match session.analyses[place]? with
    | some (.calling worker response) => { l with
        analysed := (worker, response) ::ₘ l.analysed
        returned := itemsOf found.data + l.returned }
    | _ => l
  | .breakAnalysis place =>
    match session.analyses[place]? with
    | some (.calling worker response) => { l with broken := (worker, response) ::ₘ l.broken }
    | _ => l
  | .putDatum place =>
    match session.analyses[place]? with
    | some (.delivering ⟨.request r :: data, errors⟩) =>
      l.send (s.withSession (session.handOver place ⟨data, errors⟩)) r
    | some (.delivering ⟨[], errors⟩) => { l with reported := ↑errors + l.reported }
    | _ => l
  | .endProcessing place errors =>
    match session.processings[place]? with
    | some (.calling worker item) => { l with
        processed := (worker, item) ::ₘ l.processed
        reported := ↑errors + l.reported }
    | _ => l
  | _ => l

/-- The books with an event more. They begin anew with a new session. -/
def record (l : Ledger) (s : Scheduler) : Scheduler.Event → Ledger
  | .operation op =>
    match op, (s.perform op).1 with
    | .init .., .ok _ => if s.status = .prepared then l else empty
    | .start seeds, .ok _ => l.sendAll s.begun (seeds.getD [])
    | _, _ => l
  | .endStop => l
  | .send r => l.send s r
  | .work _ m =>
    match s.session with
    | some session => l.move s session m
    | none => l

/-- Enter what an event does to a scheduler that may have an outlet: a request that is found on a
page is not sent to the session then. -/
def book (l : Ledger) (s : Scheduler) (e : Scheduler.Event) : Ledger :=
  match s.session, e with
  | some session, .work _ m => if s.outlet.isSome && session.finds m then l else l.move s session m
  | _, e => l.record s e

theorem book_of_home {s : Scheduler} (home : s.outlet = none) (l : Ledger) (e : Scheduler.Event) :
    l.book s e = l.record s e := by
  unfold book
  split
  · rename_i present
    simp [record, present, home]
  · rfl

end Ledger

/-! ## Balance -/

/-- The books balance with what a session holds, its stages have no more in their hands than they
may, and only modules of the staff were given work. -/
structure Kept (limit : Nat) (staff : List (ModuleId × Role)) (session : Session) (l : Ledger) :
    Prop where
  ready : session.Ready
  requests : l.accepted =
    session.requests.held + session.downloading + l.finished.map (·.1)
  responses : l.responses =
    session.delivered + ↑session.responses.items + session.unanalysed + l.handed.map (·.2)
  handed : l.handed = session.analysing + l.analysed + l.broken
  items : l.returned =
    session.unhanded + ↑session.items.items + session.unprocessed + l.sent.map (·.2)
  sent : l.sent = session.processing + l.processed
  errors : session.errors.held = l.failures + l.reported
  broken : l.broken.card = session.broken
  analyzers : ∀ entry ∈ l.handed, (entry.1, .analyzer) ∈ staff
  pipelines : ∀ entry ∈ l.sent, (entry.1, .pipeline) ∈ staff
  downloads_le : session.downloads.length ≤ limit
  analyses_le : session.analyses.length ≤ limit
  processings_le : session.processings.length ≤ limit

namespace Kept

variable {limit : Nat} {staff : List (ModuleId × Role)} {session : Session} {l : Ledger}
  {place : Nat}

/-- The books of a new session are empty. -/
theorem new {policy : CrawlPolicy} {sizes : PoolSizes}
    (made : Session.new policy sizes = .ok session) : Kept limit staff session .empty := by
  obtain ⟨ready, requests, responses, items, errors, downloads, analyses, processings, broken⟩ :=
    Session.new_spec made
  refine {
    ready := ready
    requests := ?_
    responses := ?_
    handed := ?_
    items := ?_
    sent := ?_
    errors := ?_
    broken := by simp [Ledger.empty, broken]
    analyzers := by simp [Ledger.empty]
    pipelines := by simp [Ledger.empty]
    downloads_le := by simp [downloads]
    analyses_le := by simp [analyses]
    processings_le := by simp [processings] }
  · simp [Ledger.empty, Session.downloading, requests, downloads]
  · simp [Ledger.empty, Ledger.responses, Session.delivered, Session.unanalysed, responses,
      downloads, analyses]
  · simp [Ledger.empty, Session.analysing, analyses]
  · simp [Ledger.empty, Session.unhanded, Session.unprocessed, items, analyses, processings]
  · simp [Ledger.empty, Session.processing, processings]
  · simp [Ledger.empty, Ledger.failures, errors]

/-! ### Requests -/

theorem accept (kept : Kept limit staff session l) {r : Request} {requests : Inbox Request}
    {k : String} (put : session.requests.put? r = some requests) :
    Kept limit staff { session with seen := session.seen ++ [k], requests := requests }
      { l with accepted := r ::ₘ l.accepted } := by
  obtain ⟨after, same, ready, held⟩ := Inbox.put?_of_ready kept.ready.requests r
  cases same.symm.trans put
  refine { kept with ready := { kept.ready with requests := ready }, requests := ?_ }
  rw [held, kept.requests, Multiset.cons_add, Multiset.cons_add]
  rfl

theorem admitRequest (kept : Kept limit staff session l) {requests : Inbox Request}
    (admitted : session.requests.admit? place = some requests) :
    Kept limit staff { session with requests := requests } l := by
  obtain ⟨ready, held⟩ := Inbox.admit?_of_ready kept.ready.requests admitted
  refine { kept with ready := { kept.ready with requests := ready }, requests := ?_ }
  rw [held, kept.requests]
  rfl

theorem takeRequest (kept : Kept limit staff session l) {request : Request}
    {requests : Inbox Request} (free : session.downloads.length < limit)
    (taken : session.requests.take? = some (request, requests)) :
    Kept limit staff { session with
      requests := requests, downloads := session.downloads ++ [.taken request] } l := by
  obtain ⟨ready, held⟩ := Inbox.take?_of_ready kept.ready.requests taken
  refine { kept with
    ready := { kept.ready with requests := ready }
    requests := ?_
    responses := ?_
    downloads_le := by rwa [List.length_append] }
  · rw [kept.requests, held, Session.downloading, Session.downloading, bind_concat, Task.units,
      ← Multiset.singleton_add]
    abel
  · rw [kept.responses, Session.delivered, Session.delivered, bind_concat, Task.outputs, add_zero]
    rfl

/-- A download goes on, and nothing comes out of it yet. -/
theorem goOnDownload (kept : Kept limit staff session l) {task next : Download}
    (here : session.downloads[place]? = some task) (units : next.units = task.units)
    (outputs : next.outputs = task.outputs) :
    Kept limit staff { session with downloads := session.downloads.set place next } l := by
  refine { kept with
    ready := { kept.ready with }
    requests := ?_
    responses := ?_
    downloads_le := by simpa only [List.length_set] using kept.downloads_le }
  · rw [kept.requests, Session.downloading, Session.downloading,
      bind_set_same here next Task.units units]
  · rw [kept.responses, Session.delivered, Session.delivered,
      bind_set_same here next Task.outputs outputs]
    rfl

theorem endDownload (kept : Kept limit staff session l) {worker : ModuleId} {request : Request}
    (calling : session.downloads[place]? = some (.calling worker request)) (response : Response) :
    Kept limit staff
      { session with downloads := session.downloads.set place (.delivering response) }
      { l with finished := (request, .ok response) ::ₘ l.finished } := by
  refine { kept with
    ready := { kept.ready with }
    requests := ?_
    responses := ?_
    errors := ?_
    downloads_le := by simpa only [List.length_set] using kept.downloads_le }
  · rw [kept.requests, Session.downloading, Session.downloading, bind_of_place calling,
      bind_set calling, Multiset.map_cons, Task.units, Task.units, ← Multiset.singleton_add]
    abel
  · change _ = Session.delivered _ + ↑session.responses.items + session.unanalysed + _
    rw [Ledger.responses_finish, kept.responses, Session.delivered, Session.delivered,
      bind_of_place calling, bind_set calling, Task.outputs, Task.outputs, givenBy]
    abel
  · rw [Ledger.failures_finish, failureOf, zero_add]
    exact kept.errors

theorem failDownload (kept : Kept limit staff session l) {worker : ModuleId} {request : Request}
    (calling : session.downloads[place]? = some (.calling worker request)) (e : CrawlError) :
    Kept limit staff { session with
      downloads := session.downloads.eraseIdx place, errors := session.errors.put e }
      { l with finished := (request, .error e) ::ₘ l.finished } := by
  obtain ⟨ready, held⟩ := Inbox.put_of_ready kept.ready.errors e
  refine { kept with
    ready := { kept.ready with errors := ready }
    requests := ?_
    responses := ?_
    errors := ?_
    downloads_le := (List.length_eraseIdx_le ..).trans kept.downloads_le }
  · rw [kept.requests, Session.downloading, Session.downloading, bind_of_place calling,
      Multiset.map_cons, Task.units, ← Multiset.singleton_add]
    abel
  · rw [Ledger.responses_finish, kept.responses, Session.delivered, Session.delivered,
      bind_of_place calling, Task.outputs, givenBy, zero_add, zero_add]
    rfl
  · rw [held, Ledger.failures_finish, failureOf, kept.errors, ← Multiset.singleton_add]
    abel

/-! ### Responses -/

theorem putResponse (kept : Kept limit staff session l) {response : Response}
    {responses : Pool Response}
    (delivering : session.downloads[place]? = some (.delivering response))
    (put : session.responses.tryPut response = .ok responses) :
    Kept limit staff
      { session with downloads := session.downloads.eraseIdx place, responses := responses } l := by
  obtain ⟨ready, held⟩ := kept.ready.responses.tryPut put
  refine { kept with
    ready := { kept.ready with responses := ready }
    requests := ?_
    responses := ?_
    downloads_le := (List.length_eraseIdx_le ..).trans kept.downloads_le }
  · rw [kept.requests, Session.downloading, Session.downloading, bind_of_place delivering,
      Task.units, zero_add]
  · change _ = Session.delivered _ + ↑responses.items + session.unanalysed + _
    rw [kept.responses, held, Session.delivered, Session.delivered, bind_of_place delivering,
      Task.outputs, ← Multiset.singleton_add]
    abel

theorem takeResponse (kept : Kept limit staff session l) {response : Response}
    {responses : Pool Response} (free : session.analyses.length < limit)
    (taken : session.responses.tryGet = .ok (some (response, responses))) :
    Kept limit staff { session with
      responses := responses, analyses := session.analyses ++ [.taken response] } l := by
  obtain ⟨ready, held⟩ := kept.ready.responses.tryGet taken
  refine { kept with
    ready := { kept.ready with responses := ready }
    responses := ?_
    handed := ?_
    items := ?_
    analyses_le := by rwa [List.length_append] }
  · change _ = session.delivered + ↑responses.items + Session.unanalysed _ + _
    rw [kept.responses, held, Session.unanalysed, Session.unanalysed, bind_concat, Task.uncalled,
      ← Multiset.singleton_add]
    abel
  · rw [kept.handed, Session.analysing, Session.analysing, bind_concat, Task.calls, add_zero]
  · rw [kept.items, Session.unhanded, Session.unhanded, bind_concat, itemsLeft, add_zero]
    rfl

theorem beginAnalysis (kept : Kept limit staff session l) {response : Response}
    (taken : session.analyses[place]? = some (.taken response)) :
    Kept limit staff
      { session with analyses := session.analyses.set place (.begun response) } l := by
  refine { kept with
    ready := { kept.ready with }
    responses := ?_
    handed := ?_
    items := ?_
    analyses_le := by simpa only [List.length_set] using kept.analyses_le }
  · rw [kept.responses, Session.unanalysed, Session.unanalysed,
      bind_set_same taken (.begun response) Task.uncalled rfl]
    rfl
  · rw [kept.handed, Session.analysing, Session.analysing,
      bind_set_same taken (.begun response) Task.calls rfl]
  · rw [kept.items, Session.unhanded, Session.unhanded,
      bind_set_same taken (.begun response) itemsLeft rfl]
    rfl

/-- A response is handed to an analyzer. -/
theorem callAnalyzer (kept : Kept limit staff session l) {response : Response} {worker : ModuleId}
    (begun : session.analyses[place]? = some (.begun response))
    (member : (worker, .analyzer) ∈ staff) :
    Kept limit staff
      { session with analyses := session.analyses.set place (.calling worker response) }
      { l with handed := (worker, response) ::ₘ l.handed } := by
  refine { kept with
    ready := { kept.ready with }
    responses := ?_
    handed := ?_
    items := ?_
    analyzers := ?_
    analyses_le := by simpa only [List.length_set] using kept.analyses_le }
  · change l.responses = session.delivered + ↑session.responses.items + Session.unanalysed _ + _
    rw [kept.responses, Session.unanalysed, Session.unanalysed, bind_of_place begun,
      bind_set begun, Task.uncalled, Task.uncalled, Multiset.map_cons, ← Multiset.singleton_add]
    abel
  · change (worker, response) ::ₘ l.handed = Session.analysing _ + l.analysed + l.broken
    rw [kept.handed, Session.analysing, Session.analysing, bind_of_place begun, bind_set begun,
      Task.calls, Task.calls, ← Multiset.singleton_add]
    abel
  · rw [kept.items, Session.unhanded, Session.unhanded,
      bind_set_same begun (.calling worker response) itemsLeft rfl]
    rfl
  · intro entry among
    rcases Multiset.mem_cons.mp among with rfl | old
    · exact member
    · exact kept.analyzers entry old

/-! ### Finds -/

theorem endAnalysis (kept : Kept limit staff session l) {worker : ModuleId} {response : Response}
    (calling : session.analyses[place]? = some (.calling worker response)) (found : Yield) :
    Kept limit staff (session.handOver place found) { l with
      analysed := (worker, response) ::ₘ l.analysed
      returned := itemsOf found.data + l.returned } := by
  refine { kept with
    ready := { kept.ready with }
    responses := ?_
    handed := ?_
    items := ?_
    analyses_le := by simpa only [Session.handOver, List.length_set] using kept.analyses_le }
  · change l.responses = session.delivered + ↑session.responses.items + Session.unanalysed _ + _
    rw [kept.responses, Session.unanalysed, Session.unanalysed, Session.handOver,
      bind_set_same calling (.delivering found) Task.uncalled rfl]
  · change l.handed = Session.analysing _ + (worker, response) ::ₘ l.analysed + l.broken
    rw [kept.handed, Session.analysing, Session.analysing, Session.handOver, bind_of_place calling,
      bind_set calling, Task.calls, Task.calls, ← Multiset.singleton_add]
    abel
  · change itemsOf found.data + l.returned =
      Session.unhanded _ + ↑session.items.items + session.unprocessed + _
    rw [kept.items, Session.unhanded, Session.unhanded, Session.handOver, bind_of_place calling,
      bind_set calling, itemsLeft, itemsLeft]
    abel

theorem breakAnalysis (kept : Kept limit staff session l) {worker : ModuleId} {response : Response}
    (calling : session.analyses[place]? = some (.calling worker response)) :
    Kept limit staff
      { session with analyses := session.analyses.eraseIdx place, broken := session.broken + 1 }
      { l with broken := (worker, response) ::ₘ l.broken } := by
  refine { kept with
    ready := { kept.ready with }
    responses := ?_
    handed := ?_
    items := ?_
    broken := by rw [Multiset.card_cons, kept.broken]
    analyses_le := (List.length_eraseIdx_le ..).trans kept.analyses_le }
  · change l.responses = session.delivered + ↑session.responses.items + Session.unanalysed _ + _
    rw [kept.responses, Session.unanalysed, Session.unanalysed, bind_of_place calling,
      Task.uncalled, zero_add]
  · change l.handed = Session.analysing _ + l.analysed + (worker, response) ::ₘ l.broken
    rw [kept.handed, Session.analysing, Session.analysing, bind_of_place calling, Task.calls,
      ← Multiset.singleton_add]
    abel
  · rw [kept.items, Session.unhanded, Session.unhanded, bind_of_place calling, itemsLeft, zero_add]
    rfl

/-- What is handed over leaves the analyses that are not over as they are. -/
theorem handOver (kept : Kept limit staff session l) {found left : Yield} {items : Pool Item}
    (delivering : session.analyses[place]? = some (.delivering found)) (ready : items.Ready)
    (balance : itemsOf found.data + ↑session.items.items =
      itemsOf left.data + (↑items.items : Multiset Item)) :
    Kept limit staff { session.handOver place left with items := items } l := by
  refine { kept with
    ready := { kept.ready with items := ready }
    responses := ?_
    handed := ?_
    items := ?_
    analyses_le := by simpa only [Session.handOver, List.length_set] using kept.analyses_le }
  · change l.responses = session.delivered + ↑session.responses.items + Session.unanalysed _ + _
    rw [kept.responses, Session.unanalysed, Session.unanalysed, Session.handOver,
      bind_set_same delivering (.delivering left) Task.uncalled rfl]
  · rw [kept.handed, Session.analysing, Session.analysing, Session.handOver,
      bind_set_same delivering (.delivering left) Task.calls rfl]
  · change l.returned = Session.unhanded _ + ↑items.items + session.unprocessed + _
    rw [kept.items, Session.unhanded, Session.unhanded, Session.handOver,
      bind_of_place delivering, bind_set delivering, itemsLeft, itemsLeft,
      add_right_comm (itemsOf found.data), balance]
    abel

/-- A request that is handed over leaves the items as they are. -/
theorem handRequest (kept : Kept limit staff session l) {r : Request} {data : List Datum}
    {errors : List CrawlError}
    (delivering : session.analyses[place]? = some (.delivering ⟨.request r :: data, errors⟩)) :
    Kept limit staff (session.handOver place ⟨data, errors⟩) l :=
  kept.handOver delivering kept.ready.items rfl

theorem putItem (kept : Kept limit staff session l) {item : Item} {data : List Datum}
    {errors : List CrawlError} {items : Pool Item}
    (delivering : session.analyses[place]? = some (.delivering ⟨.item item :: data, errors⟩))
    (put : session.items.tryPut item = .ok items) :
    Kept limit staff { session.handOver place ⟨data, errors⟩ with items := items } l := by
  obtain ⟨ready, held⟩ := kept.ready.items.tryPut put
  refine kept.handOver delivering ready ?_
  rw [held, itemsOf, Multiset.cons_add, Multiset.add_cons]

/-! ### Items -/

theorem takeItem (kept : Kept limit staff session l) {item : Item} {items : Pool Item}
    (free : session.processings.length < limit)
    (taken : session.items.tryGet = .ok (some (item, items))) :
    Kept limit staff
      { session with items := items, processings := session.processings ++ [.taken item] } l := by
  obtain ⟨ready, held⟩ := kept.ready.items.tryGet taken
  refine { kept with
    ready := { kept.ready with items := ready }
    items := ?_
    sent := ?_
    processings_le := by rwa [List.length_append] }
  · change l.returned = session.unhanded + ↑items.items + Session.unprocessed _ + _
    rw [kept.items, held, Session.unprocessed, Session.unprocessed, bind_concat, Task.uncalled,
      ← Multiset.singleton_add]
    abel
  · rw [kept.sent, Session.processing, Session.processing, bind_concat, Task.calls, add_zero]

theorem beginProcessing (kept : Kept limit staff session l) {item : Item}
    (taken : session.processings[place]? = some (.taken item)) :
    Kept limit staff
      { session with processings := session.processings.set place (.begun item) } l := by
  refine { kept with
    ready := { kept.ready with }
    items := ?_
    sent := ?_
    processings_le := by simpa only [List.length_set] using kept.processings_le }
  · rw [kept.items, Session.unprocessed, Session.unprocessed,
      bind_set_same taken (.begun item) Task.uncalled rfl]
    rfl
  · rw [kept.sent, Session.processing, Session.processing,
      bind_set_same taken (.begun item) Task.calls rfl]

/-- An item is sent to a pipeline. -/
theorem callPipeline (kept : Kept limit staff session l) {item : Item} {worker : ModuleId}
    (begun : session.processings[place]? = some (.begun item))
    (member : (worker, .pipeline) ∈ staff) :
    Kept limit staff
      { session with processings := session.processings.set place (.calling worker item) }
      { l with sent := (worker, item) ::ₘ l.sent } := by
  refine { kept with
    ready := { kept.ready with }
    items := ?_
    sent := ?_
    pipelines := ?_
    processings_le := by simpa only [List.length_set] using kept.processings_le }
  · change l.returned = session.unhanded + ↑session.items.items + Session.unprocessed _ + _
    rw [kept.items, Session.unprocessed, Session.unprocessed, bind_of_place begun, bind_set begun,
      Task.uncalled, Task.uncalled, Multiset.map_cons, ← Multiset.singleton_add]
    abel
  · change (worker, item) ::ₘ l.sent = Session.processing _ + l.processed
    rw [kept.sent, Session.processing, Session.processing, bind_of_place begun, bind_set begun,
      Task.calls, Task.calls, ← Multiset.singleton_add]
    abel
  · intro entry among
    rcases Multiset.mem_cons.mp among with rfl | old
    · exact member
    · exact kept.pipelines entry old

/-! ### Errors -/

theorem admitError (kept : Kept limit staff session l) {errors : Inbox CrawlError}
    (admitted : session.errors.admit? place = some errors) :
    Kept limit staff { session with errors := errors } l := by
  obtain ⟨ready, held⟩ := Inbox.admit?_of_ready kept.ready.errors admitted
  exact { kept with
    ready := { kept.ready with errors := ready }
    errors := held.trans kept.errors }

theorem report (kept : Kept limit staff session l) (e : CrawlError) :
    Kept limit staff (session.report e) { l with reported := e ::ₘ l.reported } := by
  obtain ⟨ready, held⟩ := Inbox.put_of_ready kept.ready.errors e
  refine { kept with ready := { kept.ready with errors := ready }, errors := ?_ }
  change (session.errors.put e).held = l.failures + e ::ₘ l.reported
  rw [held, kept.errors, Multiset.add_cons]

theorem reportAll (kept : Kept limit staff session l) (errors : List CrawlError) :
    Kept limit staff (session.reportAll errors) { l with reported := ↑errors + l.reported } := by
  induction errors generalizing session l with
  | nil => simpa [Session.reportAll] using kept
  | cons e rest ih =>
      have all := ih (kept.report e)
      rwa [Multiset.add_cons, ← Multiset.cons_add, Multiset.cons_coe] at all

/-- The errors of an analysis are reported when all else is handed over. -/
theorem endFinds (kept : Kept limit staff session l) {errors : List CrawlError}
    (delivering : session.analyses[place]? = some (.delivering ⟨[], errors⟩)) :
    Kept limit staff
      ({ session with analyses := session.analyses.eraseIdx place }.reportAll errors)
      { l with reported := ↑errors + l.reported } := by
  have handed : Kept limit staff
      { session with analyses := session.analyses.eraseIdx place } l := by
    refine { kept with
      ready := { kept.ready with }
      responses := ?_
      handed := ?_
      items := ?_
      analyses_le := (List.length_eraseIdx_le ..).trans kept.analyses_le }
    · rw [kept.responses, Session.unanalysed, Session.unanalysed, bind_of_place delivering,
        Task.uncalled, zero_add]
      rfl
    · rw [kept.handed, Session.analysing, Session.analysing, bind_of_place delivering, Task.calls,
        zero_add]
    · rw [kept.items, Session.unhanded, Session.unhanded, bind_of_place delivering, itemsLeft,
        itemsOf, zero_add]
      rfl
  exact handed.reportAll errors

theorem endProcessing (kept : Kept limit staff session l) {worker : ModuleId} {item : Item}
    (calling : session.processings[place]? = some (.calling worker item))
    (errors : List CrawlError) :
    Kept limit staff
      ({ session with processings := session.processings.eraseIdx place }.reportAll errors)
      { l with processed := (worker, item) ::ₘ l.processed, reported := ↑errors + l.reported } := by
  have processed : Kept limit staff
      { session with processings := session.processings.eraseIdx place }
      { l with processed := (worker, item) ::ₘ l.processed } := by
    refine { kept with
      ready := { kept.ready with }
      items := ?_
      sent := ?_
      processings_le := (List.length_eraseIdx_le ..).trans kept.processings_le }
    · change l.returned = session.unhanded + ↑session.items.items + Session.unprocessed _ + _
      rw [kept.items, Session.unprocessed, Session.unprocessed, bind_of_place calling,
        Task.uncalled, zero_add]
    · change l.sent = Session.processing _ + (worker, item) ::ₘ l.processed
      rw [kept.sent, Session.processing, Session.processing, bind_of_place calling, Task.calls,
        ← Multiset.singleton_add]
      abel
  exact processed.reportAll errors

/-! ### Moves and requests -/

/-- A request that is sent is entered just when it is accepted. -/
theorem send (kept : Kept limit staff session l) (r : Request) :
    Kept limit staff (session.send r).2
      (if (session.send r).1 then { l with accepted := r ::ₘ l.accepted } else l) := by
  rcases session.send_spec r with
    ⟨refused, -, same⟩ | ⟨k, -, closed, -⟩ | ⟨k, requests, accepted, put, same⟩
  · rw [refused, same]
    exact kept
  · obtain ⟨after, put, -⟩ := Inbox.put?_of_ready kept.ready.requests r
    cases put.symm.trans closed
  · rw [accepted, same]
    exact kept.accept put

variable {s : Scheduler} {next : Session}

/-- Every move keeps the books in balance, but for one that gives a request to an outlet. -/
theorem moved {m : Move} (kept : Kept limit s.registrar.signature session l)
    (staffed : s.Staffed) (bound : s.crews * s.maxConcurrency ≤ limit)
    (home : session.finds m = true → s.outlet = none) (moved : s.Moved session m next) :
    Kept limit s.registrar.signature next (l.move s session m) := by
  have below {α β : Type} {tasks : List (Task α β)} (free : s.mayTake tasks = true) :
      tasks.length < limit := by
    simp only [Scheduler.mayTake, Bool.and_eq_true, decide_eq_true_eq] at free
    exact free.2.trans_le bound
  have present {role : Role} {e : CrawlError} (missing : s.choice role = .error e) : False := by
    obtain ⟨worker, chosen⟩ := s.choice_of_staffed staffed role
    cases chosen.symm.trans missing
  cases moved with
  | admitRequest admitted => exact kept.admitRequest admitted
  | admitError admitted => exact kept.admitError admitted
  | takeRequest free taken => exact kept.takeRequest (below free) taken
  | takeResponse free taken => exact kept.takeResponse (below free) taken
  | takeItem free taken => exact kept.takeItem (below free) taken
  | beginDownload taken => exact kept.goOnDownload taken rfl rfl
  | beginAnalysis taken => exact kept.beginAnalysis taken
  | beginProcessing taken => exact kept.beginProcessing taken
  | callDownloader begun => exact kept.goOnDownload begun rfl rfl
  | callAnalyzer begun chosen =>
      simp only [Ledger.move, begun, chosen]
      exact kept.callAnalyzer begun (s.mem_signature_of_choice chosen)
  | callPipeline begun chosen =>
      simp only [Ledger.move, begun, chosen]
      exact kept.callPipeline begun (s.mem_signature_of_choice chosen)
  | missDownloader _ missing | missAnalyzer _ missing | missPipeline _ missing =>
      exact (present missing).elim
  | endDownload calling =>
      simp only [Ledger.move, calling]
      exact kept.endDownload calling _
  | failDownload calling =>
      simp only [Ledger.move, calling]
      exact kept.failDownload calling _
  | putResponse delivering put => exact kept.putResponse delivering put
  | dropResponse _ closed => exact absurd closed kept.ready.responses.not_closed
  | endAnalysis calling =>
      simp only [Ledger.move, calling]
      exact kept.endAnalysis calling _
  | breakAnalysis calling =>
      simp only [Ledger.move, calling]
      exact kept.breakAnalysis calling
  | sendFound delivering _ goesOn =>
      simp only [Ledger.move, delivering, Ledger.send, s.send_withSession, if_neg goesOn]
      exact (kept.handRequest delivering).send _
  | sendElsewhere delivering notHome =>
      rcases notHome with outlet | stopped
      · exact absurd (home (by simp [Session.finds, delivering])) outlet
      · simp only [Ledger.move, delivering, Ledger.send, s.send_withSession, if_pos stopped,
          Bool.false_eq_true, if_false]
        exact kept.handRequest delivering
  | putItem delivering put =>
      simp only [Ledger.move, delivering]
      exact kept.putItem delivering put
  | dropItem _ closed => exact absurd closed kept.ready.items.not_closed
  | endFinds delivering =>
      simp only [Ledger.move, delivering]
      exact kept.endFinds delivering
  | endProcessing calling =>
      simp only [Ledger.move, calling]
      exact kept.endProcessing calling _

/-- A request that is given to an outlet is not entered. -/
theorem foundElsewhere {m : Move} (kept : Kept limit staff session l)
    (found : session.finds m = true) (outlet : s.outlet ≠ none) (moved : s.Moved session m next) :
    Kept limit staff next l := by
  cases moved with
  | sendFound _ home => exact absurd home outlet
  | sendElsewhere delivering => exact kept.handRequest delivering
  | putItem delivering => simp [Session.finds, delivering] at found
  | dropItem delivering => simp [Session.finds, delivering] at found
  | endFinds delivering => simp [Session.finds, delivering] at found
  | _ => cases found

end Kept

/-! ## Runs -/

namespace Scheduler

variable {limit : Nat} {s t : Scheduler} {l : Ledger}

/-- The scheduler is prepared, and has not been stopped since. -/
def Active (s : Scheduler) : Prop :=
  s.status = .prepared ∨ s.status = .started ∨ s.status = .paused

/-- The session of a staffed scheduler without an outlet balances with the books. -/
structure Balanced (limit : Nat) (s : Scheduler) (l : Ledger) : Prop where
  staffed : s.Staffed
  kept : ∃ session, s.session = some session ∧ Kept limit s.registrar.signature session l

namespace Balanced

theorem of_same (balanced : Balanced limit s l) (session : t.session = s.session)
    (registrar : t.registrar = s.registrar) : Balanced limit t l := by
  obtain ⟨staffed, kept⟩ := balanced
  refine ⟨?_, ?_⟩
  · rwa [Staffed, registrar]
  · rwa [session, registrar]

theorem send (balanced : Balanced limit s l) (r : Request) :
    Balanced limit (s.send r).2 (l.send s r) := by
  obtain ⟨staffed, session, present, kept⟩ := balanced
  by_cases stopped : s.run = .stopped
  · simp only [Ledger.send, Scheduler.send, present, stopped, if_true, Bool.false_eq_true,
      if_false]
    exact ⟨staffed, session, present, kept⟩
  · simp only [Ledger.send, Scheduler.send, present, stopped, if_false]
    exact ⟨staffed, (session.send r).2, rfl, kept.send r⟩

theorem sendAll (balanced : Balanced limit s l) (requests : List Request) :
    Balanced limit (s.sendAll requests) (l.sendAll s requests) := by
  induction requests generalizing s l with
  | nil => exact balanced
  | cons r rest ih => exact ih (balanced.send r)

theorem move (balanced : Balanced limit s l) (sound : s.Sound)
    (width : s.maxConcurrency = limit) {queue queue' : Inbox Request} {m : Move}
    (step : s.move? queue m = some (t, queue')) :
    Balanced limit t (l.book s (.work queue m)) := by
  obtain ⟨session, next, present, moved, goesOn⟩ := move?_moved step
  obtain ⟨staffed, old, same, kept⟩ := balanced
  cases same.symm.trans present
  have bound : s.crews * s.maxConcurrency ≤ limit := by
    rw [width]
    exact (Nat.mul_le_mul_right limit sound.crews_le).trans (Nat.one_mul limit).le
  refine ⟨fun role => ?_, next, ?_, ?_⟩
  · rw [goesOn.signature]
    exact staffed role
  · rw [goesOn.same]
  · rw [goesOn.signature]
    simp only [Ledger.book, present]
    by_cases elsewhere : session.finds m = true ∧ s.outlet ≠ none
    · have isSome : s.outlet.isSome = true := Option.isSome_iff_ne_none.mpr elsewhere.2
      simp only [isSome, elsewhere.1, Bool.and_self, if_true]
      exact kept.foundElsewhere elsewhere.1 elsewhere.2 moved
    · have here : (s.outlet.isSome && session.finds m) = false := by
        rw [Bool.and_eq_false_iff, Option.isSome_eq_false_iff, Option.isNone_iff_eq_none]
        by_cases found : session.finds m = true
        · exact Or.inl (not_not.mp fun outlet => elsewhere ⟨found, outlet⟩)
        · exact Or.inr (Bool.eq_false_iff.mpr found)
      simp only [here, Bool.false_eq_true, if_false]
      refine kept.moved staffed bound ?_ moved
      intro found
      exact not_not.mp fun outlet => elsewhere ⟨found, outlet⟩

end Balanced

/-- The outlet is the same, and how much a stage works on; no event changes them. -/
structure SameFrame (s t : Scheduler) : Prop where
  outlet : t.outlet = s.outlet
  maxConcurrency : t.maxConcurrency = s.maxConcurrency

theorem sameFrame_send (s : Scheduler) (r : Request) : SameFrame s (s.send r).2 := by
  unfold send
  split
  · exact ⟨rfl, rfl⟩
  · split <;> exact ⟨rfl, rfl⟩

theorem sameFrame_sendAll (s : Scheduler) (requests : List Request) :
    SameFrame s (s.sendAll requests) := by
  induction requests generalizing s with
  | nil => exact ⟨rfl, rfl⟩
  | cons r rest ih =>
      have first := sameFrame_send s r
      have others := ih (s.send r).2
      exact ⟨others.outlet.trans first.outlet, others.maxConcurrency.trans first.maxConcurrency⟩

theorem sameFrame_perform (s : Scheduler) (op : Operation) : SameFrame s (s.perform op).2 := by
  generalize done : (s.perform op).2 = t
  rcases perform_cases done with ⟨-, performed⟩ | ⟨registrar, rfl, -⟩
  · cases performed with
    | @start seeds =>
        have frame := sameFrame_sendAll s.begun (seeds.getD [])
        exact ⟨frame.outlet, frame.maxConcurrency⟩
    | init | pause | recover | stop => exact ⟨rfl, rfl⟩
  · exact ⟨rfl, rfl⟩

theorem sameFrame_step {e : Event} (step : s.step? e = some t) : SameFrame s t := by
  cases e with
  | operation op =>
      cases step
      exact sameFrame_perform s op
  | endStop =>
      obtain ⟨-, rfl⟩ := endStop?_spec step
      exact ⟨rfl, rfl⟩
  | send r =>
      cases step
      exact sameFrame_send s r
  | work queue m =>
      obtain ⟨⟨after, queue'⟩, moved, rfl⟩ := Option.map_eq_some_iff.mp step
      obtain ⟨session, next, -, -, goesOn⟩ := move?_moved moved
      rw [goesOn.same]
      exact ⟨rfl, rfl⟩

/-- What is kept of a scheduler in every run: as long as it is active, the books balance. -/
structure Accounted (limit : Nat) (s : Scheduler) (l : Ledger) : Prop where
  sound : s.Sound
  width : s.maxConcurrency = limit
  balanced : s.Active → Balanced limit s l

namespace Accounted

/-- A scheduler that goes on with the same frame stays accounted for if it balances. -/
theorem of_step (booked : Accounted limit s l) {e : Event} {after : Ledger}
    (step : s.step? e = some t) (frame : SameFrame s t)
    (balanced : t.Active → Balanced limit t after) : Accounted limit t after where
  sound := booked.sound.step step
  width := frame.maxConcurrency.trans booked.width
  balanced := balanced

theorem new (outlet : Option Nat) (maxConcurrency : Nat) :
    Accounted (max maxConcurrency 1) { Scheduler.new maxConcurrency with outlet := outlet }
      .empty where
  sound := sound_new outlet maxConcurrency
  width := rfl
  balanced := fun active => by rcases active with status | status | status <;> cases status

theorem init (booked : Accounted limit s l) (policy : CrawlPolicy) (sizes : PoolSizes)
    (modules : ModuleSet) :
    Accounted limit (s.init policy sizes modules).2
      (l.record s (.operation (.init policy sizes modules))) := by
  have step : s.step? (.operation (.init policy sizes modules)) =
    some (s.init policy sizes modules).2 := rfl
  simp only [Ledger.record, perform]
  rcases init_spec (s := s) (Prod.eta (s.init policy sizes modules)).symm with
    ⟨e, failed, same, idle⟩ | ⟨ok, prepared, same⟩ |
      ⟨ok, origin, checked, session, registrar, made, registered, same⟩
  · simp only [failed]
    refine booked.of_step step ⟨by rw [same], by rw [same]⟩ fun active => ?_
    rw [Active, same] at active
    rcases idle with status | status | unchanged
    · rcases active with now | now | now <;> cases status.symm.trans now
    · rcases active with now | now | now <;> cases status.symm.trans now
    · rw [unchanged]
      exact booked.balanced active
  · simp only [ok, prepared, if_true, same]
    exact booked
  · have notPrepared : s.status ≠ .prepared := by
      rcases origin with status | status <;> simp [status]
    simp only [ok, notPrepared, if_false]
    refine booked.of_step step ⟨by rw [same], by rw [same]⟩ fun _ => ?_
    rw [same]
    exact ⟨staffed_of_registerAll checked registered, session, rfl, .new made⟩

theorem start (booked : Accounted limit s l) (seeds : Option (List Request)) :
    Accounted limit (s.start seeds).2 (l.record s (.operation (.start seeds))) := by
  have step : s.step? (.operation (.start seeds)) = some (s.start seeds).2 := rfl
  simp only [Ledger.record, perform]
  rcases start_spec (s := s) (Prod.eta (s.start seeds)).symm with
    ⟨e, failed, same⟩ | ⟨ok, origin, same⟩
  · simp only [failed, same]
    exact booked
  · have active : s.Active := origin.imp_right Or.inr
    have frame := sameFrame_sendAll s.begun (seeds.getD [])
    have balanced : Balanced limit s.begun l := (booked.balanced active).of_same rfl rfl
    simp only [ok]
    refine booked.of_step step ⟨?_, ?_⟩ fun _ => ?_
    · rw [same, frame.outlet]
      rfl
    · rw [same, frame.maxConcurrency]
      rfl
    · rw [same]
      exact balanced.sendAll _

theorem pause (booked : Accounted limit s l) : Accounted limit s.pause.2 l := by
  have step : s.step? (.operation .pause) = some s.pause.2 := rfl
  rcases pause_spec (s := s) (Prod.eta _).symm with ⟨e, -, same⟩ | ⟨-, status, same⟩
  · rw [same]
    exact booked
  · refine booked.of_step step ⟨by rw [same], by rw [same]⟩ fun _ => ?_
    rw [same]
    exact (booked.balanced (Or.inr (Or.inl status))).of_same rfl rfl

theorem recover (booked : Accounted limit s l) : Accounted limit s.recover.2 l := by
  have step : s.step? (.operation .recover) = some s.recover.2 := rfl
  rcases recover_spec (s := s) (Prod.eta _).symm with ⟨e, -, same⟩ | ⟨-, status, same⟩
  · rw [same]
    exact booked
  · refine booked.of_step step ⟨by rw [same], by rw [same]⟩ fun _ => ?_
    rw [same]
    exact (booked.balanced (Or.inr (Or.inr status))).of_same rfl rfl

/-- A scheduler that begins to stop is not active any more. -/
theorem beginStop (booked : Accounted limit s l) : Accounted limit s.beginStop.2 l := by
  have step : s.step? (.operation .stop) = some s.beginStop.2 := rfl
  rcases beginStop_spec (s := s) (Prod.eta _).symm with ⟨e, -, same⟩ | ⟨-, -, same⟩
  · rw [same]
    exact booked
  · refine booked.of_step step ⟨by rw [same], by rw [same]⟩ fun active => ?_
    rw [Active, same] at active
    rcases active with status | status | status <;> cases status

theorem step (booked : Accounted limit s l) {e : Event} (step : s.step? e = some t) :
    Accounted limit t (l.book s e) := by
  cases e with
  | operation op =>
      have same : l.book s (.operation op) = l.record s (.operation op) := by
        unfold Ledger.book
        split <;> first | rfl | contradiction
      rw [same]
      cases Option.some.inj step
      cases op with
      | init policy sizes modules => exact booked.init policy sizes modules
      | start seeds => exact booked.start seeds
      | pause => exact booked.pause
      | recover => exact booked.recover
      | stop => exact booked.beginStop
  | endStop =>
      obtain ⟨-, rfl⟩ := endStop?_spec step
      exact booked.of_step step ⟨rfl, rfl⟩ fun active => by
        rcases active with status | status | status <;> cases status
  | send r =>
      have same : l.book s (.send r) = l.send s r := by
        unfold Ledger.book
        split <;> first | rfl | contradiction
      rw [same]
      cases Option.some.inj step
      refine booked.of_step step (sameFrame_send s r) fun active => ?_
      rw [Active, (sameLife_send s r).status] at active
      exact (booked.balanced active).send r
  | work queue m =>
      obtain ⟨⟨after, queue'⟩, moved, rfl⟩ := Option.map_eq_some_iff.mp step
      obtain ⟨session, next, -, -, goesOn⟩ := move?_moved moved
      refine booked.of_step step ⟨by rw [goesOn.same], by rw [goesOn.same]⟩ fun active => ?_
      rw [Active, (sameLife_move? moved).status] at active
      exact (booked.balanced active).move booked.sound booked.width moved

end Accounted

/-- What is kept of a scheduler without an outlet. -/
structure Booked (limit : Nat) (s : Scheduler) (l : Ledger) : Prop extends Accounted limit s l where
  home : s.outlet = none

namespace Booked

theorem new (maxConcurrency : Nat) :
    Booked (max maxConcurrency 1) (Scheduler.new maxConcurrency) .empty where
  toAccounted := .new none maxConcurrency
  home := rfl

theorem step (booked : Booked limit s l) {e : Event} (step : s.step? e = some t) :
    Booked limit t (l.record s e) where
  toAccounted := by
    rw [← Ledger.book_of_home booked.home]
    exact booked.toAccounted.step step
  home := (sameFrame_step step).outlet.trans booked.home

end Booked

/-- **No work is lost or done twice.**  In every run of a scheduler without an outlet, at any moment
between a preparation and the stop that follows it, the books of the session balance:

* the requests that were accepted are those that wait to enter their pool, those in it, those that
  are being downloaded, and those whose download is over;
* every download that is over gave a response or an error, and the responses are those that wait
  to enter their pool, those in it, those that a stage has just taken from it, and those that were
  handed to an analyzer;
* the calls of analyzers are those under way, those that are over, and those that broke off;
* the items that analyzers returned are those that wait to enter their pool, those in it, those
  that a stage has just taken from it, and those that were sent to a pipeline;
* the calls of pipelines are those under way and those that are over;
* the errors that wait or are in their pool are those of downloads and those that analyses and
  pipelines reported.

Every sum is one of multisets, so that nothing is counted twice.  No stage ever has more in its hands
than it may work on. -/
theorem run_conserved (maxConcurrency : Nat) (events : List Event) (s : Scheduler) (l : Ledger)
    (run : run? Ledger.record (new maxConcurrency) .empty events = some (s, l))
    (active : s.Active) :
    ∃ session, s.session = some session ∧
      l.accepted = ↑session.requests.waiting + ↑session.requests.pool.items +
        session.downloading + l.finished.map (·.1) ∧
      l.responses = session.delivered + ↑session.responses.items + session.unanalysed +
        l.handed.map (·.2) ∧
      l.handed = session.analysing + l.analysed + l.broken ∧
      l.returned = session.unhanded + ↑session.items.items + session.unprocessed +
        l.sent.map (·.2) ∧
      l.sent = session.processing + l.processed ∧
      ↑session.errors.waiting + ↑session.errors.pool.items = l.failures + l.reported ∧
      (∀ entry ∈ l.handed, (entry.1, .analyzer) ∈ s.registrar.signature) ∧
      (∀ entry ∈ l.sent, (entry.1, .pipeline) ∈ s.registrar.signature) ∧
      session.downloads.length ≤ max maxConcurrency 1 ∧
      session.analyses.length ≤ max maxConcurrency 1 ∧
      session.processings.length ≤ max maxConcurrency 1 := by
  have booked : Booked (max maxConcurrency 1) s l :=
    run?_induction (fun s l e t booked step => booked.step step) (.new maxConcurrency) run
  obtain ⟨-, session, present, kept⟩ := booked.balanced active
  exact ⟨session, present, kept.requests, kept.responses, kept.handed, kept.items, kept.sent,
    kept.errors, kept.analyzers, kept.pipelines, kept.downloads_le, kept.analyses_le,
    kept.processings_le⟩

/-- A crawl of one page, on which an item and a link are found. -/
def smallCrawl : List Event :=
  [.operation (.init .usual .usual oneOfEach), .operation (.start (some [page "first"])),
    .work default .takeRequest, .work default (.begin .downloader 0),
    .work default (.call .downloader 0), .work default (.endDownload 0 (.ok default)),
    .work default (.putResponse 0), .work default .takeResponse,
    .work default (.begin .analyzer 0), .work default (.call .analyzer 0),
    .work default (.endAnalysis 0 ⟨[.item default, .request (page "second")], []⟩),
    .work default (.putDatum 0), .work default (.putDatum 0), .work default (.putDatum 0),
    .work default .takeItem, .work default (.begin .pipeline 0), .work default (.call .pipeline 0),
    .work default (.endProcessing 0 []), .operation .pause, .send (page "third")]

example : (run? Ledger.record (new 2) .empty smallCrawl).map
    (fun (_, l) => (l.accepted.card, l.finished.card, l.analysed.card, l.processed.card)) =
      some (3, 1, 1, 1) := rfl

theorem run_conserved_smallCrawl : ∃ s l,
    run? Ledger.record (new 2) .empty smallCrawl = some (s, l) ∧ s.Active ∧
      ∃ session, s.session = some session ∧
        l.accepted = ↑session.requests.waiting + ↑session.requests.pool.items +
          session.downloading + l.finished.map (·.1) ∧
        l.responses = session.delivered + ↑session.responses.items + session.unanalysed +
          l.handed.map (·.2) ∧
        l.handed = session.analysing + l.analysed + l.broken ∧
        l.returned = session.unhanded + ↑session.items.items + session.unprocessed +
          l.sent.map (·.2) ∧
        l.sent = session.processing + l.processed ∧
        ↑session.errors.waiting + ↑session.errors.pool.items = l.failures + l.reported ∧
        (∀ entry ∈ l.handed, (entry.1, .analyzer) ∈ s.registrar.signature) ∧
        (∀ entry ∈ l.sent, (entry.1, .pipeline) ∈ s.registrar.signature) ∧
        session.downloads.length ≤ 2 ∧ session.analyses.length ≤ 2 ∧
        session.processings.length ≤ 2 := by
  have possible : (run? Ledger.record (new 2) .empty smallCrawl).map (·.1.status) =
    some .paused := rfl
  obtain ⟨⟨s, l⟩, run, status⟩ := Option.map_eq_some_iff.mp possible
  have active : s.Active := Or.inr (Or.inr status)
  exact ⟨s, l, run, active, run_conserved 2 smallCrawl s l run active⟩

end Scheduler

end CrawlMesh
