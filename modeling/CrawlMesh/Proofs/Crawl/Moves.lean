/-
# What a move does

`Moved` tells once, for every kind of move, what may become of a session: one constructor for
each way in which a move goes.  `move?_moved` finds the one that a possible move took; besides the
session only counts and scores of modules change.  A move neither opens nor closes a pool
(`Moved.gates`).
-/
import CrawlMesh.Proofs.Crawl.Registered
import CrawlMesh.Proofs.Pool.Inbox

namespace CrawlMesh

set_option autoImplicit false

/-! ## Which pools are closed -/

namespace Session

/-- Which of the pools are closed. -/
def gates (s : Session) : List Bool :=
  [s.requests.pool.closed, s.responses.closed, s.items.closed, s.errors.pool.closed]

@[simp] theorem gates_report (s : Session) (e : CrawlError) : (s.report e).gates = s.gates := by
  simp [gates, report]

/-- Reporting changes which errors there are to read, and nothing else. -/
theorem reportAll_spec (s : Session) (l : List CrawlError) :
    ∃ errors, s.reportAll l = { s with errors := errors } ∧
      errors.pool.closed = s.errors.pool.closed := by
  induction l generalizing s with
  | nil => exact ⟨s.errors, rfl, rfl⟩
  | cons e rest ih =>
      obtain ⟨errors, same, closed⟩ := ih (s.report e)
      exact ⟨errors, same, closed.trans (Inbox.closed_put s.errors e)⟩

@[simp] theorem gates_reportAll (s : Session) (l : List CrawlError) :
    (s.reportAll l).gates = s.gates := by
  obtain ⟨errors, same, closed⟩ := s.reportAll_spec l
  rw [same, gates, gates, closed]

/-- What accepting a request changes: the addresses and the requests that wait. -/
theorem send_spec (s : Session) (r : Request) :
    ((s.send r).1 = false ∧ s.record? r = none ∧ (s.send r).2 = s) ∨
      (∃ k, (s.send r).1 = false ∧ s.requests.put? r = none ∧
        (s.send r).2 = { s with seen := (s.seen ++ [k]).erase k }) ∨
      ∃ k requests, (s.send r).1 = true ∧ s.requests.put? r = some requests ∧
        (s.send r).2 = { s with seen := s.seen ++ [k], requests := requests } := by
  simp only [send]
  split
  · rename_i missing
    exact Or.inl ⟨rfl, missing, rfl⟩
  · rename_i k recorded found
    have seen : recorded = { s with seen := s.seen ++ [k] } := by
      unfold record? at found
      split at found
      · cases found
      · simp only at found
        split at found <;> cases found
        rfl
    subst seen
    right
    simp only [enqueue]
    split
    · rename_i requests put
      exact Or.inr ⟨k, requests, rfl, put, rfl⟩
    · rename_i refused
      exact Or.inl ⟨k, rfl, refused, rfl⟩

@[simp] theorem gates_send (s : Session) (r : Request) : (s.send r).2.gates = s.gates := by
  rcases send_spec s r with ⟨-, -, same⟩ | ⟨k, -, -, same⟩ | ⟨k, requests, -, put, same⟩
  · rw [same]
  · rw [same]
    rfl
  · rw [same]
    simp only [gates, Inbox.closed_put? put]

/-- A session whose pools are all open and of good shape. -/
structure Ready (s : Session) : Prop where
  requests : s.requests.pool.Ready
  responses : s.responses.Ready
  items : s.items.Ready
  errors : s.errors.pool.Ready

/-- A new session is ready, and holds nothing. -/
theorem new_spec {policy : CrawlPolicy} {sizes : PoolSizes} {s : Session}
    (made : new policy sizes = .ok s) :
    s.Ready ∧ s.requests.held = 0 ∧ s.responses.items = [] ∧ s.items.items = [] ∧
      s.errors.held = 0 ∧ s.downloads = [] ∧ s.analyses = [] ∧ s.processings = [] ∧
      s.broken = 0 := by
  simp only [new, bind, Except.bind] at made
  split at made
  · cases made
  · split at made
    · cases made
    · rename_i requests newRequests
      split at made
      · cases made
      · rename_i responses newResponses
        split at made
        · cases made
        · rename_i items newItems
          split at made
          · cases made
          · rename_i errors newErrors
            cases made
            obtain ⟨requestsReady, noRequests⟩ := Inbox.new_spec newRequests
            obtain ⟨responsesReady, noResponses⟩ := Pool.new_spec newResponses
            obtain ⟨itemsReady, noItems⟩ := Pool.new_spec newItems
            obtain ⟨errorsReady, noErrors⟩ := Inbox.new_spec newErrors
            exact ⟨⟨requestsReady, responsesReady, itemsReady, errorsReady⟩, noRequests,
              noResponses, noItems, noErrors, rfl, rfl, rfl, rfl⟩

theorem gates_of_ready {s : Session} (ready : s.Ready) : ∀ closed ∈ s.gates, closed = false := by
  simp [gates, ready.requests.is_open, ready.responses.is_open, ready.items.is_open,
    ready.errors.is_open]

theorem gates_close (s : Session) : ∀ closed ∈ s.close.gates, closed = true := by
  simp only [gates, close, Inbox.close, (Pool.close_spec _).2.1]
  simp

/-- An analysis still has to hand over what is left of its finds. -/
def handOver (s : Session) (place : Nat) (left : Yield) : Session :=
  { s with analyses := s.analyses.set place (.delivering left) }

end Session

/-! ## Tasks -/

namespace Task

variable {α β : Type} {l next : List (Task α β)} {place : Nat} {unit : α}

theorem beginAt?_spec (begun : beginAt? l place = some next) :
    ∃ unit, l[place]? = some (.taken unit) ∧ next = l.set place (.begun unit) := by
  unfold beginAt? at begun
  split at begun
  · rename_i unit taken
    cases begun
    exact ⟨unit, taken, rfl⟩
  · cases begun

/-- The unit that a task is about, until something comes out of it. -/
def unit? : Task α β → Option α
  | .taken unit | .begun unit | .calling _ unit => some unit
  | .delivering _ => none

/-- One of the tasks is about a unit. -/
def Among (l : List (Task α β)) (unit : α) : Prop := ∃ task ∈ l, task.unit? = some unit

theorem among_of_place {task : Task α β} (here : l[place]? = some task)
    (about : task.unit? = some unit) : Among l unit :=
  ⟨task, List.mem_of_getElem? here, about⟩

theorem among_concat {last : α} (among : Among (l ++ [.taken last]) unit) :
    Among l unit ∨ unit = last := by
  obtain ⟨task, member, about⟩ := among
  rcases List.mem_append.mp member with old | new
  · exact Or.inl ⟨task, old, about⟩
  · cases List.mem_singleton.mp new
    exact Or.inr (Option.some.inj about).symm

/-- A task that goes on is about the same unit as before, or about none. -/
theorem among_set {task after : Task α β} (here : l[place]? = some task)
    (same : after.unit? = task.unit? ∨ after.unit? = none) (among : Among (l.set place after) unit) :
    Among l unit := by
  obtain ⟨other, member, about⟩ := among
  rcases List.mem_or_eq_of_mem_set member with old | rfl
  · exact ⟨other, old, about⟩
  · rcases same with same | none
    · exact among_of_place here (same.symm.trans about)
    · cases none.symm.trans about

theorem among_eraseIdx (among : Among (l.eraseIdx place) unit) : Among l unit := by
  obtain ⟨task, member, about⟩ := among
  exact ⟨task, List.mem_of_mem_eraseIdx member, about⟩

end Task

namespace Scheduler

variable {s t : Scheduler} {session next : Session} {place : Nat}

/-! ## The ways in which a move goes -/

/-- What a move makes of the session of a scheduler. -/
inductive Moved (s : Scheduler) (session : Session) : Move → Session → Prop
  | admitRequest {place : Nat} {requests : Inbox Request}
      (admitted : session.requests.admit? place = some requests) :
      Moved s session (.admitRequest place) { session with requests := requests }
  | admitError {place : Nat} {errors : Inbox CrawlError}
      (admitted : session.errors.admit? place = some errors) :
      Moved s session (.admitError place) { session with errors := errors }
  | takeRequest {request : Request} {requests : Inbox Request}
      (free : s.mayTake session.downloads = true)
      (taken : session.requests.take? = some (request, requests)) :
      Moved s session .takeRequest { session with
        requests := requests, downloads := session.downloads ++ [.taken request] }
  | takeResponse {response : Response} {responses : Pool Response}
      (free : s.mayTake session.analyses = true)
      (taken : session.responses.tryGet = .ok (some (response, responses))) :
      Moved s session .takeResponse { session with
        responses := responses, analyses := session.analyses ++ [.taken response] }
  | takeItem {item : Item} {items : Pool Item}
      (free : s.mayTake session.processings = true)
      (taken : session.items.tryGet = .ok (some (item, items))) :
      Moved s session .takeItem { session with
        items := items, processings := session.processings ++ [.taken item] }
  | beginDownload {place : Nat} {request : Request}
      (taken : session.downloads[place]? = some (.taken request)) :
      Moved s session (.begin .downloader place) { session with
        downloads := session.downloads.set place (.begun request) }
  | beginAnalysis {place : Nat} {response : Response}
      (taken : session.analyses[place]? = some (.taken response)) :
      Moved s session (.begin .analyzer place) { session with
        analyses := session.analyses.set place (.begun response) }
  | beginProcessing {place : Nat} {item : Item}
      (taken : session.processings[place]? = some (.taken item)) :
      Moved s session (.begin .pipeline place) { session with
        processings := session.processings.set place (.begun item) }
  | callDownloader {place : Nat} {request : Request} {worker : ModuleId}
      (begun : session.downloads[place]? = some (.begun request))
      (chosen : s.choice .downloader = .ok worker) :
      Moved s session (.call .downloader place) { session with
        downloads := session.downloads.set place (.calling worker request) }
  | missDownloader {place : Nat} {request : Request} {e : CrawlError}
      (begun : session.downloads[place]? = some (.begun request))
      (missing : s.choice .downloader = .error e) :
      Moved s session (.call .downloader place) ({ session with
        downloads := session.downloads.eraseIdx place }.report (noModule e request.url.text))
  | callAnalyzer {place : Nat} {response : Response} {worker : ModuleId}
      (begun : session.analyses[place]? = some (.begun response))
      (chosen : s.choice .analyzer = .ok worker) :
      Moved s session (.call .analyzer place) { session with
        analyses := session.analyses.set place (.calling worker response) }
  | missAnalyzer {place : Nat} {response : Response} {e : CrawlError}
      (begun : session.analyses[place]? = some (.begun response))
      (missing : s.choice .analyzer = .error e) :
      Moved s session (.call .analyzer place) ({ session with
        analyses := session.analyses.eraseIdx place }.report (noModule e response.url.text))
  | callPipeline {place : Nat} {item : Item} {worker : ModuleId}
      (begun : session.processings[place]? = some (.begun item))
      (chosen : s.choice .pipeline = .ok worker) :
      Moved s session (.call .pipeline place) { session with
        processings := session.processings.set place (.calling worker item) }
  | missPipeline {place : Nat} {item : Item} {e : CrawlError}
      (begun : session.processings[place]? = some (.begun item))
      (missing : s.choice .pipeline = .error e) :
      Moved s session (.call .pipeline place) ({ session with
        processings := session.processings.eraseIdx place }.report (noModule e "item"))
  | endDownload {place : Nat} {worker : ModuleId} {request : Request} {response : Response}
      (calling : session.downloads[place]? = some (.calling worker request)) :
      Moved s session (.endDownload place (.ok response)) { session with
        downloads := session.downloads.set place (.delivering response) }
  | failDownload {place : Nat} {worker : ModuleId} {request : Request} {e : CrawlError}
      (calling : session.downloads[place]? = some (.calling worker request)) :
      Moved s session (.endDownload place (.error e))
        ({ session with downloads := session.downloads.eraseIdx place }.report e)
  | putResponse {place : Nat} {response : Response} {responses : Pool Response}
      (delivering : session.downloads[place]? = some (.delivering response))
      (put : session.responses.tryPut response = .ok responses) :
      Moved s session (.putResponse place) { session with
        downloads := session.downloads.eraseIdx place, responses := responses }
  | dropResponse {place : Nat} {response dropped : Response}
      (delivering : session.downloads[place]? = some (.delivering response))
      (closed : session.responses.tryPut response = .error (.closed dropped)) :
      Moved s session (.putResponse place) { session with
        downloads := session.downloads.eraseIdx place }
  | endAnalysis {place : Nat} {worker : ModuleId} {response : Response} {found : Yield}
      (calling : session.analyses[place]? = some (.calling worker response)) :
      Moved s session (.endAnalysis place found) (session.handOver place found)
  | breakAnalysis {place : Nat} {worker : ModuleId} {response : Response}
      (calling : session.analyses[place]? = some (.calling worker response)) :
      Moved s session (.breakAnalysis place) { session with
        analyses := session.analyses.eraseIdx place, broken := session.broken + 1 }
  | sendFound {place : Nat} {r : Request} {data : List Datum} {errors : List CrawlError}
      (delivering : session.analyses[place]? = some (.delivering ⟨.request r :: data, errors⟩))
      (home : s.outlet = none) (goesOn : s.run ≠ .stopped) :
      Moved s session (.putDatum place) ((session.handOver place ⟨data, errors⟩).send r).2
  | sendElsewhere {place : Nat} {r : Request} {data : List Datum} {errors : List CrawlError}
      (delivering : session.analyses[place]? = some (.delivering ⟨.request r :: data, errors⟩))
      (notHome : s.outlet ≠ none ∨ s.run = .stopped) :
      Moved s session (.putDatum place) (session.handOver place ⟨data, errors⟩)
  | putItem {place : Nat} {item : Item} {data : List Datum} {errors : List CrawlError}
      {items : Pool Item}
      (delivering : session.analyses[place]? = some (.delivering ⟨.item item :: data, errors⟩))
      (put : session.items.tryPut item = .ok items) :
      Moved s session (.putDatum place)
        { session.handOver place ⟨data, errors⟩ with items := items }
  | dropItem {place : Nat} {item dropped : Item} {data : List Datum} {errors : List CrawlError}
      (delivering : session.analyses[place]? = some (.delivering ⟨.item item :: data, errors⟩))
      (closed : session.items.tryPut item = .error (.closed dropped)) :
      Moved s session (.putDatum place) (session.handOver place ⟨data, errors⟩)
  | endFinds {place : Nat} {errors : List CrawlError}
      (delivering : session.analyses[place]? = some (.delivering ⟨[], errors⟩)) :
      Moved s session (.putDatum place)
        ({ session with analyses := session.analyses.eraseIdx place }.reportAll errors)
  | endProcessing {place : Nat} {worker : ModuleId} {item : Item} {errors : List CrawlError}
      (calling : session.processings[place]? = some (.calling worker item)) :
      Moved s session (.endProcessing place errors)
        ({ session with processings := session.processings.eraseIdx place }.reportAll errors)

/-- The scheduler goes on with another session, and with the same modules. -/
structure GoesOn (s t : Scheduler) (next : Session) : Prop where
  same : t = { s with session := some next, registrar := t.registrar }
  signature : t.registrar.signature = s.registrar.signature
  bodies : t.registrar.bodies = s.registrar.bodies

theorem goesOn_withSession (s : Scheduler) (next : Session) : GoesOn s (s.withSession next) next :=
  ⟨rfl, rfl, rfl⟩

theorem GoesOn.of_registrar {registrar : Registrar Worker}
    (signature : registrar.signature = s.registrar.signature)
    (bodies : registrar.bodies = s.registrar.bodies) (next : Session) :
    GoesOn s ({ s with registrar := registrar }.withSession next) next :=
  ⟨rfl, signature, bodies⟩

/-! ## Which way a move went -/

theorem GoesOn.of_callModule {role : Role} {accepts : Bool} {outcome : Outcome ModuleId}
    (call : s.callModule role accepts = (outcome, t)) (next : Session) :
    GoesOn s (t.withSession next) next := by
  obtain ⟨-, same, signature⟩ := callModule_spec call
  rw [same]
  exact .of_registrar signature (bodies_callModule call) next

theorem takeRequest?_moved (taken : s.takeRequest? session = some t) :
    ∃ next, Moved s session .takeRequest next ∧ GoesOn s t next := by
  unfold takeRequest? at taken
  split at taken
  · rename_i free
    obtain ⟨⟨request, requests⟩, took, rfl⟩ := Option.map_eq_some_iff.mp taken
    exact ⟨_, .takeRequest free took, goesOn_withSession s _⟩
  · cases taken

theorem takeResponse?_moved (taken : s.takeResponse? session = some t) :
    ∃ next, Moved s session .takeResponse next ∧ GoesOn s t next := by
  unfold takeResponse? at taken
  split at taken
  · rename_i free
    split at taken
    · rename_i response responses took
      cases taken
      exact ⟨_, .takeResponse free took, goesOn_withSession s _⟩
    · cases taken
  · cases taken

theorem takeItem?_moved (taken : s.takeItem? session = some t) :
    ∃ next, Moved s session .takeItem next ∧ GoesOn s t next := by
  unfold takeItem? at taken
  split at taken
  · rename_i free
    split at taken
    · rename_i item items took
      cases taken
      exact ⟨_, .takeItem free took, goesOn_withSession s _⟩
    · cases taken
  · cases taken

theorem begin?_moved {stage : Role} (begun : s.begin? session place stage = some t) :
    ∃ next, Moved s session (.begin stage place) next ∧ GoesOn s t next := by
  cases stage with
  | downloader =>
      obtain ⟨downloads, done, rfl⟩ := Option.map_eq_some_iff.mp begun
      obtain ⟨request, taken, rfl⟩ := Task.beginAt?_spec done
      exact ⟨_, .beginDownload taken, goesOn_withSession s _⟩
  | analyzer =>
      obtain ⟨analyses, done, rfl⟩ := Option.map_eq_some_iff.mp begun
      obtain ⟨response, taken, rfl⟩ := Task.beginAt?_spec done
      exact ⟨_, .beginAnalysis taken, goesOn_withSession s _⟩
  | pipeline =>
      obtain ⟨processings, done, rfl⟩ := Option.map_eq_some_iff.mp begun
      obtain ⟨item, taken, rfl⟩ := Task.beginAt?_spec done
      exact ⟨_, .beginProcessing taken, goesOn_withSession s _⟩

theorem callDownloader?_moved (called : s.callDownloader? session place = some t) :
    ∃ next, Moved s session (.call .downloader place) next ∧ GoesOn s t next := by
  unfold callDownloader? at called
  split at called
  · rename_i request begun
    split at called
    · rename_i worker s' call
      cases called
      exact ⟨_, .callDownloader begun (callModule_spec call).1, .of_callModule call _⟩
    · rename_i e s' call
      cases called
      exact ⟨_, .missDownloader begun (callModule_spec call).1, .of_callModule call _⟩
  · cases called

theorem callAnalyzer?_moved (called : s.callAnalyzer? session place = some t) :
    ∃ next, Moved s session (.call .analyzer place) next ∧ GoesOn s t next := by
  unfold callAnalyzer? at called
  split at called
  · rename_i response begun
    split at called
    · rename_i worker s' call
      cases called
      exact ⟨_, .callAnalyzer begun (callModule_spec call).1, .of_callModule call _⟩
    · rename_i e s' call
      cases called
      exact ⟨_, .missAnalyzer begun (callModule_spec call).1, .of_callModule call _⟩
  · cases called

theorem callPipeline?_moved (called : s.callPipeline? session place = some t) :
    ∃ next, Moved s session (.call .pipeline place) next ∧ GoesOn s t next := by
  unfold callPipeline? at called
  split at called
  · rename_i item begun
    split at called
    · rename_i worker s' call
      cases called
      exact ⟨_, .callPipeline begun (callModule_spec call).1, .of_callModule call _⟩
    · rename_i e s' call
      cases called
      exact ⟨_, .missPipeline begun (callModule_spec call).1, .of_callModule call _⟩
  · cases called

theorem GoesOn.of_endCall (s : Scheduler) (worker : ModuleId) (completes : Bool) (next : Session) :
    GoesOn s ((s.endCall worker completes).withSession next) next :=
  .of_registrar (signature_endCall s worker completes) (bodies_endCall s worker completes) next

theorem endDownload?_moved {outcome : Outcome Response}
    (ended : s.endDownload? session place outcome = some t) :
    ∃ next, Moved s session (.endDownload place outcome) next ∧ GoesOn s t next := by
  unfold endDownload? at ended
  split at ended
  · rename_i worker request calling
    cases outcome with
    | ok response =>
        cases ended
        exact ⟨_, .endDownload calling, .of_endCall s worker true _⟩
    | error e =>
        cases ended
        exact ⟨_, .failDownload calling, .of_endCall s worker false _⟩
  · cases ended

theorem endAnalysis?_moved {found : Yield} (ended : s.endAnalysis? session place found = some t) :
    ∃ next, Moved s session (.endAnalysis place found) next ∧ GoesOn s t next := by
  unfold endAnalysis? at ended
  split at ended
  · rename_i worker response calling
    cases ended
    exact ⟨_, .endAnalysis calling, .of_endCall s worker _ _⟩
  · cases ended

theorem breakAnalysis?_moved (broken : s.breakAnalysis? session place = some t) :
    ∃ next, Moved s session (.breakAnalysis place) next ∧ GoesOn s t next := by
  unfold breakAnalysis? at broken
  split at broken
  · rename_i worker response calling
    cases broken
    exact ⟨_, .breakAnalysis calling, .of_endCall s worker false _⟩
  · cases broken

theorem endProcessing?_moved {errors : List CrawlError}
    (ended : s.endProcessing? session place errors = some t) :
    ∃ next, Moved s session (.endProcessing place errors) next ∧ GoesOn s t next := by
  unfold endProcessing? at ended
  split at ended
  · rename_i worker item calling
    cases ended
    exact ⟨_, .endProcessing calling, .of_endCall s worker _ _⟩
  · cases ended

theorem putResponse?_moved (put : s.putResponse? session place = some t) :
    ∃ next, Moved s session (.putResponse place) next ∧ GoesOn s t next := by
  unfold putResponse? at put
  split at put
  · rename_i response delivering
    simp only at put
    split at put
    · rename_i responses entered
      cases put
      exact ⟨_, .putResponse delivering entered, goesOn_withSession s _⟩
    · rename_i dropped closed
      cases put
      exact ⟨_, .dropResponse delivering closed, goesOn_withSession s _⟩
    · cases put
  · cases put

/-- A request that is sent goes to the session, unless the scheduler is stopped. -/
theorem send_withSession (s : Scheduler) (session : Session) (r : Request) :
    (s.withSession session).send r =
      if s.run = .stopped then (false, s.withSession session)
      else ((session.send r).1, s.withSession (session.send r).2) := rfl

theorem putDatum?_moved {queue queue' : Inbox Request}
    (put : s.putDatum? session queue place = some (t, queue')) :
    ∃ next, Moved s session (.putDatum place) next ∧ GoesOn s t next := by
  unfold putDatum? at put
  split at put
  · rename_i errors delivering
    cases put
    exact ⟨_, .endFinds delivering, goesOn_withSession s _⟩
  · rename_i datum rest errors delivering
    cases datum with
    | request r =>
        simp only [route, send_withSession] at put
        split at put
        · rename_i home
          have home : s.outlet = none := Option.isNone_iff_eq_none.mp home
          by_cases stopped : s.run = .stopped
          · rw [if_pos stopped] at put
            cases put
            exact ⟨_, .sendElsewhere delivering (Or.inr stopped), goesOn_withSession s _⟩
          · rw [if_neg stopped] at put
            cases put
            exact ⟨_, .sendFound delivering home stopped, goesOn_withSession s _⟩
        · rename_i notHome
          have notHome : s.outlet ≠ none := fun home => notHome (Option.isNone_iff_eq_none.mpr home)
          split at put <;> cases put <;>
            exact ⟨_, .sendElsewhere delivering (Or.inl notHome), goesOn_withSession s _⟩
    | item item =>
        simp only at put
        split at put
        · rename_i items entered
          cases put
          exact ⟨_, .putItem delivering entered, goesOn_withSession s _⟩
        · rename_i dropped closed
          cases put
          exact ⟨_, .dropItem delivering closed, goesOn_withSession s _⟩
        · cases put
  · cases put

/-- A possible move went in one of the ways. -/
theorem move?_moved {queue queue' : Inbox Request} {m : Move}
    (step : s.move? queue m = some (t, queue')) :
    ∃ session next, s.session = some session ∧ Moved s session m next ∧ GoesOn s t next := by
  unfold move? at step
  obtain ⟨session, present, step⟩ := Option.bind_eq_some_iff.mp step
  refine ⟨session, ?_⟩
  have alone {after : Option Scheduler} (same : after.map (·, queue) = some (t, queue')) :
      after = some t := by
    obtain ⟨u, done, pair⟩ := Option.map_eq_some_iff.mp same
    cases pair
    exact done
  suffices went : ∃ next, Moved s session m next ∧ GoesOn s t next by
    obtain ⟨next, moved, goesOn⟩ := went
    exact ⟨next, present, moved, goesOn⟩
  cases m with
  | admitRequest place =>
      obtain ⟨requests, admitted, rfl⟩ := Option.map_eq_some_iff.mp (alone step)
      exact ⟨_, .admitRequest admitted, goesOn_withSession s _⟩
  | admitError place =>
      obtain ⟨errors, admitted, rfl⟩ := Option.map_eq_some_iff.mp (alone step)
      exact ⟨_, .admitError admitted, goesOn_withSession s _⟩
  | takeRequest => exact takeRequest?_moved (alone step)
  | takeResponse => exact takeResponse?_moved (alone step)
  | takeItem => exact takeItem?_moved (alone step)
  | begin stage place => exact begin?_moved (alone step)
  | call stage place =>
      cases stage with
      | downloader => exact callDownloader?_moved (alone step)
      | analyzer => exact callAnalyzer?_moved (alone step)
      | pipeline => exact callPipeline?_moved (alone step)
  | endDownload place outcome => exact endDownload?_moved (alone step)
  | putResponse place => exact putResponse?_moved (alone step)
  | endAnalysis place found => exact endAnalysis?_moved (alone step)
  | breakAnalysis place => exact breakAnalysis?_moved (alone step)
  | putDatum place => exact putDatum?_moved step
  | endProcessing place errors => exact endProcessing?_moved (alone step)

/-- A move neither opens nor closes a pool. -/
theorem Moved.gates {m : Move} (moved : Moved s session m next) : next.gates = session.gates := by
  cases moved with
  | admitRequest admitted => simp only [Session.gates, Inbox.closed_admit? admitted]
  | admitError admitted => simp only [Session.gates, Inbox.closed_admit? admitted]
  | takeRequest _ taken => simp only [Session.gates, Inbox.closed_take? taken]
  | takeResponse _ taken | takeItem _ taken =>
      simp only [Session.gates, (Pool.kept_tryGet taken).2]
  | beginDownload | beginAnalysis | beginProcessing | callDownloader | callAnalyzer | callPipeline
  | endDownload | endAnalysis | breakAnalysis | sendElsewhere | dropResponse | dropItem => rfl
  | missDownloader | missAnalyzer | missPipeline | failDownload =>
      rw [Session.gates_report]
      rfl
  | putResponse _ put => simp only [Session.gates, (Pool.kept_tryPut put).2]
  | sendFound =>
      rw [Session.gates_send]
      rfl
  | putItem _ put => simp only [Session.gates, Session.handOver, (Pool.kept_tryPut put).2]
  | endFinds | endProcessing =>
      rw [Session.gates_reportAll]
      rfl

end Scheduler

end CrawlMesh
