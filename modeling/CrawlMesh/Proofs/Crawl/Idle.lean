/-
# What it means to be idle

A scheduler is idle if its pools but that of the errors are empty, nothing is counted as in progress,
and no module handles a call.  By the books (`Ledger.book`) all that was accepted is done by then, but
for the requests that wait to enter their pool, and for what a stage has taken from a pool and not
counted yet: these are in no pool, and nothing counts them (`idle_done`).

To find out, five things are read one after the other (`readings`).  If nothing happens between the
reads they tell whether the scheduler is idle (`watch?_calm`).  If something does, each can find
nothing in its place although there is work all the time; `idle_before_done` has a run of each kind.
-/
import CrawlMesh.Proofs.Crawl.Ledger

namespace CrawlMesh

set_option autoImplicit false

theorem Pool.Ready.items_of_isEmpty {α : Type} {p : Pool α} (ready : p.Ready)
    (empty : p.isEmpty = true) : p.items = [] := by
  have total : p.total = 0 := beq_iff_eq.mp empty
  rw [ready.shape.total_eq] at total
  exact List.eq_nil_of_length_eq_zero total

/-! ## What is taken and not counted -/

namespace Task

variable {α β γ : Type}

/-- Tasks of which none is counted are units that were only taken. -/
theorem eq_map_taken {tasks : List (Task α β)} (uncounted : tasks.countP isCounted = 0) :
    ∃ units : List α, tasks = units.map .taken := by
  induction tasks with
  | nil => exact ⟨[], rfl⟩
  | cons task rest ih =>
      rw [List.countP_eq_zero] at uncounted
      obtain ⟨units, rfl⟩ := ih (List.countP_eq_zero.mpr fun other member =>
        uncounted other (List.mem_cons_of_mem task member))
      cases task with
      | taken unit => exact ⟨unit :: units, rfl⟩
      | begun | calling | delivering => exact absurd rfl (uncounted _ List.mem_cons_self)

theorem bind_taken (units : List α) (f : Task α β → Multiset γ) :
    (↑(units.map .taken : List (Task α β)) : Multiset (Task α β)).bind f =
      (units : Multiset α).bind fun unit => f (.taken unit) := by
  rw [← Multiset.map_coe, Multiset.bind_map]

/-- The units that were taken are those that the tasks are about. -/
theorem bind_taken_self (units : List α) {f : Task α β → Multiset α}
    (self : ∀ unit, f (.taken unit) = {unit}) :
    (↑(units.map .taken : List (Task α β)) : Multiset (Task α β)).bind f = units := by
  simp only [bind_taken, self]
  exact (Multiset.bind_singleton (units : Multiset α) id).trans (Multiset.map_id _)

/-- Nothing is under way for units that were only taken, and nothing came out of them. -/
theorem bind_taken_zero (units : List α) {f : Task α β → Multiset γ}
    (nothing : ∀ unit, f (.taken unit) = 0) :
    (↑(units.map .taken : List (Task α β)) : Multiset (Task α β)).bind f = 0 := by
  simp only [bind_taken, nothing, Multiset.bind_zero]

end Task

namespace Scheduler

variable {s t : Scheduler} {session : Session} {l : Ledger} {limit : Nat}

/-! ## At one moment -/

/-- What is seen of the session of a scheduler that is idle. -/
theorem idle_spec (present : s.session = some session) (ready : session.Ready)
    (idle : s.idle = true) :
    (session.requests.pool.items = [] ∧ session.responses.items = [] ∧ session.items.items = []) ∧
      (session.downloads.countP Task.isCounted = 0 ∧ session.analyses.countP Task.isCounted = 0 ∧
        session.processings.countP Task.isCounted = 0) ∧ session.broken = 0 := by
  simp only [Scheduler.idle, present, Bool.and_eq_true, beq_iff_eq] at idle
  obtain ⟨⟨⟨⟨requests, responses⟩, items⟩, rest⟩, -⟩ := idle
  have pools : session.requests.pool.items = [] ∧ session.responses.items = [] ∧
      session.items.items = [] :=
    ⟨ready.requests.items_of_isEmpty requests, ready.responses.items_of_isEmpty responses,
      ready.items.items_of_isEmpty items⟩
  simp only [Session.inProgress, Nat.add_eq_zero_iff] at rest
  exact ⟨pools, ⟨rest.1.1.1, rest.1.1.2, rest.1.2⟩, rest.2⟩

/-- What is not done of the books of a scheduler that is idle: requests that wait to enter the pool,
and units that a stage took and has not counted yet. -/
structure Undone (session : Session) (l : Ledger) (requests : List Request)
    (responses : List Response) (items : List Item) : Prop where
  downloads : session.downloads = requests.map .taken
  analyses : session.analyses = responses.map .taken
  processings : session.processings = items.map .taken
  unbroken : l.broken = 0
  accepted : l.accepted = ↑session.requests.waiting + ↑requests + l.finished.map (·.1)
  given : l.responses = ↑responses + l.analysed.map (·.2)
  returned : l.returned = ↑items + l.processed.map (·.2)

theorem Balanced.idle (balanced : Balanced limit s l) (idle : s.idle = true) :
    ∃ session requests responses items, s.session = some session ∧
      Undone session l requests responses items := by
  obtain ⟨-, session, present, kept⟩ := balanced
  obtain ⟨⟨noRequests, noResponses, noItems⟩, ⟨downloads, analyses, processings⟩, unbroken⟩ :=
    idle_spec present kept.ready idle
  obtain ⟨requests, downloads⟩ := Task.eq_map_taken downloads
  obtain ⟨responses, analyses⟩ := Task.eq_map_taken analyses
  obtain ⟨items, processings⟩ := Task.eq_map_taken processings
  have broken : l.broken = 0 := Multiset.card_eq_zero.mp (kept.broken.trans unbroken)
  have downloading : session.downloading = requests := by
    rw [Session.downloading, downloads, Task.bind_taken_self requests fun _ => rfl]
  have delivered : session.delivered = 0 := by
    rw [Session.delivered, downloads, Task.bind_taken_zero requests fun _ => rfl]
  have unanalysed : session.unanalysed = responses := by
    rw [Session.unanalysed, analyses, Task.bind_taken_self responses fun _ => rfl]
  have analysing : session.analysing = 0 := by
    rw [Session.analysing, analyses, Task.bind_taken_zero responses fun _ => rfl]
  have unhanded : session.unhanded = 0 := by
    rw [Session.unhanded, analyses, Task.bind_taken_zero responses fun _ => rfl]
  have unprocessed : session.unprocessed = items := by
    rw [Session.unprocessed, processings, Task.bind_taken_self items fun _ => rfl]
  have processing : session.processing = 0 := by
    rw [Session.processing, processings, Task.bind_taken_zero items fun _ => rfl]
  refine ⟨session, requests, responses, items, present, {
    downloads := downloads
    analyses := analyses
    processings := processings
    unbroken := broken
    accepted := ?_
    given := ?_
    returned := ?_ }⟩
  · rw [kept.requests, Inbox.held, noRequests, downloading, Multiset.coe_nil, add_zero]
  · rw [kept.responses, delivered, noResponses, unanalysed, kept.handed, analysing, broken,
      Multiset.coe_nil, zero_add, zero_add, zero_add, add_zero]
  · rw [kept.items, unhanded, noItems, unprocessed, kept.sent, processing, Multiset.coe_nil,
      zero_add, zero_add, zero_add]

/-- **An idle scheduler has done all but what waits to enter its pool or was only taken from one.**
In every run, with an outlet or without, between a preparation and the stop that follows it: if the
scheduler is idle, then the stages have nothing in their hands but units that they took from a pool
and have not counted yet, and no analysis broke off.  The requests that were accepted are those that
wait to enter the pool, those that were only taken, and those whose download is over; the responses
are those that were only taken and those whose analysis is over; and it is the same with items.  So
all is done just if no request waits and nothing was only taken. -/
theorem idle_done (outlet : Option Nat) (maxConcurrency : Nat) (events : List Event)
    (s : Scheduler) (l : Ledger)
    (run : run? Ledger.book { new maxConcurrency with outlet := outlet } .empty events = some (s, l))
    (active : s.Active) (idle : s.idle = true) :
    ∃ session requests responses items, s.session = some session ∧
      Undone session l requests responses items ∧
      (l.accepted = l.finished.map (·.1) ∧ l.responses = l.analysed.map (·.2) ∧
        l.returned = l.processed.map (·.2) ↔
          session.requests.waiting = [] ∧ requests = [] ∧ responses = [] ∧ items = []) := by
  have accounted : Accounted (max maxConcurrency 1) s l :=
    run?_induction (fun s l e t accounted step => accounted.step step)
      (.new outlet maxConcurrency) run
  obtain ⟨session, requests, responses, items, present, undone⟩ :=
    (accounted.balanced active).idle idle
  refine ⟨session, requests, responses, items, present, undone, ?_⟩
  rw [undone.accepted, undone.given, undone.returned, add_eq_right, add_eq_right, add_eq_right,
    Multiset.coe_add, Multiset.coe_eq_zero, Multiset.coe_eq_zero, Multiset.coe_eq_zero,
    List.append_eq_nil_iff, and_assoc]

/-- A crawl of one page, on which an item and a link are found; the link is for the outlet. -/
def calmCrawl : List Event :=
  [.operation (.init .usual .usual oneOfEach), .operation (.start (some [page "first"])),
    .work default .takeRequest, .work default (.begin .downloader 0),
    .work default (.call .downloader 0), .work default (.endDownload 0 (.ok default)),
    .work default (.putResponse 0), .work default .takeResponse,
    .work default (.begin .analyzer 0), .work default (.call .analyzer 0),
    .work default (.endAnalysis 0 ⟨[.item default, .request (page "second")], []⟩),
    .work default (.putDatum 0), .work default (.putDatum 0), .work default (.putDatum 0),
    .work default .takeItem, .work default (.begin .pipeline 0), .work default (.call .pipeline 0),
    .work default (.endProcessing 0 [])]

theorem idle_done_calmCrawl : ∃ s l,
    run? Ledger.book { new 2 with outlet := some 0 } .empty calmCrawl = some (s, l) ∧
      s.Active ∧ s.idle = true ∧
      ∃ session requests responses items, s.session = some session ∧
        Undone session l requests responses items ∧
        (l.accepted = l.finished.map (·.1) ∧ l.responses = l.analysed.map (·.2) ∧
          l.returned = l.processed.map (·.2) ↔
            session.requests.waiting = [] ∧ requests = [] ∧ responses = [] ∧ items = []) := by
  have possible : (run? Ledger.book { new 2 with outlet := some 0 } .empty calmCrawl).map
      (fun after => (after.1.status, after.1.idle)) = some (.started, true) := rfl
  obtain ⟨⟨s, l⟩, run, seen⟩ := Option.map_eq_some_iff.mp possible
  have active : s.Active := Or.inr (Or.inl (congrArg Prod.fst seen))
  have idle : s.idle = true := congrArg Prod.snd seen
  exact ⟨s, l, run, active, idle, idle_done (some 0) 2 calmCrawl s l run active idle⟩

/-! ## One read after the other -/

/-- Something that is read of the session of a scheduler; nothing is found without one. -/
def reading (look : Session → Bool) (s : Scheduler) : Bool := (s.session.map look).getD false

/-- All that is read to find out whether a scheduler is idle, in the order in which it is read. -/
def readings : List (Scheduler → Bool) :=
  [reading (·.requests.pool.isEmpty), reading (·.responses.isEmpty), reading (·.items.isEmpty),
    reading (·.inProgress == 0), fun s => s.registrar.modules.all (·.meter.counts.handling == 0)]

/-- Read one thing after the other, each with what happens before it; is everything as it should
be? Reading ends when something is not. -/
def watch? (s : Scheduler) : List (List Event × (Scheduler → Bool)) → Option (Bool × Scheduler)
  | [] => some (true, s)
  | (events, read) :: rest =>
    (run? (fun _ _ _ => ()) s () events).bind fun (t, _) =>
      if read t then watch? t rest else some (false, t)

/-- If nothing happens between the reads, they tell whether the scheduler is idle. -/
theorem watch?_calm (s : Scheduler) :
    s.watch? (readings.map fun read => ([], read)) = some (s.idle, s) := by
  have calm : ∀ reads : List (Scheduler → Bool),
      s.watch? (reads.map fun read => ([], read)) = some (reads.all (· s), s) := by
    intro reads
    induction reads with
    | nil => rfl
    | cons read rest ih =>
        simp only [List.map_cons, watch?, run?, Option.bind_some, List.all_cons]
        cases read s with
        | false => rfl
        | true => exact ih
  rw [calm readings]
  congr 1
  cases present : s.session with
  | none => simp [readings, reading, Scheduler.idle, present]
  | some session =>
      simp [readings, reading, Scheduler.idle, present, Bool.and_assoc]

/-- A request waits to enter a pool of one, and the one before it fails before it enters. -/
def overtaken : List Event :=
  [.operation (.init .usual (.uniform ⟨1, 1⟩) oneOfEach), .operation (.start none),
    .send (page "first"), .send (page "second"), .work default .takeRequest,
    .work default (.begin .downloader 0), .work default (.call .downloader 0),
    .work default (.endDownload 0 (.error (.transport "offline")))]

/-- A request was taken from its pool, and is not counted yet. -/
def underHand : List Event :=
  [.operation (.init .usual .usual oneOfEach), .operation (.start (some [page "first"])),
    .work default .takeRequest]

/-- A page is being downloaded. -/
def underWay : List Event :=
  underHand ++ [.work default (.begin .downloader 0), .work default (.call .downloader 0)]

/-- Reads of which the first three come before the download ends, and the others after its
response is put into the pool. -/
def readsApart : List (List Event × (Scheduler → Bool)) :=
  [[], [], [], [.work default (.endDownload 0 (.ok default)), .work default (.putResponse 0)],
    []].zip readings

/-- A scheduler can be idle, or all that is read can say so, before everything is done: at one
moment, when one of two requests that were accepted waits to enter the pool, or when a stage has taken
the only request and not counted it yet; and with reads at different moments, when the response of a
download is put into the pool meanwhile and is there when the last read is done. -/
theorem idle_before_done :
    (∃ s l, run? Ledger.book (new 2) .empty overtaken = some (s, l) ∧ s.Active ∧ s.idle = true ∧
      l.accepted.card = 2 ∧ l.finished.card = 1 ∧
      s.session.map (·.requests.waiting) = some [page "second"]) ∧
    (∃ s l, run? Ledger.book (new 2) .empty underHand = some (s, l) ∧ s.Active ∧ s.idle = true ∧
      l.accepted.card = 1 ∧ l.finished.card = 0 ∧
      s.session.map (·.downloads) = some [.taken (page "first")]) ∧
    ∃ s t, run? (fun _ _ _ => ()) (new 2) () underWay = some (s, ()) ∧
      s.watch? readsApart = some (true, t) ∧ t.Active ∧ t.idle = false ∧
      t.session.map (·.responses.items.length) = some 1 := by
  refine ⟨?_, ?_, ?_⟩
  · have possible : (run? Ledger.book (new 2) .empty overtaken).isSome := rfl
    obtain ⟨⟨s, l⟩, run⟩ := Option.isSome_iff_exists.mp possible
    cases run
    exact ⟨_, _, rfl, Or.inr (Or.inl rfl), rfl, rfl, rfl, rfl⟩
  · have possible : (run? Ledger.book (new 2) .empty underHand).isSome := rfl
    obtain ⟨⟨s, l⟩, run⟩ := Option.isSome_iff_exists.mp possible
    cases run
    exact ⟨_, _, rfl, Or.inr (Or.inl rfl), rfl, rfl, rfl, rfl⟩
  · have possible : ((run? (fun _ _ _ => ()) (new 2) () underWay).bind fun after =>
      after.1.watch? readsApart).isSome := rfl
    obtain ⟨⟨answer, t⟩, runs⟩ := Option.isSome_iff_exists.mp possible
    obtain ⟨⟨s, ⟨⟩⟩, run, watched⟩ := Option.bind_eq_some_iff.mp runs
    cases run
    cases watched
    exact ⟨_, _, rfl, rfl, Or.inr (Or.inl rfl), rfl, rfl⟩

end Scheduler

end CrawlMesh
