/-
# One run after another

A scheduler that was stopped can be prepared again.  Its earlier sessions are not in use any more,
but tasks may still hold them: a put that found no room goes on waiting after the stop.
`Succession` keeps the earlier sessions beside the scheduler, and lets their tasks go on at any time
(`late?`).  A late task works on its own session, but a request that it finds goes to the scheduler
as it is by then, and modules are looked up where the present ones are.

A stop ends when the stages have nothing in their hands, and all pools are closed by then
(`Session.Over`).  So what is left of a session that is over are puts that wait, and each of them is
dropped (`late?_over`).  The scheduler of a new run is that of a first run with the same arguments
(`init_again`), and goes through the same states whatever is left of earlier runs (`runs_isolated`).
-/
import CrawlMesh.Proofs.Crawl.Acceptance
import CrawlMesh.Proofs.Crawl.Ledger
import CrawlMesh.Proofs.Crawl.Preparing

namespace CrawlMesh

set_option autoImplicit false

/-! ## New sessions -/

/-- A pool of a size that is open and holds nothing. -/
structure Pool.Blank {α : Type} (size : PoolSize) (p : Pool α) : Prop where
  empty : p.items = [] ∧ p.total = 0
  isOpen : p.closed = false
  capacity : p.bufferCap = size.bufferCap.toNat ∧ p.maxBuffers = size.maxBuffers.toNat

theorem Pool.blank_new {α : Type} {size : PoolSize} {p : Pool α}
    (made : Pool.new size.bufferCap size.maxBuffers = .ok p) : p.Blank size := by
  unfold Pool.new at made
  split at made
  · cases made
  · split at made
    · cases made
    · cases made
      exact ⟨⟨rfl, rfl⟩, rfl, rfl, rfl⟩

theorem Inbox.blank_new {α : Type} {size : PoolSize} {b : Inbox α}
    (made : Inbox.new size.bufferCap size.maxBuffers = .ok b) :
    b.pool.Blank size ∧ b.waiting = [] := by
  simp only [Inbox.new, bind, Except.bind] at made
  split at made
  · cases made
  · rename_i pool new
    cases made
    exact ⟨Pool.blank_new new, rfl⟩

namespace Session

/-- A session of some arguments in which nothing has happened yet. -/
structure Blank (policy : CrawlPolicy) (sizes : PoolSizes) (s : Session) : Prop where
  arguments : s.policy = policy ∧ s.sizes = sizes
  requests : s.requests.pool.Blank sizes.requests
  responses : s.responses.Blank sizes.responses
  items : s.items.Blank sizes.items
  errors : s.errors.pool.Blank sizes.errors
  nothing_waits : s.requests.waiting = [] ∧ s.errors.waiting = []
  nothing_seen : s.seen = []
  nothing_begun : s.downloads = [] ∧ s.analyses = [] ∧ s.processings = [] ∧ s.broken = 0

theorem blank_new {policy : CrawlPolicy} {sizes : PoolSizes} {s : Session}
    (made : new policy sizes = .ok s) : s.Blank policy sizes := by
  simp only [new, bind, Except.bind] at made
  split at made
  · cases made
  · split at made
    · cases made
    · rename_i requests newRequests
      split at made
      · cases made
      · rename_i responses newResponses
        split at made
        · cases made
        · rename_i items newItems
          split at made
          · cases made
          · rename_i errors newErrors
            cases made
            obtain ⟨blankRequests, noRequests⟩ := Inbox.blank_new newRequests
            obtain ⟨blankErrors, noErrors⟩ := Inbox.blank_new newErrors
            exact {
              arguments := ⟨rfl, rfl⟩
              requests := blankRequests
              responses := Pool.blank_new newResponses
              items := Pool.blank_new newItems
              errors := blankErrors
              nothing_waits := ⟨noRequests, noErrors⟩
              nothing_seen := rfl
              nothing_begun := ⟨rfl, rfl, rfl, rfl⟩ }

/-! ## Sessions that are over -/

/-- A session that is over: its pools are closed, and nothing is in the hands of the stages. -/
structure Over (s : Session) : Prop where
  gates : ∀ closed ∈ s.gates, closed = true
  downloads : s.downloads = []
  analyses : s.analyses = []
  processings : s.processings = []

namespace Over

variable {s : Session}

theorem requests (isOver : s.Over) : s.requests.pool.closed = true :=
  isOver.gates _ (by simp [Session.gates])

theorem responses (isOver : s.Over) : s.responses.closed = true :=
  isOver.gates _ (by simp [Session.gates])

theorem items (isOver : s.Over) : s.items.closed = true := isOver.gates _ (by simp [Session.gates])

theorem of_inHands (gates : ∀ closed ∈ s.gates, closed = true) (rest : s.inHands = 0) :
    s.Over := by
  simp only [Session.inHands, Nat.add_eq_zero_iff, List.length_eq_zero_iff] at rest
  exact ⟨gates, rest.1.1, rest.1.2, rest.2⟩

end Over

end Session

namespace Scheduler

variable {s t : Scheduler} {old next : Session}

/-- Nothing can happen to a session that is over, but that a put which waits is dropped. -/
theorem Moved.of_over {m : Move} (isOver : old.Over) (moved : Moved s old m next) :
    next.Over ∧ ((∃ place, m = .admitRequest place) ∨ ∃ place, m = .admitError place) := by
  obtain ⟨gates, downloads, analyses, processings⟩ := isOver
  have closedRequests : old.requests.pool.tryGet = .error Pool.getClosed :=
    Pool.tryGet_of_closed (Session.Over.requests ⟨gates, downloads, analyses, processings⟩)
  have closedResponses : old.responses.tryGet = .error Pool.getClosed :=
    Pool.tryGet_of_closed (Session.Over.responses ⟨gates, downloads, analyses, processings⟩)
  have closedItems : old.items.tryGet = .error Pool.getClosed :=
    Pool.tryGet_of_closed (Session.Over.items ⟨gates, downloads, analyses, processings⟩)
  have keeps := moved.gates
  cases moved with
  | @admitRequest place =>
      exact ⟨⟨by rw [keeps]; exact gates, downloads, analyses, processings⟩, Or.inl ⟨place, rfl⟩⟩
  | @admitError place =>
      exact ⟨⟨by rw [keeps]; exact gates, downloads, analyses, processings⟩, Or.inr ⟨place, rfl⟩⟩
  | takeRequest _ taken => cases closedRequests.symm.trans (Inbox.take?_eq_some taken).1
  | takeResponse _ taken => cases closedResponses.symm.trans taken
  | takeItem _ taken => cases closedItems.symm.trans taken
  | beginDownload taken => simp [downloads] at taken
  | callDownloader begun => simp [downloads] at begun
  | missDownloader begun => simp [downloads] at begun
  | endDownload calling => simp [downloads] at calling
  | failDownload calling => simp [downloads] at calling
  | putResponse delivering => simp [downloads] at delivering
  | dropResponse delivering => simp [downloads] at delivering
  | beginAnalysis taken => simp [analyses] at taken
  | callAnalyzer begun => simp [analyses] at begun
  | missAnalyzer begun => simp [analyses] at begun
  | endAnalysis calling => simp [analyses] at calling
  | breakAnalysis calling => simp [analyses] at calling
  | sendFound delivering => simp [analyses] at delivering
  | sendElsewhere delivering => simp [analyses] at delivering
  | putItem delivering => simp [analyses] at delivering
  | dropItem delivering => simp [analyses] at delivering
  | endFinds delivering => simp [analyses] at delivering
  | beginProcessing taken => simp [processings] at taken
  | callPipeline begun => simp [processings] at begun
  | missPipeline begun => simp [processings] at begun
  | endProcessing calling => simp [processings] at calling

/-! ## Late steps -/

/-- A step of a task that holds an earlier session: it works on that session. A request that it
finds goes to the scheduler as it is now, and the modules are those of now. -/
def late? (s : Scheduler) (old : Session) (m : Move) : Option (Scheduler × Session) :=
  match (s.withSession old).found? m with
  | some (r, u) => some ((s.send r).2, u.session.getD old)
  | none =>
    ((s.withSession old).move? default m).map fun (u, _) =>
      ({ s with registrar := u.registrar }, u.session.getD old)

/-- A late step of a session that is over changes nothing of the scheduler. -/
theorem late?_over {m : Move} (isOver : old.Over) (step : s.late? old m = some (t, next)) :
    t = s ∧ next.Over := by
  have nothing : (s.withSession old).found? m = none := by
    cases m <;> simp [found?, withSession, isOver.analyses]
  simp only [late?, nothing] at step
  obtain ⟨⟨u, queue⟩, moves, same⟩ := Option.map_eq_some_iff.mp step
  obtain ⟨session, after, present, moved, goesOn⟩ := move?_moved moves
  cases present
  obtain ⟨afterOver, kind⟩ := moved.of_over isOver
  have registrar : u.registrar = s.registrar := by
    rcases kind with ⟨place, rfl⟩ | ⟨place, rfl⟩
    · simp only [move?, withSession, Option.bind_eq_bind, Option.bind_some, Option.map_map] at moves
      obtain ⟨_, -, pair⟩ := Option.map_eq_some_iff.mp moves
      cases pair
      rfl
    · simp only [move?, withSession, Option.bind_eq_bind, Option.bind_some, Option.map_map] at moves
      obtain ⟨_, -, pair⟩ := Option.map_eq_some_iff.mp moves
      cases pair
      rfl
  have session : u.session = some after := by rw [goesOn.same]
  cases same
  rw [registrar, session]
  exact ⟨rfl, afterOver⟩

/-! ## Successions -/

/-- A scheduler, and the sessions of its earlier runs. -/
structure Succession where
  scheduler : Scheduler
  past : List Session

/-- Does an event give the scheduler another session? -/
def renews (s : Scheduler) : Event → Bool
  | .operation (.init policy sizes modules) =>
    s.status != .prepared && (s.init policy sizes modules).1.isOk
  | _ => false

/-- Such an event is a preparation, and it comes before there is a crawl or after it. -/
theorem renews_spec {e : Event} (renewed : renews s e = true) (step : s.step? e = some t) :
    (s.status = .unprepared ∨ s.status = .stopped) ∧
      ∃ policy sizes session, Session.new policy sizes = .ok session ∧ t.session = some session := by
  unfold renews at renewed
  split at renewed
  · rename_i policy sizes modules
    simp only [Bool.and_eq_true, bne_iff_ne] at renewed
    have done : s.init policy sizes modules = ((s.init policy sizes modules).1, t) :=
      Prod.ext rfl (Option.some.inj step)
    rcases init_spec done with
      ⟨e, failed, -⟩ | ⟨-, prepared, -⟩ | ⟨-, origin, -, session, registrar, made, -, rfl⟩
    · rw [failed] at renewed
      cases renewed.2
    · exact absurd prepared renewed.1
    · exact ⟨origin, policy, sizes, session, made, rfl⟩
  · cases renewed

namespace Succession

/-- What can happen: an event of the present run, or a late step of an earlier one. -/
inductive Act
  | event (e : Event)
  | late (run : Nat) (m : Move)

def Act.event? : Act → Option Event
  | .event e => some e
  | .late _ _ => none

def new (maxConcurrency : Nat) : Succession := ⟨.new maxConcurrency, []⟩

/-- What becomes of the earlier sessions with an event: one that is replaced joins them. -/
def pastAfter (c : Succession) (e : Event) : List Session :=
  if renews c.scheduler e then c.past ++ c.scheduler.session.toList else c.past

/-- The succession after an act, if it is possible. -/
def act? (c : Succession) : Act → Option Succession
  | .event e => (c.scheduler.step? e).map fun t => ⟨t, c.pastAfter e⟩
  | .late run m => do
    let old ← c.past[run]?
    let (t, next) ← c.scheduler.late? old m
    return ⟨t, c.past.set run next⟩

/-- The succession after acts that are all possible. -/
def run? (c : Succession) (acts : List Act) : Option Succession := acts.foldlM act? c

end Succession

/-! ## What every act keeps -/

/-- A scheduler that is stopped has a session, and that is over. -/
def Rested (s : Scheduler) : Prop :=
  s.status = .stopped → ∃ session, s.session = some session ∧ session.Over

theorem rested_of_status (status : s.status ≠ .stopped) : s.Rested :=
  fun stopped => absurd stopped status

/-- An operation leaves the session of a scheduler that is stopped alone, or it is stopped no
more. -/
theorem Rested.perform {op : Operation} (rested : s.Rested) : (s.perform op).2.Rested := by
  generalize done : (s.perform op).2 = t
  rcases perform_cases done with ⟨-, performed⟩ | ⟨registrar, rfl, -⟩
  · refine rested_of_status ?_
    cases performed with
    | @start seeds =>
        rw [(sameLife_sendAll s.begun (seeds.getD [])).status]
        simp [begun]
    | init | pause | recover | stop => simp
  · exact rested

/-- When a stop ends, the stages have nothing in their hands. -/
theorem Rested.of_endStop? (sound : s.Sound) (ended : s.endStop? = some t) : t.Rested := by
  obtain ⟨status, same⟩ := endStop?_spec ended
  simp only [Sound, status] at sound
  obtain ⟨-, ⟨session, present, gates⟩, -⟩ := sound
  unfold endStop? at ended
  split at ended
  · rename_i finished
    have rest : session.inHands = 0 := by
      simp only [inHands, present, Bool.and_eq_true, beq_iff_eq] at finished
      exact finished.2
    intro _
    exact ⟨session, by rw [same]; exact present, .of_inHands gates rest⟩
  · cases ended

theorem Rested.step {e : Event} (sound : s.Sound) (rested : s.Rested)
    (step : s.step? e = some t) : t.Rested := by
  cases e with
  | operation op =>
      cases step
      exact rested.perform
  | endStop => exact .of_endStop? sound step
  | send r =>
      cases step
      intro stopped
      rw [(sameLife_send s r).status] at stopped
      obtain ⟨session, present, isOver⟩ := rested stopped
      simp only [Sound, stopped] at sound
      refine ⟨session, ?_, isOver⟩
      simp only [send, present, if_pos sound.1]
  | work queue m =>
      obtain ⟨⟨after, queue'⟩, moves, rfl⟩ := Option.map_eq_some_iff.mp step
      intro stopped
      rw [(sameLife_move? moves).status] at stopped
      obtain ⟨session, present, isOver⟩ := rested stopped
      obtain ⟨other, next, now, moved, goesOn⟩ := move?_moved moves
      cases present.symm.trans now
      exact ⟨next, by rw [goesOn.same], (moved.of_over isOver).1⟩

namespace Succession

variable {c d : Succession} {limit : Nat}

/-- What holds at all times: the scheduler is sound and has no outlet, and all sessions that are
not in use any more are over. -/
structure Settled (limit : Nat) (c : Succession) : Prop where
  sound : c.scheduler.Sound
  rested : c.scheduler.Rested
  home : c.scheduler.outlet = none
  width : c.scheduler.maxConcurrency = limit
  past : ∀ old ∈ c.past, old.Over

namespace Settled

theorem new (maxConcurrency : Nat) : (new maxConcurrency).Settled (max maxConcurrency 1) where
  sound := sound_new none maxConcurrency
  rested := rested_of_status (by simp [Succession.new, Scheduler.new])
  home := rfl
  width := rfl
  past := by simp [Succession.new]

/-- Only a session that is over is replaced. -/
theorem past_event {e : Event} {t : Scheduler} (settled : c.Settled limit)
    (step : c.scheduler.step? e = some t) : ∀ old ∈ c.pastAfter e, old.Over := by
  unfold pastAfter
  split
  · rename_i renewed
    intro old member
    rcases List.mem_append.mp member with earlier | last
    · exact settled.past old earlier
    · rcases (renews_spec renewed step).1 with status | status
      · have sound := settled.sound
        simp only [Sound, status] at sound
        rw [sound.1] at last
        cases last
      · obtain ⟨session, present, isOver⟩ := settled.rested status
        rw [present] at last
        rw [List.mem_singleton.mp last]
        exact isOver
  · exact settled.past

theorem event {e : Event} {t : Scheduler} (settled : c.Settled limit)
    (step : c.scheduler.step? e = some t) : Settled limit ⟨t, c.pastAfter e⟩ where
  sound := settled.sound.step step
  rested := settled.rested.step settled.sound step
  home := (sameFrame_step step).outlet.trans settled.home
  width := (sameFrame_step step).maxConcurrency.trans settled.width
  past := settled.past_event step

/-- A late step leaves the scheduler as it is. -/
theorem late {run : Nat} {m : Move} (settled : c.Settled limit)
    (act : c.act? (.late run m) = some d) : d.scheduler = c.scheduler ∧ d.Settled limit := by
  simp only [act?, bind, Option.bind_eq_some_iff] at act
  obtain ⟨old, here, ⟨t, next⟩, step, same⟩ := act
  cases same
  obtain ⟨rfl, isOver⟩ := late?_over (settled.past old (List.mem_of_getElem? here)) step
  refine ⟨rfl, settled.sound, settled.rested, settled.home, settled.width, ?_⟩
  intro session member
  rcases List.mem_or_eq_of_mem_set member with earlier | changed
  · exact settled.past session earlier
  · rw [changed]
    exact isOver

theorem act {a : Act} (settled : c.Settled limit) (step : c.act? a = some d) :
    d.Settled limit := by
  cases a with
  | event e =>
      obtain ⟨t, happens, rfl⟩ := Option.map_eq_some_iff.mp step
      exact settled.event happens
  | late run m => exact (settled.late step).2

/-- The scheduler goes through the states that the events of the present run alone lead to. -/
theorem run {acts : List Act} (settled : c.Settled limit) (run : c.run? acts = some d) :
    d.Settled limit ∧
      Scheduler.run? (fun _ _ _ => ()) c.scheduler () (acts.filterMap Act.event?) =
        some (d.scheduler, ()) := by
  induction acts generalizing c with
  | nil =>
      cases run
      exact ⟨settled, rfl⟩
  | cons a rest ih =>
      simp only [Succession.run?, List.foldlM_cons, bind, Option.bind_eq_some_iff] at run
      obtain ⟨middle, step, run⟩ := run
      obtain ⟨after, events⟩ := ih (settled.act step) run
      refine ⟨after, ?_⟩
      cases a with
      | event e =>
          obtain ⟨t, happens, rfl⟩ := Option.map_eq_some_iff.mp step
          simp only [List.filterMap_cons, Act.event?, Scheduler.run?, happens, Option.bind_some]
          exact events
      | late run m =>
          rw [(settled.late step).1] at events
          exact events

end Settled

end Succession

/-! ## New runs -/

/-- A preparation of a stopped scheduler leaves what one of a new scheduler leaves. -/
theorem init_again {maxConcurrency : Nat} {policy : CrawlPolicy} {sizes : PoolSizes}
    {modules : ModuleSet} (sound : s.Sound) (home : s.outlet = none)
    (width : s.maxConcurrency = max maxConcurrency 1) (stopped : s.status = .stopped)
    (done : s.init policy sizes modules = (.ok (), t)) :
    (new maxConcurrency).init policy sizes modules = (.ok (), t) := by
  have sensible : checkArguments policy sizes modules = .ok () := by
    cases checked : checkArguments policy sizes modules with
    | ok _ => rfl
    | error e =>
        rw [init_of_refused (.arguments checked)] at done
        cases done
  simp only [Sound, stopped] at sound
  rw [init_of_vacant sensible (Or.inr stopped)] at done
  rw [init_of_vacant sensible (Or.inl rfl)]
  simp only [prepare] at done ⊢
  cases made : Session.new policy sizes with
  | error e =>
      simp only [made] at done
      cases done
  | ok session =>
      rcases registered : registerAll .empty modules.all with ⟨_ | _, registrar⟩
      · simp only [made, registered] at done
        cases done
      · simp only [made, registered] at done ⊢
        cases done
        simp only [new, sound.2.2, home, width]

/-- A registrar holds just some modules, a later one in place of an earlier one of the same
identifier. -/
structure HoldsJust (modules : List (Module Worker)) (registrar : Registrar Worker) : Prop where
  distinct : (registrar.modules.map (·.id.text)).Nodup
  last : ∀ m, m ∈ registrar.modules ↔
    ∃ earlier later, modules = earlier ++ m :: later ∧ ∀ n ∈ later, n.id.text ≠ m.id.text

theorem holdsJust_of_registerAll {modules : List (Module Worker)} {registrar : Registrar Worker}
    (done : registerAll .empty modules = (.ok (), registrar)) : HoldsJust modules registrar := by
  rcases registerAll_spec done with ⟨-, -, filled⟩ | ⟨e, _, _, _, failed, -⟩
  · rw [Registrar.empty_putAll] at filled
    rw [filled]
    exact ⟨(Keyed.ascending_table modules).nodup, fun m => Keyed.mem_table_iff⟩
  · cases failed

/-- **A run has nothing of an earlier one.**  Let a scheduler without an outlet have come, by any
events and late steps of earlier runs, to a state in which it is stopped, and let it be prepared
again.  Then it has a session in which nothing has happened, with open and empty pools of the given
sizes and no address recorded, and just the given modules; and it is the same scheduler as a new one
that is prepared with the same arguments.

Whatever happens afterwards, the scheduler, with its session and modules, is as if only the events of
the new run had happened to it: late steps of earlier runs change nothing of it, so that nothing of
theirs enters a pool or is recorded. -/
theorem runs_isolated (maxConcurrency : Nat) (before after : List Succession.Act) (c d : Succession)
    (policy : CrawlPolicy) (sizes : PoolSizes) (modules : ModuleSet) (t : Scheduler)
    (earlier : (Succession.new maxConcurrency).run? before = some c)
    (stopped : c.scheduler.status = .stopped)
    (again : c.scheduler.init policy sizes modules = (.ok (), t))
    (later : c.run? (.event (.operation (.init policy sizes modules)) :: after) = some d) :
    (∃ session, t.session = some session ∧ session.Blank policy sizes) ∧
      t.urlCount = 0 ∧ HoldsJust modules.all t.registrar ∧
      (new maxConcurrency).init policy sizes modules = (.ok (), t) ∧
      run? (fun _ _ _ => ()) t () (after.filterMap Succession.Act.event?) = some (d.scheduler, ()) ∧
      ∀ number m u, d.act? (.late number m) = some u → u.scheduler = d.scheduler := by
  obtain ⟨settled, -⟩ := (Succession.Settled.new maxConcurrency).run earlier
  have renewed := init_again settled.sound settled.home settled.width stopped again
  have fresh : ∃ session, t.session = some session ∧ session.Blank policy sizes ∧
      HoldsJust modules.all t.registrar := by
    rcases init_spec again with ⟨e, failed, -⟩ | ⟨-, prepared, -⟩ |
      ⟨-, -, -, session, registrar, made, registered, rfl⟩
    · cases failed
    · cases stopped.symm.trans prepared
    · exact ⟨session, rfl, Session.blank_new made, holdsJust_of_registerAll registered⟩
  obtain ⟨session, present, blank, held⟩ := fresh
  have nothing : t.urlCount = 0 := by
    rw [urlCount, present, Option.map_some, Option.getD_some, blank.nothing_seen, List.length_nil]
  have happens : c.scheduler.step? (.operation (.init policy sizes modules)) = some t := by
    rw [step?, perform, again]
  simp only [Succession.run?, List.foldlM_cons, bind, Option.bind_eq_some_iff,
    Succession.act?, happens, Option.map_some, Option.some.injEq] at later
  obtain ⟨_, rfl, later⟩ := later
  obtain ⟨settledLater, events⟩ := (settled.event happens).run later
  exact ⟨⟨session, present, blank⟩, nothing, held, renewed, events,
    fun number m u act => (settledLater.late act).1⟩

/-- Pools of one item each. -/
def tiny : PoolSizes := .uniform ⟨1, 1⟩

/-- A run that is stopped while a request waits to enter its pool. -/
def firstRun : List Succession.Act :=
  [.event (.operation (.init .usual tiny oneOfEach)),
    .event (.operation (.start (some [page "first", page "second"]))), .event (.operation .stop),
    .event .endStop]

/-- A second run, in which a request is taken before the one of the first run stops waiting. -/
def secondRun : List Succession.Act :=
  [.event (.operation (.start (some [page "third"]))), .event (.work default .takeRequest),
    .late 0 (.admitRequest 0), .event (.send (page "second"))]

theorem runs_isolated_secondRun : ∃ c d t,
    (Succession.new 2).run? firstRun = some c ∧ c.scheduler.status = .stopped ∧
      c.scheduler.session.map (·.requests.waiting) = some [page "second"] ∧
      c.scheduler.init .usual .usual oneOfEach = (.ok (), t) ∧
      c.run? (.event (.operation (.init .usual .usual oneOfEach)) :: secondRun) = some d ∧
      d.past.map (·.requests.waiting) = [[]] ∧
      (∃ session, t.session = some session ∧ session.Blank .usual .usual) ∧
      t.urlCount = 0 ∧ HoldsJust oneOfEach.all t.registrar ∧
      (new 2).init .usual .usual oneOfEach = (.ok (), t) ∧
      run? (fun _ _ _ => ()) t () (secondRun.filterMap Succession.Act.event?) =
        some (d.scheduler, ()) ∧
      ∀ number m u, d.act? (.late number m) = some u → u.scheduler = d.scheduler := by
  have possible : (((Succession.new 2).run? firstRun).bind fun c =>
    c.run? (.event (.operation (.init .usual .usual oneOfEach)) :: secondRun)).isSome := rfl
  obtain ⟨d, runs⟩ := Option.isSome_iff_exists.mp possible
  obtain ⟨c, earlier, later⟩ := Option.bind_eq_some_iff.mp runs
  cases earlier
  cases later
  exact ⟨_, _, _, rfl, rfl, rfl, rfl, rfl, rfl,
    runs_isolated 2 firstRun secondRun _ _ .usual .usual oneOfEach _ rfl rfl rfl rfl⟩

end Scheduler

end CrawlMesh
