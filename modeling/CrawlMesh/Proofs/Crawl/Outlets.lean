/-
# Where the requests that a spider finds go

A spider is started with an outlet, which the requests found on its pages go to, or without one.  The
outlet is put in place before the start is tried (`Spider.startWith`).

* A start that is refused changes the outlet and nothing else (`startWith_refused`).  It is refused for
  the status, for want of a session, or for a first request that does not pass, whatever the outlet is
  (`startWith_refused_iff`).
* Nothing but a start changes the outlet: no operation, no move, and no module that is called
  (`outlet_workOnce?`, `outlet_deed`).  So the outlet after any deeds of a spider is the one that the
  last start was given, whether or not it was refused (`outlet_run`).

Hence a refused start leaves a spider as it was exactly if it was given the outlet that was in place
(`refused_start_reroutes`).
-/
import CrawlMesh.Proofs.Crawl.Colony

namespace CrawlMesh

set_option autoImplicit false

/-! ## Schedulers keep their outlet -/

namespace Scheduler

variable {s t : Scheduler} {c c' : Commons}

theorem outlet_move? {queue queue' : Inbox Request} {m : Move}
    (moved : s.move? queue m = some (t, queue')) : t.outlet = s.outlet := by
  have step : s.step? (.work queue m) = some t := by simp [step?, moved]
  exact (sameFrame_step step).outlet

/-- A call of a module changes the module at most. -/
theorem Ran.outlet {storage storage' : Storage} {session : Session} {m : Move}
    (ran : Ran s storage session m t storage') : t.outlet = s.outlet := by
  cases ran <;> rfl

theorem outlet_workOnce? (work : s.workOnce? c = some (t, c')) : t.outlet = s.outlet := by
  unfold workOnce? at work
  obtain ⟨session, -, work⟩ := Option.bind_eq_some_iff.mp work
  split at work
  · rename_i m called storage ran
    obtain ⟨⟨u, queue⟩, step, pair⟩ := Option.bind_eq_some_iff.mp work
    cases pair
    exact (outlet_move? step).trans (runCall?_ran ran).outlet
  · obtain ⟨⟨u, queue⟩, step, pair⟩ := Option.bind_eq_some_iff.mp work
    cases pair
    obtain ⟨m, -, step⟩ := List.exists_of_findSome?_eq_some step
    exact outlet_move? step

theorem outlet_work (s : Scheduler) (c : Commons) (n : Nat) : (s.work c n).1.outlet = s.outlet := by
  induction n generalizing s c with
  | zero => rfl
  | succ n ih =>
      rw [work]
      split
      · rename_i t c' once
        exact (ih t c').trans (outlet_workOnce? once)
      · rfl

theorem outlet_endStop? (ended : s.endStop? = some t) : t.outlet = s.outlet := by
  obtain ⟨-, rfl⟩ := endStop?_spec ended
  rfl

theorem outlet_stop (s : Scheduler) (c : Commons) : (s.stop c).2.1.outlet = s.outlet := by
  have begun : s.beginStop.2.outlet = s.outlet := (sameFrame_perform s .stop).outlet
  unfold stop
  split
  · rename_i e t failed
    rw [failed] at begun
    exact begun
  · rename_i t went
    rw [went] at begun
    show (((t.work c patience).1.endStop?).getD (t.work c patience).1).outlet = s.outlet
    cases ended : (t.work c patience).1.endStop? with
    | none => exact (t.outlet_work c patience).trans begun
    | some last => exact ((outlet_endStop? ended).trans (t.outlet_work c patience)).trans begun

theorem start_ok_iff (s : Scheduler) (seeds : Option (List Request)) :
    (s.start seeds).1 = .ok () ↔ (s.status = .prepared ∨ s.status = .paused) ∧
      ∃ session, s.session = some session ∧ ∀ r ∈ seeds.getD [], session.checkSeed r = .ok () := by
  constructor
  · intro ok
    obtain ⟨e, failed, -⟩ | ⟨-, origin, -⟩ := start_spec (Prod.eta (s.start seeds)).symm
    · cases ok.symm.trans failed
    · refine ⟨origin, ?_⟩
      cases present : s.session with
      | none =>
          unfold start at ok
          split at ok
          · cases ok
          · simp only [present] at ok
            cases ok
      | some session =>
          have given : s.start seeds = s.start (some (seeds.getD [])) := by cases seeds <;> rfl
          rw [given] at ok
          exact ⟨session, rfl, checkSeed_of_start present ok⟩
  · rintro ⟨origin, session, present, checked⟩
    rw [start_of_checked origin present checked]

end Scheduler

namespace Spider

variable {s t fresh : Spider} {c c' : Commons} {outlet : Option Nat} {now : String}
  {seeds : Option (List Request)} {e : CrawlError}

/-! ## Refused starts -/

/-- Whether a start is refused does not depend on its outlet. -/
theorem startWith_refused_iff (s : Spider) (outlet : Option Nat) (seeds : Option (List Request))
    (now : String) : (∃ e t, s.startWith outlet seeds now = (.error e, t)) ↔
      ¬ ((s.scheduler.status = .prepared ∨ s.scheduler.status = .paused) ∧
        ∃ session, s.scheduler.session = some session ∧
          ∀ r ∈ seeds.getD [], session.checkSeed r = .ok ()) := by
  rw [← Scheduler.start_ok_iff { s.scheduler with outlet := outlet } seeds,
    ← (s.startWith_spec outlet seeds now).1]
  rcases s.startWith outlet seeds now with ⟨_ | _, t⟩ <;> simp

/-! ## Deeds -/

/-- The outlet that a deed puts in place. -/
def Deed.outlet? : Deed → Option (Option Nat)
  | .firstStart outlet _ | .start outlet _ => some outlet
  | _ => none

/-- The outlet that the last start of some deeds was given, or the one before if there is none. -/
def lastOutlet (before : Option Nat) (deeds : List Deed) : Option Nat :=
  deeds.foldl (fun outlet d => d.outlet?.getD outlet) before

/-- The spider and what it shares with others after deeds that are all possible. -/
def run? (s : Spider) (c : Commons) : List Deed → Option (Spider × Commons)
  | [] => some (s, c)
  | d :: rest => (s.deed? c d).bind fun (s, c) => s.run? c rest

/-- Refused or not, a start puts its outlet in place. -/
theorem outlet_startWith (s : Spider) (outlet : Option Nat) (seeds : Option (List Request))
    (now : String) : (s.startWith outlet seeds now).2.scheduler.outlet = outlet := by
  rw [(s.startWith_spec outlet seeds now).2.2]
  exact (Scheduler.sameFrame_perform { s.scheduler with outlet := outlet } (.start seeds)).outlet

theorem outlet_stop (s : Spider) (c : Commons) (now : String) :
    (s.stop c now).2.1.scheduler.outlet = s.scheduler.outlet := by
  have stopped := s.scheduler.outlet_stop c
  unfold stop
  split
  · rename_i e scheduler shared failed
    rw [failed] at stopped
    exact stopped
  · rename_i scheduler shared went
    rw [went] at stopped
    exact stopped

theorem outlet_deed {d : Deed} (done : s.deed? c d = some (t, c')) :
    t.scheduler.outlet = d.outlet?.getD s.scheduler.outlet := by
  cases d with
  | prepare modules =>
      cases done
      exact (Scheduler.sameFrame_perform s.scheduler
        (.init s.definition.policy s.definition.sizes modules)).outlet
  | firstStart outlet now =>
      cases done
      exact s.outlet_startWith outlet _ now
  | start outlet now =>
      cases done
      exact s.outlet_startWith outlet _ now
  | pause =>
      cases done
      exact (Scheduler.sameFrame_perform s.scheduler .pause).outlet
  | recover =>
      cases done
      exact (Scheduler.sameFrame_perform s.scheduler .recover).outlet
  | beginStop =>
      cases done
      exact (Scheduler.sameFrame_perform s.scheduler .stop).outlet
  | endStop now =>
      obtain ⟨scheduler, ended, same⟩ := Option.map_eq_some_iff.mp done
      cases same
      exact Scheduler.outlet_endStop? ended
  | stop now =>
      have stopped := s.outlet_stop c now
      rw [Option.some.inj done] at stopped
      exact stopped
  | accept r =>
      cases done
      exact (Scheduler.sameFrame_send s.scheduler r).outlet
  | move m =>
      obtain ⟨⟨scheduler, queue⟩, step, same⟩ := Option.map_eq_some_iff.mp done
      cases same
      exact Scheduler.outlet_move? step
  | work =>
      obtain ⟨⟨scheduler, commons⟩, step, same⟩ := Option.map_eq_some_iff.mp done
      cases same
      exact Scheduler.outlet_workOnce? step

theorem outlet_run {deeds : List Deed} (run : s.run? c deeds = some (t, c')) :
    t.scheduler.outlet = lastOutlet s.scheduler.outlet deeds := by
  induction deeds generalizing s c with
  | nil =>
      cases run
      rfl
  | cons d rest ih =>
      obtain ⟨⟨next, shared⟩, done, later⟩ := Option.bind_eq_some_iff.mp run
      rw [ih later, outlet_deed done]
      rfl

theorem lastOutlet_of_none {deeds : List Deed} (unstarted : ∀ d ∈ deeds, d.outlet? = none)
    (before : Option Nat) : lastOutlet before deeds = before := by
  induction deeds with
  | nil => rfl
  | cons d rest ih =>
      rw [lastOutlet, List.foldl_cons, unstarted d List.mem_cons_self]
      exact ih fun other later => unstarted other (List.mem_cons_of_mem d later)

/-- **A refused start changes where requests go.**  Let a spider have come, by any deeds, to a state in
which it is started once more, with its first requests or without any.  If the start is refused, the
spider is what it was but for its outlet, which is the one that the refused start was given; so nothing
has changed exactly if that is the outlet of the last start before, which is the one in place.  It stays
until the next start: without an outlet no request that is found goes into the queue, and with one none
is kept. -/
theorem refused_start_reroutes {deeds : List Deed} (reached : fresh.run? c deeds = some (s, c'))
    {starts : Spider → Option Nat → String → Outcome Unit × Spider}
    (either : starts = Spider.firstStart ∨ starts = Spider.start) (outlet : Option Nat) (now : String)
    (refused : starts s outlet now = (.error e, t)) :
    let before := lastOutlet fresh.scheduler.outlet deeds
    s.scheduler.outlet = before ∧
    t = { s with scheduler := { s.scheduler with outlet := outlet } } ∧ (t = s ↔ outlet = before) ∧
    ∀ later u after, (∀ d ∈ later, d.outlet? = none) → t.run? c' later = some (u, after) →
      u.scheduler.outlet = outlet ∧
      ∀ session queue r,
        (outlet = none → (u.scheduler.route session queue r).2 = queue) ∧
        (outlet ≠ none → (u.scheduler.route session queue r).1 = u.scheduler) := by
  intro before
  have inPlace : s.scheduler.outlet = before := outlet_run reached
  have rerouted : t = { s with scheduler := { s.scheduler with outlet := outlet } } := by
    rcases either with rfl | rfl
    · exact startWith_refused refused
    · exact startWith_refused refused
  refine ⟨inPlace, rerouted, ?same, ?later⟩
  case same =>
    rw [← inPlace]
    constructor
    · intro same
      rw [← same, rerouted]
    · intro given
      rw [rerouted, given]
  case later =>
    intro later u after unstarted run
    have stays : u.scheduler.outlet = outlet := by
      rw [outlet_run run, lastOutlet_of_none unstarted, rerouted]
    refine ⟨stays, fun session queue r => ⟨fun home => ?_, fun away => ?_⟩⟩
    · simp [Scheduler.route, stays, home]
    · rw [← stays] at away
      simp only [Scheduler.route, Option.isNone_iff_eq_none, away, if_false]
      split <;> rfl

/-- A spider is started with an outlet, and a request is found on its first page. -/
def findingDeeds : List Deed :=
  [.prepare Scheduler.oneOfEach, .start (some 0) "08:00", .accept (Scheduler.page "first"),
    .move .takeRequest, .move (.begin .downloader 0), .move (.call .downloader 0),
    .move (.endDownload 0 (.ok default)), .move (.putResponse 0),
    .move .takeResponse, .move (.begin .analyzer 0), .move (.call .analyzer 0),
    .move (.endAnalysis 0 ⟨[.request (Scheduler.page "second")], []⟩)]

/-- A queue and nothing stored. -/
def emptyCommons : Commons := ⟨.ofFiles [] [] fun _ => default, default⟩

/-- How many requests a spider keeps and how many are put into the queue when it hands over a find. -/
def handed (s : Spider) (c : Commons) : Option (Nat × Nat) :=
  (s.run? c [.move (.putDatum 0)]).map fun (u, after) =>
    (u.scheduler.requestCount, after.queue.waiting.length)

theorem refused_start_reroutes_finding : ∃ fresh s t e c,
    Spider.new (.new "books") = .ok fresh ∧ fresh.run? emptyCommons findingDeeds = some (s, c) ∧
      s.start none "09:00" = (.error e, t) ∧ s.scheduler.status = .started ∧ t ≠ s ∧
      t = { s with scheduler := { s.scheduler with outlet := none } } := by
  have possible : ∃ fresh s t e c,
      Spider.new (.new "books") = .ok fresh ∧ fresh.run? emptyCommons findingDeeds = some (s, c) ∧
        s.start none "09:00" = (.error e, t) ∧ s.scheduler.status = .started :=
    ⟨_, _, _, _, _, rfl, rfl, rfl, rfl⟩
  obtain ⟨fresh, s, t, e, c, made, reached, refused, status⟩ := possible
  obtain ⟨-, rerouted, same, -⟩ := refused_start_reroutes reached (Or.inr rfl) none "09:00" refused
  refine ⟨fresh, s, t, e, c, made, reached, refused, status, fun unchanged => ?_, rerouted⟩
  have inPlace : none = some 0 := same.mp unchanged
  cases inPlace

/-- A running spider that hands its finds to a queue keeps them once a start of it was refused. -/
theorem refused_start_keeps_finds : ∃ fresh s t e c,
    Spider.new (.new "books") = .ok fresh ∧ fresh.run? emptyCommons findingDeeds = some (s, c) ∧
      s.start none "09:00" = (.error e, t) ∧ s.scheduler.status = .started ∧
      s.handed c = some (0, 1) ∧ t.handed c = some (1, 0) :=
  ⟨_, _, _, _, _, rfl, rfl, rfl, rfl, rfl, rfl⟩

end Spider

end CrawlMesh
