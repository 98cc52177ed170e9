/-
# The life of a scheduler

Status, run state, session and crews of a scheduler are changed by several operations, and agree
after every one of them (`Sound`): `Sound.step` shows that no event breaks it.  What an operation
does is told once by its spec (`init_spec`, `start_spec` and so on); one that fails changes
nothing, except that a preparation may have changed the modules (`perform_cases`).

`History` counts the stops that wait and the crews that have come and gone for the present
session.  All of it can be told from the status (`History.of`), so that at most one stop waits,
and no session ever has a second crew (`run_inOrder`).
-/
import CrawlMesh.Proofs.Crawl.Runs

namespace CrawlMesh

set_option autoImplicit false

/-! ## Changes of the status -/

namespace Status

variable {current wanted : Status}

theorem check_error {e : CrawlError} (refused : check current wanted = .error e) :
    ∃ why : Refusal, e = .statusConflict s!"{current.text} -> {wanted.text}: {why.message}" := by
  unfold check at refused
  split at refused
  · cases refused
  · rename_i why _
    cases refused
    exact ⟨why, rfl⟩

/-- No change begins while another one is under way. -/
theorem check_busy (busy : current.isTransitional = true) (wanted : Status) :
    ∃ detail, check current wanted = .error (.statusConflict detail) := by
  refine ⟨s!"{current.text} -> {wanted.text}: {Refusal.busy.message}", ?_⟩
  simp only [check, refusal?, busy, if_true]

theorem check_preparing (ok : check current .preparing = .ok ()) : current = .unprepared := by
  cases current <;> first | rfl | cases ok

theorem check_starting (ok : check current .starting = .ok ()) :
    current = .prepared ∨ current = .paused := by
  cases current <;> first | exact Or.inl rfl | exact Or.inr rfl | cases ok

theorem check_pausing (ok : check current .pausing = .ok ()) : current = .started := by
  cases current <;> first | rfl | cases ok

theorem check_stopping (ok : check current .stopping = .ok ()) :
    current = .started ∨ current = .paused := by
  cases current <;> first | exact Or.inl rfl | exact Or.inr rfl | cases ok

end Status

namespace Scheduler

variable {s t : Scheduler} {outcome : Outcome Unit}

/-! ## What the operations do -/

/-- A preparation fails, finds the scheduler prepared, or gives it a new session and new
modules. One that fails changes the modules at most, and only those of a scheduler that is not at
work. -/
theorem init_spec {policy : CrawlPolicy} {sizes : PoolSizes} {modules : ModuleSet}
    (done : s.init policy sizes modules = (outcome, t)) :
    (∃ e, outcome = .error e ∧ t = { s with registrar := t.registrar } ∧
        (s.status = .unprepared ∨ s.status = .stopped ∨ t = s)) ∨
      (outcome = .ok () ∧ s.status = .prepared ∧ t = s) ∨
      (outcome = .ok () ∧ (s.status = .unprepared ∨ s.status = .stopped) ∧
        modules.check = .ok () ∧ ∃ session registrar, Session.new policy sizes = .ok session ∧
          registerAll .empty modules.all = (.ok (), registrar) ∧
          t = { s with
            status := .prepared, run := .paused, session := some session
            registrar := registrar }) := by
  unfold init at done
  split at done
  · rename_i e _
    cases done
    exact Or.inl ⟨e, rfl, rfl, Or.inr (Or.inr rfl)⟩
  · rename_i passed
    simp only at done
    split at done
    · rename_i prepared
      cases done
      exact Or.inr (Or.inl ⟨rfl, prepared, rfl⟩)
    · split at done
      · rename_i e _
        cases done
        exact Or.inl ⟨e, rfl, rfl, Or.inr (Or.inr rfl)⟩
      · rename_i mayPrepare
        have origin : s.status = .unprepared ∨ s.status = .stopped := by
          by_cases stopped : s.status = .stopped
          · exact Or.inr stopped
          · rw [if_neg stopped] at mayPrepare
            exact Or.inl (Status.check_preparing mayPrepare)
        have idle (p : Prop) : s.status = .unprepared ∨ s.status = .stopped ∨ p :=
          origin.imp_right Or.inl
        have checked : modules.check = .ok () := by
          simp only [checkArguments, bind, Except.bind] at passed
          split at passed
          · cases passed
          · split at passed
            · cases passed
            · exact passed
        simp only [prepare] at done
        cases made : Session.new policy sizes with
        | error e =>
            simp only [made] at done
            cases done
            exact Or.inl ⟨e, rfl, rfl, idle _⟩
        | ok session =>
            rcases registered : registerAll .empty modules.all with ⟨_ | _, registrar⟩
            · rename_i e
              simp only [made, registered] at done
              cases done
              exact Or.inl ⟨e, rfl, rfl, idle _⟩
            · simp only [made, registered] at done
              cases done
              exact Or.inr (Or.inr ⟨rfl, origin, checked, session, registrar, rfl, rfl, rfl⟩)

/-- The scheduler right after a start, before the first requests are sent. -/
def begun (s : Scheduler) : Scheduler :=
  { s with
    crews := if s.status = .prepared then s.crews + 1 else s.crews
    run := .running
    status := .started }

/-- A start fails and changes nothing, or sets a crew to work and sends the first requests. -/
theorem start_spec {seeds : Option (List Request)} (done : s.start seeds = (outcome, t)) :
    (∃ e, outcome = .error e ∧ t = s) ∨
      (outcome = .ok () ∧ (s.status = .prepared ∨ s.status = .paused) ∧
        t = s.begun.sendAll (seeds.getD [])) := by
  unfold start at done
  split at done
  · rename_i e _
    cases done
    exact Or.inl ⟨e, rfl, rfl⟩
  · rename_i mayStart
    simp only at done
    split at done
    · cases done
      exact Or.inl ⟨_, rfl, rfl⟩
    · split at done
      · rename_i e _
        cases done
        exact Or.inl ⟨e, rfl, rfl⟩
      · cases done
        exact Or.inr ⟨rfl, Status.check_starting mayStart, rfl⟩

theorem pause_spec (done : s.pause = (outcome, t)) :
    (∃ e, outcome = .error e ∧ t = s) ∨
      (outcome = .ok () ∧ s.status = .started ∧
        t = { s with run := .paused, status := .paused }) := by
  unfold pause at done
  split at done <;> cases done
  · exact Or.inl ⟨_, rfl, rfl⟩
  · exact Or.inr ⟨rfl, Status.check_pausing ‹_›, rfl⟩

theorem recover_spec (done : s.recover = (outcome, t)) :
    (∃ e, outcome = .error e ∧ t = s) ∨
      (outcome = .ok () ∧ s.status = .paused ∧
        t = { s with run := .running, status := .started }) := by
  unfold recover at done
  split at done
  · cases done
    exact Or.inl ⟨_, rfl, rfl⟩
  · rename_i isPaused
    split at done <;> cases done
    · exact Or.inl ⟨_, rfl, rfl⟩
    · exact Or.inr ⟨rfl, Decidable.not_not.mp isPaused, rfl⟩

theorem beginStop_spec (done : s.beginStop = (outcome, t)) :
    (∃ e, outcome = .error e ∧ t = s) ∨
      (outcome = .ok () ∧ (s.status = .started ∨ s.status = .paused) ∧
        t = { s with
          status := .stopping, run := .stopped, session := s.session.map Session.close }) := by
  unfold beginStop at done
  split at done <;> cases done
  · exact Or.inl ⟨_, rfl, rfl⟩
  · exact Or.inr ⟨rfl, Status.check_stopping ‹_›, rfl⟩

theorem endStop?_spec (ended : s.endStop? = some t) :
    s.status = .stopping ∧ t = { s with status := .stopped, crews := 0 } := by
  unfold endStop? at ended
  split at ended
  · rename_i finished
    cases ended
    simp only [Bool.and_eq_true, decide_eq_true_eq] at finished
    exact ⟨finished.1, rfl⟩
  · cases ended

/-- What an operation does if it is carried out. -/
inductive Performed (s : Scheduler) : Operation → Scheduler → Prop
  | init {policy : CrawlPolicy} {sizes : PoolSizes} {modules : ModuleSet} {session : Session}
      {registrar : Registrar Worker} (origin : s.status = .unprepared ∨ s.status = .stopped)
      (checked : modules.check = .ok ()) (made : Session.new policy sizes = .ok session)
      (registered : registerAll .empty modules.all = (.ok (), registrar)) :
      Performed s (.init policy sizes modules) { s with
        status := .prepared, run := .paused, session := some session, registrar := registrar }
  | start {seeds : Option (List Request)} (origin : s.status = .prepared ∨ s.status = .paused) :
      Performed s (.start seeds) (s.begun.sendAll (seeds.getD []))
  | pause (status : s.status = .started) :
      Performed s .pause { s with run := .paused, status := .paused }
  | recover (status : s.status = .paused) :
      Performed s .recover { s with run := .running, status := .started }
  | stop (origin : s.status = .started ∨ s.status = .paused) : Performed s .stop { s with
      status := .stopping, run := .stopped, session := s.session.map Session.close }

/-- An operation is carried out, or nothing changes but the modules, and these only while there is
no crawl. -/
theorem perform_cases {op : Operation} (done : (s.perform op).2 = t) :
    ((s.perform op).1 = .ok () ∧ s.Performed op t) ∨
      ∃ registrar, t = { s with registrar := registrar } ∧
        (s.status = .unprepared ∨ s.status = .stopped ∨ registrar = s.registrar) := by
  have nothing (same : (s.perform op).2 = s) : ∃ registrar, t = { s with registrar := registrar } ∧
      (s.status = .unprepared ∨ s.status = .stopped ∨ registrar = s.registrar) :=
    ⟨s.registrar, done.symm.trans same, Or.inr (Or.inr rfl)⟩
  cases op with
  | init policy sizes modules =>
      rcases init_spec (s := s) (Prod.ext rfl done : s.init policy sizes modules = (_, t)) with
        ⟨e, -, same, idle⟩ | ⟨-, -, rfl⟩ | ⟨ok, origin, checked, session, registrar, made, all, rfl⟩
      · exact Or.inr ⟨t.registrar, same, idle.imp_right (Or.imp_right fun same => by rw [same])⟩
      · exact Or.inr ⟨t.registrar, rfl, Or.inr (Or.inr rfl)⟩
      · exact Or.inl ⟨ok, .init origin checked made all⟩
  | start seeds =>
      rcases start_spec (Prod.ext rfl done : s.start seeds = (_, t)) with
        ⟨e, -, same⟩ | ⟨ok, origin, rfl⟩
      · exact Or.inr (nothing (done.trans same))
      · exact Or.inl ⟨ok, .start origin⟩
  | pause =>
      rcases pause_spec (Prod.ext rfl done : s.pause = (_, t)) with ⟨e, -, same⟩ | ⟨ok, status, rfl⟩
      · exact Or.inr (nothing (done.trans same))
      · exact Or.inl ⟨ok, .pause status⟩
  | recover =>
      rcases recover_spec (Prod.ext rfl done : s.recover = (_, t)) with
        ⟨e, -, same⟩ | ⟨ok, status, rfl⟩
      · exact Or.inr (nothing (done.trans same))
      · exact Or.inl ⟨ok, .recover status⟩
  | stop =>
      rcases beginStop_spec (Prod.ext rfl done : s.beginStop = (_, t)) with
        ⟨e, -, same⟩ | ⟨ok, origin, rfl⟩
      · exact Or.inr (nothing (done.trans same))
      · exact Or.inl ⟨ok, .stop origin⟩

/-! ## Agreement -/

/-- The scheduler has a session whose pools are all open. -/
def HasOpen (s : Scheduler) : Prop :=
  ∃ session, s.session = some session ∧ ∀ closed ∈ session.gates, closed = false

/-- The scheduler has a session whose pools are all closed. -/
def HasClosed (s : Scheduler) : Prop :=
  ∃ session, s.session = some session ∧ ∀ closed ∈ session.gates, closed = true

/-- Run state, session and crews are as the status tells. -/
def Sound (s : Scheduler) : Prop :=
  match s.status with
  | .unprepared => s.session = none ∧ s.crews = 0
  | .prepared => s.run = .paused ∧ s.HasOpen ∧ s.crews = 0
  | .started => s.run = .running ∧ s.HasOpen ∧ s.crews = 1
  | .paused => s.run = .paused ∧ s.HasOpen ∧ s.crews = 1
  | .stopping => s.run = .stopped ∧ s.HasClosed ∧ s.crews = 1
  | .stopped => s.run = .stopped ∧ s.HasClosed ∧ s.crews = 0
  | .preparing | .starting | .pausing => False

/-- Status, run state and crews are the same, and so are the pools that are closed. -/
structure SameLife (s t : Scheduler) : Prop where
  status : t.status = s.status
  run : t.run = s.run
  crews : t.crews = s.crews
  gates : t.session.map Session.gates = s.session.map Session.gates

namespace SameLife

theorem refl (s : Scheduler) : SameLife s s := ⟨rfl, rfl, rfl, rfl⟩

theorem trans {u : Scheduler} (first : SameLife s t) (second : SameLife t u) : SameLife s u :=
  ⟨second.status.trans first.status, second.run.trans first.run,
    second.crews.trans first.crews, second.gates.trans first.gates⟩

theorem session_gates (same : SameLife s t) {session : Session}
    (present : s.session = some session) :
    ∃ next, t.session = some next ∧ next.gates = session.gates := by
  have gates := same.gates
  rw [present] at gates
  exact Option.map_eq_some_iff.mp gates

theorem hasOpen (same : SameLife s t) (isOpen : s.HasOpen) : t.HasOpen := by
  obtain ⟨session, present, gates⟩ := isOpen
  obtain ⟨next, after, sameGates⟩ := same.session_gates present
  exact ⟨next, after, sameGates ▸ gates⟩

theorem hasClosed (same : SameLife s t) (closed : s.HasClosed) : t.HasClosed := by
  obtain ⟨session, present, gates⟩ := closed
  obtain ⟨next, after, sameGates⟩ := same.session_gates present
  exact ⟨next, after, sameGates ▸ gates⟩

theorem sound (same : SameLife s t) (sound : s.Sound) : t.Sound := by
  unfold Sound at sound ⊢
  rw [same.status, same.run, same.crews]
  cases status : s.status <;> simp only [status] at sound ⊢
  case unprepared =>
      refine ⟨?_, sound.2⟩
      have gates := same.gates
      rw [sound.1] at gates
      exact Option.map_eq_none_iff.mp gates
  case prepared => exact ⟨sound.1, same.hasOpen sound.2.1, sound.2.2⟩
  case started => exact ⟨sound.1, same.hasOpen sound.2.1, sound.2.2⟩
  case paused => exact ⟨sound.1, same.hasOpen sound.2.1, sound.2.2⟩
  case stopping => exact ⟨sound.1, same.hasClosed sound.2.1, sound.2.2⟩
  case stopped => exact ⟨sound.1, same.hasClosed sound.2.1, sound.2.2⟩

end SameLife

theorem sameLife_send (s : Scheduler) (r : Request) : SameLife s (s.send r).2 := by
  unfold send
  split
  · exact .refl s
  · rename_i session present
    split
    · exact .refl s
    · exact ⟨rfl, rfl, rfl, by simp [present]⟩

theorem sameLife_sendAll (s : Scheduler) (l : List Request) : SameLife s (s.sendAll l) := by
  induction l generalizing s with
  | nil => exact .refl s
  | cons r rest ih => exact (sameLife_send s r).trans (ih _)

theorem sameLife_move? {queue queue' : Inbox Request} {m : Move}
    (step : s.move? queue m = some (t, queue')) : SameLife s t := by
  obtain ⟨session, next, present, moved, goesOn⟩ := move?_moved step
  rw [goesOn.same]
  exact ⟨rfl, rfl, rfl, by simp [present, moved.gates]⟩

theorem Sound.crews_le (sound : s.Sound) : s.crews ≤ 1 := by
  unfold Sound at sound
  cases status : s.status <;> simp only [status] at sound <;> simp [sound]

/-! ## No event breaks the agreement -/

theorem sound_new (outlet : Option Nat) (maxConcurrency : Nat) :
    Sound { new maxConcurrency with outlet := outlet } :=
  ⟨rfl, rfl⟩

theorem Sound.init {policy : CrawlPolicy} {sizes : PoolSizes} {modules : ModuleSet}
    (sound : s.Sound) (done : s.init policy sizes modules = (outcome, t)) : t.Sound := by
  rcases init_spec done with
    ⟨e, -, same, -⟩ | ⟨-, -, rfl⟩ | ⟨-, origin, -, session, registrar, made, -, rfl⟩
  · rw [same]
    exact SameLife.sound ⟨rfl, rfl, rfl, rfl⟩ sound
  · exact sound
  · refine ⟨rfl, ⟨session, rfl, Session.gates_of_ready (Session.new_spec made).1⟩, ?_⟩
    rcases origin with status | status
    · simp only [Sound, status] at sound
      exact sound.2
    · simp only [Sound, status] at sound
      exact sound.2.2

theorem Sound.start {seeds : Option (List Request)} (sound : s.Sound)
    (done : s.start seeds = (outcome, t)) : t.Sound := by
  rcases start_spec done with ⟨e, -, rfl⟩ | ⟨-, origin, rfl⟩
  · exact sound
  · refine (sameLife_sendAll _ _).sound ?_
    rcases origin with status | status
    · simp only [Sound, status] at sound
      refine ⟨rfl, sound.2.1, ?_⟩
      simp [begun, status, sound.2.2]
    · simp only [Sound, status] at sound
      refine ⟨rfl, sound.2.1, ?_⟩
      simp [begun, status, sound.2.2]

theorem Sound.beginStop (sound : s.Sound) (done : s.beginStop = (outcome, t)) : t.Sound := by
  rcases beginStop_spec done with ⟨e, -, rfl⟩ | ⟨-, origin, rfl⟩
  · exact sound
  · have working : s.HasOpen ∧ s.crews = 1 := by
      rcases origin with status | status <;>
      · simp only [Sound, status] at sound
        exact sound.2
    obtain ⟨⟨session, present, -⟩, crews⟩ := working
    exact ⟨rfl, ⟨session.close, by simp [present], session.gates_close⟩, crews⟩

theorem Sound.perform {op : Operation} (sound : s.Sound) : (s.perform op).2.Sound := by
  cases op with
  | init policy sizes modules => exact sound.init (Prod.eta _).symm
  | start seeds => exact sound.start (Prod.eta _).symm
  | pause =>
      rcases pause_spec (s := s) (Prod.eta _).symm with ⟨e, -, same⟩ | ⟨-, status, same⟩
      · rw [Scheduler.perform, same]
        exact sound
      · rw [Scheduler.perform, same]
        simp only [Sound, status] at sound
        exact ⟨rfl, sound.2⟩
  | recover =>
      rcases recover_spec (s := s) (Prod.eta _).symm with ⟨e, -, same⟩ | ⟨-, status, same⟩
      · rw [Scheduler.perform, same]
        exact sound
      · rw [Scheduler.perform, same]
        simp only [Sound, status] at sound
        exact ⟨rfl, sound.2⟩
  | stop => exact sound.beginStop (Prod.eta _).symm

theorem Sound.step {e : Event} (sound : s.Sound) (step : s.step? e = some t) : t.Sound := by
  cases e with
  | operation op =>
      cases step
      exact sound.perform
  | endStop =>
      obtain ⟨status, rfl⟩ := endStop?_spec step
      simp only [Sound, status] at sound
      exact ⟨sound.1, sound.2.1, rfl⟩
  | send r =>
      cases step
      exact (sameLife_send s r).sound sound
  | work queue m =>
      obtain ⟨⟨after, queue'⟩, moved, rfl⟩ := Option.map_eq_some_iff.mp step
      exact (sameLife_move? moved).sound sound

/-! ## Stops and crews -/

/-- How many stops have begun and wait, and how many crews have begun to work on the present
session and have gone again. -/
structure History where
  stops : Nat
  begun : Nat
  gone : Nat

namespace History

/-- The history with an event more, told from what the operations answer. A new session has no
crews; one begins with the start of a prepared scheduler, and goes when a stop ends. -/
def record (h : History) (s : Scheduler) : Event → History
  | .operation op =>
    match op, (s.perform op).1 with
    | .init .., .ok _ => if s.status = .prepared then h else { h with begun := 0, gone := 0 }
    | .start _, .ok _ => if s.status = .prepared then { h with begun := h.begun + 1 } else h
    | .stop, .ok _ => { h with stops := h.stops + 1 }
    | _, _ => h
  | .endStop => { h with stops := h.stops - 1, gone := h.gone + 1 }
  | .send _ | .work _ _ => h

/-- The history of a scheduler as its status tells it. -/
def of : Status → History
  | .started | .paused => ⟨0, 1, 0⟩
  | .stopping => ⟨1, 1, 0⟩
  | .stopped => ⟨0, 1, 1⟩
  | _ => ⟨0, 0, 0⟩

theorem record_perform (s : Scheduler) (op : Operation) :
    record (of s.status) s (.operation op) = of (s.perform op).2.status := by
  cases op with
  | init policy sizes modules =>
      simp only [record]
      rcases init_spec (s := s) (Prod.eta (s.init policy sizes modules)).symm with
        ⟨e, failed, same, -⟩ | ⟨ok, status, same⟩ | ⟨ok, origin, -, session, registrar, -, -, same⟩
      · rw [show (s.perform (.init policy sizes modules)).1 = .error e from failed, perform, same]
      · rw [show (s.perform (.init policy sizes modules)).1 = .ok () from ok, perform, same]
        simp [status]
      · rw [show (s.perform (.init policy sizes modules)).1 = .ok () from ok, perform, same]
        rcases origin with status | status <;> simp [status, of]
  | start seeds =>
      simp only [record]
      rcases start_spec (s := s) (Prod.eta (s.start seeds)).symm with
        ⟨e, failed, same⟩ | ⟨ok, origin, same⟩
      · rw [show (s.perform (.start seeds)).1 = .error e from failed, perform, same]
      · rw [show (s.perform (.start seeds)).1 = .ok () from ok, perform, same,
          (sameLife_sendAll _ _).status]
        rcases origin with status | status <;> simp [Scheduler.begun, status, of]
  | pause =>
      rcases pause_spec (s := s) (Prod.eta _).symm with ⟨e, -, same⟩ | ⟨-, status, same⟩
      · simp only [record, perform, same]
      · simp only [record, perform, same, status, of]
  | recover =>
      rcases recover_spec (s := s) (Prod.eta _).symm with ⟨e, -, same⟩ | ⟨-, status, same⟩
      · simp only [record, perform, same]
      · simp only [record, perform, same, status, of]
  | stop =>
      simp only [record]
      rcases beginStop_spec (s := s) (Prod.eta s.beginStop).symm with
        ⟨e, failed, same⟩ | ⟨ok, origin, same⟩
      · rw [show (s.perform .stop).1 = .error e from failed, perform, same]
      · rw [show (s.perform .stop).1 = .ok () from ok, perform, same]
        rcases origin with status | status <;> simp [status, of]

/-- The status goes on telling the history. -/
theorem record_of {e : Event} (step : s.step? e = some t) :
    record (of s.status) s e = of t.status := by
  cases e with
  | operation op =>
      cases step
      exact record_perform s op
  | endStop =>
      obtain ⟨status, rfl⟩ := endStop?_spec step
      simp [record, status, of]
  | send r =>
      cases step
      rw [(sameLife_send s r).status]
      rfl
  | work queue m =>
      obtain ⟨⟨after, queue'⟩, moved, rfl⟩ := Option.map_eq_some_iff.mp step
      rw [(sameLife_move? moved).status]
      rfl

end History

/-! ## Refusals -/

/-- Does an operation pass the checks of its arguments? Only a preparation has any that come before
the one of the status. -/
def Operation.Sensible : Operation → Prop
  | .init policy sizes modules => checkArguments policy sizes modules = .ok ()
  | _ => True

def Operation.isInit : Operation → Bool
  | .init .. => true
  | _ => false

/-- An operation that fails changes nothing, except that a preparation may change the modules. -/
theorem perform_error {op : Operation} (notInit : op.isInit = false) {e : CrawlError}
    (failed : (s.perform op).1 = .error e) : (s.perform op).2 = s := by
  cases op with
  | init => cases notInit
  | start seeds =>
      rcases start_spec (s := s) (Prod.eta _).symm with ⟨_, -, same⟩ | ⟨ok, -⟩
      · exact same
      · cases ok.symm.trans failed
  | pause =>
      rcases pause_spec (s := s) (Prod.eta _).symm with ⟨_, -, same⟩ | ⟨ok, -⟩
      · exact same
      · cases ok.symm.trans failed
  | recover =>
      rcases recover_spec (s := s) (Prod.eta _).symm with ⟨_, -, same⟩ | ⟨ok, -⟩
      · exact same
      · cases ok.symm.trans failed
  | stop =>
      rcases beginStop_spec (s := s) (Prod.eta _).symm with ⟨_, -, same⟩ | ⟨ok, -⟩
      · exact same
      · cases ok.symm.trans failed

/-- A change that begins while a stop waits is a conflict. -/
theorem perform_stopping {op : Operation} (status : s.status = .stopping)
    (sensible : op.Sensible) : ∃ detail, (s.perform op).1 = .error (.statusConflict detail) := by
  have busy (wanted : Status) : ∃ detail,
      Status.stopping.check wanted = .error (.statusConflict detail) := Status.check_busy rfl wanted
  cases op with
  | init policy sizes modules =>
      have passed : checkArguments policy sizes modules = .ok () := sensible
      obtain ⟨detail, conflict⟩ := busy .preparing
      exact ⟨detail, by simp [perform, Scheduler.init, passed, status, conflict]⟩
  | start seeds =>
      obtain ⟨detail, conflict⟩ := busy .starting
      exact ⟨detail, by simp only [perform, start, status, conflict]⟩
  | pause =>
      obtain ⟨detail, conflict⟩ := busy .pausing
      exact ⟨detail, by simp only [perform, pause, status, conflict]⟩
  | recover =>
      exact ⟨s!"cannot recover a {Status.stopping.text} scheduler",
        by simp [perform, recover, status]⟩
  | stop =>
      obtain ⟨detail, conflict⟩ := busy .stopping
      exact ⟨detail, by simp only [perform, beginStop, status, conflict]⟩

theorem primaryDomain_error {host : String} {e : CrawlError}
    (failed : primaryDomain host = .error e) : e.kind = .argument := by
  simp only [primaryDomain] at failed
  split at failed
  · cases failed
    rfl
  · split at failed
    · cases failed
    · split at failed
      · cases failed
        rfl
      · split at failed <;> cases failed

theorem request_primaryDomain_error {r : Request} {e : CrawlError}
    (failed : r.primaryDomain = .error e) : e.kind = .argument := by
  unfold Request.primaryDomain at failed
  split at failed
  · cases failed
    rfl
  · exact primaryDomain_error failed

/-- A first request that is refused is a wrong argument. -/
theorem checkSeed_error {session : Session} {r : Request} {e : CrawlError}
    (failed : session.checkSeed r = .error e) : e.kind = .argument := by
  simp only [Session.checkSeed, bind, Except.bind] at failed
  split at failed
  · rename_i invalid
    cases failed
    unfold Request.validate at invalid
    split at invalid
    · cases invalid
      rfl
    · cases domain : r.primaryDomain with
      | error e =>
          rw [domain] at invalid
          cases invalid
          exact request_primaryDomain_error domain
      | ok d =>
          rw [domain] at invalid
          cases invalid
  · split at failed
    · rename_i noDomain
      cases failed
      exact request_primaryDomain_error noDomain
    · split at failed
      · cases failed
      · cases failed
        rfl

theorem forM_checkSeed_error {session : Session} {l : List Request} {e : CrawlError}
    (failed : l.forM session.checkSeed = .error e) : e.kind = .argument := by
  induction l with
  | nil => cases failed
  | cons r rest ih =>
      cases first : session.checkSeed r with
      | error f =>
          simp only [List.forM, first, bind, Except.bind] at failed
          cases failed
          exact checkSeed_error first
      | ok u =>
          simp only [List.forM, first, bind, Except.bind] at failed
          exact ih failed

/-- A start never finds that there is no session. -/
theorem start_ne_noSession (sound : s.Sound) (seeds : Option (List Request)) :
    (s.start seeds).1 ≠ .error noSession := by
  unfold start
  split
  · rename_i e refused
    obtain ⟨why, rfl⟩ := Status.check_error refused
    intro same
    have texts := CrawlError.statusConflict.inj (Except.error.inj same)
    revert texts
    cases s.status <;> cases why <;> decide
  · rename_i mayStart
    have isOpen : s.HasOpen := by
      rcases Status.check_starting mayStart with status | status <;>
      · simp only [Sound, status] at sound
        exact sound.2.1
    obtain ⟨session, present, -⟩ := isOpen
    simp only [present]
    split
    · rename_i e refused
      intro same
      have kind := forM_checkSeed_error refused
      rw [Except.error.inj same] at kind
      cases kind
    · intro impossible
      cases impossible

/-! ## Order -/

/-- What holds of a scheduler and its history at all times. -/
structure InOrder (s : Scheduler) (h : History) : Prop where
  /-- The status is transitional just while a stop waits, and then tells so. -/
  transitional : s.status.isTransitional = true ↔ h.stops ≠ 0
  stopping : h.stops ≠ 0 → s.status = .stopping ∧ h.stops = 1
  unprepared : s.status = .unprepared → s.session = none
  idle : s.status = .prepared ∨ s.status = .paused → s.run = .paused ∧ s.HasOpen
  started : s.status = .started → s.run = .running ∧ s.HasOpen
  stopped : s.status = .stopped → s.run = .stopped ∧ s.HasClosed
  /-- No session has a second crew. -/
  one_crew : h.begun ≤ 1 ∧ h.gone ≤ h.begun
  /-- A crew is there from the start of the prepared scheduler until a stop ends. -/
  crews : s.crews = h.begun - h.gone
  noSession : ∀ seeds, (s.start seeds).1 ≠ .error noSession
  unchanged : ∀ op : Operation, op.isInit = false → ∀ e, (s.perform op).1 = .error e →
    (s.perform op).2 = s
  busy : h.stops ≠ 0 → ∀ op : Operation, op.Sensible →
    ∃ detail, (s.perform op).1 = .error (.statusConflict detail)

theorem Sound.inOrder (sound : s.Sound) : InOrder s (.of s.status) := by
  have waits : (History.of s.status).stops ≠ 0 → s.status = .stopping := by
    cases s.status <;> simp [History.of]
  refine {
    transitional := ?transitional
    stopping := fun stops => ⟨waits stops, by rw [waits stops]; rfl⟩
    unprepared := fun status => ?when_unprepared
    idle := fun status => ?when_idle
    started := fun status => ?when_started
    stopped := fun status => ?when_stopped
    one_crew := ?one_crew
    crews := ?crews
    noSession := start_ne_noSession sound
    unchanged := fun op notInit e failed => perform_error notInit failed
    busy := fun stops op sensible => perform_stopping (waits stops) sensible }
  case transitional =>
      unfold Sound at sound
      cases status : s.status <;> simp [status, Status.isTransitional, History.of] at sound ⊢
  case when_unprepared =>
      simp only [Sound, status] at sound
      exact sound.1
  case when_idle =>
      rcases status with status | status <;>
      · simp only [Sound, status] at sound
        exact ⟨sound.1, sound.2.1⟩
  case when_started =>
      simp only [Sound, status] at sound
      exact ⟨sound.1, sound.2.1⟩
  case when_stopped =>
      simp only [Sound, status] at sound
      exact ⟨sound.1, sound.2.1⟩
  case one_crew => cases s.status <;> simp [History.of]
  case crews =>
      unfold Sound at sound
      cases status : s.status <;> simp only [status] at sound <;> simp [History.of, sound]

/-- **The cells of a scheduler agree in every run**, whatever operations, requests and moves there
are and in whatever order, also while a stop waits. -/
theorem run_inOrder (outlet : Option Nat) (maxConcurrency : Nat) (events : List Event)
    (s : Scheduler) (h : History)
    (run : run? History.record { new maxConcurrency with outlet := outlet } ⟨0, 0, 0⟩ events =
      some (s, h)) : InOrder s h := by
  have kept : s.Sound ∧ h = .of s.status := by
    refine run?_induction (P := fun s h => s.Sound ∧ h = .of s.status) ?_
      ⟨sound_new outlet maxConcurrency, rfl⟩ run
    rintro s _ e t ⟨sound, rfl⟩ step
    exact ⟨sound.step step, History.record_of step⟩
  obtain ⟨sound, rfl⟩ := kept
  exact sound.inOrder

/-- A life that ends with a stop, during which a start is refused. -/
def shortLife : List Event :=
  [.operation (.init .usual .usual oneOfEach), .operation (.start none), .operation .stop,
    .operation (.start none), .endStop]

theorem run_inOrder_shortLife : ∃ s h,
    run? History.record { new 2 with outlet := none } ⟨0, 0, 0⟩ shortLife = some (s, h) ∧
      InOrder s h := by
  have possible : (run? History.record { new 2 with outlet := none } ⟨0, 0, 0⟩ shortLife).isSome :=
    rfl
  obtain ⟨⟨s, h⟩, run⟩ := Option.isSome_iff_exists.mp possible
  exact ⟨s, h, run, run_inOrder none 2 shortLife s h run⟩

end Scheduler

end CrawlMesh
