/-
# Calls that modules handle

Every module counts the calls that it handles.  While a scheduler is active and its modules work
for nobody else, each count is the number of calls under way with the module (`Counted`): it is
raised when a stage calls the module and lowered when the call ends.  With no call under way all
counts are therefore zero.
-/
import CrawlMesh.Proofs.Crawl.Ledger

namespace CrawlMesh

set_option autoImplicit false

/-! ## Callers -/

/-- The module that is called for a task. -/
def Task.callers {α β : Type} (task : Task α β) : Multiset ModuleId := task.calls.map (·.1)

/-- The modules with calls under way, each as often as it has calls. -/
def Session.callers (s : Session) : Multiset ModuleId :=
  (s.downloads : Multiset Download).bind Task.callers +
    (s.analyses : Multiset Analysis).bind Task.callers +
    (s.processings : Multiset Processing).bind Task.callers

@[simp] theorem Session.callers_reportAll (s : Session) (errors : List CrawlError) :
    (s.reportAll errors).callers = s.callers := by
  obtain ⟨_, same, -⟩ := s.reportAll_spec errors
  rw [same]
  rfl

@[simp] theorem Session.callers_send (s : Session) (r : Request) :
    (s.send r).2.callers = s.callers := by
  rcases send_spec s r with ⟨-, -, same⟩ | ⟨k, -, -, same⟩ | ⟨k, requests, -, -, same⟩ <;> rw [same]
  · rfl
  · rfl

/-- What is handed over calls nobody. -/
theorem Session.callers_handOver {s : Session} {place : Nat} {found : Yield}
    (delivering : s.analyses[place]? = some (.delivering found)) (left : Yield) :
    (s.handOver place left).callers = s.callers := by
  simp only [callers, handOver, bind_set_same delivering (.delivering left) Task.callers rfl]

/-- Nobody is called for a task that is counted. -/
theorem Task.callers_begin {α β : Type} {l next : List (Task α β)} {place : Nat}
    (begun : beginAt? l place = some next) :
    (next : Multiset (Task α β)).bind Task.callers =
      (l : Multiset (Task α β)).bind Task.callers := by
  obtain ⟨unit, taken, rfl⟩ := beginAt?_spec begun
  exact bind_set_same taken (.begun unit) Task.callers rfl

/-- With one more call under way, a module is called once more. -/
theorem Task.callers_call {α β : Type} {l : List (Task α β)} {place : Nat} {unit : α}
    (begun : l[place]? = some (.begun unit)) (worker : ModuleId) :
    (↑(l.set place (.calling worker unit)) : Multiset (Task α β)).bind Task.callers =
      worker ::ₘ (l : Multiset (Task α β)).bind Task.callers := by
  rw [bind_set begun, bind_of_place begun, callers, callers, calls, calls, Multiset.map_zero,
    zero_add, Multiset.map_singleton, Multiset.singleton_add]

/-- The call of a task that comes to an end is one call less. -/
theorem Task.callers_end {α β : Type} {l : List (Task α β)} {place : Nat} {worker : ModuleId}
    {unit : α} (calling : l[place]? = some (.calling worker unit)) :
    (l : Multiset (Task α β)).bind Task.callers =
      worker ::ₘ (↑(l.eraseIdx place) : Multiset (Task α β)).bind Task.callers := by
  rw [bind_of_place calling, callers, calls, Multiset.map_singleton, Multiset.singleton_add]

/-- A task that nobody is called for any more leaves the calls as they are. -/
theorem Task.callers_erase {α β : Type} {l : List (Task α β)} {place : Nat} {task : Task α β}
    (here : l[place]? = some task) (nobody : task.callers = 0) :
    (↑(l.eraseIdx place) : Multiset (Task α β)).bind Task.callers =
      (l : Multiset (Task α β)).bind Task.callers := by
  rw [bind_of_place here, nobody, zero_add]

/-! ## Counts -/

namespace Registrar

variable {α : Type} {r : Registrar α} {callers : Multiset ModuleId}

/-- Every module handles the calls that are under way with it, and no others. -/
def Counted (r : Registrar α) (callers : Multiset ModuleId) : Prop :=
  ∀ m ∈ r.modules, m.meter.counts.handling = UInt64.ofNat (callers.count m.id)

theorem Counted.updateScores (counted : r.Counted callers) (role : Role) :
    (r.updateScores role).Counted callers := by
  intro m member
  obtain ⟨old, among, rfl⟩ := List.mem_map.mp member
  have same := counted old among
  split <;> exact same

/-- One meter changes, by as many calls as begin and end with the module. -/
theorem Counted.modifyMeter (counted : r.Counted callers) {after : Multiset ModuleId}
    {worker : ModuleId} {f : Meter → Meter} (named : ∀ meter, (f meter).id = meter.id)
    (self : ∀ meter : Meter, meter.counts.handling = UInt64.ofNat (callers.count worker) →
      (f meter).counts.handling = UInt64.ofNat (after.count worker))
    (others : ∀ id, id ≠ worker → after.count id = callers.count id) :
    (r.modifyMeter worker f).Counted after := by
  intro m member
  obtain ⟨old, among, rfl⟩ := List.mem_map.mp member
  have same := counted old among
  by_cases called : old.id = worker
  · subst called
    have id : Module.id { old with meter := f old.meter } = old.id := named old.meter
    simp only [beq_self_eq_true, if_true, id]
    exact self old.meter same
  · have other : (old.id == worker) = false := by simpa using called
    simp only [other, Bool.false_eq_true, if_false]
    rw [same, others old.id called]

theorem Counted.begin (counted : r.Counted callers) (worker : ModuleId) (accepts : Bool) :
    (r.modifyMeter worker (·.begin accepts)).Counted (worker ::ₘ callers) := by
  refine counted.modifyMeter ?_ ?_ ?_
  · intro meter
    unfold Meter.begin
    split <;> rfl
  · intro meter same
    have raised : (meter.begin accepts).counts.handling = meter.counts.handling + 1 := by
      unfold Meter.begin
      split <;> rfl
    rw [raised, same, Multiset.count_cons_self, UInt64.ofNat_add]
    rfl
  · intro id other
    exact Multiset.count_cons_of_ne other _

theorem Counted.finish {worker : ModuleId} (counted : r.Counted (worker ::ₘ callers))
    (completes : Bool) : (r.modifyMeter worker (·.finish completes)).Counted callers := by
  refine counted.modifyMeter ?_ ?_ ?_
  · intro meter
    unfold Meter.finish
    split <;> rfl
  · intro meter same
    have lowered : (meter.finish completes).counts.handling = meter.counts.handling - 1 := by
      unfold Meter.finish
      split <;> rfl
    rw [lowered, same, Multiset.count_cons_self, UInt64.ofNat_add]
    exact UInt64.add_sub_cancel _ _
  · intro id other
    exact (Multiset.count_cons_of_ne other _).symm

/-- Modules that handle nothing are counted when they are registered. -/
theorem Counted.register {m : Module α} {isNew : Bool} {after : Registrar α}
    (counted : r.Counted 0) (idle : m.meter.counts.handling = 0)
    (done : r.register m = .ok (isNew, after)) : after.Counted 0 := by
  obtain ⟨-, -, rfl⟩ := register_ok done
  intro n member
  rcases Keyed.mem_insert member with rfl | old
  · exact idle
  · exact counted n old

end Registrar

namespace Scheduler

variable {s t : Scheduler} {session : Session} {place : Nat}

theorem counted_registerAll {r after : Registrar Worker} {l : List (Module Worker)}
    (counted : r.Counted 0) (idle : ∀ m ∈ l, m.meter.counts.handling = 0)
    (done : registerAll r l = (.ok (), after)) : after.Counted 0 := by
  induction l generalizing r with
  | nil =>
      cases done
      exact counted
  | cons m rest ih =>
      simp only [registerAll] at done
      split at done
      · cases done
      · rename_i registered
        have next := counted.register (idle m List.mem_cons_self) registered
        exact ih next (fun n later => idle n (List.mem_cons_of_mem m later)) done

/-! ## Moves -/

theorem callModule_counted {role : Role} {accepts : Bool} {outcome : Outcome ModuleId}
    {callers : Multiset ModuleId} (counted : s.registrar.Counted callers)
    (call : s.callModule role accepts = (outcome, t)) :
    (∀ e, outcome = .error e → t.registrar.Counted callers) ∧
      ∀ worker, outcome = .ok worker → t.registrar.Counted (worker ::ₘ callers) := by
  have scored := counted.updateScores role
  unfold callModule Registrar.select at call
  simp only at call
  split at call
  · rename_i e registrar chosen
    cases call
    refine ⟨?_, fun _ impossible => by cases impossible⟩
    intro _ _
    split at chosen <;> cases chosen
    exact scored
  · rename_i m registrar chosen
    cases call
    refine ⟨fun _ impossible => (by cases impossible), ?_⟩
    intro worker same
    cases same
    split at chosen <;> cases chosen
    exact scored.begin _ accepts

/-- The counts of a scheduler with a session are those of the calls of the session. -/
def Counted (s : Scheduler) : Prop :=
  ∃ session, s.session = some session ∧ s.registrar.Counted session.callers

theorem takeRequest?_counted (counted : s.registrar.Counted session.callers)
    (taken : s.takeRequest? session = some t) : t.Counted := by
  unfold takeRequest? at taken
  split at taken
  · obtain ⟨⟨request, requests⟩, -, rfl⟩ := Option.map_eq_some_iff.mp taken
    refine ⟨_, rfl, ?_⟩
    have same : Session.callers { session with
        requests := requests, downloads := session.downloads ++ [.taken request] } =
        session.callers := by
      simp only [Session.callers, bind_concat, Task.callers, Task.calls, Multiset.map_zero,
        add_zero]
    rwa [same]
  · cases taken

theorem takeResponse?_counted (counted : s.registrar.Counted session.callers)
    (taken : s.takeResponse? session = some t) : t.Counted := by
  unfold takeResponse? at taken
  split at taken
  · split at taken
    · rename_i response responses _
      cases taken
      refine ⟨_, rfl, ?_⟩
      have same : Session.callers { session with
          responses := responses, analyses := session.analyses ++ [.taken response] } =
          session.callers := by
        simp only [Session.callers, bind_concat, Task.callers, Task.calls, Multiset.map_zero,
          add_zero]
      rwa [same]
    · cases taken
  · cases taken

theorem takeItem?_counted (counted : s.registrar.Counted session.callers)
    (taken : s.takeItem? session = some t) : t.Counted := by
  unfold takeItem? at taken
  split at taken
  · split at taken
    · rename_i item items _
      cases taken
      refine ⟨_, rfl, ?_⟩
      have same : Session.callers { session with
          items := items, processings := session.processings ++ [.taken item] } =
          session.callers := by
        simp only [Session.callers, bind_concat, Task.callers, Task.calls, Multiset.map_zero,
          add_zero]
      rwa [same]
    · cases taken
  · cases taken

theorem begin?_counted {stage : Role} (counted : s.registrar.Counted session.callers)
    (begun : s.begin? session place stage = some t) : t.Counted := by
  cases stage <;>
  · obtain ⟨_, done, rfl⟩ := Option.map_eq_some_iff.mp begun
    refine ⟨_, rfl, ?_⟩
    change s.registrar.Counted _
    simpa only [Session.callers, Task.callers_begin done] using counted

/-- The call of a module leaves the counts right, whether there is a module or not. -/
theorem Counted.of_callModule {role : Role} {accepts : Bool} {outcome : Outcome ModuleId}
    {next : Session} (counted : s.registrar.Counted session.callers)
    (call : s.callModule role accepts = (outcome, t))
    (called : ∀ worker, outcome = .ok worker → next.callers = worker ::ₘ session.callers)
    (missed : ∀ e, outcome = .error e → next.callers = session.callers) :
    (t.withSession next).Counted := by
  obtain ⟨missing, chosen⟩ := callModule_counted counted call
  refine ⟨next, rfl, ?_⟩
  cases same : outcome with
  | ok worker =>
      rw [called worker same]
      exact chosen worker same
  | error e =>
      rw [missed e same]
      exact missing e same

theorem callDownloader?_counted (counted : s.registrar.Counted session.callers)
    (called : s.callDownloader? session place = some t) : t.Counted := by
  unfold callDownloader? at called
  split at called
  · rename_i request begun
    split at called <;> cases called
    · rename_i worker s' call
      refine .of_callModule counted call ?_ (fun _ impossible => by cases impossible)
      rintro _ ⟨⟩
      simp only [Session.callers, Task.callers_call begun, Multiset.cons_add]
    · rename_i e s' call
      refine .of_callModule counted call (fun _ impossible => by cases impossible) fun _ _ => ?_
      refine (Session.callers_reportAll _ [_]).trans ?_
      simp only [Session.callers, Task.callers_erase begun rfl]
  · cases called

theorem callAnalyzer?_counted (counted : s.registrar.Counted session.callers)
    (called : s.callAnalyzer? session place = some t) : t.Counted := by
  unfold callAnalyzer? at called
  split at called
  · rename_i response begun
    split at called <;> cases called
    · rename_i worker s' call
      refine .of_callModule counted call ?_ (fun _ impossible => by cases impossible)
      rintro _ ⟨⟩
      simp only [Session.callers, Task.callers_call begun, Multiset.add_cons, Multiset.cons_add]
    · rename_i e s' call
      refine .of_callModule counted call (fun _ impossible => by cases impossible) fun _ _ => ?_
      refine (Session.callers_reportAll _ [_]).trans ?_
      simp only [Session.callers, Task.callers_erase begun rfl]
  · cases called

theorem callPipeline?_counted (counted : s.registrar.Counted session.callers)
    (called : s.callPipeline? session place = some t) : t.Counted := by
  unfold callPipeline? at called
  split at called
  · rename_i item begun
    split at called <;> cases called
    · rename_i worker s' call
      refine .of_callModule counted call ?_ (fun _ impossible => by cases impossible)
      rintro _ ⟨⟩
      simp only [Session.callers, Task.callers_call begun, Multiset.add_cons]
    · rename_i e s' call
      refine .of_callModule counted call (fun _ impossible => by cases impossible) fun _ _ => ?_
      refine (Session.callers_reportAll _ [_]).trans ?_
      simp only [Session.callers, Task.callers_erase begun rfl]
  · cases called

/-- A call that is over leaves the others. -/
theorem Counted.of_endCall {next : Session} {worker : ModuleId}
    (counted : s.registrar.Counted session.callers)
    (called : session.callers = worker ::ₘ next.callers) (completes : Bool) :
    ((s.endCall worker completes).withSession next).Counted := by
  rw [called] at counted
  exact ⟨next, rfl, counted.finish completes⟩

theorem endDownload?_counted {outcome : Outcome Response}
    (counted : s.registrar.Counted session.callers)
    (ended : s.endDownload? session place outcome = some t) : t.Counted := by
  unfold endDownload? at ended
  split at ended
  · rename_i worker request calling
    cases ended
    refine .of_endCall counted ?_ _
    cases outcome with
    | ok response =>
        have waits : (Task.delivering response : Download).callers = 0 := rfl
        simp only [Session.callers, Task.callers_end calling, bind_set calling, waits, zero_add,
          Multiset.cons_add]
    | error e =>
        refine (?_ : _ = _).trans (congrArg _ (Session.callers_reportAll _ [e]).symm)
        simp only [Session.callers, Task.callers_end calling, Multiset.cons_add]
  · cases ended

theorem endAnalysis?_counted {found : Yield} (counted : s.registrar.Counted session.callers)
    (ended : s.endAnalysis? session place found = some t) : t.Counted := by
  unfold endAnalysis? at ended
  split at ended
  · rename_i worker response calling
    cases ended
    refine .of_endCall counted ?_ _
    have waits : (Task.delivering found : Analysis).callers = 0 := rfl
    simp only [Session.callers, Task.callers_end calling, bind_set calling, waits, zero_add,
      Multiset.add_cons, Multiset.cons_add]
  · cases ended

theorem breakAnalysis?_counted (counted : s.registrar.Counted session.callers)
    (broken : s.breakAnalysis? session place = some t) : t.Counted := by
  unfold breakAnalysis? at broken
  split at broken
  · rename_i worker response calling
    cases broken
    refine .of_endCall counted ?_ _
    simp only [Session.callers, Task.callers_end calling, Multiset.add_cons, Multiset.cons_add]
  · cases broken

theorem endProcessing?_counted {errors : List CrawlError}
    (counted : s.registrar.Counted session.callers)
    (ended : s.endProcessing? session place errors = some t) : t.Counted := by
  unfold endProcessing? at ended
  split at ended
  · rename_i worker item calling
    cases ended
    refine .of_endCall counted ?_ _
    rw [Session.callers_reportAll]
    simp only [Session.callers, Task.callers_end calling, Multiset.add_cons]
  · cases ended

theorem putResponse?_counted (counted : s.registrar.Counted session.callers)
    (put : s.putResponse? session place = some t) : t.Counted := by
  unfold putResponse? at put
  split at put
  · rename_i response delivering
    have same : session.callers =
        Session.callers { session with downloads := session.downloads.eraseIdx place } := by
      simp only [Session.callers, Task.callers_erase delivering rfl]
    rw [same] at counted
    simp only at put
    split at put <;> cases put
    · exact ⟨_, rfl, counted⟩
    · exact ⟨_, rfl, counted⟩
  · cases put

theorem Counted.send (counted : s.Counted) (r : Request) : (s.send r).2.Counted := by
  obtain ⟨session, present, counted⟩ := counted
  simp only [Scheduler.send, present]
  split
  · exact ⟨session, present, counted⟩
  · refine ⟨_, rfl, ?_⟩
    rwa [Session.callers_send]

theorem putDatum?_counted {queue queue' : Inbox Request}
    (counted : s.registrar.Counted session.callers)
    (put : s.putDatum? session queue place = some (t, queue')) : t.Counted := by
  unfold putDatum? at put
  split at put
  · rename_i errors delivering
    cases put
    have same : session.callers =
        Session.callers { session with analyses := session.analyses.eraseIdx place } := by
      simp only [Session.callers, Task.callers_erase delivering rfl]
    rw [same] at counted
    refine ⟨_, rfl, ?_⟩
    rw [Session.callers_reportAll]
    exact counted
  · rename_i datum rest errors delivering
    rw [← Session.callers_handOver delivering ⟨rest, errors⟩] at counted
    have handed : (s.withSession (session.handOver place ⟨rest, errors⟩)).Counted :=
      ⟨_, rfl, counted⟩
    simp only at put
    split at put
    · rename_i r
      unfold route at put
      split at put
      · cases put
        exact handed.send r
      · split at put <;> cases put <;> exact handed
    · split at put <;> cases put
      · exact ⟨_, rfl, counted⟩
      · exact handed
  · cases put

/-- Every move keeps the counts right. -/
theorem Counted.move {queue queue' : Inbox Request} {m : Move} (counted : s.Counted)
    (step : s.move? queue m = some (t, queue')) : t.Counted := by
  obtain ⟨session, present, counted⟩ := counted
  simp only [move?, present, Option.bind_eq_bind, Option.bind_some] at step
  have alone {after : Option Scheduler} (same : after.map (·, queue) = some (t, queue')) :
      after = some t := by
    obtain ⟨u, done, pair⟩ := Option.map_eq_some_iff.mp same
    cases pair
    exact done
  cases m with
  | admitRequest place =>
      obtain ⟨requests, -, rfl⟩ := Option.map_eq_some_iff.mp (alone step)
      exact ⟨_, rfl, counted⟩
  | admitError place =>
      obtain ⟨errors, -, rfl⟩ := Option.map_eq_some_iff.mp (alone step)
      exact ⟨_, rfl, counted⟩
  | takeRequest => exact takeRequest?_counted counted (alone step)
  | takeResponse => exact takeResponse?_counted counted (alone step)
  | takeItem => exact takeItem?_counted counted (alone step)
  | begin stage place => exact begin?_counted counted (alone step)
  | call stage place =>
      cases stage with
      | downloader => exact callDownloader?_counted counted (alone step)
      | analyzer => exact callAnalyzer?_counted counted (alone step)
      | pipeline => exact callPipeline?_counted counted (alone step)
  | endDownload place outcome => exact endDownload?_counted counted (alone step)
  | putResponse place => exact putResponse?_counted counted (alone step)
  | endAnalysis place found => exact endAnalysis?_counted counted (alone step)
  | breakAnalysis place => exact breakAnalysis?_counted counted (alone step)
  | putDatum place => exact putDatum?_counted counted step
  | endProcessing place errors => exact endProcessing?_counted counted (alone step)

/-! ## Runs -/

/-- A preparation brings modules that nobody else has called. -/
def Unshared (_ : Scheduler) : Event → Prop
  | .operation (.init _ _ modules) => ∀ m ∈ modules.all, m.meter.counts.handling = 0
  | _ => True

theorem Counted.sendAll (counted : s.Counted) (l : List Request) : (s.sendAll l).Counted := by
  induction l generalizing s with
  | nil => exact counted
  | cons r rest ih => exact ih (counted.send r)

/-- An active scheduler is counted right. -/
theorem counted_step {e : Event} (counted : s.Active → s.Counted) (unshared : s.Unshared e)
    (step : s.step? e = some t) (active : t.Active) : t.Counted := by
  cases e with
  | operation op =>
      rcases perform_cases (Option.some.inj step) with ⟨-, performed⟩ | ⟨registrar, rfl, idle⟩
      · cases performed with
        | @init policy sizes modules session registrar origin checked made registered =>
            obtain ⟨-, -, -, -, -, downloads, analyses, processings, -⟩ := Session.new_spec made
            have nobody : session.callers = 0 := by
              simp [Session.callers, downloads, analyses, processings]
            refine ⟨session, rfl, ?_⟩
            rw [nobody]
            exact counted_registerAll (fun m member => by cases member) unshared registered
        | start origin =>
            have begun : s.begun.Counted := counted (origin.imp_right Or.inr)
            exact begun.sendAll _
        | pause status => exact counted (Or.inr (Or.inl status))
        | recover status => exact counted (Or.inr (Or.inr status))
        | stop => rcases active with now | now | now <;> cases now
      · rcases idle with status | status | unchanged
        · rcases active with now | now | now <;> cases status.symm.trans now
        · rcases active with now | now | now <;> cases status.symm.trans now
        · rw [unchanged]
          exact counted active
  | endStop =>
      obtain ⟨-, rfl⟩ := endStop?_spec step
      rcases active with now | now | now <;> cases now
  | send r =>
      cases step
      rw [Active, (sameLife_send s r).status] at active
      exact (counted active).send r
  | work queue m =>
      obtain ⟨⟨after, queue'⟩, moves, rfl⟩ := Option.map_eq_some_iff.mp step
      rw [Active, (sameLife_move? moves).status] at active
      exact (counted active).move moves

end Scheduler

end CrawlMesh
