/-
# What a preparation leaves behind

The modules of a preparation are registered one after the other into an emptied registrar, up to
the first whose identifier does not name its role (`registerAll_spec`).  If all of them are
registered, the registrar holds the last one of every identifier and nothing else
(`Keyed.mem_table_iff`).

A preparation that fails leaves status, run state, session and crews as they were.  It is refused
before anything is touched (`Refused`), or interrupted by a module (`Interrupted`): then the old
modules are gone and those before the one that is refused have taken their place, although the
status says that nothing has happened (`init_error_iff`, `failed_init_replaces_modules`).
-/
import CrawlMesh.Proofs.Crawl.Lifecycle

namespace CrawlMesh

set_option autoImplicit false

namespace Registrar

variable {α : Type} {r : Registrar α} {m : Module α}

/-! ## Registering several modules -/

/-- A registrar with modules put to it one after the other. -/
def putAll (r : Registrar α) (l : List (Module α)) : Registrar α :=
  ⟨l.foldl (fun modules m => Keyed.insert key m modules) r.modules⟩

theorem putAll_cons (r : Registrar α) (m : Module α) (l : List (Module α)) :
    r.putAll (m :: l) = (⟨Keyed.insert key m r.modules⟩ : Registrar α).putAll l := rfl

/-- Put to an empty registrar, of several modules with one identifier the last is kept, and
modules of different identifiers are all kept, in the order of the identifiers. -/
theorem empty_putAll (l : List (Module α)) : (empty : Registrar α).putAll l = ⟨Keyed.table key l⟩ :=
  rfl

end Registrar

namespace Scheduler

variable {s t : Scheduler} {policy : CrawlPolicy} {sizes : PoolSizes} {modules : ModuleSet}

/-- Modules are all registered, or up to the first that is refused. -/
theorem registerAll_spec {r after : Registrar Worker} {l : List (Module Worker)}
    {outcome : Outcome Unit} (done : registerAll r l = (outcome, after)) :
    (outcome = .ok () ∧ (∀ m ∈ l, m.Registrable) ∧ after = r.putAll l) ∨
      ∃ e before m behind, outcome = .error e ∧ l = before ++ m :: behind ∧
        (∀ n ∈ before, n.Registrable) ∧ ¬ m.Registrable ∧ after = r.putAll before ∧
        after.register m = .error e := by
  induction l generalizing r with
  | nil =>
      cases done
      exact Or.inl ⟨rfl, by simp, rfl⟩
  | cons m rest ih =>
      simp only [registerAll] at done
      by_cases fits : m.Registrable
      · have registered := Registrar.register_of_registrable r fits
        rw [registered] at done
        rcases ih done with
          ⟨ok, all, same⟩ | ⟨e, before, n, behind, failed, parts, all, unfit, same, refused⟩
        · refine Or.inl ⟨ok, ?_, same⟩
          intro n member
          rcases List.mem_cons.mp member with rfl | later
          · exact fits
          · exact all n later
        · refine Or.inr ⟨e, m :: before, n, behind, failed, by rw [parts]; rfl, ?_, unfit, same,
            refused⟩
          intro k member
          rcases List.mem_cons.mp member with rfl | later
          · exact fits
          · exact all k later
      · split at done
        · rename_i e refused
          cases done
          exact Or.inr ⟨e, [], m, rest, rfl, rfl, by simp, fits, rfl, refused⟩
        · rename_i registered
          exact absurd (Registrar.registrable_of_register registered) fits

/-- Modules up to one that is refused are registered, and no more. -/
theorem registerAll_of_refused {before behind : List (Module Worker)} {m : Module Worker}
    {r : Registrar Worker} {e : CrawlError} (all : ∀ n ∈ before, n.Registrable)
    (refused : (r.putAll before).register m = .error e) :
    registerAll r (before ++ m :: behind) = (.error e, r.putAll before) := by
  induction before generalizing r with
  | nil =>
      have here : r.register m = .error e := refused
      simp only [List.nil_append, registerAll, here]
      rfl
  | cons n rest ih =>
      have registered := Registrar.register_of_registrable r (all n List.mem_cons_self)
      simp only [List.cons_append, registerAll, registered]
      rw [Registrar.putAll_cons] at refused ⊢
      exact ih (fun k member => all k (List.mem_cons_of_mem n member)) refused

/-! ## Failed preparations -/

/-- A preparation is refused before anything is touched: its arguments are not sensible, the
scheduler cannot be prepared now, or there can be no session for the accepted domains. -/
inductive Refused (s : Scheduler) (policy : CrawlPolicy) (sizes : PoolSizes)
    (modules : ModuleSet) : CrawlError → Prop
  | arguments {e : CrawlError} (wrong : checkArguments policy sizes modules = .error e) :
      Refused s policy sizes modules e
  | status {e : CrawlError} (sensible : checkArguments policy sizes modules = .ok ())
      (other : s.status ≠ .prepared ∧ s.status ≠ .stopped)
      (conflict : s.status.check .preparing = .error e) : Refused s policy sizes modules e
  | session {e : CrawlError} (sensible : checkArguments policy sizes modules = .ok ())
      (vacant : s.status = .unprepared ∨ s.status = .stopped)
      (impossible : Session.new policy sizes = .error e) : Refused s policy sizes modules e

/-- A preparation is interrupted: all else is in order, but one of the modules is refused. By then
those before it are in the registrar, in place of all that were there. -/
structure Interrupted (s : Scheduler) (policy : CrawlPolicy) (sizes : PoolSizes)
    (modules : ModuleSet) (e : CrawlError) (registrar : Registrar Worker) : Prop where
  sensible : checkArguments policy sizes modules = .ok ()
  vacant : s.status = .unprepared ∨ s.status = .stopped
  session : ∃ session, Session.new policy sizes = .ok session
  modules : ∃ before m behind, modules.all = before ++ m :: behind ∧
    (∀ n ∈ before, n.Registrable) ∧ ¬ m.Registrable ∧
    registrar.modules = Keyed.table Registrar.key before ∧ registrar.register m = .error e

theorem check_vacant (vacant : s.status = .unprepared ∨ s.status = .stopped) :
    s.status ≠ .prepared ∧
      (if s.status = .stopped then Status.unprepared else s.status).check .preparing = .ok () := by
  rcases vacant with status | status
  · rw [status]
    exact ⟨by decide, rfl⟩
  · rw [status]
    exact ⟨by decide, rfl⟩

/-- A preparation of a scheduler that can be prepared goes on to the session and the modules. -/
theorem init_of_vacant (sensible : checkArguments policy sizes modules = .ok ())
    (vacant : s.status = .unprepared ∨ s.status = .stopped) :
    s.init policy sizes modules =
      match { s with status := .preparing }.prepare policy sizes modules with
      | (.ok _, t) => (.ok (), { t with status := .prepared })
      | (.error e, t) => (.error e, { t with status := s.status }) := by
  obtain ⟨notPrepared, mayPrepare⟩ := check_vacant vacant
  rcases prepared : { s with status := .preparing }.prepare policy sizes modules with ⟨_ | _, t⟩
  · simp only [init, sensible, if_neg notPrepared, mayPrepare, prepared]
  · simp only [init, sensible, if_neg notPrepared, mayPrepare, prepared]

theorem init_of_refused {e : CrawlError} (refused : s.Refused policy sizes modules e) :
    s.init policy sizes modules = (.error e, s) := by
  cases refused with
  | arguments wrong => simp only [init, wrong]
  | status sensible other conflict =>
      simp only [init, sensible, if_neg other.1, if_neg other.2, conflict]
  | session sensible vacant impossible =>
      rw [init_of_vacant sensible vacant]
      simp only [prepare, impossible]

theorem init_of_interrupted {e : CrawlError} {registrar : Registrar Worker}
    (interrupted : s.Interrupted policy sizes modules e registrar) :
    s.init policy sizes modules = (.error e, { s with registrar := registrar }) := by
  obtain ⟨session, made⟩ := interrupted.session
  obtain ⟨before, m, behind, parts, all, -, left, refused⟩ := interrupted.modules
  have filled : registrar = Registrar.empty.putAll before := by
    rw [Registrar.empty_putAll, ← left]
  rw [filled] at refused
  rw [init_of_vacant interrupted.sensible interrupted.vacant]
  simp only [prepare, made, parts, registerAll_of_refused all refused, filled]

/-- **A preparation that fails changes nothing but the modules, and those only if one of the new
ones is refused**: it fails with an error just if it is refused with that error before anything is
touched, and then the scheduler is as before; or if a module is refused, and then the registrar
holds the modules before that one, status, run state, session, crews and all else being as before.
So it changes nothing if the identifiers of all modules name their roles. -/
theorem init_error_iff (s t : Scheduler) (policy : CrawlPolicy) (sizes : PoolSizes)
    (modules : ModuleSet) (e : CrawlError) :
    (s.init policy sizes modules = (.error e, t) ↔
      (s.Refused policy sizes modules e ∧ t = s) ∨
        ∃ registrar, s.Interrupted policy sizes modules e registrar ∧
          t = { s with registrar := registrar }) ∧
      ((∀ m ∈ modules.all, m.Registrable) →
        s.init policy sizes modules = (.error e, t) → t = s) := by
  have failed (done : s.init policy sizes modules = (.error e, t)) :
      (s.Refused policy sizes modules e ∧ t = s) ∨
        ∃ registrar, s.Interrupted policy sizes modules e registrar ∧
          t = { s with registrar := registrar } := by
    cases sensible : checkArguments policy sizes modules with
    | error f =>
        have refused : s.Refused policy sizes modules f := .arguments sensible
        rw [init_of_refused refused] at done
        cases done
        exact Or.inl ⟨refused, rfl⟩
    | ok _ =>
        by_cases vacant : s.status = .unprepared ∨ s.status = .stopped
        · cases made : Session.new policy sizes with
          | error f =>
              have refused : s.Refused policy sizes modules f := .session sensible vacant made
              rw [init_of_refused refused] at done
              cases done
              exact Or.inl ⟨refused, rfl⟩
          | ok session =>
              rcases registered : registerAll .empty modules.all with ⟨outcome, registrar⟩
              rcases registerAll_spec registered with
                ⟨rfl, -, -⟩ | ⟨f, before, m, behind, rfl, parts, all, unfit, filled, refused⟩
              · rw [init_of_vacant sensible vacant] at done
                simp only [prepare, made, registered] at done
                cases done
              · have interrupted : s.Interrupted policy sizes modules f registrar :=
                  ⟨sensible, vacant, ⟨session, made⟩, before, m, behind, parts, all, unfit,
                    by rw [filled, Registrar.empty_putAll], refused⟩
                rw [init_of_interrupted interrupted] at done
                cases done
                exact Or.inr ⟨registrar, interrupted, rfl⟩
        · obtain ⟨notUnprepared, notStopped⟩ := not_or.mp vacant
          by_cases prepared : s.status = .prepared
          · simp only [init, sensible, if_pos prepared] at done
            cases done
          · cases conflict : s.status.check .preparing with
            | error f =>
                have refused : s.Refused policy sizes modules f :=
                  .status sensible ⟨prepared, notStopped⟩ conflict
                rw [init_of_refused refused] at done
                cases done
                exact Or.inl ⟨refused, rfl⟩
            | ok _ => exact absurd (Status.check_preparing conflict) notUnprepared
  refine ⟨⟨failed, ?_⟩, ?_⟩
  · rintro (⟨refused, rfl⟩ | ⟨registrar, interrupted, rfl⟩)
    · exact init_of_refused refused
    · exact init_of_interrupted interrupted
  · intro fits done
    rcases failed done with ⟨-, same⟩ | ⟨registrar, interrupted, -⟩
    · exact same
    · obtain ⟨before, m, behind, parts, -, unfit, -⟩ := interrupted.modules
      have member : m ∈ modules.all := by
        rw [parts]
        exact List.mem_append_right before List.mem_cons_self
      exact absurd (fits m member) unfit

/-- Modules of which the second downloader has the identifier of an analyzer. -/
def misplaced : ModuleSet :=
  { oneOfEach with
    downloaders := ["D5", "A1"].map fun id => freshModule id .downloader
      (.downloader ⟨fun _ => .unanswered (.transport "offline"), none⟩) }

/-- A scheduler that was prepared, started and stopped. -/
def stoppedLife : List Event :=
  [.operation (.init .usual .usual oneOfEach), .operation (.start none), .operation .stop, .endStop]

theorem init_error_iff_misplaced : ∃ s t e,
    run? (fun _ _ _ => ()) (new 2) () stoppedLife = some (s, ()) ∧
      s.init .usual .usual misplaced = (.error e, t) ∧
      ∃ registrar, s.Interrupted .usual .usual misplaced e registrar ∧
        t = { s with registrar := registrar } := by
  have possible : (run? (fun _ _ _ => ()) (new 2) () stoppedLife).isSome := rfl
  obtain ⟨⟨s, ⟨⟩⟩, run⟩ := Option.isSome_iff_exists.mp possible
  cases run
  refine ⟨_, _, _, rfl, rfl, ((init_error_iff _ _ _ _ _ _).1.mp rfl).resolve_left ?_⟩
  rintro ⟨refused, -⟩
  cases refused with
  | arguments wrong => cases wrong
  | status _ _ conflict => cases conflict
  | session _ _ impossible => cases impossible

/-- A preparation that fails is not without effect: the modules of a scheduler that was stopped
are gone, and a module of the new ones is there. -/
theorem failed_init_replaces_modules : ∃ s t e,
    run? (fun _ _ _ => ()) (new 2) () stoppedLife = some (s, ()) ∧
      s.init .usual .usual misplaced = (.error e, t) ∧
      s.registrar.signature = [(⟨"A2"⟩, .analyzer), (⟨"D1"⟩, .downloader), (⟨"P3"⟩, .pipeline)] ∧
      t.registrar.signature = [(⟨"D5"⟩, .downloader)] := by
  have possible : (run? (fun _ _ _ => ()) (new 2) () stoppedLife).isSome := rfl
  obtain ⟨⟨s, ⟨⟩⟩, run⟩ := Option.isSome_iff_exists.mp possible
  cases run
  exact ⟨_, _, _, rfl, rfl, rfl, rfl⟩

end Scheduler

end CrawlMesh
