/-
# Spiders that keep to themselves

What may happen to a spider is a `Spider.Deed`: it is prepared, started, paused or stopped, it accepts
a request, or its work goes on, move by move or as its scheduler does it.  Deeds of a spider whose
requests are all its own leave it so, and put only requests of its own into the queue
(`Spider.Own.deed`), as long as what it is handed names it and its modules come from the usual factory.

A `Colony` is a crawler together with the spiders that are not among the others: those that were built
and not inserted yet, and those that were taken out and may go on working.  A run of it
(`Colony.Happens`) takes all that can be done with a crawler, as a whole or in steps, and deeds of all
these spiders in between, in any order.  `Colony.Own.happens` is the step lemma of these runs.
-/
import CrawlMesh.Proofs.Crawl.Belonging
import CrawlMesh.Proofs.Crawl.Registry
import CrawlMesh.Proofs.Mesh.Leading

namespace CrawlMesh

set_option autoImplicit false

/-! ## Spiders -/

namespace Spider

/-- All requests of a spider belong to it, and its modules are of the usual kind. -/
def Own (s : Spider) : Prop := s.scheduler.BelongsTo s.name

/-- What may happen to a spider. Starting it gives it an outlet. A stop is a whole one, or begins and
ends, and the work goes on by a move or as the scheduler does it. -/
inductive Deed
  | prepare (modules : ModuleSet)
  | firstStart (outlet : Option Nat) (now : String)
  | start (outlet : Option Nat) (now : String)
  | pause
  | recover
  | beginStop
  | endStop (now : String)
  | stop (now : String)
  | accept (r : Request)
  | move (m : Move)
  | work

/-- The spider and what it shares with others after a deed, if that is possible. -/
def deed? (s : Spider) (c : Commons) : Deed → Option (Spider × Commons)
  | .prepare modules =>
    some (s.withScheduler (s.scheduler.init s.definition.policy s.definition.sizes modules).2, c)
  | .firstStart outlet now => some ((s.firstStart outlet now).2, c)
  | .start outlet now => some ((s.start outlet now).2, c)
  | .pause => some (s.pause.2, c)
  | .recover => some (s.recover.2, c)
  | .beginStop => some (s.withScheduler s.scheduler.beginStop.2, c)
  | .endStop now => s.scheduler.endStop?.map fun scheduler =>
    ({ s.withScheduler scheduler with endTime := some now }, c)
  | .stop now => some (s.stop c now).2
  | .accept r => some ((s.accept r).2, c)
  | .move m => (s.scheduler.move? c.queue m).map fun (scheduler, queue) =>
    (s.withScheduler scheduler, { c with queue := queue })
  | .work => (s.scheduler.workOnce? c).map fun (scheduler, c) => (s.withScheduler scheduler, c)

/-- A spider gets modules that its factory builds for it and requests that name it, and what calls end
with is what such modules make. -/
def Deed.Fits (factory : ModuleFactory) (s : Spider) : Deed → Prop
  | .prepare modules => ∃ w after, factory s.definition w = (.ok modules, after)
  | .accept r => r.spiderName = s.name
  | .move m => ∀ session, s.scheduler.session = some session → m.Usual session
  | _ => True

variable {s t : Spider} {c c' : Commons} {address : Option Net.SocketAddress} {network : Web.Network}

/-- A preparation with modules that the usual factory builds. -/
theorem Own.prepare (own : s.Own) {w after : Workshop} {modules : ModuleSet}
    (built : Workshop.usualFactory address (Web.downloader network) s.definition w =
      (.ok modules, after)) :
    (s.withScheduler
      (s.scheduler.init s.definition.policy s.definition.sizes modules).2).Own :=
  Scheduler.BelongsTo.perform own (.init s.definition.policy s.definition.sizes modules)
    (Workshop.usual_of_factory built)

/-- A start with requests of the spider. -/
theorem Own.startWith {seeds : Option (List Request)} (own : s.Own) (outlet : Option Nat)
    (named : ∀ r ∈ seeds.getD [], r.spiderName = s.name) (now : String) :
    (s.startWith outlet seeds now).2.Own := by
  obtain ⟨-, definition, scheduler⟩ := s.startWith_spec outlet seeds now
  have same : (s.startWith outlet seeds now).2.name = s.name :=
    congrArg SpiderDefinition.name definition
  rw [Own, scheduler, same]
  have routed : { s.scheduler with outlet := outlet }.BelongsTo s.name :=
    Scheduler.BelongsTo.of_same own rfl rfl
  exact routed.perform (.start seeds) named

theorem Own.firstStart (own : s.Own) (outlet : Option Nat) (now : String) :
    (s.firstStart outlet now).2.Own :=
  own.startWith outlet (fun _ member => (SpiderDefinition.mem_initialRequests member).2) now

theorem Own.start (own : s.Own) (outlet : Option Nat) (now : String) : (s.start outlet now).2.Own :=
  own.startWith outlet (fun _ member => absurd member List.not_mem_nil) now

theorem Own.pause (own : s.Own) : s.pause.2.Own :=
  Scheduler.BelongsTo.perform own .pause trivial

theorem Own.recover (own : s.Own) : s.recover.2.Own :=
  Scheduler.BelongsTo.perform own .recover trivial

theorem Own.accept (own : s.Own) {r : Request} (named : r.spiderName = s.name) : (s.accept r).2.Own :=
  Scheduler.BelongsTo.send own named

theorem definition_startWith (s : Spider) (outlet : Option Nat) (seeds : Option (List Request))
    (now : String) : (s.startWith outlet seeds now).2.definition = s.definition :=
  (s.startWith_spec outlet seeds now).2.1

theorem Own.stop (own : s.Own) (c : Commons) (now : String) :
    (s.stop c now).2.1.definition = s.definition ∧ (s.stop c now).2.1.Own ∧
      c.queue.Fed s.name (s.stop c now).2.2.queue := by
  obtain ⟨belongs, fed⟩ := Scheduler.BelongsTo.stop own c
  unfold Spider.stop
  split
  · rename_i stopped
    rw [stopped] at belongs fed
    exact ⟨rfl, belongs, fed⟩
  · rename_i stopped
    rw [stopped] at belongs fed
    exact ⟨rfl, belongs, fed⟩

/-- A deed keeps the requests of a spider its own, and puts only such into the queue. -/
theorem Own.deed {d : Deed} (own : s.Own)
    (fits : d.Fits (Workshop.usualFactory address (Web.downloader network)) s)
    (done : s.deed? c d = some (t, c')) :
    t.definition = s.definition ∧ t.Own ∧ c.queue.Fed s.name c'.queue := by
  cases d with
  | prepare modules =>
      cases done
      obtain ⟨w, after, built⟩ := fits
      exact ⟨rfl, own.prepare built, .same⟩
  | firstStart outlet now =>
      cases done
      exact ⟨s.definition_startWith outlet _ now, own.firstStart outlet now, .same⟩
  | start outlet now =>
      cases done
      exact ⟨s.definition_startWith outlet _ now, own.start outlet now, .same⟩
  | pause =>
      cases done
      exact ⟨rfl, own.pause, .same⟩
  | recover =>
      cases done
      exact ⟨rfl, own.recover, .same⟩
  | beginStop =>
      cases done
      exact ⟨rfl, Scheduler.BelongsTo.perform own .stop trivial, .same⟩
  | endStop now =>
      obtain ⟨scheduler, ended, same⟩ := Option.map_eq_some_iff.mp done
      cases same
      exact ⟨rfl, Scheduler.BelongsTo.endStop own ended, .same⟩
  | stop now =>
      have stopped := own.stop c now
      rw [Option.some.inj done] at stopped
      exact stopped
  | accept r =>
      cases done
      exact ⟨rfl, own.accept fits, .same⟩
  | move m =>
      obtain ⟨⟨scheduler, queue⟩, step, same⟩ := Option.map_eq_some_iff.mp done
      cases same
      obtain ⟨belongs, fed⟩ := Scheduler.BelongsTo.move own step fits
      exact ⟨rfl, belongs, fed⟩
  | work =>
      obtain ⟨⟨scheduler, commons⟩, step, same⟩ := Option.map_eq_some_iff.mp done
      cases same
      obtain ⟨belongs, fed⟩ := Scheduler.BelongsTo.workOnce own step
      exact ⟨rfl, belongs, fed⟩

theorem Own.init (own : s.Own) (w : Workshop) :
    (s.init (Workshop.usualFactory address (Web.downloader network)) w).2.1.Own := by
  unfold Spider.init
  split
  · exact own
  · split
    · exact own
    · exact own.prepare ‹_›

end Spider

/-! ## Crawlers -/

namespace Crawler

variable {c c' : Crawler} {spider : Spider} {address : Option Net.SocketAddress}
  {network : Web.Network}

/-- A crawler with the usual factory, of which every spider keeps to itself. -/
structure Own (address : Option Net.SocketAddress) (network : Web.Network) (c : Crawler) : Prop where
  factory : c.factory = Workshop.usualFactory address (Web.downloader network)
  spiders : ∀ s ∈ c.spiders, s.Own

namespace Own

theorem of_same (own : c.Own address network) (factory : c'.factory = c.factory)
    (spiders : c'.spiders = c.spiders) : c'.Own address network :=
  ⟨factory.trans own.factory, spiders ▸ own.spiders⟩

theorem put (own : c.Own address network) (fits : spider.Own) : (c.put spider).Own address network where
  factory := own.factory
  spiders s among := by
    obtain ⟨old, there, rfl⟩ := List.mem_map.mp among
    split
    · exact fits
    · exact own.spiders old there

theorem get? (own : c.Own address network) {name : String} (there : c.get? name = some spider) :
    spider.Own := own.spiders spider (List.mem_of_find?_eq_some there)

theorem change {α : Type} (own : c.Own address network) (name : String)
    {f : Spider → Outcome α × Spider} (keeps : ∀ s, c.get? name = some s → s.Own → (f s).2.Own) :
    (c.change name f).2.Own address network := by
  unfold Crawler.change
  split
  · exact own
  · rename_i s there
    exact own.put (keeps s there (own.get? there))

theorem stopSpider (own : c.Own address network) (fits : spider.Own) :
    (c.stopSpider spider).2.1.Own ∧ (c.stopSpider spider).2.2.Own address network :=
  ⟨(fits.stop _ _).2.1, own.of_same rfl rfl⟩

theorem without (own : c.Own address network) (name : String) :
    ({ c with spiders := c.spiders.filter (·.name != name) } : Crawler).Own address network where
  factory := own.factory
  spiders s left := own.spiders s (List.mem_filter.mp left).1

theorem delete (own : c.Own address network) (name : String) :
    (c.delete name).2.Own address network := by
  unfold Crawler.delete
  split
  · exact own
  · dsimp only
    split <;> exact (own.without name).of_same rfl rfl

theorem init (own : c.Own address network) (name : String) :
    (c.init name).2.Own address network := by
  unfold Crawler.init
  split
  · exact own
  · rename_i s there
    have prepared : (s.init c.factory c.workshop).2.1.Own := by
      rw [own.factory]
      exact (own.get? there).init c.workshop
    exact put (own.of_same rfl rfl) prepared

theorem stop (own : c.Own address network) (name : String) :
    (c.stop name).2.Own address network := by
  unfold Crawler.stop
  split
  · exact own
  · rename_i s there
    obtain ⟨stopped, others⟩ := own.stopSpider (own.get? there)
    exact others.put stopped

theorem act (own : c.Own address network) (name : String) (action : Action) :
    (c.act name action).2.Own address network := by
  have dated : c.now.2.Own address network := own.of_same rfl rfl
  cases action with
  | delete => exact own.delete name
  | init => exact own.init name
  | firstStart => exact dated.change name fun s _ fits => fits.firstStart outlet _
  | start => exact dated.change name fun s _ fits => fits.start outlet _
  | stop => exact own.stop name
  | pause => exact own.change name fun s _ fits => fits.pause
  | recover => exact own.change name fun s _ fits => fits.recover

/-- A request is handed to the spider that it names. -/
theorem accept (own : c.Own address network) (r : Request) :
    (c.accept r).2.Own address network := by
  refine own.change r.spiderName fun s there fits => ?_
  have named : s.name = r.spiderName := by simpa using List.find?_some there
  exact fits.accept named.symm

theorem takeErrors (own : c.Own address network) (name : String) :
    (c.takeErrors name).2.Own address network :=
  own.change name fun _ _ fits => Scheduler.BelongsTo.takeErrors fits

theorem workOnce (own : c.Own address network) (work : c.workOnce? = some c') :
    c'.Own address network := by
  unfold workOnce? at work
  rcases (Option.orElse_eq_some _ _ _).mp work with moved | ⟨-, admitted⟩
  · obtain ⟨spider, among, moves⟩ := List.exists_of_findSome?_eq_some moved
    obtain ⟨⟨scheduler, commons⟩, step, same⟩ := Option.bind_eq_some_iff.mp moves
    cases same
    have fits : (spider.withScheduler scheduler).Own :=
      (Scheduler.BelongsTo.workOnce (own.spiders spider among) step).1
    exact put (own.of_same rfl rfl) fits
  · obtain ⟨q, -, rfl⟩ := Option.map_eq_some_iff.mp admitted
    exact own.of_same rfl rfl

theorem stopActive (own : c.Own address network) (fits : spider.Own) :
    (c.stopActive spider).Own address network := by
  unfold Crawler.stopActive
  split
  · obtain ⟨stopped, others⟩ := own.stopSpider fits
    exact others.put stopped
  · exact own

theorem shutdown (own : c.Own address network) : c.shutdown.Own address network := by
  have all (spiders : List Spider) (fit : ∀ s ∈ spiders, s.Own) (c : Crawler)
      (own : c.Own address network) : (spiders.foldl Crawler.stopActive c).Own address network := by
    induction spiders generalizing c with
    | nil => exact own
    | cons s rest ih =>
        exact ih (fun t later => fit t (List.mem_cons_of_mem _ later)) _
          (own.stopActive (fit s List.mem_cons_self))
  exact of_same (all c.spiders own.spiders c own) rfl rfl

theorem use (own : c.Own address network) (u : Use) : (c.use u).Own address network := by
  cases u with
  | act name action => exact own.act name action
  | accept r => exact own.accept r
  | errors name => exact own.takeErrors name
  | enqueue r =>
      simp only [Crawler.use]
      cases entered : c.enqueue? r with
      | none => exact own
      | some result =>
          obtain ⟨tried, -, same⟩ := Option.map_eq_some_iff.mp entered
          cases same
          exact own.of_same rfl rfl
  | pop =>
      simp only [Crawler.use]
      cases popped : c.popRequest? with
      | none => exact own
      | some result =>
          unfold popRequest? at popped
          split at popped <;> cases popped <;> exact own.of_same rfl rfl
  | drain => exact own.of_same rfl rfl
  | work =>
      simp only [Crawler.use]
      cases work : c.workOnce? with
      | none => exact own
      | some c' => exact own.workOnce work
  | shutdown => exact own.shutdown

/-- A spider that was built has no requests yet. -/
theorem build (own : c.Own address network) {d : SpiderDefinition}
    (built : c.build d = (.ok spider, c')) : spider.Own ∧ c'.Own address network := by
  unfold Crawler.build at built
  split at built
  · cases built
  · rename_i fresh made
    obtain ⟨-, concurrency, unused⟩ := Spider.new_spec made
    have unprepared : fresh.Own := by
      rw [Spider.Own, unused]
      exact Scheduler.belongsTo_new fresh.name concurrency
    have prepared : (fresh.init c.factory c.workshop).2.1.Own := by
      rw [own.factory]
      exact unprepared.init c.workshop
    cases init : fresh.init c.factory c.workshop with
    | mk outcome rest =>
        obtain ⟨after, workshop⟩ := rest
        rw [init] at built prepared
        cases outcome with
        | error e => cases built
        | ok _ =>
            cases built
            exact ⟨prepared, own.of_same rfl rfl⟩

theorem insert (own : c.Own address network) (fits : spider.Own) :
    (c.insert spider).2.Own address network := by
  unfold Crawler.insert
  split
  · exact own
  · refine ⟨own.factory, fun s among => ?_⟩
    have among : s ∈ insertSpider spider c.spiders := among
    rw [insertSpider_eq] at among
    rcases Keyed.mem_insert among with rfl | old
    · exact fits
    · exact own.spiders s old

theorem add (own : c.Own address network) (d : SpiderDefinition) :
    (c.add d).2.Own address network := by
  unfold Crawler.add
  split
  · exact own
  · split
    · rename_i built
      refine own.of_same ?_ ?_
      · exact (congrArg (·.2.factory) built).symm.trans (factory_build c d)
      · exact (congrArg (·.2.spiders) built).symm.trans (build_spiders c d)
    · rename_i built
      obtain ⟨fits, others⟩ := own.build built
      exact others.insert fits

end Own

end Crawler

/-! ## Colonies -/

/-- A crawler with the spiders that are not among the others: they are not inserted yet, or were taken
out. -/
structure Colony where
  crawler : Crawler
  apart : List Spider

namespace Colony

/-- A spider is among the others or apart. -/
def Has (a : Colony) (s : Spider) : Prop := s ∈ a.crawler.spiders ∨ s ∈ a.apart

/-- What may happen to a colony: something is done with the crawler as a whole, a spider is built,
inserted or taken out, or there is a deed of a spider. -/
inductive Happens (a : Colony) : Colony → Prop
  | add (d : SpiderDefinition) : Happens a ⟨(a.crawler.add d).2, a.apart⟩
  | use (u : Crawler.Use) : Happens a ⟨a.crawler.use u, a.apart⟩
  | build {d : SpiderDefinition} {spider : Spider} {crawler : Crawler}
      (built : a.crawler.build d = (.ok spider, crawler)) : Happens a ⟨crawler, spider :: a.apart⟩
  | insert {place : Nat} {spider : Spider} (there : a.apart[place]? = some spider) :
      Happens a ⟨(a.crawler.insert spider).2, a.apart.eraseIdx place⟩
  | remove {name : String} {spider : Spider} (there : a.crawler.get? name = some spider) :
      Happens a ⟨{ a.crawler with spiders := a.crawler.spiders.filter (·.name != name) },
        spider :: a.apart⟩
  | among {s t : Spider} {d : Spider.Deed} {commons : Commons}
      (there : a.crawler.get? s.name = some s) (fits : d.Fits a.crawler.factory s)
      (done : s.deed? a.crawler.commons d = some (t, commons)) :
      Happens a ⟨(a.crawler.withCommons commons).put t, a.apart⟩
  | apart {place : Nat} {s t : Spider} {d : Spider.Deed} {commons : Commons}
      (there : a.apart[place]? = some s) (fits : d.Fits a.crawler.factory s)
      (done : s.deed? a.crawler.commons d = some (t, commons)) :
      Happens a ⟨a.crawler.withCommons commons, a.apart.set place t⟩

variable {a b : Colony} {address : Option Net.SocketAddress} {network : Web.Network}

/-- All spiders keep to themselves. -/
structure Own (address : Option Net.SocketAddress) (network : Web.Network) (a : Colony) : Prop where
  crawler : a.crawler.Own address network
  apart : ∀ s ∈ a.apart, s.Own

theorem Own.has (own : a.Own address network) {s : Spider} (has : a.Has s) : s.Own :=
  has.elim (own.crawler.spiders s) (own.apart s)

/-- Nothing that happens makes a spider work on requests of another one. -/
theorem Own.happens (own : a.Own address network) (happens : a.Happens b) : b.Own address network := by
  obtain ⟨crawler, others⟩ := own
  cases happens with
  | add d => exact ⟨crawler.add d, others⟩
  | use u => exact ⟨crawler.use u, others⟩
  | build built =>
      obtain ⟨fits, rest⟩ := crawler.build built
      exact ⟨rest, List.forall_mem_cons.mpr ⟨fits, others⟩⟩
  | insert there =>
      exact ⟨crawler.insert (others _ (List.mem_of_getElem? there)), fun s left =>
        others s (List.mem_of_mem_eraseIdx left)⟩
  | remove there =>
      exact ⟨crawler.without _, List.forall_mem_cons.mpr ⟨crawler.get? there, others⟩⟩
  | among there fits done =>
      rw [crawler.factory] at fits
      obtain ⟨-, kept, -⟩ := (crawler.get? there).deed fits done
      exact ⟨Crawler.Own.put (crawler.of_same rfl rfl) kept, others⟩
  | apart there fits done =>
      rw [crawler.factory] at fits
      obtain ⟨-, kept, -⟩ := (others _ (List.mem_of_getElem? there)).deed fits done
      refine ⟨crawler.of_same rfl rfl, fun s among => ?_⟩
      rcases List.mem_or_eq_of_mem_set among with old | rfl
      · exact others s old
      · exact kept

/-- All spiders of a crawler that began without any keep to themselves. -/
theorem own_of_run {storage : Storage} {size : PoolSize} {c : Crawler}
    (made : Crawler.new (Workshop.usualFactory address (Web.downloader network)) storage size = .ok c)
    (run : Relation.ReflTransGen Happens ⟨c, []⟩ a) : a.Own address network := by
  have start : c.Own address network := by
    simp only [Crawler.new, bind, Except.bind] at made
    split at made <;> cases made
    exact ⟨rfl, fun _ among => nomatch among⟩
  induction run with
  | refl => exact ⟨start, fun _ among => nomatch among⟩
  | tail _ happens ih => exact ih.happens happens

end Colony

end CrawlMesh
