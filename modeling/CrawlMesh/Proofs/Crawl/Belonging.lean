/-
# The spider that a request belongs to

A request that rules find on a page names no spider, and the analyzer gives it the one that the
request for the page belongs to (`Analyzer.spiderName_of_analyze`); the response of a download answers the
request that was asked for, whatever the network does (`Web.request_of_download`).  So a session in
which all requests belong to one spider stays such a session, whichever way a move goes
(`Scheduler.Moved.belongsTo`), and the requests that a move puts into the queue of the outlet belong to
that spider as well (`Scheduler.BelongsTo.move`).

The modules that a scheduler calls by itself have to be of the usual kind for this
(`Registrar.Usual`): those that the usual factory builds are (`usual_of_factory`), and the work puts none
in their place that is not (`Scheduler.BelongsTo.work`).
-/
import CrawlMesh.Proofs.Analyzers
import CrawlMesh.Web
import Mathlib.Data.Option.Basic

namespace CrawlMesh

set_option autoImplicit false

/-! ## What modules make of requests -/

/-- An answer that comes over a network is one to the request that was fetched. -/
theorem Web.request_of_fetch {network : Network} {r : Request} {response : Response}
    (answered : (fetch network r).outcome = .ok response) : response.request = r := by
  simp only [fetch] at answered
  split at answered
  · split at answered
    · split at answered
      · split at answered <;> cases answered
        rfl
      · cases answered
    · cases answered
  · split at answered
    · split at answered <;> cases answered
      rfl
    · cases answered

theorem Web.request_of_download {network : Network} {d : Downloader} {r : Request}
    {response : Response} (usual : d.fetch = fetch network)
    (answered : (d.download r).1 = .ok response) : response.request = r := by
  simp only [Downloader.download] at answered
  split at answered
  · cases answered
  · rw [usual] at answered
    exact request_of_fetch answered

namespace Yield

variable {a b : Yield}

/-- No request names a spider. -/
def Unnamed (y : Yield) : Prop := ∀ r, .request r ∈ y.data → r.spiderName = ""

theorem unnamed_empty : empty.Unnamed := fun _ member => nomatch member

theorem Unnamed.append (first : a.Unnamed) (second : b.Unnamed) : (a.append b).Unnamed := by
  intro r member
  rcases List.mem_append.mp member with among | among
  · exact first r among
  · exact second r among

theorem unnamed_concat {l : List Yield} (all : ∀ y ∈ l, y.Unnamed) : (concat l).Unnamed := by
  intro r member
  obtain ⟨y, among, found⟩ := List.mem_flatMap.mp member
  exact all y among r found

end Yield

namespace RuleReader

variable {response : Response}

theorem unnamed_followLink (response : Response) (wanted : String → Bool) (href : String) :
    (followLink response wanted href).Unnamed := by
  unfold followLink
  split
  · split
    · intro r member
      cases List.mem_singleton.mp member
      rfl
    · exact Yield.unnamed_empty
  · exact fun _ member => nomatch member

theorem unnamed_followLinks (response : Response) (wanted : String → Bool) (hrefs : List String) :
    (Yield.concat (hrefs.map (followLink response wanted))).Unnamed := by
  refine Yield.unnamed_concat fun y member => ?_
  obtain ⟨href, -, rfl⟩ := List.mem_map.mp member
  exact unnamed_followLink response wanted href

theorem unnamed_linkRequests {reader : RuleReader} {document : Html.Document} {found : Yield}
    (ok : reader.linkRequests response document = .ok found) : found.Unnamed := by
  simp only [linkRequests] at ok
  split at ok
  · cases ok
    exact Yield.unnamed_empty
  · cases links : RuleReader.links document with
    | error e =>
        rw [links] at ok
        cases ok
    | ok hrefs =>
        rw [links] at ok
        cases ok
        exact unnamed_followLinks response _ hrefs

theorem unnamed_itemYield (rules : RuleSet) (response : Response) (item : Item) :
    (itemYield rules response item).Unnamed := by
  refine (unnamed_followLinks response _ _).append fun r member => ?_
  cases List.mem_singleton.mp member

/-- Rules find requests that name no spider. -/
theorem unnamed_extract {reader : RuleReader} {found : Yield}
    (ok : reader.extract response = .ok found) : found.Unnamed := by
  simp only [extract] at ok
  split at ok
  · cases ok
    exact Yield.unnamed_empty
  · cases followed : reader.linkRequests response (Html.Document.parse response.body) with
    | error e =>
        rw [followed] at ok
        cases ok
    | ok links =>
        have unnamed := unnamed_linkRequests followed
        simp only [followed, bind, Except.bind] at ok
        split at ok
        · cases ok
          exact unnamed
        · split at ok
          · cases ok
          · cases ok
            refine unnamed.append (Yield.unnamed_concat fun y member => ?_)
            obtain ⟨item, -, rfl⟩ := List.mem_map.mp member
            exact unnamed_itemYield _ response item

theorem unnamed_read (reader : RuleReader) (response : Response) :
    (reader.read response).Unnamed := by
  unfold read
  split
  · exact unnamed_extract ‹_›
  · exact fun _ member => nomatch member

end RuleReader

/-- The analyzer of a spider, which reads pages by rules. -/
def RuleReader.analyzer (reader : RuleReader) : Analyzer := ⟨[reader.read]⟩

/-- What is found on a page belongs to the spider that the page belongs to. -/
theorem Analyzer.spiderName_of_analyze (reader : RuleReader) {response : Response} {found : Yield}
    {r : Request} (done : reader.analyzer.analyze response = some found)
    (among : .request r ∈ found.data) : r.spiderName = response.request.spiderName := by
  obtain ⟨-, -, parser, member, q, read, same⟩ := request_of_analyze done among
  cases List.mem_singleton.mp member
  have unnamed : q.spiderName = "" := reader.unnamed_read response q read
  cases same
  simp [unnamed]

/-! ## Sessions of one spider -/

namespace Session

variable {s t : Session} {name : String}

/-- All requests belong to one spider: those that wait, are in the pool or are being downloaded, those
that responses answer, and those that were found and are not handed over yet. -/
structure BelongsTo (name : String) (s : Session) : Prop where
  asked : ∀ r, s.Asked r → r.spiderName = name
  answered : ∀ response, s.Answered response → response.request.spiderName = name
  found : ∀ r, s.Found r → r.spiderName = name

theorem belongsTo_new {policy : CrawlPolicy} {sizes : PoolSizes} (name : String)
    (made : new policy sizes = .ok s) : s.BelongsTo name := by
  obtain ⟨-, noRequests, noResponses, -, -, noDownloads, noAnalyses, -⟩ := new_spec made
  refine ⟨fun r asked => ?_, fun response answered => ?_, fun r found => ?_⟩
  · simp [Asked, Task.Among, noRequests, noDownloads] at asked
  · simp [Answered, Task.Among, noResponses, noDownloads, noAnalyses] at answered
  · simp [Found, noAnalyses] at found

theorem BelongsTo.continues {new : Request → Prop} (belongs : s.BelongsTo name)
    (continues : Continues True new s t) (fresh : ∀ r, new r → r.spiderName = name)
    (found : ∀ r, t.Found r → r.spiderName = name) : t.BelongsTo name where
  asked r asked := by
    rcases continues.asked r asked with old | ⟨-, new⟩
    · exact belongs.asked r old
    · exact fresh r new
  answered response answered := by
    rcases continues.answered trivial response answered with old | asked
    · exact belongs.answered response old
    · exact belongs.asked _ asked
  found := found

theorem analyses_send (s : Session) (r : Request) : (s.send r).2.analyses = s.analyses := by
  rcases send_spec s r with ⟨-, -, same⟩ | ⟨k, -, -, same⟩ | ⟨k, requests, -, -, same⟩ <;> rw [same]

theorem analyses_reportAll (s : Session) (errors : List CrawlError) :
    (s.reportAll errors).analyses = s.analyses := by
  obtain ⟨_, same, -⟩ := s.reportAll_spec errors
  rw [same]

theorem found_of_analyses (same : t.analyses = s.analyses) {r : Request} (found : t.Found r) :
    s.Found r := by
  simpa only [Found, same] using found

theorem BelongsTo.send (belongs : s.BelongsTo name) {r : Request} (named : r.spiderName = name) :
    (s.send r).2.BelongsTo name := by
  refine belongs.continues (s.continues_send True r) ?_ fun q found => ?_
  · rintro _ rfl
    exact named
  · exact belongs.found q (found_of_analyses (s.analyses_send r) found)

theorem BelongsTo.close (belongs : s.BelongsTo name) : s.close.BelongsTo name :=
  belongs.continues (s.noMore_close.continues True fun _ => False) (fun _ => False.elim)
    belongs.found

/-- An analysis that goes on has found nothing yet. -/
theorem found_of_goOn {place : Nat} {task : Analysis} {response : Response}
    (about : task.unit? = some response) {r : Request}
    (found : Found { s with analyses := s.analyses.set place task } r) : s.Found r := by
  obtain ⟨yield, among, member⟩ := found
  rcases List.mem_or_eq_of_mem_set among with old | rfl
  · exact ⟨yield, old, member⟩
  · cases about

theorem found_of_eraseIdx {place broken : Nat} {r : Request}
    (found : Found { s with analyses := s.analyses.eraseIdx place, broken := broken } r) :
    s.Found r := by
  obtain ⟨yield, among, member⟩ := found
  exact ⟨yield, List.mem_of_mem_eraseIdx among, member⟩

/-- What is left to hand over was found before. -/
theorem found_of_handOver {place : Nat} {data : List Datum} {errors : List CrawlError}
    {datum : Datum} (delivering : s.analyses[place]? = some (.delivering ⟨datum :: data, errors⟩))
    {r : Request} (found : (s.handOver place ⟨data, errors⟩).Found r) : s.Found r := by
  obtain ⟨yield, among, member⟩ := found
  rcases List.mem_or_eq_of_mem_set among with old | new
  · exact ⟨yield, old, member⟩
  · cases new
    exact ⟨_, List.mem_of_getElem? delivering, List.mem_cons_of_mem _ member⟩

end Session

/-- What calls end with is what modules of the usual kind make: a downloader over some network, or an
analyzer with some rules. -/
def Move.Usual (session : Session) : Move → Prop
  | .endDownload place outcome => ∀ worker request,
      session.downloads[place]? = some (.calling worker request) →
        ∃ network, outcome = ((Web.downloader network).download request).1
  | .endAnalysis place found => ∀ worker response,
      session.analyses[place]? = some (.calling worker response) →
        ∃ reader : RuleReader, reader.analyzer.analyze response = some found
  | _ => True

namespace Move

variable {session : Session} {m : Move}

theorem Usual.answers (usual : m.Usual session) : m.Answers session := by
  cases m with
  | endDownload place outcome =>
      cases outcome with
      | error e => trivial
      | ok response =>
          intro worker request calling
          obtain ⟨network, same⟩ := usual worker request calling
          exact Web.request_of_download rfl same.symm
  | _ => trivial

end Move

namespace Scheduler

variable {s t : Scheduler} {session next : Session} {m : Move} {name : String}

/-- What was found after a move was found before, or an analysis has ended with it. -/
theorem Moved.found (moved : Moved s session m next) {r : Request} (found : next.Found r) :
    session.Found r ∨ ∃ place worker response yield, m = .endAnalysis place yield ∧
      session.analyses[place]? = some (.calling worker response) ∧ .request r ∈ yield.data := by
  cases moved with
  | admitRequest | admitError | takeRequest | takeItem | beginDownload | beginProcessing
    | callDownloader | missDownloader | callPipeline | missPipeline | endDownload | failDownload
    | putResponse | dropResponse => exact Or.inl found
  | takeResponse =>
      obtain ⟨yield, among, member⟩ := found
      rcases List.mem_append.mp among with old | new
      · exact Or.inl ⟨yield, old, member⟩
      · cases List.mem_singleton.mp new
  | beginAnalysis => exact Or.inl (Session.found_of_goOn rfl found)
  | callAnalyzer => exact Or.inl (Session.found_of_goOn rfl found)
  | missAnalyzer =>
      exact Or.inl (Session.found_of_eraseIdx
        (Session.found_of_analyses (Session.analyses_reportAll _ [_]) found))
  | endAnalysis calling =>
      obtain ⟨yield, among, member⟩ := found
      rcases List.mem_or_eq_of_mem_set among with old | new
      · exact Or.inl ⟨yield, old, member⟩
      · cases new
        exact Or.inr ⟨_, _, _, _, rfl, calling, member⟩
  | breakAnalysis => exact Or.inl (Session.found_of_eraseIdx found)
  | sendFound delivering =>
      exact Or.inl (Session.found_of_handOver delivering
        (Session.found_of_analyses (Session.analyses_send _ _) found))
  | sendElsewhere delivering => exact Or.inl (Session.found_of_handOver delivering found)
  | putItem delivering => exact Or.inl (Session.found_of_handOver delivering found)
  | dropItem delivering => exact Or.inl (Session.found_of_handOver delivering found)
  | endFinds =>
      exact Or.inl (Session.found_of_eraseIdx
        (Session.found_of_analyses (Session.analyses_reportAll _ _) found))
  | endProcessing =>
      have old := Session.found_of_analyses (Session.analyses_reportAll _ _) found
      exact Or.inl old

/-- A move passes on requests of the spider that the session belongs to. -/
theorem Moved.belongsTo (moved : Moved s session m next) (belongs : session.BelongsTo name)
    (usual : m.Usual session) : next.BelongsTo name := by
  refine belongs.continues (moved.continues.mono (fun _ => usual.answers) fun _ => id)
    belongs.found fun r found => ?_
  rcases moved.found found with old | ⟨place, worker, response, yield, rfl, calling, member⟩
  · exact belongs.found r old
  · obtain ⟨reader, done⟩ := usual worker response calling
    rw [Analyzer.spiderName_of_analyze reader done member]
    exact belongs.answered response (Or.inr (Or.inr (Task.among_of_place calling rfl)))

end Scheduler

/-! ## Modules of the usual kind -/

/-- A downloader over a network, an analyzer that reads pages by rules, or any pipeline. -/
def Worker.Usual : Worker → Prop
  | .downloader d => ∃ network, d.fetch = Web.fetch network
  | .analyzer a => ∃ reader : RuleReader, a = reader.analyzer
  | .pipeline _ => True

/-- All modules are of the usual kind. -/
def Registrar.Usual (r : Registrar Worker) : Prop := ∀ body ∈ r.bodies, body.Usual

/-- All modules that are to be registered are of the usual kind. -/
def ModuleSet.Usual (modules : ModuleSet) : Prop := ∀ m ∈ modules.all, m.body.Usual

namespace Registrar

variable {r after : Registrar Worker} {id : ModuleId} {worker : Worker}

theorem usual_empty : (empty : Registrar Worker).Usual := fun _ member => nomatch member

theorem Usual.of_get? (usual : r.Usual) (there : (r.get? id).map Module.body = some worker) :
    worker.Usual := by
  obtain ⟨m, found, rfl⟩ := Option.map_eq_some_iff.mp there
  exact usual m.body (List.mem_map_of_mem (List.mem_of_find?_eq_some found))

/-- A module may be replaced by another one of the usual kind. -/
theorem Usual.replace (usual : r.Usual) (fits : worker.Usual) :
    (r.modify id fun m => { m with body := worker }).Usual := by
  intro body member
  obtain ⟨m, among, rfl⟩ := List.mem_map.mp member
  obtain ⟨n, old, rfl⟩ := List.mem_map.mp among
  split
  · exact fits
  · exact usual n.body (List.mem_map_of_mem old)

theorem Usual.register {m : Module Worker} {isNew : Bool} (usual : r.Usual) (fits : m.body.Usual)
    (done : r.register m = .ok (isNew, after)) : after.Usual := by
  obtain ⟨-, -, rfl⟩ := register_ok done
  intro body member
  obtain ⟨n, among, rfl⟩ := List.mem_map.mp member
  rcases Keyed.mem_insert among with rfl | old
  · exact fits
  · exact usual n.body (List.mem_map_of_mem old)

end Registrar

namespace Scheduler

variable {s t : Scheduler} {name : String}

theorem usual_registerAll {r : Registrar Worker} {l : List (Module Worker)} (usual : r.Usual)
    (fits : ∀ m ∈ l, m.body.Usual) : (registerAll r l).2.Usual := by
  induction l generalizing r with
  | nil => exact usual
  | cons m rest ih =>
      simp only [registerAll]
      split
      · exact usual
      · rename_i registered
        exact ih (usual.register (fits m List.mem_cons_self) registered) fun n later =>
          fits n (List.mem_cons_of_mem _ later)

/-- A preparation registers the modules it was given or leaves the modules as they are. -/
theorem registrar_init (s : Scheduler) (policy : CrawlPolicy) (sizes : PoolSizes)
    (modules : ModuleSet) : (s.init policy sizes modules).2.registrar = s.registrar ∨
      (s.init policy sizes modules).2.registrar = (registerAll .empty modules.all).2 := by
  have prepared (s : Scheduler) : (s.prepare policy sizes modules).2.registrar = s.registrar ∨
      (s.prepare policy sizes modules).2.registrar = (registerAll .empty modules.all).2 := by
    unfold prepare
    split
    · exact Or.inl rfl
    · split
      · rename_i registered
        rw [registered]
        exact Or.inr rfl
      · rename_i registered
        rw [registered]
        exact Or.inr rfl
  unfold init
  split
  · exact Or.inl rfl
  · simp only
    split
    · exact Or.inl rfl
    · split
      · exact Or.inl rfl
      · have cases_ := prepared { s with status := .preparing }
        split
        · rename_i done
          rw [done] at cases_
          exact cases_
        · rename_i done
          rw [done] at cases_
          exact cases_

end Scheduler

theorem Workshop.body_of_moduleOf {id : ModuleId} {role : Role} {worker : Worker}
    {m : Module Worker} (made : moduleOf id role worker = .ok m) : m.body = worker := by
  simp only [moduleOf, bind, Except.bind] at made
  split at made <;> cases made
  rfl

/-- The usual factory builds modules of the usual kind. -/
theorem Workshop.usual_of_factory {address : Option Net.SocketAddress} {network : Web.Network}
    {d : SpiderDefinition} {w after : Workshop} {modules : ModuleSet}
    (built : usualFactory address (Web.downloader network) d w = (.ok modules, after)) :
    modules.Usual := by
  simp only [usualFactory] at built
  split at built
  · cases built
  · rename_i reader _
    split at built
    · cases built
    · obtain ⟨built, -⟩ := Prod.mk.inj built
      simp only [Analyzer.of, List.isEmpty_cons, Bool.false_eq_true, if_false, bind,
        Except.bind] at built
      split at built
      · cases built
      · split at built
        · cases built
        · rename_i downloader madeDownloader
          split at built
          · cases built
          · rename_i analyzer madeAnalyzer
            split at built
            · cases built
            · rename_i pipeline madePipeline
              cases built
              intro m member
              simp only [ModuleSet.all, List.map_cons, List.map_nil, List.cons_append,
                List.nil_append, List.mem_cons, List.not_mem_nil, or_false] at member
              rcases member with rfl | rfl | rfl
              · show downloader.body.Usual
                rw [body_of_moduleOf madeDownloader]
                exact ⟨network, rfl⟩
              · show analyzer.body.Usual
                rw [body_of_moduleOf madeAnalyzer]
                exact ⟨reader, rfl⟩
              · show pipeline.body.Usual
                rw [body_of_moduleOf madePipeline]
                trivial

/-! ## Queues that one spider feeds -/

/-- What may become of a queue into which only requests of one spider are put. -/
inductive Inbox.Fed (name : String) (queue : Inbox Request) : Inbox Request → Prop
  | same : Fed name queue queue
  | put {after : Inbox Request} {r : Request} (fed : Fed name queue after)
      (named : r.spiderName = name) : Fed name queue (after.put r)

namespace Inbox.Fed

variable {name : String} {queue middle after : Inbox Request}

theorem trans (first : queue.Fed name middle) (second : middle.Fed name after) :
    queue.Fed name after := by
  induction second with
  | same => exact first
  | put _ named ih => exact .put ih named

/-- What is new in the queue belongs to the spider. -/
theorem mem_held (fed : queue.Fed name after) {r : Request} (held : r ∈ after.held) :
    r ∈ queue.held ∨ r.spiderName = name := by
  induction fed with
  | same => exact Or.inl held
  | @put after q _ named ih =>
      unfold Inbox.put at held
      cases entered : after.put? q with
      | none =>
          rw [entered] at held
          exact ih held
      | some next =>
          rw [entered] at held
          rcases mem_of_put? entered held with rfl | old
          · exact Or.inr named
          · exact ih old

end Inbox.Fed

/-! ## Schedulers of one spider -/

namespace Scheduler

variable {s t : Scheduler} {name : String} {queue queue' : Inbox Request} {m : Move}

/-- A move leaves the queue as it is or puts a request there that an analysis has found. -/
theorem move?_queue (step : s.move? queue m = some (t, queue')) : queue' = queue ∨
    ∃ session r, s.session = some session ∧ session.Found r ∧ queue' = queue.put r := by
  unfold move? at step
  obtain ⟨session, present, step⟩ := Option.bind_eq_some_iff.mp step
  have alone {after : Option Scheduler} (same : after.map (·, queue) = some (t, queue')) :
      queue' = queue := by
    obtain ⟨u, -, pair⟩ := Option.map_eq_some_iff.mp same
    exact (Prod.mk.inj pair).2.symm
  cases m with
  | putDatum place =>
      simp only [putDatum?] at step
      split at step
      · cases step
        exact Or.inl rfl
      · rename_i datum rest errors delivering
        cases datum with
        | item item =>
            simp only at step
            split at step <;> cases step <;> exact Or.inl rfl
        | request r =>
            simp only [route] at step
            split at step
            · cases step
              exact Or.inl rfl
            · split at step <;> cases step
              · exact Or.inr ⟨session, r, present,
                  ⟨_, List.mem_of_getElem? delivering, List.mem_cons_self⟩, rfl⟩
              · exact Or.inl rfl
      · cases step
  | _ => exact Or.inl (alone step)

/-- All requests in the session belong to one spider, and the modules are of the usual kind. -/
structure BelongsTo (name : String) (s : Scheduler) : Prop where
  session : ∀ session, s.session = some session → session.BelongsTo name
  modules : s.registrar.Usual

theorem belongsTo_new (name : String) (maxConcurrency : Nat) :
    (new maxConcurrency).BelongsTo name where
  session _ none := nomatch none
  modules := Registrar.usual_empty

/-- What belongs to a spider goes on belonging to it if the session and the modules stay. -/
theorem BelongsTo.of_same (belongs : s.BelongsTo name) (session : t.session = s.session)
    (modules : t.registrar = s.registrar) : t.BelongsTo name where
  session next present := belongs.session next (session ▸ present)
  modules := modules ▸ belongs.modules

theorem BelongsTo.send (belongs : s.BelongsTo name) {r : Request} (named : r.spiderName = name) :
    (s.send r).2.BelongsTo name := by
  unfold Scheduler.send
  split
  · exact belongs
  · rename_i session present
    split
    · exact belongs
    · refine ⟨fun next after => ?_, belongs.modules⟩
      cases after
      exact (belongs.session session present).send named

theorem BelongsTo.sendAll (belongs : s.BelongsTo name) {l : List Request}
    (named : ∀ r ∈ l, r.spiderName = name) : (s.sendAll l).BelongsTo name := by
  induction l generalizing s with
  | nil => exact belongs
  | cons r rest ih =>
      exact ih (belongs.send (named r List.mem_cons_self)) fun q later =>
        named q (List.mem_cons_of_mem _ later)

/-- An operation gives a scheduler modules of the usual kind and requests of one spider. -/
def Operation.Fits (name : String) : Operation → Prop
  | .init _ _ modules => modules.Usual
  | .start seeds => ∀ r ∈ seeds.getD [], r.spiderName = name
  | _ => True

theorem BelongsTo.perform (belongs : s.BelongsTo name) (op : Operation) (fits : op.Fits name) :
    (s.perform op).2.BelongsTo name := by
  cases op with
  | init policy sizes modules =>
      refine ⟨fun session present => ?_, ?_⟩
      · rcases init_spec (s := s) (Prod.eta (s.init policy sizes modules)).symm with
          ⟨e, -, same, -⟩ | ⟨-, -, same⟩ | ⟨-, -, -, fresh, registrar, made, -, same⟩
        · rw [Scheduler.perform, same] at present
          exact belongs.session session present
        · rw [Scheduler.perform, same] at present
          exact belongs.session session present
        · rw [Scheduler.perform, same] at present
          cases present
          exact Session.belongsTo_new name made
      · rcases s.registrar_init policy sizes modules with same | same
        · rw [Scheduler.perform, same]
          exact belongs.modules
        · rw [Scheduler.perform, same]
          exact usual_registerAll Registrar.usual_empty fits
  | start seeds =>
      rcases start_spec (s := s) (Prod.eta (s.start seeds)).symm with ⟨e, -, same⟩ | ⟨-, -, same⟩
      · rw [Scheduler.perform, same]
        exact belongs
      · rw [Scheduler.perform, same]
        exact BelongsTo.sendAll (s := s.begun) (belongs.of_same rfl rfl) fits
  | pause =>
      rcases pause_spec (s := s) (Prod.eta _).symm with ⟨e, -, same⟩ | ⟨-, -, same⟩ <;>
      · rw [Scheduler.perform, same]
        exact belongs.of_same rfl rfl
  | recover =>
      rcases recover_spec (s := s) (Prod.eta _).symm with ⟨e, -, same⟩ | ⟨-, -, same⟩ <;>
      · rw [Scheduler.perform, same]
        exact belongs.of_same rfl rfl
  | stop =>
      rcases beginStop_spec (s := s) (Prod.eta _).symm with ⟨e, -, same⟩ | ⟨-, -, same⟩
      · rw [Scheduler.perform, same]
        exact belongs
      · rw [Scheduler.perform, same]
        refine ⟨fun next present => ?_, belongs.modules⟩
        obtain ⟨session, before, rfl⟩ := Option.map_eq_some_iff.mp present
        exact (belongs.session session before).close

/-- A move passes requests of the spider on and puts only such into the queue. -/
theorem BelongsTo.move (belongs : s.BelongsTo name) (step : s.move? queue m = some (t, queue'))
    (usual : ∀ session, s.session = some session → m.Usual session) :
    t.BelongsTo name ∧ queue.Fed name queue' := by
  obtain ⟨session, next, present, moved, goesOn⟩ := move?_moved step
  refine ⟨⟨fun other now => ?_, ?_⟩, ?_⟩
  · rw [goesOn.same] at now
    cases now
    exact moved.belongsTo (belongs.session session present) (usual session present)
  · rw [Registrar.Usual, goesOn.bodies]
    exact belongs.modules
  · rcases move?_queue step with rfl | ⟨before, r, there, found, rfl⟩
    · exact .same
    · exact .put .same ((belongs.session before there).found r found)

/-- Reading the errors leaves the requests where they are. -/
theorem BelongsTo.takeErrors (belongs : s.BelongsTo name) : s.takeErrors.2.BelongsTo name := by
  unfold Scheduler.takeErrors
  split
  · exact belongs
  · rename_i session present
    refine ⟨fun next after => ?_, belongs.modules⟩
    cases after
    exact ⟨(belongs.session session present).asked, (belongs.session session present).answered,
      (belongs.session session present).found⟩

/-! ## Schedulers that call their modules -/

theorem firstPlace_spec {α β : Type} {f : Nat → α → Option β} {l : List α} {y : β}
    (found : firstPlace f l = some y) : ∃ place x, l[place]? = some x ∧ f place x = some y := by
  obtain ⟨⟨x, place⟩, among, first⟩ := List.exists_of_findSome?_eq_some found
  exact ⟨place, x, List.mem_zipIdx_iff_getElem?.mp among, first⟩

/-- How a call that is under way is run: its module works on the unit, and the call ends with what
comes out of it. -/
inductive Ran (s : Scheduler) (storage : Storage) (session : Session) :
    Move → Scheduler → Storage → Prop
  | download {place : Nat} {id : ModuleId} {request : Request} {d : Downloader}
      (calling : session.downloads[place]? = some (.calling id request))
      (worker : s.worker? id = some (.downloader d)) :
      Ran s storage session (.endDownload place (d.download request).1)
        (s.withWorker id (.downloader (d.download request).2)) storage
  | analysis {place : Nat} {id : ModuleId} {response : Response} {a : Analyzer} {found : Yield}
      (calling : session.analyses[place]? = some (.calling id response))
      (worker : s.worker? id = some (.analyzer a)) (done : a.analyze response = some found) :
      Ran s storage session (.endAnalysis place found) s storage
  | brokenAnalysis {place : Nat} {id : ModuleId} {response : Response} {a : Analyzer}
      (calling : session.analyses[place]? = some (.calling id response))
      (worker : s.worker? id = some (.analyzer a)) (broken : a.analyze response = none) :
      Ran s storage session (.breakAnalysis place) s storage
  | processing {place : Nat} {id : ModuleId} {item : Item} {p : Pipeline Storage}
      (calling : session.processings[place]? = some (.calling id item))
      (worker : s.worker? id = some (.pipeline p)) :
      Ran s storage session (.endProcessing place (p.run item storage).1.errors) s
        (p.run item storage).2

theorem runCall?_ran {storage storage' : Storage} {session : Session}
    (ran : s.runCall? storage session = some (m, t, storage')) :
    Ran s storage session m t storage' := by
  unfold runCall? at ran
  rcases (Option.orElse_eq_some _ _ _).mp ran with downloads | ⟨-, ran⟩
  · obtain ⟨place, download, calling, call⟩ := firstPlace_spec downloads
    cases download with
    | taken | begun | delivering => cases call
    | calling id request =>
        simp only at call
        split at call
        · rename_i d worker
          cases call
          exact .download calling worker
        · cases call
  · rcases (Option.orElse_eq_some _ _ _).mp ran with analyses | ⟨-, processes⟩
    · obtain ⟨place, analysis, calling, call⟩ := firstPlace_spec analyses
      cases analysis with
      | taken | begun | delivering => cases call
      | calling id response =>
          simp only at call
          split at call
          · rename_i a worker
            split at call
            · rename_i found done
              cases call
              exact .analysis calling worker done
            · rename_i broken
              cases call
              exact .brokenAnalysis calling worker broken
          · cases call
    · obtain ⟨place, processing, calling, call⟩ := firstPlace_spec processes
      cases processing with
      | taken | begun | delivering => cases call
      | calling id item =>
          simp only at call
          split at call
          · rename_i p worker
            cases call
            exact .processing calling worker
          · cases call

/-- A call that is run ends with what a module of the usual kind makes. -/
theorem Ran.usual {storage storage' : Storage} {session : Session} (usual : s.registrar.Usual)
    (ran : Ran s storage session m t storage') :
    m.Usual session ∧ t.session = s.session ∧ t.registrar.Usual := by
  cases ran with
  | @download place id request d calling worker =>
      have fits : (Worker.downloader d).Usual := usual.of_get? worker
      obtain ⟨network, fetches⟩ := fits
      refine ⟨fun other asked here => ?_, rfl, usual.replace ?_⟩
      · cases calling.symm.trans here
        refine ⟨network, ?_⟩
        simp only [Downloader.download, fetches, Web.downloader]
        split <;> rfl
      · refine ⟨network, ?_⟩
        simp only [Downloader.download]
        split <;> exact fetches
  | @analysis place id response a found calling worker done =>
      refine ⟨fun other answered here => ?_, rfl, usual⟩
      cases calling.symm.trans here
      have fits : (Worker.analyzer a).Usual := usual.of_get? worker
      obtain ⟨reader, rfl⟩ := fits
      exact ⟨reader, done⟩
  | brokenAnalysis | processing => exact ⟨trivial, rfl, usual⟩

/-- What a scheduler does by itself passes requests of its spider on and puts only such into the
queue. -/
theorem BelongsTo.workOnce {c c' : Commons} (belongs : s.BelongsTo name)
    (work : s.workOnce? c = some (t, c')) : t.BelongsTo name ∧ c.queue.Fed name c'.queue := by
  unfold workOnce? at work
  obtain ⟨session, present, work⟩ := Option.bind_eq_some_iff.mp work
  split at work
  · rename_i m called storage ran
    obtain ⟨usual, same, modules⟩ := (runCall?_ran ran).usual belongs.modules
    obtain ⟨⟨u, queue⟩, step, pair⟩ := Option.bind_eq_some_iff.mp work
    cases pair
    have before : called.BelongsTo name := ⟨same ▸ belongs.session, modules⟩
    refine before.move step fun other there => ?_
    rw [same, present] at there
    cases there
    exact usual
  · obtain ⟨⟨u, queue⟩, step, pair⟩ := Option.bind_eq_some_iff.mp work
    cases pair
    obtain ⟨m, plain, step⟩ := List.exists_of_findSome?_eq_some step
    refine belongs.move step fun _ _ => ?_
    simp only [plainMoves, List.mem_append, List.mem_flatMap, List.mem_map, List.mem_cons,
      List.not_mem_nil, or_false] at plain
    rcases plain with (((⟨_, -, _, -, rfl⟩ | ⟨_, -, _, -, rfl⟩) | ⟨_, -, rfl⟩) | ⟨_, -, rfl⟩) |
      rfl | rfl | rfl | rfl | rfl <;> trivial

theorem BelongsTo.work (belongs : s.BelongsTo name) (c : Commons) (n : Nat) :
    (s.work c n).1.BelongsTo name ∧ c.queue.Fed name (s.work c n).2.queue := by
  induction n generalizing s c with
  | zero => exact ⟨belongs, .same⟩
  | succ n ih =>
      rw [Scheduler.work]
      split
      · rename_i u c' once
        obtain ⟨later, fed⟩ := belongs.workOnce once
        obtain ⟨final, more⟩ := ih later c'
        exact ⟨final, fed.trans more⟩
      · exact ⟨belongs, .same⟩

theorem BelongsTo.endStop (belongs : s.BelongsTo name) (ended : s.endStop? = some t) :
    t.BelongsTo name := by
  obtain ⟨-, rfl⟩ := endStop?_spec ended
  exact belongs.of_same rfl rfl

theorem BelongsTo.stop (belongs : s.BelongsTo name) (c : Commons) :
    (s.stop c).2.1.BelongsTo name ∧ c.queue.Fed name (s.stop c).2.2.queue := by
  have begun : s.beginStop.2.BelongsTo name := belongs.perform .stop trivial
  unfold Scheduler.stop
  split
  · rename_i e u failed
    rw [failed] at begun
    exact ⟨begun, .same⟩
  · rename_i u went
    rw [went] at begun
    obtain ⟨worked, fed⟩ := begun.work c patience
    refine ⟨?_, fed⟩
    show (((u.work c patience).1.endStop?).getD (u.work c patience).1).BelongsTo name
    cases ended : (u.work c patience).1.endStop? with
    | none => exact worked
    | some last => exact worked.endStop ended

end Scheduler

end CrawlMesh
