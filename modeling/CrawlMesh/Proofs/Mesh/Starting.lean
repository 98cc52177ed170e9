/-
# Starting a spider on all nodes

The node that starts a spider sends the first requests to its own scheduler, and calls the other
members to start it without any.  Each of the two parts changes one thing: the first one the session
of the node (`Mesh.onCrawler_firstStart`), the second one the status on the members
(`Mesh.fanOut_led`).  If the first part fails, there is no second one (`Mesh.untouched_of_error`).

The first requests are those of the node's own definition.  They are recorded and kept once each, and
sending them again changes nothing (`Mesh.start_seeds_once`).
-/
import CrawlMesh.Proofs.Mesh.Leading

namespace CrawlMesh

set_option autoImplicit false

namespace Mesh

variable {m after : Mesh} {number k : Nat} {node : Node} {name : String}

/-! ## Starting -/

theorem onCrawler_eq {α : Type} {f : Crawler → Outcome α × Crawler}
    (there : m.node? number = some node) : m.onCrawler number f =
      ((f node.crawler).1, m.put number { node with crawler := (f node.crawler).2 }) := by
  simp only [onCrawler, change, there, Node.withCrawler]

/-- A node that changes its spider of a name leaves all other spiders of the mesh alone. -/
theorem spiderAt_change {α : Type} {f : Spider → Outcome α × Spider} {c : Crawler}
    (there : m.node? number = some node) (same : c.spiders = node.crawler.spiders)
    (keeps : ∀ s, (f s).2.definition = s.definition) (name : String) (k : Nat) (other : String) :
    (m.put number { node with crawler := (c.change name f).2 }).spiderAt k other =
      if k = number ∧ other = name then (m.spiderAt k other).map fun s => (f s).2
      else m.spiderAt k other := by
  have found (other : String) : c.get? other = m.spiderAt number other := by
    rw [spiderAt, there, Option.bind_some, Crawler.get?, same]
    rfl
  rw [spiderAt_put there]
  by_cases here : k = number
  · rw [if_pos here, c.get?_change name keeps, found, found, here]
    by_cases its : other = name
    · rw [if_pos its, if_pos ⟨rfl, its⟩, its]
    · rw [if_neg its, if_neg fun both => its both.2]
  · rw [if_neg here, if_neg fun both => here both.1]

/-- What starting a spider with its first requests does on the node itself. -/
theorem onCrawler_firstStart (there : m.node? number = some node) (name : String) :
    ∃ now crawler, (m.onCrawler number (·.firstStart name)).2 =
        m.put number { node with crawler := crawler } ∧
      (m.onCrawler number (·.firstStart name)).1 = (match m.spiderAt number name with
        | none => .error (Crawler.unknown name)
        | some s => (s.firstStart Crawler.outlet now).1) ∧
      ∀ k other, (m.onCrawler number (·.firstStart name)).2.spiderAt k other =
        if k = number ∧ other = name then
          (m.spiderAt k other).map fun s => (s.firstStart Crawler.outlet now).2
        else m.spiderAt k other := by
  have done : m.onCrawler number (·.firstStart name) =
      ((node.crawler.now.2.change name (·.firstStart Crawler.outlet node.crawler.now.1)).1,
        m.put number { node with crawler :=
          (node.crawler.now.2.change name (·.firstStart Crawler.outlet node.crawler.now.1)).2 }) :=
    onCrawler_eq there
  have found : node.crawler.now.2.get? name = m.spiderAt number name := by
    rw [spiderAt, there]
    rfl
  refine ⟨node.crawler.now.1, _, congrArg Prod.snd done, ?_, ?_⟩
  · rw [done, ← found]
    unfold Crawler.change
    cases node.crawler.now.2.get? name <;> rfl
  · intro k other
    rw [done]
    exact spiderAt_change (f := (·.firstStart Crawler.outlet node.crawler.now.1))
      (c := node.crawler.now.2) there rfl (fun s => (s.startWith_spec _ _ _).2.1) name k other

/-- What pausing a spider does on the node itself. -/
theorem onCrawler_pause {s : Spider} (found : m.spiderAt number name = some s) :
    (m.onCrawler number (·.pause name)).1 = s.pause.1 ∧
      (m.onCrawler number (·.pause name)).2.spiderAt number name = some s.pause.2 ∧
      m.Led .paused (m.onCrawler number (·.pause name)).2 := by
  obtain ⟨node, there, hosted⟩ := Option.bind_eq_some_iff.mp found
  have done : m.onCrawler number (·.pause name) = ((node.crawler.change name Spider.pause).1,
      m.put number { node with crawler := (node.crawler.change name Spider.pause).2 }) :=
    onCrawler_eq there
  have changed := spiderAt_change (f := Spider.pause) there rfl
    (fun s => s.led_pause.definition) name
  rw [done]
  refine ⟨Crawler.change_of_found hosted, ?_, fun k other => ?_⟩
  · rw [changed, if_pos ⟨rfl, rfl⟩, found]
    rfl
  · rw [changed]
    split
    · exact Spider.led_map (fun s => s.led_pause) _
    · exact Spider.led_same _

/-! ## Starts that fail -/

/-- A mesh after a start that has failed on the node itself: no member was called, and all that
differs are the outlet of the spider and the clock of the node. -/
structure Untouched (m : Mesh) (number : Nat) (name : String) (after : Mesh) : Prop where
  uncalled : after = (m.onCrawler number (·.firstStart name)).2
  peers : ∀ k, k ≠ number → after.node? k = m.node? k
  node : ∀ node, m.node? number = some node →
    ∃ crawler, after.node? number = some { node with crawler := crawler }
  spiders : ∀ k other, (after.spiderAt k other).map Spider.unrouted =
    (m.spiderAt k other).map Spider.unrouted

theorem untouched_of_error {e : CrawlError} (failed : m.startSpider number name = (.error e, after)) :
    m.Untouched number name after := by
  obtain ⟨outcome, uncalled⟩ : (m.onCrawler number (·.firstStart name)).1 = .error e ∧
      after = (m.onCrawler number (·.firstStart name)).2 := by
    unfold startSpider at failed
    split at failed
    · rename_i done
      cases failed
      rw [done]
      exact ⟨rfl, rfl⟩
    · cases failed
  cases there : m.node? number with
  | none =>
      have same : after = m := by
        rw [uncalled]
        simp only [onCrawler, change, there]
      refine ⟨uncalled, fun k _ => by rw [same], fun node present => ?_, fun k other => by rw [same]⟩
      cases there.symm.trans present
  | some node =>
      obtain ⟨now, crawler, changed, told, spiders⟩ := onCrawler_firstStart there name
      have sets := sets_put there { node with crawler := crawler }
      refine ⟨uncalled, fun k away => ?_, fun other present => ⟨crawler, ?_⟩, fun k other => ?_⟩
      · rw [uncalled, changed]
        exact sets.node?_of_ne away
      · cases there.symm.trans present
        rw [uncalled, changed]
        exact sets.node?_self
      · rw [uncalled, spiders]
        split
        · rename_i its
          obtain ⟨rfl, rfl⟩ := its
          rw [outcome] at told
          cases found : m.spiderAt k other with
          | none => rfl
          | some s =>
              rw [found] at told
              have same := Spider.startWith_error (Prod.ext told.symm rfl :
                s.firstStart Crawler.outlet now = (.error e, _))
              rw [Option.map_some, Option.map_some, Option.map_some, same]
        · rfl

/-! ## First requests once -/

/-- The node of a number is connected with all members, and on each of them the spider of a name is
prepared and has recorded nothing. -/
structure Gathered (m : Mesh) (number : Nat) (node : Node) (name : String) : Prop where
  there : m.node? number = some node
  callable : node.Callable m.nextLink
  connected : ∀ member ∈ node.others, ∃ k, node.Reaches member.name k
  poised : ∀ k, node.Mate number k → ∃ s, m.spiderAt k name = some s ∧ s.scheduler.Poised

/-- A mesh after the spider of a name was started from the node of a number. -/
structure StartedFrom (m : Mesh) (number : Nat) (node : Node) (name : String)
    (seeds : List Request) (after : Mesh) : Prop where
  started : ∀ k, node.Mate number k → after.StartedAt name k
  /-- The node itself has recorded the first requests and holds one for each address. -/
  seeded : ∃ session kept, after.sessionAt number name = some session ∧
    session.Seeded seeds kept ∧ ∀ r ∈ kept, r.depth = 0 ∧ r.spiderName = name
  /-- The other members have recorded nothing and hold nothing. -/
  others : ∀ k, node.Mate number k → k ≠ number → ∃ session,
    after.sessionAt k name = some session ∧ session.seen = [] ∧ session.requests.held = 0
  /-- All other sessions are as they were. -/
  rest : ∀ k other, k ≠ number ∨ other ≠ name → after.sessionAt k other = m.sessionAt k other

/-- Starting the spider of a name from the node of a number succeeds and changes no session. -/
def StartsIdly (m : Mesh) (number : Nat) (name : String) : Prop :=
  (m.startSpider number name).1 = .ok () ∧
    ∀ k other, (m.startSpider number name).2.sessionAt k other = m.sessionAt k other

/-- First requests that are recorded are sent in vain. -/
theorem startsIdly_of_recorded {s : Spider} {session : Session}
    (found : m.spiderAt number name = some s) (paused : s.scheduler.status = .paused)
    (present : s.scheduler.session = some session)
    (recorded : ∀ r ∈ s.definition.initialRequests, session.Passes r ∧ r.record ∈ session.seen) :
    m.StartsIdly number name := by
  obtain ⟨node, there, -⟩ := Option.bind_eq_some_iff.mp found
  obtain ⟨now, crawler, -, told, spiders⟩ := onCrawler_firstStart there name
  have routed : ({ s.scheduler with outlet := Crawler.outlet } : Scheduler).start
      (some s.definition.initialRequests) =
        (.ok (), ({ s.scheduler with outlet := Crawler.outlet } : Scheduler).begun) :=
    Scheduler.start_again paused present recorded
  obtain ⟨outcome, -, scheduler⟩ :=
    s.startWith_spec Crawler.outlet (some s.definition.initialRequests) now
  rw [routed] at outcome scheduler
  have same : ∀ k other, (m.onCrawler number (·.firstStart name)).2.sessionAt k other =
      m.sessionAt k other := by
    intro k other
    rw [sessionAt, spiders]
    split
    · rename_i its
      obtain ⟨rfl, rfl⟩ := its
      rw [sessionAt, found, Option.map_some, Option.bind_some, Option.bind_some,
        Spider.firstStart, scheduler]
      rfl
    · rfl
  rw [found] at told
  have begun : (m.onCrawler number (·.firstStart name)).1 = .ok () := told.trans outcome
  have started : m.startSpider number name = (.ok (),
      (m.onCrawler number (·.firstStart name)).2.fanOut number (.startSpider name)) := by
    rw [startSpider, ← Prod.eta (m.onCrawler number (·.firstStart name)), begun]
  have led := fanOut_led (Call.leads_start name) (m.onCrawler number (·.firstStart name)).2 number
  rw [StartsIdly, started]
  exact ⟨rfl, fun k other => (led.sessionAt_eq k other).trans (same k other)⟩

/-- A spider was started from the node of a number and has recorded its first requests. -/
structure Sown (m : Mesh) (number : Nat) (name : String) (s : Spider) (session : Session) : Prop where
  found : m.spiderAt number name = some s
  status : s.scheduler.status = .started
  present : s.scheduler.session = some session
  recorded : ∀ r ∈ s.definition.initialRequests, session.Passes r ∧ r.record ∈ session.seen

/-- Whatever has happened since, as long as there is no other session: starting a paused spider again
is idle. -/
theorem Sown.startsIdly {s t : Spider} {session : Session} (sown : m.Sown number name s session)
    (found : after.spiderAt number name = some t) (definition : t.definition = s.definition)
    (goesOn : s.scheduler.GoesOnTo t.scheduler) (paused : t.scheduler.status = .paused) :
    after.StartsIdly number name := by
  obtain ⟨next, present, later⟩ := goesOn.keepsOn.later sown.present
  refine startsIdly_of_recorded found paused present fun r member => ?_
  obtain ⟨passes, seen⟩ := sown.recorded r (definition ▸ member)
  exact ⟨later.passes passes, later.seen seen⟩

/-- The spider is paused on the node alone, or on all members. -/
def pauses (m : Mesh) (number : Nat) (name : String) : List (Outcome Unit × Mesh) :=
  [m.onCrawler number (·.pause name), m.pauseSpider number name]

theorem Sown.pause {s : Spider} {session : Session} (sown : m.Sown number name s session)
    {paused : Outcome Unit × Mesh} (among : paused ∈ m.pauses number name) :
    paused.1 = .ok () ∧ paused.2.StartsIdly number name ∧
      ∀ k other, paused.2.sessionAt k other = m.sessionAt k other := by
  obtain ⟨outcome, found, led⟩ := onCrawler_pause sown.found
  have done : s.scheduler.pause = (.ok (), { s.scheduler with run := .paused, status := .paused }) := by
    unfold Scheduler.pause
    rw [sown.status]
    rfl
  have ok : s.pause.1 = .ok () := congrArg Prod.fst done
  have status : s.pause.2.scheduler.status = .paused := congrArg (·.2.status) done
  have everywhere := fanOut_led (Call.leads_pause name)
    (m.onCrawler number (·.pause name)).2 number
  have itself := s.led_pause
  rcases List.mem_cons.mp among with rfl | all
  · exact ⟨outcome.trans ok, sown.startsIdly found itself.definition itself.goesOn status,
      led.sessionAt_eq⟩
  · rw [List.mem_singleton.mp all]
    obtain ⟨t, now, its⟩ := everywhere.some found
    have both := itself.trans its
    exact ⟨outcome.trans ok, sown.startsIdly now both.definition both.goesOn (its.stays status),
      (led.trans everywhere).sessionAt_eq⟩

theorem Sown.led {s : Spider} {session : Session} (sown : m.Sown number name s session)
    (led : m.Led .started after) :
    ∃ t, after.Sown number name t session ∧ t.definition = s.definition := by
  obtain ⟨t, found, its⟩ := led.some sown.found
  refine ⟨t, ⟨found, its.stays sown.status, its.session.trans sown.present, ?_⟩, its.definition⟩
  rw [its.definition]
  exact sown.recorded

/-- The first start on the node itself. -/
theorem sown_of_poised {spider : Spider} {session : Session} (there : m.node? number = some node)
    (found : m.spiderAt number name = some spider) (poised : spider.scheduler.Poised)
    (present : spider.scheduler.session = some session)
    (checked : ∀ r ∈ spider.definition.initialRequests, session.checkSeed r = .ok ())
    (read : ∀ r ∈ spider.definition.initialRequests, r.url.IsRead) :
    ∃ crawler s next kept, m.onCrawler number (·.firstStart name) =
        (.ok (), m.put number { node with crawler := crawler }) ∧
      (m.put number { node with crawler := crawler }).Sown number name s next ∧
      s.definition = spider.definition ∧ next.Seeded spider.definition.initialRequests kept ∧
      ∀ k other, k ≠ number ∨ other ≠ name →
        (m.put number { node with crawler := crawler }).spiderAt k other = m.spiderAt k other := by
  have depth_le : ∀ r ∈ spider.definition.initialRequests, r.depth ≤ session.policy.maxDepth := by
    intro r member
    rw [(SpiderDefinition.mem_initialRequests member).1]
    exact UInt32.zero_le
  obtain ⟨next, kept, routed, -, seeded, recorded⟩ :=
    (poised.route Crawler.outlet).start present checked depth_le read
  obtain ⟨now, crawler, changed, told, spiders⟩ := onCrawler_firstStart there name
  obtain ⟨outcome, definition, scheduler⟩ :=
    spider.startWith_spec Crawler.outlet (some spider.definition.initialRequests) now
  rw [routed] at outcome scheduler
  rw [found] at told
  rw [changed] at spiders
  refine ⟨crawler, (spider.firstStart Crawler.outlet now).2, next, kept,
    Prod.ext (told.trans outcome) changed, ⟨?_, ?_, ?_, ?_⟩, definition, seeded, ?_⟩
  · rw [spiders, if_pos ⟨rfl, rfl⟩, found]
    rfl
  · rw [Spider.firstStart, scheduler]
    rfl
  · rw [Spider.firstStart, scheduler]
    rfl
  · rw [Spider.firstStart, definition]
    exact recorded
  · intro k other apart
    rw [spiders, if_neg (not_and_or.mpr apart)]

/-- A spider that is poised can be started. -/
theorem Gathered.startableAt (gathered : m.Gathered number node name) (mate : node.Mate number k) :
    m.StartableAt name k := by
  obtain ⟨s, found, poised⟩ := gathered.poised k mate
  obtain ⟨session, present, -⟩ := poised.session_spec
  exact ⟨s, found, ⟨session, present⟩, Or.inl poised.prepared⟩

/-- The first start of a spider that is poised on all members. -/
theorem Gathered.start {spider : Spider} {session : Session}
    (gathered : m.Gathered number node name) (found : m.spiderAt number name = some spider)
    (present : spider.scheduler.session = some session)
    (checked : ∀ r ∈ spider.definition.initialRequests, session.checkSeed r = .ok ())
    (read : ∀ r ∈ spider.definition.initialRequests, r.url.IsRead) :
    ∃ after s next, m.startSpider number name = (.ok (), after) ∧
      m.StartedFrom number node name spider.definition.initialRequests after ∧
      after.Sown number name s next ∧ s.definition = spider.definition := by
  have named : spider.definition.name = name := by
    obtain ⟨host, -, hosted⟩ := Option.bind_eq_some_iff.mp found
    have its : spider.name = name := by simpa using List.find?_some hosted
    exact its
  obtain ⟨own, same, poised⟩ := gathered.poised number (Or.inl rfl)
  cases same.symm.trans found
  obtain ⟨crawler, first, next, kept, done, firstSown, definition, seeded, apart⟩ :=
    sown_of_poised gathered.there found poised present checked read
  have here := sets_put gathered.there { node with crawler := crawler }
  generalize m.put number { node with crawler := crawler } = middle at *
  have started : m.startSpider number name =
      (.ok (), middle.fanOut number (.startSpider name)) := by
    rw [startSpider, done]
  have led := fanOut_led (Call.leads_start name) middle number
  obtain ⟨s, sown, sameDefinition⟩ := firstSown.led led
  have rest : ∀ k other, k ≠ number ∨ other ≠ name →
      (middle.fanOut number (.startSpider name)).sessionAt k other = m.sessionAt k other := by
    intro k other other'
    rw [led.sessionAt_eq, sessionAt, apart k other other']
    rfl
  refine ⟨_, s, next, started, ⟨?_, ?_, ?_, rest⟩, sown, sameDefinition.trans definition⟩
  · have callable : ({ node with crawler := crawler } : Node).Callable middle.nextLink :=
      ⟨(gathered.callable.numbered.mono here.later).congr rfl, gathered.callable.rest⟩
    have connected : ∀ member ∈ node.others, ∃ k,
        ({ node with crawler := crawler } : Node).Reaches member.name k ∧
          middle.StartableAt name k := by
      intro member among
      obtain ⟨k, reaches⟩ := gathered.connected member among
      refine ⟨k, reaches, ?_⟩
      by_cases its : k = number
      · rw [its]
        exact ⟨first, firstSown.found, ⟨next, firstSown.present⟩, Or.inr firstSown.status⟩
      · obtain ⟨t, there, can⟩ := gathered.startableAt (Or.inr ⟨member, among, reaches⟩)
        exact ⟨t, (apart k name (Or.inl its)).trans there, can⟩
    rintro k (rfl | ⟨member, among, reaches⟩)
    · exact ⟨s, sown.found, sown.status⟩
    · exact fanOut_started here.node?_self callable connected member among k reaches
  · refine ⟨next, kept, ?_, seeded, ?_⟩
    · rw [sessionAt, sown.found]
      exact sown.present
    · intro r member
      have first := SpiderDefinition.mem_initialRequests (seeded.sublist.subset member)
      rwa [named] at first
  · intro k mate away
    obtain ⟨t, there, waits⟩ := gathered.poised k mate
    obtain ⟨session, its, -, unrecorded, idle⟩ := waits.session_spec
    refine ⟨session, ?_, unrecorded, idle⟩
    rw [rest k name (Or.inl away), sessionAt, there]
    exact its

/-- **A start from one node seeds that node alone.**  Let the node be connected with all members, and
let the spider be prepared on all of them with nothing recorded, its first requests passing the check
of the node's own session.  Starting it from the node succeeds: it is started on every member then, the
node has recorded the addresses of the first requests and holds one request for each, at depth zero and
in the name of the spider, and no other session of the mesh has changed.  When the spider is paused
later on and started again, no session changes.

A start that fails on the node itself calls no member, and leaves all spiders of the mesh as they
were. -/
theorem start_seeds_once {spider : Spider} {session : Session}
    (gathered : m.Gathered number node name) (found : m.spiderAt number name = some spider)
    (present : spider.scheduler.session = some session)
    (checked : ∀ r ∈ spider.definition.initialRequests, session.checkSeed r = .ok ())
    (read : ∀ r ∈ spider.definition.initialRequests, r.url.IsRead) :
    (∃ after s, m.startSpider number name = (.ok (), after) ∧
      m.StartedFrom number node name spider.definition.initialRequests after ∧
      after.spiderAt number name = some s ∧
      (∀ paused ∈ after.pauses number name, paused.1 = .ok () ∧
        paused.2.StartsIdly number name ∧
        ∀ k other, paused.2.sessionAt k other = after.sessionAt k other) ∧
      ∀ (later : Mesh) (t : Spider), later.spiderAt number name = some t →
        t.definition = s.definition → s.scheduler.GoesOnTo t.scheduler →
        t.scheduler.status = .paused → later.StartsIdly number name) ∧
    ∀ (before after : Mesh) (number : Nat) (name : String) (e : CrawlError),
      before.startSpider number name = (.error e, after) →
        before.Untouched number name after := by
  constructor
  · obtain ⟨after, s, next, started, seeded, sown, -⟩ := gathered.start found present checked read
    exact ⟨after, s, started, seeded, sown.found, fun paused => sown.pause,
      fun later t => sown.startsIdly⟩
  · intro before after number name e
    exact untouched_of_error

/-- The definition of a spider that starts at two pages, one of which is given twice. -/
def twoPages : SpiderDefinition :=
  { SpiderDefinition.new "books" with
    startUrls := [(Scheduler.page "first").url, (Scheduler.page "second").url,
      (Scheduler.page "first").url] }

/-- A spider of this definition that is prepared. -/
def poisedSpider : Spider := ⟨twoPages, Scheduler.Senders.preparedCrawl, none, none⟩

/-- A node with this spider that has a link to another one. -/
def sower : Node :=
  (nodeWith "node-a" 9001 [poisedSpider]).adopt (.new 0 ⟨"node-b", "127.0.0.1", 9002⟩ (.node 1))

/-- The two nodes, the other one with the same spider. -/
def field : Mesh :=
  { meshOf [sower, nodeWith "node-b" 9002 [poisedSpider]] with nextLink := 1 }

theorem field_gathered : field.Gathered 0 sower "books" := by
  have poised : poisedSpider.scheduler.Poised :=
    ⟨⟨2, .single (.event (e := .operation (.init .usual .usual Scheduler.oneOfEach)) trivial rfl)⟩,
      rfl, rfl⟩
  have others : sower.others = [⟨"node-b", "127.0.0.1", 9002⟩] := rfl
  have reaches : sower.Reaches "node-b" 1 := ⟨_, rfl, rfl, rfl⟩
  refine ⟨rfl, ⟨⟨List.pairwise_singleton _ _, List.nodup_singleton _, ?_⟩, ?_⟩, ?_, ?_⟩
  · intro l member
    rw [List.mem_singleton.mp (show l ∈ [_] from member)]
    decide
  · intro l member
    rw [List.mem_singleton.mp (show l ∈ [_] from member)]
    exact Or.inr ⟨rfl, rfl, rfl⟩
  · intro member among
    rw [others] at among
    rw [List.mem_singleton.mp among]
    exact ⟨1, reaches⟩
  · rintro k (rfl | ⟨member, among, found⟩)
    · exact ⟨poisedSpider, rfl, poised⟩
    · rw [others] at among
      rw [List.mem_singleton.mp among] at found
      rw [found.unique reaches]
      exact ⟨poisedSpider, rfl, poised⟩

theorem start_seeds_once_field : ∃ session after s,
    field.Gathered 0 sower "books" ∧ field.spiderAt 0 "books" = some poisedSpider ∧
      poisedSpider.scheduler.session = some session ∧
      (∀ r ∈ twoPages.initialRequests, session.checkSeed r = .ok ()) ∧
      (∀ r ∈ twoPages.initialRequests, r.url.IsRead) ∧
      field.startSpider 0 "books" = (.ok (), after) ∧
      field.StartedFrom 0 sower "books" twoPages.initialRequests after ∧
      after.spiderAt 0 "books" = some s ∧
      (∀ paused ∈ after.pauses 0 "books", paused.2.StartsIdly 0 "books") ∧
      (after.sessionAt 0 "books").map (·.seen) =
        some ["a.bc|http://a.bc/first", "a.bc|http://a.bc/second"] ∧
      (after.sessionAt 1 "books").map (·.seen) = some [] ∧
      (∃ e, (after.startSpider 0 "books").1 = .error e) ∧
      after.Untouched 0 "books" (after.startSpider 0 "books").2 := by
  have seeds : twoPages.initialRequests = ["first", "second", "first"].map fun file =>
      { Scheduler.page file with spiderName := "books" } := rfl
  obtain ⟨session, present, checked⟩ : ∃ session, poisedSpider.scheduler.session = some session ∧
      ∀ r ∈ twoPages.initialRequests, session.checkSeed r = .ok () := by
    refine ⟨_, rfl, ?_⟩
    rw [seeds]
    simp only [List.map_cons, List.map_nil, List.forall_mem_cons, List.not_mem_nil, false_implies,
      implies_true, and_true]
    exact ⟨rfl, rfl, rfl⟩
  have read : ∀ r ∈ twoPages.initialRequests, r.url.IsRead := by
    rw [seeds]
    simp only [List.map_cons, List.map_nil, List.forall_mem_cons, List.not_mem_nil, false_implies,
      implies_true, and_true]
    exact ⟨.parse (s := "http://a.bc/first") rfl, .parse (s := "http://a.bc/second") rfl,
      .parse (s := "http://a.bc/first") rfl⟩
  obtain ⟨⟨after, s, started, spread, found, idle, -⟩, failing⟩ :=
    start_seeds_once field_gathered rfl present checked read
  have its : after = (field.startSpider 0 "books").2 := (congrArg Prod.snd started).symm
  -- A spider that is started cannot be started.
  obtain ⟨e, refused⟩ : ∃ e, (after.startSpider 0 "books").1 = .error e := by
    rw [its]
    exact ⟨_, rfl⟩
  refine ⟨session, after, s, field_gathered, rfl, present, checked, read, started, spread, found,
    fun paused among => (idle paused among).2.1, ?_, ?_, ⟨e, refused⟩,
    failing after _ 0 "books" e (Prod.ext refused rfl)⟩
  · rw [its]
    rfl
  · rw [its]
    rfl

end Mesh

end CrawlMesh
