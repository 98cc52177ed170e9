/-
# Calls that start and pause spiders

What a call to start or to pause makes of a spider is `Spider.Led`: its session stays as it is, so that
a call to all members records nothing anywhere, whether or not the calls are answered
(`Mesh.fanOut_led`).  A member that is connected does answer, and a spider that is prepared there is
started then (`Mesh.fanOut_started`): a call that was answered leaves the link it took as it was, so
that the next one finds the links as they were before.
-/
import CrawlMesh.Proofs.Crawl.Seeding
import CrawlMesh.Proofs.Mesh.Joining

namespace CrawlMesh

set_option autoImplicit false

/-! ## Spiders -/

/-- The first requests of a definition belong to its spider and lie at depth zero. -/
theorem SpiderDefinition.mem_initialRequests {d : SpiderDefinition} {r : Request}
    (member : r ∈ d.initialRequests) : r.depth = 0 ∧ r.spiderName = d.name := by
  obtain ⟨first, -, rfl⟩ := List.mem_map.mp member
  exact ⟨rfl, rfl⟩

/-- A spider that was called to take a status. It has the definition and the session that it had. -/
structure Spider.Led (aim : Status) (s t : Spider) : Prop where
  definition : t.definition = s.definition
  session : t.scheduler.session = s.scheduler.session
  goesOn : s.scheduler.GoesOnTo t.scheduler
  stays : s.scheduler.status = aim → t.scheduler.status = aim
  prepared : s.scheduler.status = .prepared →
    t.scheduler.status = .prepared ∨ t.scheduler.status = aim

namespace Spider

variable {s t u : Spider} {aim : Status} {outlet : Option Nat} {now : String}

/-- All of a spider but its outlet. -/
def unrouted (s : Spider) : Spider := { s with scheduler := { s.scheduler with outlet := none } }

namespace Led

theorem refl (s : Spider) : s.Led aim s := ⟨rfl, rfl, .refl, id, Or.inl⟩

theorem trans (first : s.Led aim t) (second : t.Led aim u) : s.Led aim u where
  definition := second.definition.trans first.definition
  session := second.session.trans first.session
  goesOn := first.goesOn.trans second.goesOn
  stays taken := second.stays (first.stays taken)
  prepared waits := by
    rcases first.prepared waits with still | taken
    · exact second.prepared still
    · exact Or.inr (second.stays taken)

end Led

/-- A start is one of the scheduler, which is given an outlet first. -/
theorem startWith_spec (s : Spider) (outlet : Option Nat) (seeds : Option (List Request))
    (now : String) :
    (s.startWith outlet seeds now).1 = ({ s.scheduler with outlet := outlet }.start seeds).1 ∧
      (s.startWith outlet seeds now).2.definition = s.definition ∧
      (s.startWith outlet seeds now).2.scheduler =
        ({ s.scheduler with outlet := outlet }.start seeds).2 := by
  unfold startWith
  split
  · rename_i started
    rw [started]
    exact ⟨rfl, rfl, rfl⟩
  · rename_i started
    rw [started]
    exact ⟨rfl, rfl, rfl⟩

/-- A start that fails changes the outlet alone. -/
theorem startWith_refused {seeds : Option (List Request)} {e : CrawlError}
    (refused : s.startWith outlet seeds now = (.error e, t)) :
    t = { s with scheduler := { s.scheduler with outlet := outlet } } := by
  unfold startWith at refused
  split at refused
  · rename_i started
    cases refused
    rcases Scheduler.start_spec started with ⟨_, -, same⟩ | ⟨ok, -⟩
    · rw [same]
      rfl
    · cases ok
  · cases refused

theorem startWith_error {seeds : Option (List Request)} {e : CrawlError}
    (failed : s.startWith outlet seeds now = (.error e, t)) : t.unrouted = s.unrouted := by
  rw [startWith_refused failed]
  rfl

theorem led_start (s : Spider) (outlet : Option Nat) (now : String) :
    s.Led .started (s.start outlet now).2 := by
  obtain ⟨-, definition, scheduler⟩ := s.startWith_spec outlet none now
  have goesOn : s.scheduler.GoesOnTo ({ s.scheduler with outlet := outlet }.start none).2 :=
    .tail (.single (.route outlet)) (.event (e := .operation (.start none)) rfl rfl)
  rcases Scheduler.start_spec (Prod.eta ({ s.scheduler with outlet := outlet }.start none)).symm
    with ⟨e, -, same⟩ | ⟨-, -, same⟩
  · rw [same] at scheduler goesOn
    rw [start]
    refine ⟨definition, ?_, ?_, ?_, ?_⟩ <;> rw [scheduler]
    · exact goesOn
    · exact id
    · exact Or.inl
  · rw [same] at scheduler goesOn
    rw [start]
    refine ⟨definition, ?_, ?_, ?_, ?_⟩ <;> rw [scheduler]
    · rfl
    · exact goesOn
    · exact fun _ => rfl
    · exact fun _ => Or.inr rfl

theorem led_pause (s : Spider) : s.Led .paused s.pause.2 := by
  have goesOn : s.scheduler.GoesOnTo s.scheduler.pause.2 :=
    .single (.event (e := .operation .pause) rfl rfl)
  have scheduler : s.pause.2.scheduler = s.scheduler.pause.2 := rfl
  rcases Scheduler.pause_spec (s := s.scheduler) (Prod.eta _).symm with ⟨e, -, same⟩ | ⟨-, -, same⟩
  · rw [same] at scheduler goesOn
    refine ⟨rfl, ?_, ?_, ?_, ?_⟩ <;> rw [scheduler]
    · exact goesOn
    · exact id
    · exact Or.inl
  · rw [same] at scheduler goesOn
    refine ⟨rfl, ?_, ?_, ?_, ?_⟩ <;> rw [scheduler]
    · exact goesOn
    · exact fun _ => rfl
    · exact fun _ => Or.inr rfl

/-- A spider that is started or can be. -/
def Startable (s : Spider) : Prop :=
  (∃ session, s.scheduler.session = some session) ∧
    (s.scheduler.status = .prepared ∨ s.scheduler.status = .started)

theorem Led.startable (led : s.Led .started t) (startable : s.Startable) : t.Startable := by
  obtain ⟨present, status⟩ := startable
  refine ⟨led.session ▸ present, ?_⟩
  rcases status with prepared | started
  · exact led.prepared prepared
  · exact Or.inr (led.stays started)

theorem started_of_startable (startable : s.Startable) (outlet : Option Nat) (now : String) :
    (s.start outlet now).2.scheduler.status = .started := by
  obtain ⟨⟨session, present⟩, prepared | started⟩ := startable
  · obtain ⟨-, -, scheduler⟩ := s.startWith_spec outlet none now
    have ok : { s.scheduler with outlet := outlet }.start none = (.ok (), _) :=
      Scheduler.start_of_checked (s := { s.scheduler with outlet := outlet }) (Or.inl prepared)
        present fun r member => absurd member List.not_mem_nil
    rw [start, scheduler, ok]
    rfl
  · exact (s.led_start outlet now).stays started

end Spider

/-! ## Crawlers -/

namespace Crawler

variable {c : Crawler} {name other : String} {s t : Spider}

theorem get?_put_eq (there : c.get? name = some s) (same : t.name = s.name) (other : String) :
    (c.put t).get? other = if other = name then some t else c.get? other := by
  by_cases its : other = name
  · rw [if_pos its, its]
    exact get?_put there same
  · have named : s.name = name := by simpa using List.find?_some there
    have kept : ((·.name == other) ∘ fun x : Spider => if x.name == t.name then t else x) =
        (·.name == other) := by
      funext x
      by_cases replaced : x.name = t.name <;> simp [replaced]
    rw [if_neg its]
    unfold get?
    rw [put, List.find?_map, kept]
    cases found : c.spiders.find? (·.name == other) with
    | none => rfl
    | some x =>
        have asked : x.name = other := by simpa using List.find?_some found
        have distinct : ¬ x.name = t.name := fun taken =>
          its (asked.symm.trans (taken.trans (same.trans named)))
        simp [distinct]

/-- A spider that is changed is there in its place, and the others are as they were. -/
theorem get?_change {α : Type} (c : Crawler) (name : String) {f : Spider → Outcome α × Spider}
    (keeps : ∀ s, (f s).2.definition = s.definition) (other : String) :
    (c.change name f).2.get? other =
      if other = name then (c.get? name).map fun s => (f s).2 else c.get? other := by
  unfold change
  cases there : c.get? name with
  | none =>
      simp only [Option.map_none]
      split
      · rename_i its
        rw [its, there]
      · rfl
  | some s =>
      have same : (f s).2.name = s.name := congrArg SpiderDefinition.name (keeps s)
      exact get?_put_eq there same other

theorem change_of_found {α : Type} {f : Spider → Outcome α × Spider}
    (there : c.get? name = some s) : (c.change name f).1 = (f s).1 := by
  simp only [change, there]

end Crawler

/-! ## Calls -/

/-- A call to a node leads its spiders to a status, if it does anything with them, and asks no other
node. -/
structure Call.Leads (call : Call) (aim : Status) : Prop where
  alone : ∀ info, call ≠ .letMeIn info
  links : ∀ n : Node, (n.answer call).2.links = n.links
  spiders : ∀ (n : Node) (name : String),
    Option.Rel (Spider.Led aim) (n.crawler.get? name) ((n.answer call).2.crawler.get? name)

namespace Spider

variable {s t : Spider} {aim : Status}

theorem led_same (found : Option Spider) : Option.Rel (Led aim) found found := by
  cases found with
  | none => exact .none
  | some s => exact .some (.refl s)

theorem led_map {f : Spider → Spider} (led : ∀ s : Spider, s.Led aim (f s)) (found : Option Spider) :
    Option.Rel (Led aim) found (found.map f) := by
  cases found with
  | none => exact .none
  | some s => exact .some (led s)

theorem led_trans {a b c : Option Spider} (first : Option.Rel (Led aim) a b)
    (second : Option.Rel (Led aim) b c) : Option.Rel (Led aim) a c := by
  cases first with
  | none => exact second
  | some led =>
      cases second with
      | some later => exact .some (led.trans later)

end Spider

namespace Call

theorem leads_start (name : String) : (Call.startSpider name).Leads .started := by
  refine ⟨fun info => Call.noConfusion, fun n => rfl, fun n other => ?_⟩
  have changed := n.crawler.now.2.get?_change name
    (f := (·.start Crawler.outlet n.crawler.now.1))
    (fun s => (s.led_start Crawler.outlet n.crawler.now.1).definition) other
  simp only [Node.answer, Node.withCrawler, Crawler.start]
  rw [changed]
  split
  · rename_i its
    rw [its]
    exact Spider.led_map (fun s => s.led_start _ _) _
  · exact Spider.led_same _

theorem leads_pause (name : String) : (Call.pauseSpider name).Leads .paused := by
  refine ⟨fun info => Call.noConfusion, fun n => rfl, fun n other => ?_⟩
  have changed := n.crawler.get?_change name (f := Spider.pause) (fun s => s.led_pause.definition)
    other
  simp only [Node.answer, Node.withCrawler, Crawler.pause]
  rw [changed]
  split
  · rename_i its
    rw [its]
    exact Spider.led_map (fun s => s.led_pause) _
  · exact Spider.led_same _

end Call

namespace Mesh

variable {m after : Mesh} {number k : Nat} {node peer next : Node} {name other : String}
  {call : Call} {aim : Status}

/-! ## Spiders of a mesh -/

def spiderAt (m : Mesh) (k : Nat) (name : String) : Option Spider :=
  (m.node? k).bind (·.crawler.get? name)

def sessionAt (m : Mesh) (k : Nat) (name : String) : Option Session :=
  (m.spiderAt k name).bind (·.scheduler.session)

theorem spiderAt_put (there : m.node? number = some node) (next : Node) (k : Nat) (other : String) :
    (m.put number next).spiderAt k other =
      if k = number then next.crawler.get? other else m.spiderAt k other := by
  rw [spiderAt, (sets_put there next).nodes]
  split <;> rfl

theorem Alike.spiderAt_eq (alike : m.Alike after) (k : Nat) (other : String) :
    after.spiderAt k other = m.spiderAt k other := by
  have same := congrArg (·.bind fun pair : NodeInfo × Crawler => pair.2.get? other) (alike k)
  simpa only [spiderAt, Option.bind_map, Function.comp_def] using same

/-- All spiders of a mesh were led to a status, or left alone. -/
def Led (aim : Status) (m after : Mesh) : Prop :=
  ∀ k other, Option.Rel (Spider.Led aim) (m.spiderAt k other) (after.spiderAt k other)

namespace Led

theorem of_alike (alike : m.Alike after) : m.Led aim after := by
  intro k other
  rw [alike.spiderAt_eq]
  exact Spider.led_same _

theorem refl (m : Mesh) : m.Led aim m := .of_alike (.refl m)

theorem trans {last : Mesh} (first : m.Led aim after) (second : after.Led aim last) :
    m.Led aim last := fun k other => Spider.led_trans (first k other) (second k other)

end Led

/-! ## Calls that lead spiders -/

theorem serve_eq_exchange (alone : ∀ info, call ≠ .letMeIn info) (m : Mesh) (caller : Node)
    (endpoint : Endpoint) : m.serve caller endpoint call = m.exchange caller endpoint call := by
  unfold serve
  split
  · rename_i info
    exact absurd rfl (alone info)
  · rfl

/-- A node that is there makes of a call what it makes of it. -/
theorem serve_node (alone : ∀ info, call ≠ .letMeIn info) (caller : Node)
    (present : m.node? k = some peer) : m.serve caller (.node k) call =
      (.ok ((peer.answer call).2.reply call (peer.answer call).1), m.put k (peer.answer call).2) := by
  rw [serve_eq_exchange alone]
  simp only [exchange, present]

theorem serve_led (leads : call.Leads aim) (m : Mesh) (caller : Node) (endpoint : Endpoint) :
    m.Led aim (m.serve caller endpoint call).2 := by
  cases endpoint with
  | mute =>
      rw [serve_eq_exchange leads.alone]
      exact .refl m
  | node k =>
      cases present : m.node? k with
      | none =>
          rw [serve_eq_exchange leads.alone]
          simp only [exchange, present]
          exact .refl m
      | some peer =>
          rw [serve_node leads.alone caller present]
          intro j other
          rw [spiderAt_put present]
          split
          · rename_i its
            rw [its, spiderAt, present]
            exact leads.spiders peer other
          · exact Spider.led_same _

theorem callLink_led (leads : call.Leads aim) (m : Mesh) (number : Nat) (link : Link) :
    m.Led aim (m.callLink number link call).2 := by
  cases there : m.node? number with
  | none =>
      simp only [callLink, there]
      exact .refl m
  | some node =>
      have held : (node.links.find? (·.number == link.number)).getD link = _ := rfl
      rcases callLink_cases there call held with ⟨e, failed⟩ | ⟨ended, -, -, -, called⟩
      · rw [failed]
        exact .refl m
      · rw [called]
        exact (serve_led leads m node _).trans
          (.of_alike (alike_modify _ _ (fun _ => rfl) fun _ => rfl))

theorem callNode_led (leads : call.Leads aim) (m : Mesh) (number : Nat) (name : String) :
    m.Led aim (m.callNode number name call).2 := by
  unfold callNode
  split
  · exact .refl m
  · exact callLink_led leads m number _

/-- Calls to some members lead spiders, wherever they arrive. -/
theorem callAll_led (leads : call.Leads aim) (members : List NodeInfo) (m : Mesh) (number : Nat) :
    m.Led aim (members.foldl (fun m member => (m.callNode number member.name call).2) m) := by
  induction members generalizing m with
  | nil => exact .refl m
  | cons member rest ih => exact (callNode_led leads m number member.name).trans (ih _)

theorem fanOut_led (leads : call.Leads aim) (m : Mesh) (number : Nat) :
    m.Led aim (m.fanOut number call) := callAll_led leads _ m number

end Mesh

/-! ## Members that are connected -/

namespace Node

/-- There is a link that is not broken to the member of a name, and at its other end is the node of a
number. -/
def Reaches (n : Node) (name : String) (k : Nat) : Prop :=
  ∃ link, n.link? name = some link ∧ link.broken = false ∧ link.endpoint = .node k

/-- The nodes that are members in the view of a node of some number: the node itself, and those at the
other ends of its links to members. -/
def Mate (n : Node) (number k : Nat) : Prop :=
  k = number ∨ ∃ member ∈ n.others, n.Reaches member.name k

/-- The links of a node are in order, and no call is on its way. -/
structure Callable (clock : Nat) (n : Node) : Prop where
  numbered : n.Numbered clock
  rest : ∀ l ∈ n.links, l.AtRest

variable {n next : Node} {clock k : Nat} {name : String} {link ended : Link}

/-- A call that was answered leaves the links in order. -/
theorem Callable.updateLink (callable : n.Callable clock) (kept : link ∈ n.links)
    (same : link.Same ended) (rest : ended.AtRest) : (n.updateLink ended).Callable clock where
  numbered := callable.numbered.updateLink kept same
  rest := by
    intro l member
    obtain ⟨old, among, rfl⟩ := List.mem_map.mp member
    by_cases replaced : (old.number == ended.number) = true
    · rw [if_pos replaced]
      exact rest
    · rw [if_neg replaced]
      exact callable.rest old among

theorem Reaches.unique {j : Nat} (first : n.Reaches name j) (second : n.Reaches name k) : j = k := by
  obtain ⟨link, linked, -, leads⟩ := first
  obtain ⟨other, found, -, leadsToo⟩ := second
  cases linked.symm.trans found
  exact Endpoint.node.inj (leads.symm.trans leadsToo)

/-- A call that was answered cuts no member off. -/
theorem Callable.reaches_updateLink (callable : n.Callable clock) (kept : link ∈ n.links)
    (same : link.Same ended) (unbroken : ended.broken = false) (reaches : n.Reaches name k) :
    (n.updateLink ended).Reaches name k := by
  obtain ⟨l, linked, whole, leads⟩ := reaches
  refine ⟨if l.number == ended.number then ended else l, ?_, ?_, ?_⟩
  · rw [callable.numbered.link?_updateLink kept same, linked]
    rfl
  · split
    · exact unbroken
    · exact whole
  · have its := callable.numbered.same_replaced kept same (List.mem_of_find?_eq_some linked)
    exact its.endpoint.trans leads

end Node

namespace Mesh

variable {m after : Mesh} {number k : Nat} {node peer next : Node} {name other : String}
  {call : Call}

/-- The spider of a name is on the node of a number, and is started or can be. -/
def StartableAt (m : Mesh) (name : String) (k : Nat) : Prop :=
  ∃ s, m.spiderAt k name = some s ∧ s.Startable

/-- The spider of a name is started on the node of a number. -/
def StartedAt (m : Mesh) (name : String) (k : Nat) : Prop :=
  ∃ s, m.spiderAt k name = some s ∧ s.scheduler.status = .started

theorem Led.some {aim : Status} {s : Spider} (led : m.Led aim after)
    (there : m.spiderAt k name = some s) : ∃ t, after.spiderAt k name = some t ∧ s.Led aim t := by
  have pair := led k name
  rw [there] at pair
  generalize after.spiderAt k name = found at pair
  cases pair with
  | some its => exact ⟨_, rfl, its⟩

theorem Led.sessionAt_eq {aim : Status} (led : m.Led aim after) (k : Nat) (name : String) :
    after.sessionAt k name = m.sessionAt k name := by
  have pair := led k name
  unfold sessionAt
  generalize m.spiderAt k name = before, after.spiderAt k name = found at pair
  cases pair with
  | none => rfl
  | some its => exact its.session

theorem Led.startableAt (led : m.Led .started after) (startable : m.StartableAt name k) :
    after.StartableAt name k := by
  obtain ⟨s, there, can⟩ := startable
  obtain ⟨t, now, its⟩ := led.some there
  exact ⟨t, now, its.startable can⟩

theorem Led.startedAt (led : m.Led .started after) (started : m.StartedAt name k) :
    after.StartedAt name k := by
  obtain ⟨s, there, status⟩ := started
  obtain ⟨t, now, its⟩ := led.some there
  exact ⟨t, now, its.stays status⟩

/-- A call to a member that is connected is answered by its node, and the link is whole again. -/
theorem callNode_reached {aim : Status} {member : String} {link : Link}
    (there : m.node? number = some node) (callable : node.Callable m.nextLink)
    (linked : node.link? member = some link) (unbroken : link.broken = false)
    (leads : link.endpoint = .node k) (leading : call.Leads aim) (present : m.node? k = some peer) :
    ∃ ended, link.Same ended ∧ ended.AtRest ∧ ended.broken = false ∧
      (m.callNode number member call).2 =
        (m.put k (peer.answer call).2).modify number (·.updateLink ended) := by
  have kept : link ∈ node.links := List.mem_of_find?_eq_some linked
  obtain ⟨ended, same, rest, state, called⟩ := callLink_rest there kept callable.numbered
    (callable.rest link kept) unbroken call
  rw [leads, serve_node leading.alone node present] at state called
  refine ⟨ended, same, rest, state, ?_⟩
  simp only [callNode, there, Option.bind_some, linked, called]

/-- Such a call cuts the caller off from none of its members. -/
theorem callNode_keeps {aim : Status} {member : String} (there : m.node? number = some node)
    (callable : node.Callable m.nextLink) (reaches : node.Reaches member k)
    (leading : call.Leads aim) (present : m.node? k = some peer) :
    ∃ next, (m.callNode number member call).2.node? number = some next ∧
      next.Callable (m.callNode number member call).2.nextLink ∧
      ∀ other j, node.Reaches other j → next.Reaches other j := by
  obtain ⟨link, linked, unbroken, leads⟩ := reaches
  obtain ⟨ended, same, rest, whole, changed⟩ :=
    callNode_reached there callable linked unbroken leads leading present
  -- The caller may have called itself.
  obtain ⟨before, now, links⟩ : ∃ before,
      (m.put k (peer.answer call).2).node? number = some before ∧ before.links = node.links := by
    by_cases own : number = k
    · subst own
      cases there.symm.trans present
      exact ⟨_, (sets_put present _).node?_self, leading.links _⟩
    · exact ⟨node, ((sets_put present _).node?_of_ne own).trans there, rfl⟩
  have sets := sets_modify now (·.updateLink ended)
  have here : before.Callable m.nextLink :=
    ⟨callable.numbered.congr links, fun l among => callable.rest l (links ▸ among)⟩
  have among : link ∈ before.links := links ▸ List.mem_of_find?_eq_some linked
  have updated := here.updateLink among same rest
  rw [changed]
  refine ⟨_, sets.node?_self, ⟨updated.numbered.mono sets.later, updated.rest⟩, ?_⟩
  intro other j reached
  refine here.reaches_updateLink among same whole ?_
  unfold Node.Reaches Node.link? at reached ⊢
  rwa [links]

/-- A member that is connected and has the spider starts it when it is called to. -/
theorem callNode_started {member : String} (there : m.node? number = some node)
    (callable : node.Callable m.nextLink) (reaches : node.Reaches member k)
    (startable : m.StartableAt name k) :
    (m.callNode number member (.startSpider name)).2.StartedAt name k := by
  obtain ⟨link, linked, unbroken, leads⟩ := reaches
  obtain ⟨s, found, can⟩ := startable
  obtain ⟨peer, present, hosted⟩ := Option.bind_eq_some_iff.mp found
  obtain ⟨ended, -, -, -, changed⟩ := callNode_reached there callable linked unbroken leads
    (Call.leads_start name) present
  have alike : (m.put k (peer.answer (.startSpider name)).2).Alike
      ((m.put k (peer.answer (.startSpider name)).2).modify number (·.updateLink ended)) :=
    alike_modify _ _ (fun _ => rfl) fun _ => rfl
  have answered : (peer.answer (.startSpider name)).2 =
      { peer with crawler := (peer.crawler.start name).2 } := rfl
  have started := peer.crawler.now.2.get?_change name
    (f := (·.start Crawler.outlet peer.crawler.now.1))
    (fun s => (s.led_start Crawler.outlet peer.crawler.now.1).definition) name
  rw [if_pos rfl, show peer.crawler.now.2.get? name = some s from hosted] at started
  refine ⟨(s.start Crawler.outlet peer.crawler.now.1).2, ?_, Spider.started_of_startable can _ _⟩
  rw [changed, alike.spiderAt_eq, spiderAt_put present, if_pos rfl, answered]
  exact started

/-- Members that are connected and have the spider start it when they are called to one after the
other. -/
theorem callAll_started (members : List NodeInfo) (there : m.node? number = some node)
    (callable : node.Callable m.nextLink)
    (connected : ∀ member ∈ members, ∃ k, node.Reaches member.name k ∧ m.StartableAt name k) :
    ∀ member ∈ members, ∀ k, node.Reaches member.name k →
      (members.foldl (fun m member => (m.callNode number member.name (.startSpider name)).2)
        m).StartedAt name k := by
  induction members generalizing m node with
  | nil => exact fun member among => absurd among List.not_mem_nil
  | cons first rest ih =>
      obtain ⟨⟨k, reaches, startable⟩, others⟩ := List.forall_mem_cons.mp connected
      have leading := Call.leads_start name
      obtain ⟨peer, present⟩ : ∃ peer, m.node? k = some peer := by
        obtain ⟨s, found, -⟩ := startable
        obtain ⟨peer, present, -⟩ := Option.bind_eq_some_iff.mp found
        exact ⟨peer, present⟩
      obtain ⟨next, now, nextCallable, keeps⟩ :=
        callNode_keeps there callable reaches leading present
      have called := callNode_led leading m number first.name
      refine List.forall_mem_cons.mpr ⟨?_, ?_⟩
      · intro j same
        rw [same.unique reaches]
        exact (callAll_led leading rest _ number).startedAt
          (callNode_started there callable reaches startable)
      · intro member among j reached
        refine ih now nextCallable ?_ member among j (keeps member.name j reached)
        intro other inside
        obtain ⟨i, leads, can⟩ := others other inside
        exact ⟨i, keeps other.name i leads, called.startableAt can⟩

theorem fanOut_started (there : m.node? number = some node) (callable : node.Callable m.nextLink)
    (connected : ∀ member ∈ node.others, ∃ k, node.Reaches member.name k ∧ m.StartableAt name k) :
    ∀ member ∈ node.others, ∀ k, node.Reaches member.name k →
      (m.fanOut number (.startSpider name)).StartedAt name k := by
  have members : m.fanOut number (.startSpider name) = node.others.foldl
      (fun m member => (m.callNode number member.name (.startSpider name)).2) m := by
    simp only [fanOut, there, Option.map_some, Option.getD_some]
  rw [members]
  exact callAll_started node.others there callable connected

end Mesh

end CrawlMesh
