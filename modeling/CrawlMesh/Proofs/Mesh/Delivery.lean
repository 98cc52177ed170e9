/-
# Where a distributed request ends up

A node that distributes a request hands it to the member whose turn it is.  If that member cannot be
reached, that is, if no link to it is left that is not broken, the node takes the request itself.
What may come of it is told by `Mesh.Distributes`: a call to a peer is answered, or it fails, and
then the peer may have done what it was asked nevertheless; links come and go in the meantime.
`Mesh.distribute` goes one of these ways (`distributes_of_rest`).

A crawler records the address of a request unless it declines it: because it does not have the
spider, because the spider has no open session, or because the policy of the session refuses the
request (`Crawler.accept_or_declines`).  A member that is reached may decline, and then nobody takes
the request.  Unless another link to the member comes into being while the call fails, this is the
only way in which a request gets lost that the node would have taken itself (`distribute_records`).
-/
import CrawlMesh.Mesh.Command
import CrawlMesh.Proofs.Crawl.Acceptance
import Mathlib.Data.List.Find

namespace CrawlMesh

set_option autoImplicit false

/-! ## Taking a request -/

/-- There is no session that is open. -/
def Scheduler.Shut (s : Scheduler) : Prop :=
  ∀ session, s.session = some session → s.run = .stopped ∨ session.requests.pool.closed = true

/-- A session that is open records the address of a request that passes, if it is not recorded. -/
theorem Session.has_of_send {s : Session} {r : Request} (passes : s.Passes r)
    (isOpen : s.requests.pool.closed = false) : (s.send r).2.has r.url = true := by
  unfold send
  cases recorded : s.record? r with
  | none =>
      obtain ⟨domain, named⟩ := (Request.validate_iff.mp passes.valid).2
      have checked : s.checkPolicy r = .ok domain := checkPolicy_iff.mpr ⟨named, passes⟩
      simp only [record?, checked] at recorded
      split at recorded
      · rename_i known
        rw [has_of_named named]
        exact known
      · cases recorded
  | some pair =>
      obtain ⟨k, next⟩ := pair
      obtain ⟨-, named, -, rfl⟩ := record?_spec recorded
      simp only [enqueue]
      split
      · exact has_iff.mpr ⟨k, List.mem_append_right _ (List.mem_singleton_self k), named⟩
      · rename_i refused
        rw [Inbox.put?_eq_none.mp refused] at isOpen
        cases isOpen

/-- Why a crawler does not take a request. -/
inductive Crawler.Declines (c : Crawler) (r : Request) : Prop
  | missing (gone : c.get? r.spiderName = none)
  | shut {s : Spider} (there : c.get? r.spiderName = some s) (shut : s.scheduler.Shut)
  | refused {s : Spider} {session : Session} (there : c.get? r.spiderName = some s)
      (present : s.scheduler.session = some session) (refused : ¬ session.Passes r)

namespace Crawler

variable {c : Crawler} {r : Request}

theorem has_of_get? {s : Spider} (there : c.get? r.spiderName = some s) :
    c.has r = .ok (s.scheduler.has r.url) := by
  rw [has, get, there]
  rfl

theorem get?_put {s t : Spider} {name : String} (there : c.get? name = some s)
    (same : t.name = s.name) : (c.put t).get? name = some t := by
  have named : s.name = name := by simpa using List.find?_some there
  have kept : ((·.name == name) ∘ fun other : Spider => if other.name == t.name then t else other) =
      (·.name == name) := by
    funext other
    by_cases replaced : other.name = t.name
    · simp [replaced]
    · simp [replaced]
  unfold get? at there ⊢
  rw [put, List.find?_map, kept, there]
  simp [same]

/-- What becomes of a crawler that is handed a request. -/
theorem accept_spec (c : Crawler) (r : Request) :
    (c.get? r.spiderName = none ∧ c.accept r = (.error (unknown r.spiderName), c)) ∨
      ∃ s, c.get? r.spiderName = some s ∧
        (c.accept r).1 = .ok (s.scheduler.send r).1 ∧
        (c.accept r).2.get? r.spiderName =
          some (s.withScheduler (s.scheduler.send r).2) := by
  cases there : c.get? r.spiderName with
  | none =>
      left
      simp only [accept, change, there, and_self]
  | some s =>
      right
      have accepted : c.accept r =
          (.ok (s.scheduler.send r).1, c.put (s.withScheduler (s.scheduler.send r).2)) := by
        simp only [accept, change, there, Spider.accept]
      rw [accepted]
      exact ⟨s, rfl, rfl, get?_put there rfl⟩

/-- A crawler records the address of a request or declines it. -/
theorem accept_or_declines (c : Crawler) (r : Request) :
    (c.accept r).2.has r = .ok true ∨ c.Declines r := by
  rcases c.accept_spec r with ⟨gone, -⟩ | ⟨s, there, -, after⟩
  · exact Or.inr (.missing gone)
  · by_cases shut : s.scheduler.Shut
    · exact Or.inr (.shut there shut)
    · simp only [Scheduler.Shut, not_forall, not_or, Bool.not_eq_true] at shut
      obtain ⟨session, present, running, isOpen⟩ := shut
      by_cases passes : session.Passes r
      · left
        rw [has_of_get? after]
        have sent : (s.scheduler.send r).2 =
            s.scheduler.withSession (session.send r).2 := by
          simp only [Scheduler.send, present, running, if_false, Scheduler.withSession]
        rw [Spider.withScheduler, sent]
        exact congrArg Except.ok (Session.has_of_send passes isOpen)
      · exact Or.inr (.refused there present passes)

/-- A crawler that declines a request declined it before it was handed it. -/
theorem declines_of_accept (declines : (c.accept r).2.Declines r) : c.Declines r := by
  rcases c.accept_spec r with ⟨gone, -⟩ | ⟨s, there, -, after⟩
  · exact .missing gone
  · have life := Scheduler.sameLife_send s.scheduler r
    cases declines with
    | missing gone => cases gone.symm.trans after
    | shut found shut =>
        cases found.symm.trans after
        refine .shut there ?_
        intro session present
        obtain ⟨next, now, gates⟩ := life.session_gates present
        have requests : next.requests.pool.closed = session.requests.pool.closed :=
          (List.cons.inj gates).1
        rw [← life.run, ← requests]
        exact shut next now
    | refused found present refused =>
        cases found.symm.trans after
        cases before : s.scheduler.session with
        | none => simp [Spider.withScheduler, Scheduler.send, before] at present
        | some session =>
            obtain ⟨next, now, policy, domains⟩ := Scheduler.sendAll_policy before [r]
            cases now.symm.trans present
            refine .refused there before ?_
            intro passes
            refine refused ⟨passes.valid, ?_, ?_⟩
            · rw [Session.Accepts, domains]
              exact passes.accepted
            · rw [policy]
              exact passes.depth_le

/-- The name of a node on a request does not matter. -/
theorem declines_renamed (node : Option String) :
    c.Declines { r with nodeName := node } ↔ c.Declines r := by
  constructor
  · intro declines
    cases declines with
    | missing gone => exact .missing gone
    | shut there shut => exact .shut there shut
    | refused there present refused =>
        exact .refused there present fun ⟨valid, accepted, depth⟩ => refused ⟨valid, accepted, depth⟩
  · intro declines
    cases declines with
    | missing gone => exact .missing gone
    | shut there shut => exact .shut there shut
    | refused there present refused =>
        exact .refused there present fun ⟨valid, accepted, depth⟩ => refused ⟨valid, accepted, depth⟩

/-- A crawler whose spider would accept a request does not decline it. -/
theorem not_declines {s : Spider} (there : c.get? r.spiderName = some s)
    (accepts : (s.scheduler.send r).1 = true) : ¬ c.Declines r := by
  have open_ : ∃ session, s.scheduler.session = some session ∧ s.scheduler.run ≠ .stopped ∧
      (session.send r).1 = true := by
    unfold Scheduler.send at accepts
    split at accepts
    · cases accepts
    · rename_i session present
      split at accepts
      · cases accepts
      · rename_i running
        exact ⟨session, present, running, accepts⟩
  obtain ⟨session, present, running, accepted⟩ := open_
  intro declines
  cases declines with
  | missing gone => cases gone.symm.trans there
  | shut found shut =>
      cases found.symm.trans there
      rcases shut session present with stopped | closed
      · exact running stopped
      · rcases session.send_spec r with ⟨refused, -⟩ | ⟨k, refused, -⟩ | ⟨k, requests, -, put, -⟩
        · cases accepted.symm.trans refused
        · cases accepted.symm.trans refused
        · rw [Inbox.put?_eq_none.mpr closed] at put
          cases put
  | refused found now refused =>
      cases found.symm.trans there
      cases now.symm.trans present
      exact refused (Session.passes_of_send accepted)

end Crawler

/-! ## Nodes that differ in their links alone -/

namespace Mesh

variable {m middle after : Mesh} {number k : Nat} {node : Node} {name : String} {r : Request}

theorem node?_put (m : Mesh) (number k : Nat) (node : Node) :
    (m.put number node).node? k = (m.node? k).map fun old => if k = number then node else old := by
  have kept : ((·.1 == k) ∘ fun entry : Nat × Node =>
      if entry.1 == number then (entry.1, node) else entry) = (·.1 == k) := by
    funext entry
    by_cases replaced : entry.1 = number
    · simp [replaced]
    · simp [replaced]
  unfold node? put
  rw [List.find?_map, kept]
  cases found : m.nodes.find? (·.1 == k) with
  | none => rfl
  | some entry =>
      have same : entry.1 = k := by simpa using List.find?_some found
      by_cases replaced : k = number
      · simp [same, replaced]
      · simp [same, replaced]

/-- The address of a request is recorded on a node. -/
def RecordedAt (m : Mesh) (number : Nat) (r : Request) : Prop :=
  ∃ node, m.node? number = some node ∧ node.crawler.has r = .ok true

/-- Two meshes whose nodes have the same names and the same spiders. Links and members may differ. -/
def Alike (m after : Mesh) : Prop :=
  ∀ k, (after.node? k).map (fun n => (n.info, n.crawler)) =
    (m.node? k).map fun n => (n.info, n.crawler)

namespace Alike

theorem refl (m : Mesh) : m.Alike m := fun _ => rfl

theorem present (alike : m.Alike after) (there : m.node? k = some node) :
    ∃ other, after.node? k = some other ∧ other.info = node.info ∧ other.crawler = node.crawler := by
  have same := alike k
  rw [there] at same
  obtain ⟨other, now, pair⟩ := Option.map_eq_some_iff.mp same
  obtain ⟨info, crawler⟩ := Prod.mk.inj pair
  exact ⟨other, now, info, crawler⟩

theorem recordedAt (alike : m.Alike after) (recorded : m.RecordedAt k r) :
    after.RecordedAt k r := by
  obtain ⟨node, present, has⟩ := recorded
  obtain ⟨other, now, -, crawler⟩ := alike.present present
  exact ⟨other, now, crawler ▸ has⟩

theorem symm (alike : m.Alike after) : after.Alike m := fun k => (alike k).symm

/-- A node may be put in place of itself with other links and members. -/
theorem put (present : m.node? number = some node) {other : Node} (info : other.info = node.info)
    (crawler : other.crawler = node.crawler) : m.Alike (m.put number other) := by
  intro k
  rw [node?_put]
  by_cases same : k = number
  · subst same
    simp [present, info, crawler]
  · simp [same]

end Alike

/-! ## Ways in which a distribution goes -/

/-- Is there a link from a node to a peer that is not broken? -/
def isConnected (m : Mesh) (number : Nat) (name : String) : Bool :=
  ((m.node? number).map (·.isConnected name)).getD false

/-- What may come of a call to the peer of a name, besides which links and members may change, and
whether it was answered. A call that failed may have been carried out nevertheless. -/
inductive CallEnds (m : Mesh) (caller : Node) (name : String) (call : Call) :
    Bool → Outcome Reply → Mesh → Prop
  | answered {link : Link} {reply : Reply} {middle after : Mesh}
      (linked : caller.link? name = some link) (unbroken : link.broken = false)
      (served : m.serve caller link.endpoint call = (.ok reply, middle))
      (alike : middle.Alike after) : CallEnds m caller name call true reply.outcome after
  | lost {link : Link} {e : CrawlError} {after : Mesh}
      (linked : caller.link? name = some link) (unbroken : link.broken = false)
      (alike : (m.serve caller link.endpoint call).2.Alike after) :
      CallEnds m caller name call false (.error e) after
  | unsent {e : CrawlError} {after : Mesh} (alike : m.Alike after) :
      CallEnds m caller name call false (.error e) after

/-- The name of the member that gets a request, or of the node itself if there are no members. -/
def target (m : Mesh) (number : Nat) (node : Node) (r : Request) : String :=
  (m.assign number r).1.getD node.name

/-- Who has the say about a request in the end. -/
inductive Way
  /-- The node, since it is its own turn. -/
  | here
  /-- The member whose turn it is, which has answered. -/
  | handed
  /-- The node, since the member whose turn it is cannot be reached. -/
  | kept
  /-- Nobody: the call failed, and by then the node has another link to the member. -/
  | dropped

/-- What may come of distributing a request. -/
inductive Distributes (m : Mesh) (number : Nat) (node : Node) (r : Request) :
    Way → Outcome Unit → Mesh → Prop
  | here (mine : m.target number node r = node.name) :
      Distributes m number node r .here
        ((m.assign number r).2.2.handTo number node.name (m.assign number r).2.1).1
        ((m.assign number r).2.2.handTo number node.name (m.assign number r).2.1).2
  | handed {caller : Node} {outcome : Outcome Reply} {after : Mesh}
      (other : m.target number node r ≠ node.name)
      (present : (m.assign number r).2.2.node? number = some caller)
      (ends : (m.assign number r).2.2.CallEnds caller (m.target number node r)
        (.acceptRequest (m.assign number r).2.1) true outcome after)
      (final : outcome.isOk = true ∨ after.isConnected number (m.target number node r) = true) :
      Distributes m number node r .handed (outcome.map fun _ => ()) after
  | kept {caller : Node} {answered : Bool} {e : CrawlError} {middle : Mesh}
      (other : m.target number node r ≠ node.name)
      (present : (m.assign number r).2.2.node? number = some caller)
      (ends : (m.assign number r).2.2.CallEnds caller (m.target number node r)
        (.acceptRequest (m.assign number r).2.1) answered (.error e) middle)
      (unconnected : middle.isConnected number (m.target number node r) = false) :
      Distributes m number node r .kept
        (middle.handTo number node.name { (m.assign number r).2.1 with nodeName := some node.name }).1
        (middle.handTo number node.name { (m.assign number r).2.1 with nodeName := some node.name }).2
  | dropped {caller : Node} {e : CrawlError} {after : Mesh}
      (other : m.target number node r ≠ node.name)
      (present : (m.assign number r).2.2.node? number = some caller)
      (ends : (m.assign number r).2.2.CallEnds caller (m.target number node r)
        (.acceptRequest (m.assign number r).2.1) false (.error e) after)
      (connected : after.isConnected number (m.target number node r) = true) :
      Distributes m number node r .dropped (.error e) after

/-! ## Handing a request over -/

/-- A peer that is asked to accept a request is not there, or its crawler is handed the request. -/
theorem serve_accept (m : Mesh) (caller : Node) (endpoint : Endpoint) (r : Request) :
    (∃ e, m.serve caller endpoint (.acceptRequest r) = (.error e, m)) ∨
      ∃ k peer reply, endpoint = .node k ∧ m.node? k = some peer ∧
        m.serve caller endpoint (.acceptRequest r) =
          (.ok reply, m.put k { peer with crawler := (peer.crawler.accept r).2 }) := by
  cases endpoint with
  | mute => exact Or.inl ⟨_, rfl⟩
  | node k =>
      cases there : m.node? k with
      | none =>
          left
          refine ⟨streamClosed, ?_⟩
          simp only [serve, exchange, there]
      | some peer =>
          right
          refine ⟨k, peer, peer.answer (.acceptRequest r) |>.2.reply (.acceptRequest r)
            (peer.answer (.acceptRequest r)).1, rfl, there, ?_⟩
          simp only [serve, exchange, there, Node.answer, Node.withCrawler]

/-- A node whose crawler is handed a request records its address or declines it. -/
theorem recordedAt_or_declines (there : m.node? k = some node) (r : Request) :
    (m.put k { node with crawler := (node.crawler.accept r).2 }).RecordedAt k r ∨
      node.crawler.Declines r := by
  rcases node.crawler.accept_or_declines r with has | declines
  · left
    refine ⟨{ node with crawler := (node.crawler.accept r).2 }, ?_, has⟩
    rw [node?_put, there]
    simp
  · exact Or.inr declines

/-- A node takes a request itself unless it declines it. -/
theorem handTo_self (there : m.node? number = some node) (r : Request) :
    (m.handTo number node.name r).2.RecordedAt number r ∨ node.crawler.Declines r := by
  have handed : (m.handTo number node.name r).2 =
      m.put number { node with crawler := (node.crawler.accept r).2 } := by
    have mine : ((m.node? number).map (·.isMe node.name)).getD false = true := by
      simp [there, Node.isMe, Node.name]
    rw [handTo, if_pos mine]
    simp only [onCrawler, change, there, Node.withCrawler]
  rw [handed]
  exact recordedAt_or_declines there r

/-- A request for another node is handed over by a call. -/
theorem handTo_other (there : m.node? number = some node) (other : name ≠ node.name) (r : Request) :
    m.handTo number name r =
      ((m.callNode number name (.acceptRequest r)).1.map fun _ => (),
        (m.callNode number name (.acceptRequest r)).2) := by
  have notMine : ((m.node? number).map (·.isMe name)).getD false = false := by
    simp [there, Node.isMe]
    exact fun same => other same.symm
  rw [handTo, notMine]
  rfl

/-- A node hands a request to the member whose turn it is, and to itself if that fails and the member
is another node that is not connected. -/
theorem distribute_eq (there : m.node? number = some node) (r : Request) :
    m.distribute number r =
      match (m.assign number r).2.2.handTo number (m.target number node r) (m.assign number r).2.1 with
      | (.ok _, m) => (.ok (), m)
      | (.error e, middle) =>
        if m.target number node r != node.name &&
            !middle.isConnected number (m.target number node r) then
          middle.handTo number node.name
            { (m.assign number r).2.1 with nodeName := some node.name }
        else (.error e, middle) := by
  simp only [distribute, there, Option.map_some, Option.getD_some]
  rfl

/-- Assigning a request to a member changes neither nodes nor the request, apart from the name that
is noted on it. -/
theorem assign_spec (present : m.node? number = some node) (r : Request) :
    (∃ distribution, (m.assign number r).2.2 = m.put number { node with distribution := distribution }) ∧
      ∃ name, (m.assign number r).2.1 = { r with nodeName := name } := by
  simp only [assign, present, Distribution.assign]
  split
  · exact ⟨⟨_, rfl⟩, r.nodeName, rfl⟩
  · exact ⟨⟨_, rfl⟩, _, rfl⟩

/-- A node that would take a request would do so after a peer was asked to accept it. -/
theorem takes_of_serve (there : m.node? number = some node) (caller : Node) (endpoint : Endpoint)
    (r : Request) (takes : ¬ node.crawler.Declines r) :
    ∃ other, (m.serve caller endpoint (.acceptRequest r)).2.node? number = some other ∧
      other.info = node.info ∧ ¬ other.crawler.Declines r := by
  rcases m.serve_accept caller endpoint r with ⟨e, same⟩ | ⟨k, peer, reply, -, present, same⟩
  · rw [same]
    exact ⟨node, there, rfl, takes⟩
  · rw [same, node?_put, there, Option.map_some]
    by_cases own : number = k
    · subst own
      cases there.symm.trans present
      rw [if_pos rfl]
      exact ⟨_, rfl, rfl, fun declines => takes (Crawler.declines_of_accept declines)⟩
    · rw [if_neg own]
      exact ⟨node, rfl, rfl, takes⟩

/-- After a peer was asked to accept a request, however that ended, a node that takes the request
takes it itself. -/
theorem handTo_self_of_callEnds {caller : Node} {answered : Bool} {outcome : Outcome Reply}
    {first : Option String} (there : m.node? number = some node)
    (takes : ¬ node.crawler.Declines r)
    (ends : m.CallEnds caller name (.acceptRequest { r with nodeName := first }) answered outcome
      after) (second : Option String) :
    (after.handTo number node.name { r with nodeName := second }).2.RecordedAt number r := by
  rw [← Crawler.declines_renamed first] at takes
  have keeps : ∃ other, after.node? number = some other ∧ other.info = node.info ∧
      ¬ other.crawler.Declines { r with nodeName := first } := by
    have kept {middle : Mesh} {n : Node} (alike : middle.Alike after)
        (present : middle.node? number = some n) (info : n.info = node.info)
        (takes : ¬ n.crawler.Declines { r with nodeName := first }) :
        ∃ other, after.node? number = some other ∧ other.info = node.info ∧
          ¬ other.crawler.Declines { r with nodeName := first } := by
      obtain ⟨other, now, same, crawler⟩ := alike.present present
      exact ⟨other, now, same.trans info, crawler ▸ takes⟩
    cases ends with
    | @answered link _ _ _ _ _ served alike =>
        obtain ⟨n, present, info, takes⟩ := takes_of_serve there caller link.endpoint _ takes
        rw [served] at present
        exact kept alike present info takes
    | @lost link _ _ _ _ alike =>
        obtain ⟨n, present, info, takes⟩ := takes_of_serve there caller link.endpoint _ takes
        exact kept alike present info takes
    | unsent alike => exact kept alike there rfl takes
  obtain ⟨other, now, info, takes⟩ := keeps
  have same : node.name = other.name := by rw [Node.name, Node.name, info]
  rw [Crawler.declines_renamed, ← Crawler.declines_renamed second] at takes
  rw [same]
  exact (handTo_self now _).resolve_right takes

/-! ## Calls one at a time -/

end Mesh

/-- No call is on its way over a link that is not broken. -/
def Link.AtRest (l : Link) : Prop :=
  l.broken = true ∨ l.holder = none ∧ l.unanswered = [] ∧ l.replies = []

namespace Link

variable {l : Link}

theorem begin_of_broken (broken : l.broken = true) :
    l.begin.outcome? l.calls.length = some (.error l.brokenError) := by
  simp [begin, moves, move?, outcome?, setCall, brokenError, broken]

theorem begin_of_unbroken (unbroken : l.broken = false) :
    l.begin = { l with calls := l.calls ++ [.waiting] } := by
  simp [begin, moves, move?, setCall, unbroken]

theorem outcome?_begin_of_unbroken (unbroken : l.broken = false) :
    l.begin.outcome? l.calls.length = none := by
  simp [begin_of_unbroken unbroken, outcome?]

/-- A call alone on a link ends with the reply that came of its frame, and breaks the link if there
was none. -/
theorem finish_begin (rest : l.AtRest) (unbroken : l.broken = false) (reply : Outcome Reply) :
    (l.begin.finish l.calls.length reply).outcome? l.calls.length = some reply ∧
      (l.begin.finish l.calls.length reply).number = l.number ∧
      (l.begin.finish l.calls.length reply).peer = l.peer ∧
      (l.begin.finish l.calls.length reply).broken = !reply.isOk := by
  obtain broken | ⟨free, unanswered, replies⟩ := rest
  · cases unbroken.symm.trans broken
  · rw [begin_of_unbroken unbroken]
    cases reply with
    | ok reply =>
        simp [finish, moves, move?, outcome?, setCall, free, unanswered, replies, unbroken]
        rfl
    | error e =>
        simp [finish, moves, move?, outcome?, setCall, free, unanswered, replies]
        rfl

end Link

namespace Node

variable {n : Node} {link : Link}

/-- No call of a node is on its way, and its links have numbers of their own. -/
structure AtRest (n : Node) : Prop where
  links : ∀ l ∈ n.links, l.AtRest
  numbers : (n.links.map (·.number)).Nodup

theorem AtRest.eq_of_number (rest : n.AtRest) {other : Link} (kept : link ∈ n.links)
    (among : other ∈ n.links) (same : other.number = link.number) : other = link :=
  List.inj_on_of_nodup_map rest.numbers among kept same

theorem AtRest.find?_number (rest : n.AtRest) (kept : link ∈ n.links) :
    n.links.find? (·.number == link.number) = some link := by
  cases found : n.links.find? (·.number == link.number) with
  | none =>
      have missing := List.find?_eq_none.mp found link kept
      simp at missing
  | some other =>
      have same : other.number = link.number := by simpa using List.find?_some found
      rw [rest.eq_of_number kept (List.mem_of_find?_eq_some found) same]

/-- A link that is replaced by a broken one connects no longer. -/
theorem AtRest.isConnected_updateLink (rest : n.AtRest) {name : String} {ended : Link}
    (linked : n.link? name = some link) (number : ended.number = link.number)
    (peer : ended.peer = link.peer) (broken : ended.broken = true) :
    (n.updateLink ended).isConnected name = false := by
  have kept : link ∈ n.links := List.mem_of_find?_eq_some linked
  have named : link.peer.name = name := by simpa using List.find?_some linked
  have replaced : (n.updateLink ended).link? name = some ended := by
    have names : ∀ l ∈ n.links, ((·.peer.name == name) ∘ fun l : Link =>
        if l.number == ended.number then ended else l) l = (l.peer.name == name) := by
      intro l among
      by_cases same : l.number = ended.number
      · have own := rest.eq_of_number kept among (same.trans number)
        simp [own, number, peer]
      · simp [same]
    unfold link? at linked ⊢
    rw [updateLink, List.find?_map, List.find?_congr names, linked]
    simp [number]
  simp only [isConnected, replaced, broken, Bool.not_true]

end Node

namespace Mesh

variable {m middle after : Mesh} {number k : Nat} {node : Node} {name : String} {r : Request}

theorem alike_modify (m : Mesh) (number : Nat) {f : Node → Node}
    (info : ∀ n, (f n).info = n.info) (crawler : ∀ n, (f n).crawler = n.crawler) :
    m.Alike (m.modify number f) := by
  unfold modify
  split
  · exact .refl m
  · rename_i node there
    exact .put there (info node) (crawler node)

/-- A call over a link at rest ends at once if the link is broken, and otherwise with what the peer
makes of it; the link is broken if that is nothing. -/
theorem callLink_spec {link : Link} {call : Call} (there : m.node? number = some node)
    (rest : node.AtRest) (kept : link ∈ node.links) :
    (link.broken = true ∧ m.callLink number link call = (.error link.brokenError, m)) ∨
      (link.broken = false ∧ ∃ ended : Link, ended.number = link.number ∧ ended.peer = link.peer ∧
        ended.broken = !(m.serve node link.endpoint call).1.isOk ∧
        m.callLink number link call = ((m.serve node link.endpoint call).1,
          (m.serve node link.endpoint call).2.modify number (·.updateLink ended))) := by
  have same : (node.links.find? (·.number == link.number)).getD link = link := by
    rw [rest.find?_number kept]
    rfl
  cases broken : link.broken with
  | true =>
      left
      refine ⟨rfl, ?_⟩
      simp only [callLink, there, same, Link.begin_of_broken broken]
  | false =>
      right
      obtain ⟨replied, number, peer, state⟩ :=
        Link.finish_begin (rest.links link kept) broken (m.serve node link.endpoint call).1
      refine ⟨rfl, (link.begin.finish link.calls.length
        (m.serve node link.endpoint call).1).forget, number, peer, state, ?_⟩
      simp only [callLink, there, same, Link.outcome?_begin_of_unbroken broken, replied,
        Option.getD_some]

/-- A call to a peer over links at rest is one that may come of it, and if it is not answered then
the peer cannot be reached. -/
theorem callEnds_of_rest (there : m.node? number = some node) (rest : node.AtRest) (name : String)
    (r : Request) : ∃ answered, m.CallEnds node name (.acceptRequest r) answered
      (m.callNode number name (.acceptRequest r)).1
      (m.callNode number name (.acceptRequest r)).2 ∧
      (answered = false →
        (m.callNode number name (.acceptRequest r)).2.isConnected number name = false) := by
  cases linked : node.link? name with
  | none =>
      have failed : m.callNode number name (.acceptRequest r) = (.error (Node.noLink name), m) := by
        simp [callNode, there, linked]
      rw [failed]
      refine ⟨false, .unsent (.refl m), fun _ => ?_⟩
      simp [isConnected, there, Node.isConnected, linked]
  | some link =>
      have kept : link ∈ node.links := List.mem_of_find?_eq_some linked
      have called : m.callNode number name (.acceptRequest r) =
          ((m.callLink number link (.acceptRequest r)).1.bind Reply.outcome,
            (m.callLink number link (.acceptRequest r)).2) := by
        simp [callNode, there, linked]
      rw [called]
      rcases callLink_spec there rest kept with
        ⟨broken, same⟩ | ⟨unbroken, ended, number', peer, state, same⟩
      · rw [same]
        refine ⟨false, .unsent (.refl m), fun _ => ?_⟩
        simp [isConnected, there, Node.isConnected, linked, broken]
      · rw [same]
        rcases m.serve_accept node link.endpoint r with ⟨e, failed⟩ | ⟨k, peer, reply, -, -, served⟩
        · rw [failed] at state ⊢
          refine ⟨false, .unsent (alike_modify m number (fun _ => rfl) fun _ => rfl), fun _ => ?_⟩
          have unconnected := rest.isConnected_updateLink linked number' peer state
          simp [isConnected, modify, there, node?_put, unconnected]
        · rw [served]
          have changed := alike_modify (m.put k { peer with crawler := (peer.crawler.accept r).2 })
            number (f := (·.updateLink ended)) (fun _ => rfl) fun _ => rfl
          exact ⟨true, .answered linked unbroken served changed, fun failed => by cases failed⟩

/-- A node that distributes a request while its links are at rest goes one of the ways in which a
distribution may go, and does not drop the request. -/
theorem distributes_of_rest (there : m.node? number = some node) (rest : node.AtRest) (r : Request) :
    ∃ way, way ≠ .dropped ∧
      m.Distributes number node r way (m.distribute number r).1 (m.distribute number r).2 := by
  obtain ⟨⟨distribution, assigned⟩, -⟩ := assign_spec there r
  have now : (m.assign number r).2.2.node? number =
      some { node with distribution := distribution } := by
    rw [assigned, node?_put, there]
    simp
  rw [distribute_eq there r]
  by_cases mine : m.target number node r = node.name
  · have here := Distributes.here (r := r) mine
    rw [mine]
    generalize (m.assign number r).2.2.handTo number node.name (m.assign number r).2.1 = q at here
    obtain ⟨outcome, after⟩ := q
    cases outcome with
    | ok u => exact ⟨.here, by simp, here⟩
    | error e => exact ⟨.here, by simp, by simpa using here⟩
  · obtain ⟨answered, ends, unreached⟩ := callEnds_of_rest now ⟨rest.links, rest.numbers⟩
      (m.target number node r) (m.assign number r).2.1
    rw [handTo_other now mine]
    generalize (m.assign number r).2.2.callNode number (m.target number node r)
      (.acceptRequest (m.assign number r).2.1) = q at ends unreached
    obtain ⟨outcome, after⟩ := q
    cases outcome with
    | ok reply =>
        cases answered with
        | true => exact ⟨.handed, by simp, .handed mine now ends (Or.inl rfl)⟩
        | false => cases ends
    | error e =>
        cases connected : after.isConnected number (m.target number node r) with
        | true =>
            cases answered with
            | true =>
                have stays := Distributes.handed mine now ends (Or.inr connected)
                exact ⟨.handed, by simp, by simpa [Except.map, connected] using stays⟩
            | false => cases (unreached rfl).symm.trans connected
        | false =>
            have kept := Distributes.kept mine now ends connected
            exact ⟨.kept, by simp, by simpa [Except.map, connected, mine] using kept⟩

/-- The node has a link to the peer of a name that is not broken, and at its other end is the node of
a number. -/
def LeadsTo (m : Mesh) (node : Node) (name : String) (k : Nat) (peer : Node) : Prop :=
  ∃ link, node.link? name = some link ∧ link.broken = false ∧ link.endpoint = .node k ∧
    m.node? k = some peer

/-- Who has recorded the address of a request that was distributed, according to who had the say. A
member that had it may have declined the request. -/
def Settles (m after : Mesh) (number : Nat) (node : Node) (r : Request) : Way → Prop
  | .here => after.RecordedAt number r
  | .kept => after.RecordedAt number r
  | .handed => m.target number node r ≠ node.name ∧
      ∃ k peer, m.LeadsTo node (m.target number node r) k peer ∧
        (after.RecordedAt k r ∨ peer.crawler.Declines r)
  | .dropped => m.target number node r ≠ node.name ∧
      after.isConnected number (m.target number node r) = true

/-- **Where a distributed request ends up.**  Let a node distribute a request that its own spider
would accept, whatever members, links and spiders there are, and however the call to a peer ends.
If it is the node's own turn, or if the member whose turn it is cannot be reached, then the node has
recorded the address of the request afterwards.  If that member was reached and has answered, then it
has recorded the address, unless it does not have the spider, the spider has no open session there,
or the policy of that session refuses the request.  Nothing else can happen, unless the call failed
and the node has got another link to the member by then. -/
theorem distribute_records {spider : Spider} (present : m.node? number = some node)
    (found : node.crawler.get? r.spiderName = some spider)
    (accepts : (spider.scheduler.send r).1 = true) :
    (∀ way outcome after, m.Distributes number node r way outcome after →
      m.Settles after number node r way) ∧
    (node.AtRest → ∃ way, way ≠ .dropped ∧
      m.Distributes number node r way (m.distribute number r).1 (m.distribute number r).2) := by
  have takes : ¬ node.crawler.Declines r := Crawler.not_declines found accepts
  obtain ⟨⟨distribution, assigned⟩, noted, request⟩ := assign_spec present r
  have there : (m.assign number r).2.2.node? number =
      some { node with distribution := distribution } := by
    rw [assigned, node?_put, present]
    simp
  have alike : m.Alike (m.assign number r).2.2 := by
    rw [assigned]
    exact .put present rfl rfl
  refine ⟨?_, fun rest => distributes_of_rest present rest r⟩
  intro way outcome after ways
  cases ways with
  | here mine =>
      rw [request]
      exact (handTo_self there _).resolve_right fun declines =>
        takes ((Crawler.declines_renamed _).mp declines)
  | handed other now ends final =>
      cases now.symm.trans there
      refine ⟨other, ?_⟩
      cases ends with
      | @answered link reply _ _ linked unbroken served changed =>
          rcases serve_accept _ _ _ _ with ⟨e, failed⟩ | ⟨k, peer, _, endpoint, peerThere, handed⟩
          · cases served.symm.trans failed
          · cases served.symm.trans handed
            obtain ⟨before, peerBefore, -, crawler⟩ := alike.symm.present peerThere
            refine ⟨k, before, ⟨link, linked, unbroken, endpoint, peerBefore⟩, ?_⟩
            rw [request] at changed
            rcases recordedAt_or_declines peerThere { r with nodeName := noted } with
              recorded | declines
            · exact Or.inl (changed.recordedAt recorded)
            · right
              rw [crawler]
              exact (Crawler.declines_renamed _).mp declines
  | kept other now ends unconnected =>
      rw [request] at ends ⊢
      exact handTo_self_of_callEnds (r := r) there takes ends (some node.name)
  | dropped other _ _ connected => exact ⟨other, connected⟩

/-! ## Two nodes -/

/-- A spider that was started without first requests. -/
def startedSpider : Spider :=
  ⟨.new "books", (Scheduler.Senders.preparedCrawl.start none).2, none, none⟩

/-- A node with some spiders, which knows of no other one. -/
def nodeWith (name : String) (port : UInt16) (spiders : List Spider) : Node :=
  let storage := Storage.ofFiles [] [] fun _ => default
  .new ⟨name, "127.0.0.1", port⟩ default
    ⟨spiders, .new storage, default, fun _ w => (.ok Scheduler.oneOfEach, w), []⟩ Node.usualTimeout

/-- A node with a started spider, which has a link to another node. It is the turn of that one. -/
def firstNode : Node :=
  { (nodeWith "node-a" 9001 [startedSpider]).adopt
      (.new 0 ⟨"node-b", "127.0.0.1", 9002⟩ (.node 1)) with
    distribution := ⟨.running, 1⟩ }

/-- The two nodes, the other one with some spiders. -/
def twoNodes (spiders : List Spider) : Mesh :=
  (((new (fun _ => true) 9003).addNode firstNode).2.addNode (nodeWith "node-b" 9002 spiders)).2

/-- A request that belongs to the spider. -/
def bookRequest : Request := { Scheduler.page "first" with spiderName := "books" }

theorem firstNode_atRest : firstNode.AtRest := by
  refine ⟨?_, by decide⟩
  intro l member
  rw [List.mem_singleton.mp (show l ∈ [_] from member)]
  exact Or.inr ⟨rfl, rfl, rfl⟩

theorem distribute_records_two_nodes :
    (twoNodes [startedSpider]).node? 0 = some firstNode ∧
      firstNode.crawler.get? bookRequest.spiderName = some startedSpider ∧
      (startedSpider.scheduler.send bookRequest).1 = true ∧
      ((∀ way outcome after,
          (twoNodes [startedSpider]).Distributes 0 firstNode bookRequest way outcome after →
            (twoNodes [startedSpider]).Settles after 0 firstNode bookRequest way) ∧
        (firstNode.AtRest → ∃ way, way ≠ .dropped ∧
          (twoNodes [startedSpider]).Distributes 0 firstNode bookRequest way
            ((twoNodes [startedSpider]).distribute 0 bookRequest).1
            ((twoNodes [startedSpider]).distribute 0 bookRequest).2)) ∧
      ((twoNodes [startedSpider]).distribute 0 bookRequest).2.RecordedAt 1 bookRequest :=
  ⟨rfl, rfl, rfl, distribute_records rfl rfl rfl, _, rfl, rfl⟩

/-- A spider that is not prepared. -/
def unpreparedSpider : Spider := ⟨.new "books", .new 2, none, none⟩

/-- A started spider of the same name that accepts another domain. -/
def foreignSpider : Spider :=
  { startedSpider with scheduler :=
      ((({ Scheduler.new 2 with outlet := none }.init
        { CrawlPolicy.usual with acceptedDomains := some ["d.ef"] } .usual Scheduler.oneOfEach).2.start
          none).2) }

/-- The two nodes, of which the first one has picked the other one for a request and got another
link to it then. -/
def relinkedNodes : Mesh :=
  ((twoNodes [startedSpider]).assign 0 bookRequest).2.2.modify 0
    (·.adopt (.new 1 ⟨"node-b", "127.0.0.1", 9002⟩ (.node 1)))

/-- Distributing a request that a started spider of the first node would accept may end so, and no
node has recorded the address then. -/
def Loses (m : Mesh) (result : Outcome Unit × Mesh) : Prop :=
  m.node? 0 = some firstNode ∧
    firstNode.crawler.get? bookRequest.spiderName = some startedSpider ∧
    startedSpider.scheduler.status = .started ∧
    (startedSpider.scheduler.send bookRequest).1 = true ∧
    (∃ way, m.Distributes 0 firstNode bookRequest way result.1 result.2) ∧
    ∀ k, ¬ result.2.RecordedAt k bookRequest

/-- The address of a request is not recorded on any node if none answers that it is. -/
theorem not_recordedAt_of_answers (answers : List (Outcome Bool))
    (all : m.nodes.map (·.2.crawler.has r) = answers) (none : .ok true ∉ answers) :
    ∀ k, ¬ m.RecordedAt k r := by
  rintro k ⟨node, present, has⟩
  obtain ⟨entry, found, rfl⟩ := Option.map_eq_some_iff.mp present
  refine none ?_
  rw [← all, ← has]
  exact List.mem_map_of_mem (List.mem_of_find?_eq_some found)

theorem loses_of_answers {m : Mesh} (answers : List (Outcome Bool))
    (first : m.node? 0 = some firstNode)
    (all : (m.distribute 0 bookRequest).2.nodes.map (·.2.crawler.has bookRequest) = answers)
    (none : .ok true ∉ answers) : m.Loses (m.distribute 0 bookRequest) := by
  obtain ⟨way, -, ways⟩ := distributes_of_rest first firstNode_atRest bookRequest
  exact ⟨first, rfl, rfl, rfl, ⟨way, ways⟩, not_recordedAt_of_answers answers all none⟩

/-- A request that a started spider would accept may be lost: the member whose turn it is is reached,
and does not have the spider, has not prepared it, or accepts another domain; or the call to that
member fails while another link to it comes into being. -/
theorem reached_member_loses_request :
    (twoNodes []).Loses ((twoNodes []).distribute 0 bookRequest) ∧
    (twoNodes [unpreparedSpider]).Loses ((twoNodes [unpreparedSpider]).distribute 0 bookRequest) ∧
    (twoNodes [foreignSpider]).Loses ((twoNodes [foreignSpider]).distribute 0 bookRequest) ∧
    (twoNodes [startedSpider]).Loses (.error streamClosed, relinkedNodes) := by
  refine ⟨?_, ?_, ?_, rfl, rfl, rfl, rfl, ⟨.dropped, ?_⟩, ?_⟩
  · exact loses_of_answers [.ok false, .error (Crawler.unknown "books")] rfl rfl (by simp)
  · exact loses_of_answers [.ok false, .ok false] rfl rfl (by simp)
  · exact loses_of_answers [.ok false, .ok false] rfl rfl (by simp)
  · have alike := alike_modify ((twoNodes [startedSpider]).assign 0 bookRequest).2.2 0
      (f := (·.adopt (.new 1 ⟨"node-b", "127.0.0.1", 9002⟩ (.node 1)))) (fun _ => rfl) fun _ => rfl
    exact .dropped (by decide) rfl (.unsent alike) rfl
  · exact not_recordedAt_of_answers [.ok false, .ok false] rfl (by simp)

end Mesh

end CrawlMesh
