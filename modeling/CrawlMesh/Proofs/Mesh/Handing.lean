/-
# Requests are handed to the spider they name

A request that is distributed arrives at some nodes, and each of them hands it to its spider of the
name on the request, or has no such spider and refuses it (`Node.answer_acceptRequest`); the caller
reads the refusal as it was made (`Node.outcome_of_refusal`).  So spiders of other names stay as they
are on all nodes, whichever way the distribution goes (`Mesh.SparesOthers`).

Together with what holds in any run of a crawler (`Colony.own_of_run`) this is
`spiders_keep_their_requests`: no request gets from one spider to another one, neither inside a
crawler nor across the mesh.
-/
import CrawlMesh.Proofs.Crawl.Colony

namespace CrawlMesh

set_option autoImplicit false

/-! ## One node -/

namespace Node

/-- A node hands a request to its spider of the name on it, or refuses it and stays as it is. -/
theorem answer_acceptRequest (n : Node) (r : Request) :
    (n.crawler.get? r.spiderName = none ∧
        n.answer (.acceptRequest r) = (.error (Crawler.unknown r.spiderName), n)) ∨
      ∃ s, n.crawler.get? r.spiderName = some s ∧ s.name = r.spiderName ∧
        n.answer (.acceptRequest r) =
          (.ok (), { n with crawler := n.crawler.put (s.accept r).2 }) := by
  cases there : n.crawler.get? r.spiderName with
  | none =>
      left
      simp only [answer, withCrawler, Crawler.accept, Crawler.change, there]
      exact ⟨trivial, rfl⟩
  | some s =>
      right
      have named : s.name = r.spiderName := by simpa using List.find?_some there
      refine ⟨s, rfl, named, ?_⟩
      simp only [answer, withCrawler, Crawler.accept, Crawler.change, there]
      rfl

/-- The caller reads a refusal as it was made. -/
theorem outcome_of_refusal (n : Node) (r : Request) :
    (n.reply (.acceptRequest r) (.error (Crawler.unknown r.spiderName))).outcome =
      .error (Crawler.unknown r.spiderName) := rfl

end Node

/-! ## All nodes -/

namespace Mesh

variable {m middle after : Mesh} {number k : Nat} {node peer : Node} {name : String} {r : Request}

/-- Spiders of other names than one are as they were, on all nodes. -/
def SparesOthers (name : String) (m after : Mesh) : Prop :=
  ∀ k other, other ≠ name → after.spiderAt k other = m.spiderAt k other

namespace SparesOthers

theorem of_alike (alike : m.Alike after) : m.SparesOthers name after :=
  fun k other _ => alike.spiderAt_eq k other

theorem trans (first : m.SparesOthers name middle) (second : middle.SparesOthers name after) :
    m.SparesOthers name after :=
  fun k other differs => (second k other differs).trans (first k other differs)

/-- A node that is handed a request. -/
theorem accept (there : m.node? k = some peer) (r : Request) :
    m.SparesOthers r.spiderName (m.put k { peer with crawler := (peer.crawler.accept r).2 }) := by
  intro j other differs
  rw [spiderAt_put there]
  split
  · rename_i its
    have changed := peer.crawler.get?_change r.spiderName
      (f := fun s => (.ok (s.accept r).1, (s.accept r).2)) (fun _ => rfl) other
    rw [if_neg differs] at changed
    rw [its, spiderAt, there]
    exact changed
  · rfl

theorem serve (m : Mesh) (caller : Node) (endpoint : Endpoint) (r : Request) :
    m.SparesOthers r.spiderName (m.serve caller endpoint (.acceptRequest r)).2 := by
  rcases m.serve_accept caller endpoint r with ⟨e, same⟩ | ⟨k, peer, reply, -, there, same⟩
  · rw [same]
    exact of_alike (.refl m)
  · rw [same]
    exact accept there r

theorem callNode (m : Mesh) (number : Nat) (name : String) (r : Request) :
    m.SparesOthers r.spiderName (m.callNode number name (.acceptRequest r)).2 := by
  unfold Mesh.callNode
  split
  · exact of_alike (.refl m)
  · rename_i link _
    show m.SparesOthers r.spiderName (m.callLink number link (.acceptRequest r)).2
    cases there : m.node? number with
    | none =>
        simp only [callLink, there]
        exact of_alike (.refl m)
    | some node =>
        have held : (node.links.find? (·.number == link.number)).getD link = _ := rfl
        rcases callLink_cases there (.acceptRequest r) held with
          ⟨e, failed⟩ | ⟨ended, -, -, -, called⟩
        · rw [failed]
          exact of_alike (.refl m)
        · rw [called]
          exact (serve m node _ r).trans
            (of_alike (alike_modify _ _ (fun _ => rfl) fun _ => rfl))

theorem handTo (m : Mesh) (number : Nat) (name : String) (r : Request) :
    m.SparesOthers r.spiderName (m.handTo number name r).2 := by
  unfold Mesh.handTo
  split
  · show m.SparesOthers r.spiderName (m.onCrawler number (·.accept r)).2
    simp only [onCrawler, change]
    split
    · exact of_alike (.refl m)
    · exact accept ‹_› r
  · exact callNode m number name r

/-- Whatever comes of a call that hands a request over. -/
theorem of_callEnds {caller : Node} {answered : Bool} {outcome : Outcome Reply}
    (ends : m.CallEnds caller name (.acceptRequest r) answered outcome after) :
    m.SparesOthers r.spiderName after := by
  cases ends with
  | @answered link _ _ _ _ _ served alike =>
      have spares := serve m caller link.endpoint r
      rw [served] at spares
      exact spares.trans (of_alike alike)
  | @lost link _ _ _ _ alike => exact (serve m caller link.endpoint r).trans (of_alike alike)
  | unsent alike => exact of_alike alike

end SparesOthers

/-- Picking a member leaves the spiders as they are, and the name of the spider on the request. -/
theorem alike_assign (m : Mesh) (number : Nat) (r : Request) :
    m.Alike (m.assign number r).2.2 ∧ (m.assign number r).2.1.spiderName = r.spiderName := by
  cases there : m.node? number with
  | none =>
      simp only [assign, there]
      exact ⟨.refl m, trivial⟩
  | some node =>
      obtain ⟨⟨distribution, same⟩, noted, renamed⟩ := assign_spec there r
      rw [same, renamed]
      exact ⟨.put there rfl rfl, rfl⟩

theorem spares_distribute (m : Mesh) (number : Nat) (r : Request) :
    m.SparesOthers r.spiderName (m.distribute number r).2 := by
  obtain ⟨alike, named⟩ := m.alike_assign number r
  unfold distribute
  generalize m.assign number r = picked at alike named
  obtain ⟨target, q, middle⟩ := picked
  dsimp only at alike named ⊢
  rw [← named]
  have first := (SparesOthers.of_alike alike).trans
    (SparesOthers.handTo middle number (target.getD (((m.node? number).map Node.name).getD "")) q)
  split
  · rename_i handed
    rw [handed] at first
    exact first
  · rename_i e after handed
    rw [handed] at first
    split
    · exact first.trans (SparesOthers.handTo after number _ { q with nodeName := some _ })
    · exact first

/-- Whichever way a distribution goes, with other things happening meanwhile to links and members. -/
theorem Distributes.spares {way : Way} {outcome : Outcome Unit}
    (distributes : m.Distributes number node r way outcome after) :
    m.SparesOthers r.spiderName after := by
  obtain ⟨alike, named⟩ := m.alike_assign number r
  have picked : m.SparesOthers r.spiderName (m.assign number r).2.2 := .of_alike alike
  have ended {caller : Node} {answered : Bool} {outcome : Outcome Reply} {after : Mesh}
      (ends : (m.assign number r).2.2.CallEnds caller (m.target number node r)
        (.acceptRequest (m.assign number r).2.1) answered outcome after) :
      m.SparesOthers r.spiderName after := picked.trans (named ▸ SparesOthers.of_callEnds ends)
  cases distributes with
  | here => exact picked.trans (named ▸ SparesOthers.handTo _ number node.name _)
  | handed _ _ ends => exact ended ends
  | kept _ _ ends =>
      refine (ended ends).trans ?_
      rw [← named]
      exact SparesOthers.handTo _ number node.name
        { (m.assign number r).2.1 with nodeName := some node.name }
  | dropped _ _ ends => exact ended ends

end Mesh

/-! ## No request gets from one spider to another -/

/-- **Requests stay with the spider they name.**  Let a crawler have begun without spiders and with
the usual factory, over any network, and let anything have happened to it: spiders were added, taken
out and deleted, started, stopped and prepared again, requests were handed to the spiders they name,
and the work went on, all of it in any order and in steps.

* In the session of every spider, every request that waits to enter the pool, is in it, or was taken
  from it and is not downloaded yet names that spider, and so does every request that a response answers
  or an analysis has found.
* Whatever a spider does next, it puts only requests that name it into the queue.
* A request that is distributed over a mesh, whichever way that goes, leaves all spiders of other names
  on all nodes as they were, and a node that is handed it hands it to its spider of that name, or refuses
  it as not found and stays as it is. -/
theorem spiders_keep_their_requests {address : Option Net.SocketAddress} {network : Web.Network}
    {storage : Storage} {size : PoolSize} {c : Crawler} {colony : Colony}
    (made : Crawler.new (Workshop.usualFactory address (Web.downloader network)) storage size = .ok c)
    (run : Relation.ReflTransGen Colony.Happens ⟨c, []⟩ colony) :
    (∀ s, colony.Has s → ∀ session, s.scheduler.session = some session →
        (∀ r ∈ session.requests.waiting, r.spiderName = s.name) ∧
        (∀ r ∈ session.requests.pool.items, r.spiderName = s.name) ∧
        (∀ task ∈ session.downloads, ∀ r, task.unit? = some r → r.spiderName = s.name) ∧
        (∀ response, session.Answered response → response.request.spiderName = s.name) ∧
        ∀ r, session.Found r → r.spiderName = s.name) ∧
      (∀ s, colony.Has s → ∀ d : Spider.Deed, d.Fits colony.crawler.factory s → ∀ t commons,
        s.deed? colony.crawler.commons d = some (t, commons) →
          t.name = s.name ∧ colony.crawler.queue.Fed s.name commons.queue) ∧
      ∀ r : Request,
        (∀ (m : Mesh) (number : Nat), m.SparesOthers r.spiderName (m.distribute number r).2 ∧
          ∀ node way outcome after, m.Distributes number node r way outcome after →
            m.SparesOthers r.spiderName after) ∧
        ∀ node : Node,
          (∃ s, node.crawler.get? r.spiderName = some s ∧ s.name = r.spiderName ∧
            node.answer (.acceptRequest r) =
              (.ok (), { node with crawler := node.crawler.put (s.accept r).2 })) ∨
          node.crawler.get? r.spiderName = none ∧
            node.answer (.acceptRequest r) = (.error (.notFound s!"spider {r.spiderName}"), node) ∧
            (node.reply (.acceptRequest r) (node.answer (.acceptRequest r)).1).outcome =
              .error (.notFound s!"spider {r.spiderName}") := by
  have own := Colony.own_of_run made run
  refine ⟨fun s has session present => ?_, fun s has d fits t commons done => ?_,
    fun r => ⟨fun m number => ⟨m.spares_distribute number r, fun _ _ _ _ => Mesh.Distributes.spares⟩,
      fun node => ?_⟩⟩
  · have belongs := (own.has has).session session present
    refine ⟨fun r waits => ?_, fun r entered => ?_, fun task inHand r about => ?_, belongs.answered,
      belongs.found⟩
    · exact belongs.asked r (Or.inl (Inbox.mem_held.mpr (Or.inl waits)))
    · exact belongs.asked r (Or.inl (Inbox.mem_held.mpr (Or.inr entered)))
    · exact belongs.asked r (Or.inr ⟨task, inHand, about⟩)
  · rw [own.crawler.factory] at fits
    obtain ⟨definition, -, fed⟩ := (own.has has).deed fits done
    exact ⟨congrArg SpiderDefinition.name definition, fed⟩
  · rcases node.answer_acceptRequest r with ⟨gone, refused⟩ | handed
    · rw [refused]
      exact Or.inr ⟨gone, rfl, node.outcome_of_refusal r⟩
    · exact Or.inl handed

/-- A spider that is to begin with one page. -/
def bookShelf : SpiderDefinition :=
  { SpiderDefinition.new "books" with startRequests := [Scheduler.page "first"] }

/-- A crawler with the usual factory and a network that nothing can be reached by. -/
def offlineCrawler : Crawler :=
  ⟨[], .new (.ofFiles [] [] fun _ => default), ⟨⟨50, 20000, [⟨50, []⟩], 0, 0, false⟩, []⟩,
    Workshop.usualFactory none (Web.downloader .unreachable), []⟩

/-- The spider was added and has been started with its first request. -/
def startedColony : Colony := ⟨((offlineCrawler.add bookShelf).2.firstStart "books").2, []⟩

/-- The spider takes its first request on, which names it. -/
theorem spiders_keep_their_requests_books : ∃ colony s session,
    Relation.ReflTransGen Colony.Happens ⟨offlineCrawler, []⟩ colony ∧ colony.Has s ∧
      s.name = "books" ∧ s.scheduler.session = some session ∧
      session.downloads = [.taken { Scheduler.page "first" with spiderName := "books" }] ∧
      ∀ task ∈ session.downloads, ∀ r, task.unit? = some r → r.spiderName = s.name := by
  obtain ⟨s, t, commons, session, there, same, done, named, present, downloads, among⟩ :
      ∃ s t commons session, startedColony.crawler.get? "books" = some s ∧
        s.name = "books" ∧
        s.deed? startedColony.crawler.commons (.move .takeRequest) = some (t, commons) ∧
        t.name = "books" ∧ t.scheduler.session = some session ∧
        session.downloads = [.taken { Scheduler.page "first" with spiderName := "books" }] ∧
        t ∈ ((startedColony.crawler.withCommons commons).put t).spiders :=
    ⟨_, _, _, _, rfl, rfl, rfl, rfl, rfl, rfl, List.mem_cons_self⟩
  rw [← same] at there
  have made : Crawler.new (Workshop.usualFactory none (Web.downloader .unreachable))
      (.ofFiles [] [] fun _ => default) Crawler.usualQueue = .ok offlineCrawler := rfl
  have run : Relation.ReflTransGen Colony.Happens ⟨offlineCrawler, []⟩
      ⟨(startedColony.crawler.withCommons commons).put t, []⟩ :=
    ((Relation.ReflTransGen.single (.add bookShelf)).tail (.use (.act "books" .firstStart))).tail
      (.among (d := .move .takeRequest) there (fun _ _ => trivial) done)
  obtain ⟨keeps, -⟩ := spiders_keep_their_requests made run
  exact ⟨_, t, session, run, Or.inl among, named, present, downloads,
    (keeps t (Or.inl among) session present).2.2.1⟩

end CrawlMesh
