/-
# Members and links of a node

A node keeps its members and its links in two tables, both in ascending order of names.  What happens
to the two is always one of few things (`Node.Turn`): the node at the other end of a new stream becomes
a member, a call over a link ends, or a link is evicted.  Both tables stay in step then
(`Node.InStep.turn`): every member other than the node itself is the peer of the link of its name, and
there are no other links.

A link is known by its number.  What a call makes of it never changes its number, its peer or where it
leads (`Link.same_moves`), and only a call that fails breaks it (`Link.broken_moves`).
-/
import CrawlMesh.Proofs.Keyed
import CrawlMesh.Proofs.Mesh.Delivery
import CrawlMesh.Proofs.Mesh.Replies

namespace CrawlMesh

set_option autoImplicit false

/-! ## Members and links by name -/

namespace Membership

theorem insertNode_eq (node : NodeInfo) (members : List NodeInfo) :
    insertNode node members = Keyed.insert (·.name) node members := by
  induction members with
  | nil => rfl
  | cons n rest ih => simp only [insertNode, Keyed.insert, ih]

theorem get?_insert (m : Membership) (node : NodeInfo) (name : String) :
    (m.insert node).get? name = if node.name = name then some node else m.get? name := by
  rw [get?, insert, insertNode_eq]
  exact Keyed.find?_insert node m.members name

theorem get?_erase (m : Membership) (gone name : String) :
    (m.erase gone).get? name = if gone = name then none else m.get? name :=
  Keyed.find?_filter gone m.members name

end Membership

/-- A link that has changed in its calls alone, and may be broken. -/
structure Link.Same (l after : Link) : Prop where
  number : after.number = l.number
  peer : after.peer = l.peer
  endpoint : after.endpoint = l.endpoint

namespace Link

variable {l after : Link}

theorem Same.trans {last : Link} (first : l.Same after) (second : after.Same last) : l.Same last :=
  ⟨second.number.trans first.number, second.peer.trans first.peer,
    second.endpoint.trans first.endpoint⟩

theorem same_move {m : LinkMove} (step : l.move? m = some after) : l.Same after := by
  cases m with
  | arrive =>
      cases step
      exact ⟨rfl, rfl, rfl⟩
  | look call =>
      obtain ⟨-, rfl⟩ := move?_look step
      exact ⟨rfl, rfl, rfl⟩
  | hold call =>
      obtain ⟨-, -, rfl⟩ := move?_hold step
      exact ⟨rfl, rfl, rfl⟩
  | write call =>
      obtain ⟨-, rfl⟩ := move?_write step
      exact ⟨rfl, rfl, rfl⟩
  | answer reply =>
      obtain ⟨-, -, -, rfl⟩ := move?_answer step
      exact ⟨rfl, rfl, rfl⟩
  | read call =>
      obtain ⟨-, -, -, -, -, rfl⟩ := move?_read step
      exact ⟨rfl, rfl, rfl⟩
  | fail call error =>
      obtain ⟨-, rfl⟩ := move?_fail step
      exact ⟨rfl, rfl, rfl⟩

theorem same_moves (l : Link) (moves : List LinkMove) : l.Same (l.moves moves) := by
  induction moves generalizing l with
  | nil => exact ⟨rfl, rfl, rfl⟩
  | cons m rest ih =>
      simp only [Link.moves]
      split
      · rename_i next step
        exact (same_move step).trans (ih next)
      · exact ⟨rfl, rfl, rfl⟩

/-- Only a call that fails breaks a link. -/
theorem broken_of_move {m : LinkMove} (step : l.move? m = some after) :
    after.broken = l.broken ∨ ∃ call error, m = .fail call error := by
  cases m with
  | arrive =>
      cases step
      exact Or.inl rfl
  | look call =>
      obtain ⟨-, rfl⟩ := move?_look step
      exact Or.inl rfl
  | hold call =>
      obtain ⟨-, -, rfl⟩ := move?_hold step
      exact Or.inl rfl
  | write call =>
      obtain ⟨-, rfl⟩ := move?_write step
      exact Or.inl rfl
  | answer reply =>
      obtain ⟨-, -, -, rfl⟩ := move?_answer step
      exact Or.inl rfl
  | read call =>
      obtain ⟨-, -, -, -, -, rfl⟩ := move?_read step
      exact Or.inl rfl
  | fail call error => exact Or.inr ⟨call, error, rfl⟩

theorem broken_moves (l : Link) (moves : List LinkMove)
    (none : ∀ m ∈ moves, ∀ call error, m ≠ .fail call error) : (l.moves moves).broken = l.broken := by
  induction moves generalizing l with
  | nil => rfl
  | cons m rest ih =>
      obtain ⟨first, others⟩ := List.forall_mem_cons.mp none
      simp only [Link.moves]
      split
      · rename_i next step
        obtain same | ⟨call, error, failed⟩ := broken_of_move step
        · rw [ih next others, same]
        · exact absurd failed (first call error)
      · rfl

/-- What a call that waits and is not answered ends with is no reply. -/
theorem outcome?_finish_error (call : Nat) (e : CrawlError)
    (waiting : l.calls[call]? = some .waiting) :
    (l.finish call (.error e)).outcome? call = some (.error e) ∨
      (l.finish call (.error e)).outcome? call = none := by
  by_cases free : l.holder = none
  · left
    obtain ⟨lt, waits⟩ := List.getElem?_eq_some_iff.mp waiting
    simp [finish, moves, move?, outcome?, setCall, waits, free, lt]
  · right
    obtain ⟨holder, held⟩ := Option.ne_none_iff_exists'.mp free
    simp [finish, moves, move?, outcome?, waiting, held]

/-- A call of its own on a link that is not broken leaves the link unbroken if it is answered. -/
theorem finish_begin_spec (unbroken : l.broken = false) (reply : Outcome Reply) :
    l.Same (l.begin.finish l.calls.length reply).forget ∧
      ((((l.begin.finish l.calls.length reply).outcome? l.calls.length).getD reply).isOk = true →
        (l.begin.finish l.calls.length reply).forget.broken = false) := by
  have begun : l.Same l.begin := same_moves l _
  have waiting : l.begin.calls[l.calls.length]? = some .waiting := by
    simp [begin_of_unbroken unbroken]
  cases reply with
  | ok reply =>
      have ended : l.begin.Same (l.begin.finish l.calls.length (.ok reply)) := same_moves l.begin _
      refine ⟨begun.trans ⟨ended.number, ended.peer, ended.endpoint⟩, fun _ => ?_⟩
      have kept : (l.begin.finish l.calls.length (.ok reply)).broken = l.begin.broken :=
        broken_moves l.begin _ (by simp)
      rw [forget, kept, begin_of_unbroken unbroken]
      exact unbroken
  | error e =>
      have ended : l.begin.Same (l.begin.finish l.calls.length (.error e)) := same_moves l.begin _
      refine ⟨begun.trans ⟨ended.number, ended.peer, ended.endpoint⟩, fun answered => ?_⟩
      rcases outcome?_finish_error l.calls.length e waiting with failed | open_
      · rw [failed] at answered
        cases answered
      · rw [open_] at answered
        cases answered

end Link

/-! ## What happens to a node -/

namespace Node

variable {n : Node} {name : String}

theorem insertLink_eq (link : Link) (links : List Link) :
    insertLink link links = Keyed.insert (·.peer.name) link links := by
  induction links with
  | nil => rfl
  | cons l rest ih => simp only [insertLink, Keyed.insert, ih]

theorem link?_hold (n : Node) (link : Link) (name : String) :
    (n.hold link).link? name = if link.peer.name = name then some link else n.link? name := by
  rw [link?, hold, insertLink_eq]
  exact Keyed.find?_insert link n.links name

theorem get?_know (n : Node) (peer : NodeInfo) (name : String) :
    (n.know peer).membership.get? name =
      if peer.name = name then some peer else n.membership.get? name :=
  n.membership.get?_insert peer name

theorem link?_adopt (n : Node) (link : Link) (name : String) :
    (n.adopt link).link? name = if link.peer.name = name then some link else n.link? name :=
  n.link?_hold link name

theorem get?_adopt (n : Node) (link : Link) (name : String) :
    (n.adopt link).membership.get? name =
      if link.peer.name = name then some link.peer else n.membership.get? name :=
  (n.hold link).get?_know link.peer name

/-- A link that is evicted is the one that the node has to the peer, and goes together with the
member. Otherwise nothing changes. -/
theorem evict_spec (n : Node) (link : Link) :
    ((n.evict link).2 = n ∧ ∀ l, n.link? link.peer.name = some l → l.number ≠ link.number) ∨
    ((∃ l, n.link? link.peer.name = some l ∧ l.number = link.number) ∧
      (n.evict link).2 = { n with
        links := n.links.filter (·.peer.name != link.peer.name)
        membership := n.membership.erase link.peer.name }) := by
  unfold evict
  cases linked : n.link? link.peer.name with
  | none => exact Or.inl ⟨rfl, by simp⟩
  | some l =>
      by_cases same : l.number = link.number
      · right
        exact ⟨⟨l, rfl, same⟩, by simp [same]⟩
      · left
        refine ⟨by simp [same], ?_⟩
        intro other found
        cases found
        exact same

theorem link?_evict (n : Node) (link : Link) (name : String) :
    (n.evict link).2.link? name = n.link? name ∨
      (link.peer.name = name ∧ (n.evict link).2.link? name = none ∧
        ∃ l, n.link? name = some l ∧ l.number = link.number) := by
  rcases n.evict_spec link with ⟨same, -⟩ | ⟨⟨l, linked, number⟩, gone⟩
  · exact Or.inl (by rw [same])
  · rw [gone, link?, Keyed.find?_filter]
    by_cases named : link.peer.name = name
    · subst named
      exact Or.inr ⟨rfl, if_pos rfl, l, linked, number⟩
    · exact Or.inl (if_neg named)

/-- What happens to the members and links of a node of a number, where the next link gets a number:
nothing, or the node at the other end of a new stream becomes a member, a call over a link ends, or a
link is evicted. Other nodes may take the next numbers. -/
inductive Turn (number clock : Nat) (n : Node) : Nat → Node → Prop
  | rest {later : Nat} (le : clock ≤ later) : Turn number clock n later n
  | meet {peer : NodeInfo} {k later : Nat} (other : peer.name ≠ n.name) (away : k ≠ number)
      (lt : clock < later) : Turn number clock n later (n.adopt (.new clock peer (.node k)))
  | call {link ended : Link} {later : Nat} (kept : link ∈ n.links) (same : link.Same ended)
      (le : clock ≤ later) : Turn number clock n later (n.updateLink ended)
  | evict (link : Link) : Turn number clock n clock (n.evict link).2

/-! ### Numbers of links -/

/-- The links of a node are in ascending order of the names of their peers, and have numbers of their
own, below the number of the next link. -/
structure Numbered (clock : Nat) (n : Node) : Prop where
  ascending : Keyed.Ascending (fun l : Link => l.peer.name) n.links
  distinct : (n.links.map (·.number)).Nodup
  below : ∀ l ∈ n.links, l.number < clock

namespace Numbered

variable {clock later : Nat} {next : Node} {link ended : Link}

theorem mono (numbered : n.Numbered clock) (le : clock ≤ later) : n.Numbered later :=
  { numbered with below := fun l among => lt_of_lt_of_le (numbered.below l among) le }

theorem congr (numbered : n.Numbered clock) (links : next.links = n.links) : next.Numbered clock := by
  refine ⟨?_, ?_, ?_⟩ <;> rw [links]
  exacts [numbered.ascending, numbered.distinct, numbered.below]

theorem link_eq (numbered : n.Numbered clock) (kept : link ∈ n.links) {l : Link}
    (among : l ∈ n.links) (same : l.number = link.number) : l = link :=
  List.inj_on_of_nodup_map numbered.distinct among kept same

theorem find?_number (numbered : n.Numbered clock) (kept : link ∈ n.links) :
    n.links.find? (·.number == link.number) = some link := by
  cases found : n.links.find? (·.number == link.number) with
  | none =>
      have missing := List.find?_eq_none.mp found link kept
      simp at missing
  | some l =>
      have same : l.number = link.number := by simpa using List.find?_some found
      rw [numbered.link_eq kept (List.mem_of_find?_eq_some found) same]

/-- A link that a node keeps is the one that it has to the peer. -/
theorem link?_eq (numbered : n.Numbered clock) (kept : link ∈ n.links) :
    n.link? link.peer.name = some link :=
  numbered.ascending.find?_eq kept

theorem adopt (numbered : n.Numbered clock) (peer : NodeInfo) (endpoint : Endpoint) :
    (n.adopt (.new clock peer endpoint)).Numbered (clock + 1) := by
  refine ⟨?_, ?_, ?_⟩ <;> rw [Node.adopt, know, hold, insertLink_eq]
  · exact numbered.ascending.insert
  · refine List.pairwise_map.mpr
      (Keyed.pairwise_insert (List.pairwise_map.mp numbered.distinct) ?_ ?_)
    · intro l kept
      exact (ne_of_lt (numbered.below l kept)).symm
    · intro l kept
      exact ne_of_lt (numbered.below l kept)
  · intro l member
    rcases Keyed.mem_insert member with rfl | kept
    · exact Nat.lt_succ_self clock
    · exact Nat.lt_succ_of_lt (numbered.below l kept)

/-- A link that takes the place of the one of its number changes none otherwise. -/
theorem same_replaced (numbered : n.Numbered clock) (kept : link ∈ n.links) (same : link.Same ended)
    {l : Link} (among : l ∈ n.links) : l.Same (if l.number == ended.number then ended else l) := by
  by_cases its : l.number = ended.number
  · rw [if_pos (by simpa using its), numbered.link_eq kept among (its.trans same.number)]
    exact same
  · rw [if_neg (by simpa using its)]
    exact ⟨rfl, rfl, rfl⟩

theorem link?_updateLink (numbered : n.Numbered clock) (kept : link ∈ n.links)
    (same : link.Same ended) (name : String) : (n.updateLink ended).link? name =
      (n.link? name).map fun l => if l.number == ended.number then ended else l := by
  have names : ∀ l ∈ n.links, ((·.peer.name == name) ∘ fun l : Link =>
      if l.number == ended.number then ended else l) l = (l.peer.name == name) := by
    intro l among
    rw [Function.comp, (numbered.same_replaced kept same among).peer]
  unfold link?
  rw [updateLink, List.find?_map, List.find?_congr names]

theorem updateLink (numbered : n.Numbered clock) (kept : link ∈ n.links) (same : link.Same ended) :
    (n.updateLink ended).Numbered clock := by
  have keeps {l : Link} (among : l ∈ n.links) := numbered.same_replaced kept same among
  refine ⟨?_, ?_, ?_⟩
  · refine List.pairwise_map.mpr (numbered.ascending.imp_of_mem ?_)
    intro l other among amongToo lt
    simpa only [(keeps among).peer, (keeps amongToo).peer] using lt
  · have numbers : (n.updateLink ended).links.map (·.number) = n.links.map (·.number) := by
      rw [Node.updateLink, List.map_map]
      exact List.map_congr_left fun l among => (keeps among).number
    rw [numbers]
    exact numbered.distinct
  · intro l member
    obtain ⟨old, among, rfl⟩ := List.mem_map.mp member
    rw [(keeps among).number]
    exact numbered.below old among

theorem evict (numbered : n.Numbered clock) (link : Link) : (n.evict link).2.Numbered clock := by
  rcases n.evict_spec link with ⟨same, -⟩ | ⟨-, gone⟩
  · rw [same]
    exact numbered
  · rw [gone]
    exact ⟨numbered.ascending.filter _, numbered.distinct.sublist (List.filter_sublist.map _),
      fun l member => numbered.below l (List.mem_filter.mp member).1⟩

end Numbered

/-! ### Members and links in step -/

/-- Members and links in step: a node is a member of its own view and has no link to itself, every
other member is the peer of the link of its name, and there are no other links. No link leads back to
the node. -/
structure InStep (number clock : Nat) (n : Node) : Prop where
  own : n.membership.get? n.name = some n.info
  apart : n.link? n.name = none
  others : ∀ name, name ≠ n.name → n.membership.get? name = (n.link? name).map (·.peer)
  members : Keyed.Ascending NodeInfo.name n.membership.members
  numbered : n.Numbered clock
  away : ∀ l ∈ n.links, l.endpoint ≠ .node number

namespace InStep

variable {number clock later : Nat} {next : Node} {link ended : Link}

theorem mono (inStep : n.InStep number clock) (le : clock ≤ later) : n.InStep number later :=
  { inStep with numbered := inStep.numbered.mono le }

theorem peer_ne (inStep : n.InStep number clock) (kept : link ∈ n.links) :
    link.peer.name ≠ n.name := by
  intro own
  have linked := inStep.numbered.link?_eq kept
  rw [own, inStep.apart] at linked
  cases linked

theorem adopt (inStep : n.InStep number clock) {peer : NodeInfo} {k : Nat}
    (other : peer.name ≠ n.name) (away : k ≠ number) :
    (n.adopt (.new clock peer (.node k))).InStep number (clock + 1) := by
  refine ⟨?_, ?_, ?_, ?_, inStep.numbered.adopt peer (.node k), ?_⟩
  · rw [get?_adopt, if_neg (by exact other)]
    exact inStep.own
  · rw [link?_adopt, if_neg (by exact other)]
    exact inStep.apart
  · intro name distinct
    rw [get?_adopt, link?_adopt]
    split
    · rfl
    · exact inStep.others name distinct
  · rw [Node.adopt, know, Membership.insert, Membership.insertNode_eq]
    exact inStep.members.insert
  · intro l member
    rw [Node.adopt, know, hold, insertLink_eq] at member
    rcases Keyed.mem_insert member with rfl | kept
    · exact fun same => away (Endpoint.node.inj same)
    · exact inStep.away l kept

theorem updateLink (inStep : n.InStep number clock) (kept : link ∈ n.links)
    (same : link.Same ended) : (n.updateLink ended).InStep number clock := by
  have found := inStep.numbered.link?_updateLink kept same
  refine ⟨inStep.own, ?_, ?_, inStep.members, inStep.numbered.updateLink kept same, ?_⟩
  · exact (found n.name).trans (by rw [inStep.apart]; rfl)
  · intro name distinct
    rw [found]
    refine (inStep.others name distinct).trans ?_
    cases linked : n.link? name with
    | none => rfl
    | some l =>
        have among : l ∈ n.links := List.mem_of_find?_eq_some linked
        exact congrArg some (inStep.numbered.same_replaced kept same among).peer.symm
  · intro l member
    obtain ⟨old, among, rfl⟩ := List.mem_map.mp member
    rw [(inStep.numbered.same_replaced kept same among).endpoint]
    exact inStep.away old among

theorem evict (inStep : n.InStep number clock) (link : Link) :
    (n.evict link).2.InStep number clock := by
  have numbered := inStep.numbered.evict link
  rcases n.evict_spec link with ⟨same, -⟩ | ⟨⟨l, linked, -⟩, gone⟩
  · rw [same]
    exact inStep
  · rw [gone] at numbered ⊢
    have named : l.peer.name = link.peer.name := by simpa using List.find?_some linked
    have other : link.peer.name ≠ n.name :=
      named ▸ inStep.peer_ne (List.mem_of_find?_eq_some linked)
    refine ⟨?_, ?_, ?_, inStep.members.filter _, numbered,
      fun l member => inStep.away l (List.mem_filter.mp member).1⟩
    · exact (n.membership.get?_erase link.peer.name n.name).trans
        ((if_neg other).trans inStep.own)
    · exact (Keyed.find?_filter link.peer.name n.links n.name).trans
        ((if_neg other).trans inStep.apart)
    · intro name distinct
      rw [Membership.get?_erase, link?, Keyed.find?_filter]
      split
      · rfl
      · exact inStep.others name distinct

theorem congr (inStep : n.InStep number clock) (info : next.info = n.info)
    (links : next.links = n.links) (membership : next.membership = n.membership) :
    next.InStep number clock := by
  refine ⟨?_, ?_, ?_, ?_, inStep.numbered.congr links, ?_⟩ <;>
    simp only [name, link?, info, links, membership]
  exacts [inStep.own, inStep.apart, inStep.others, inStep.members, inStep.away]

/-- A node that knows of itself alone has its members and links in step. -/
theorem alone (links : n.links = []) (members : n.membership.members = [n.info]) :
    n.InStep number clock := by
  refine ⟨?_, ?_, ?_, ?_, ⟨?_, ?_, ?_⟩, ?_⟩
  · simp [Membership.get?, members, name]
  · simp [link?, links]
  · intro name distinct
    have other : ¬ n.info.name = name := fun same => distinct same.symm
    simp [Membership.get?, members, link?, links, other]
  · rw [members]
    exact List.pairwise_singleton _ _
  · rw [links]
    exact List.Pairwise.nil
  · rw [links]
    exact List.Pairwise.nil
  · simp [links]
  · simp [links]

/-- The names of the members are the name of the node and those of the peers it has links to. -/
theorem perm (inStep : n.InStep number clock) :
    (n.membership.members.map (·.name)).Perm (n.name :: n.connected) := by
  have apart : n.name ∉ n.connected := by
    intro linked
    obtain ⟨l, found⟩ := Keyed.mem_keys_iff.mp linked
    cases inStep.apart.symm.trans found
  refine (List.perm_ext_iff_of_nodup inStep.members.nodup
    (List.nodup_cons.mpr ⟨apart, inStep.numbered.ascending.nodup⟩)).mpr fun name => ?_
  rw [Keyed.mem_keys_iff, List.mem_cons]
  by_cases own : name = n.name
  · exact ⟨fun _ => Or.inl own, fun _ => ⟨n.info, own ▸ inStep.own⟩⟩
  · have same := inStep.others name own
    constructor
    · rintro ⟨info, found⟩
      obtain ⟨l, linked, -⟩ := Option.map_eq_some_iff.mp (same.symm.trans found)
      exact Or.inr (Keyed.mem_keys_iff.mpr ⟨l, linked⟩)
    · rintro (its | linked)
      · exact absurd its own
      · obtain ⟨l, found⟩ := Keyed.mem_keys_iff.mp linked
        exact ⟨l.peer, same.trans (congrArg (Option.map (·.peer)) found)⟩

/-- Whatever happens to a node, its members and links stay in step. -/
theorem turn (inStep : n.InStep number clock) (turn : n.Turn number clock later next) :
    next.InStep number later := by
  cases turn with
  | rest le => exact inStep.mono le
  | meet other away lt => exact (inStep.adopt other away).mono lt
  | call kept same le => exact (inStep.updateLink kept same).mono le
  | evict link => exact inStep.evict link

end InStep

end Node

end CrawlMesh
