/-
# Joining is mutual

Several nodes may join a mesh at a time, call by call, and their calls may come in any order.  A node
that connects to a member has it at once, and the member has the node only when it is asked to let it
in.  `Gathering.Sound` says that nothing else stands between the two: if a node has another one that
does not have it, then it is about to ask it.  Every call that is answered keeps this
(`Gathering.Sound.next`), so when no join is left each of two nodes has the other or neither has
(`Gathering.joins_mutual`), and a node that has joined has all members it was told of.  A join that
nothing else happens in is a whole one (`Gathering.joinAt_of_run`).

In a mesh where no two nodes have one name, and each answers at its own address, links lead to the
nodes whose names they bear (`Mesh.Orderly`).  What a join does to such a mesh is made of three moves:
nothing, a link more, and a call over a link.  None of them takes a member away (`Mesh.Grows.rest`,
`Mesh.Grows.meet`, `Mesh.Grows.call`).
-/
import CrawlMesh.Proofs.Mesh.Histories

namespace CrawlMesh

set_option autoImplicit false

/-! ## Who has whom -/

/-- A call alone on a link at rest leaves it at rest. -/
theorem Link.atRest_finish {l : Link} (rest : l.AtRest) (unbroken : l.broken = false)
    (reply : Outcome Reply) : (l.begin.finish l.calls.length reply).forget.AtRest := by
  obtain broken | ⟨free, unanswered, replies⟩ := rest
  · cases unbroken.symm.trans broken
  · rw [begin_of_unbroken unbroken]
    cases reply with
    | ok reply => simp [finish, moves, move?, setCall, free, unanswered, replies, forget, AtRest]
    | error e => simp [finish, moves, move?, setCall, free, forget, AtRest]

namespace Node

variable {n : Node} {number clock : Nat} {link ended : Link}

theorem isConnected_iff {name : String} :
    n.isConnected name = true ↔ ∃ l, n.link? name = some l ∧ l.broken = false := by
  unfold isConnected
  cases n.link? name <;> simp

/-- A node has another one as a connected member. -/
def Has (n : Node) (info : NodeInfo) : Prop :=
  n.isConnected info.name = true ∧ n.membership.get? info.name = some info

theorem has_adopt (n : Node) (clock : Nat) (peer : NodeInfo) (endpoint : Endpoint)
    (info : NodeInfo) : (n.adopt (.new clock peer endpoint)).Has info ↔
      peer = info ∨ (peer.name ≠ info.name ∧ n.Has info) := by
  rw [Has, Has, isConnected_iff, isConnected_iff, link?_adopt, get?_adopt]
  by_cases named : (Link.new clock peer endpoint).peer.name = info.name
  · rw [if_pos named, if_pos named]
    constructor
    · exact fun has => Or.inl (Option.some.inj has.2)
    · rintro (rfl | ⟨other, -⟩)
      · exact ⟨⟨_, rfl, rfl⟩, rfl⟩
      · exact absurd named other
  · have other : peer ≠ info := fun same => named (congrArg NodeInfo.name same)
    have distinct : peer.name ≠ info.name := named
    rw [if_neg named, if_neg named]
    simp only [other, false_or, ne_eq, distinct, not_false_eq_true, true_and]

/-- A call over a link that is not broken afterwards changes nothing about whom a node has. -/
theorem has_updateLink (numbered : n.Numbered clock) (kept : link ∈ n.links)
    (same : link.Same ended) (before : link.broken = false) (after : ended.broken = false)
    (info : NodeInfo) : (n.updateLink ended).Has info ↔ n.Has info := by
  refine and_congr_left fun _ => ?_
  rw [isConnected_iff, isConnected_iff, numbered.link?_updateLink kept same]
  cases linked : n.link? info.name with
  | none => simp
  | some l =>
      have state : (if l.number == ended.number then ended else l).broken = l.broken := by
        split
        · rename_i its
          have own : l = link := numbered.link_eq kept (List.mem_of_find?_eq_some linked)
            ((beq_iff_eq.mp its).trans same.number)
          rw [after, own, before]
        · rfl
      simp only [Option.map_some, Option.some.injEq, exists_eq_left', state]

end Node

namespace Mesh

variable {m after : Mesh} {number x y : Nat} {node next nx ny : Node} {address : String}
  {info : NodeInfo}

/-- A node of the mesh is the one of some identity. -/
def Hosts (m : Mesh) (x : Nat) (info : NodeInfo) : Prop :=
  ∃ node, m.node? x = some node ∧ node.info = info

theorem Hosts.unique {other : NodeInfo} (first : m.Hosts x info) (second : m.Hosts x other) :
    info = other := by
  obtain ⟨node, there, rfl⟩ := first
  obtain ⟨same, present, rfl⟩ := second
  cases there.symm.trans present
  rfl

/-- A node of the mesh has a connected member. -/
def HasMember (m : Mesh) (x : Nat) (info : NodeInfo) : Prop :=
  ∃ node, m.node? x = some node ∧ node.Has info

/-- A node of the mesh has another one as a connected member. -/
def Has (m : Mesh) (x y : Nat) : Prop := ∃ info, m.Hosts y info ∧ m.HasMember x info

/-- Of two nodes each has the other as a connected member, or neither has. -/
def Mutual (m : Mesh) : Prop := ∀ x y, m.Has x y → m.Has y x

/-- The nodes of these numbers are in the mesh, and each has all others as connected members. -/
def Full (m : Mesh) (nodes : List Nat) : Prop :=
  ∀ x ∈ nodes, (∃ info, m.Hosts x info) ∧ ∀ y ∈ nodes, y ≠ x → m.Has x y

/-! ## What stays -/

/-- The places where nodes listen. -/
def sockets (m : Mesh) : List (Nat × Net.SocketAddress) :=
  m.nodes.map fun entry => (entry.1, entry.2.listens)

theorem listener_eq (m : Mesh) (a : Net.SocketAddress) : m.listener a =
    if !m.reaches a then .error .unreachable
    else match m.sockets.find? (·.2 == a) with
      | some (k, _) => .ok (.node k)
      | none => if m.mute.any (·.2 == a) then .ok .mute else .error .refused := by
  have same : m.sockets.find? (·.2 == a) =
      (m.nodes.find? (·.2.listens == a)).map fun entry => (entry.1, entry.2.listens) :=
    List.find?_map
  unfold listener
  rw [same]
  cases m.nodes.find? (·.2.listens == a) <;> rfl

/-- Who the nodes are and where they listen is as it was, and so is what can be reached. -/
structure Steady (m after : Mesh) : Prop where
  places : after.places = m.places
  nodes : ∀ k, (after.node? k).map (fun n => (n.info, n.listens)) =
    (m.node? k).map fun n => (n.info, n.listens)

namespace Steady

theorem refl (m : Mesh) : m.Steady m := ⟨rfl, fun _ => rfl⟩

theorem trans {middle : Mesh} (first : m.Steady middle) (second : middle.Steady after) :
    m.Steady after :=
  ⟨second.places.trans first.places, fun k => (second.nodes k).trans (first.nodes k)⟩

theorem symm (steady : m.Steady after) : after.Steady m :=
  ⟨steady.places.symm, fun k => (steady.nodes k).symm⟩

theorem node? (steady : m.Steady after) (there : m.node? x = some node) :
    ∃ next, after.node? x = some next ∧ next.info = node.info := by
  have same := steady.nodes x
  rw [there] at same
  obtain ⟨next, now, pair⟩ := Option.map_eq_some_iff.mp same
  exact ⟨next, now, (Prod.mk.inj pair).1⟩

theorem hosts (steady : m.Steady after) (hosts : m.Hosts x info) : after.Hosts x info := by
  obtain ⟨node, there, rfl⟩ := hosts
  exact steady.node? there

theorem numbers (steady : m.Steady after) : after.nodes.map (·.1) = m.nodes.map (·.1) :=
  congrArg Prod.fst steady.places

end Steady

theorem sockets_eq {before now : List (Nat × Node)} (numbers : now.map (·.1) = before.map (·.1))
    (distinct : (before.map (·.1)).Nodup)
    (nodes : ∀ k, (now.find? (·.1 == k)).map (·.2.listens) =
      (before.find? (·.1 == k)).map (·.2.listens)) :
    now.map (fun entry => (entry.1, entry.2.listens)) =
      before.map fun entry => (entry.1, entry.2.listens) := by
  induction before generalizing now with
  | nil => rw [List.map_eq_nil_iff.mp numbers]
  | cons e rest ih =>
      obtain ⟨other, others, rfl, same, numbers⟩ := List.map_eq_cons_iff.mp numbers
      obtain ⟨fresh, distinct⟩ := List.nodup_cons.mp distinct
      have first := nodes e.1
      simp only [same, beq_self_eq_true, List.find?_cons_of_pos, Option.map_some,
        Option.some.injEq] at first
      refine List.cons_eq_cons.mpr ⟨Prod.ext same first, ih numbers distinct fun k => ?_⟩
      by_cases its : e.1 = k
      · subst its
        have absent {entries : List (Nat × Node)} (missing : e.1 ∉ entries.map (·.1)) :
            entries.find? (·.1 == e.1) = none := by
          refine List.find?_eq_none.mpr fun entry among named => ?_
          exact missing (List.mem_map.mpr ⟨entry, among, by simpa using named⟩)
        rw [absent fresh, absent (numbers ▸ fresh)]
      · have skipped := nodes k
        rwa [List.find?_cons_of_neg (by simpa [same] using its),
          List.find?_cons_of_neg (by simpa using its)] at skipped

/-- What is dialled does not depend on what else has become of the nodes. -/
theorem Steady.dial (steady : m.Steady after) (distinct : (m.nodes.map (·.1)).Nodup)
    (address : String) : after.dial address = m.dial address := by
  have sockets : after.sockets = m.sockets := by
    refine sockets_eq steady.numbers distinct fun k => ?_
    have same := congrArg (Option.map Prod.snd) (steady.nodes k)
    simpa [Mesh.node?, Option.map_map, Function.comp_def] using same
  have mute : after.mute = m.mute := congrArg (·.2.1) steady.places
  have reaches : after.reaches = m.reaches := congrArg (·.2.2) steady.places
  have listener : after.listener = m.listener := by
    funext a
    rw [listener_eq, listener_eq, sockets, mute, reaches]
  unfold Mesh.dial
  rw [listener]

/-! ## Orderly meshes -/

/-- A link at rest that bears the identity of a node.  No other node is at its other end. -/
structure Fits (m : Mesh) (l : Link) : Prop where
  atRest : l.AtRest
  known : ∃ j, m.Hosts j l.peer
  ends : ∀ {j peer}, l.endpoint = .node j → m.node? j = some peer → peer.info = l.peer

theorem Fits.steady {l : Link} (fits : m.Fits l) (steady : m.Steady after) : after.Fits l where
  atRest := fits.atRest
  known := fits.known.imp fun _ => steady.hosts
  ends leads present := by
    obtain ⟨old, before, same⟩ := steady.symm.node? present
    exact same ▸ fits.ends leads before

/-- A mesh of nodes of different names, each of which answers at its own address.  What they know of
each other is right: members and links are in step, and every link bears the identity of a node and
leads to no other one.  No call is on its way. -/
structure Orderly (m : Mesh) : Prop where
  numbers : (m.nodes.map (·.1)).Nodup
  names : ∀ {j k a b}, m.node? j = some a → m.node? k = some b → a.name = b.name → j = k
  reachable : ∀ {k node}, m.node? k = some node → m.dial node.info.address = .ok (.node k)
  inStep : ∀ {k node}, m.node? k = some node → node.InStep k m.nextLink
  fits : ∀ {k node}, m.node? k = some node → ∀ l ∈ node.links, m.Fits l

namespace Orderly

/-- A mesh of nodes that know of themselves alone is orderly. -/
theorem alone (numbers : (m.nodes.map (·.1)).Nodup) (names : (m.nodes.map (·.2.name)).Nodup)
    (reachable : ∀ entry ∈ m.nodes, m.dial entry.2.info.address = .ok (.node entry.1))
    (links : ∀ entry ∈ m.nodes, entry.2.links = [])
    (members : ∀ entry ∈ m.nodes, entry.2.membership.members = [entry.2.info]) :
    m.Orderly ∧ m.Mutual := by
  have among {k : Nat} {node : Node} (there : m.node? k = some node) : (k, node) ∈ m.nodes := by
    obtain ⟨⟨j, n⟩, found, rfl⟩ := Option.map_eq_some_iff.mp there
    obtain rfl : j = k := by simpa using List.find?_some found
    exact List.mem_of_find?_eq_some found
  have unlinked {k : Nat} {node : Node} (there : m.node? k = some node) (l : Link) :
      l ∉ node.links := by
    have none : node.links = [] := links (k, node) (among there)
    rw [none]
    exact List.not_mem_nil
  refine ⟨⟨numbers, ?_, fun {k node} there => reachable (k, node) (among there),
    fun {k node} there =>
      Node.InStep.alone (links (k, node) (among there)) (members (k, node) (among there)),
    fun there l kept => (unlinked there l kept).elim⟩, ?_⟩
  · intro j k a b first second named
    have same : (j, a) = (k, b) :=
      List.inj_on_of_nodup_map names (among first) (among second) named
    exact congrArg Prod.fst same
  · rintro x y ⟨info, -, node, there, connected, -⟩
    obtain ⟨l, linked, -⟩ := Node.isConnected_iff.mp connected
    exact (unlinked there l (List.mem_of_find?_eq_some linked)).elim

/-- Two identities of one name are the same. -/
theorem hosts_unique (orderly : m.Orderly) {other : NodeInfo} (first : m.Hosts x info)
    (second : m.Hosts y other) (named : info.name = other.name) : x = y ∧ info = other := by
  obtain ⟨a, there, rfl⟩ := first
  obtain ⟨b, present, rfl⟩ := second
  have same := orderly.names there present named
  subst same
  cases there.symm.trans present
  exact ⟨rfl, rfl⟩

/-- Every member of a node is a node of the mesh. -/
theorem hosts_member (orderly : m.Orderly) (there : m.node? x = some nx)
    (member : info ∈ nx.membership.members) : ∃ k, m.Hosts k info := by
  have inStep := orderly.inStep there
  have found : nx.membership.get? info.name = some info := inStep.members.find?_eq member
  by_cases own : info.name = nx.name
  · rw [own, inStep.own] at found
    exact ⟨x, nx, there, Option.some.inj found⟩
  · rw [inStep.others _ own] at found
    obtain ⟨l, linked, rfl⟩ := Option.map_eq_some_iff.mp found
    exact (orderly.fits there l (List.mem_of_find?_eq_some linked)).known

/-- What a node is connected to under the name of another node is that node. -/
theorem link_of_connected (orderly : m.Orderly) (there : m.node? x = some nx)
    (hosted : m.Hosts y info) (connected : nx.isConnected info.name = true) :
    ∃ l, nx.link? info.name = some l ∧ l.broken = false ∧ l.peer = info := by
  obtain ⟨l, linked, unbroken⟩ := Node.isConnected_iff.mp connected
  obtain ⟨k, its⟩ := (orderly.fits there l (List.mem_of_find?_eq_some linked)).known
  have named : l.peer.name = info.name := by simpa using List.find?_some linked
  exact ⟨l, linked, unbroken, (orderly.hosts_unique its hosted named).2⟩

theorem has_of_connected (orderly : m.Orderly) (there : m.node? x = some nx)
    (hosted : m.Hosts y info) (connected : nx.isConnected info.name = true) : nx.Has info := by
  obtain ⟨l, linked, -, rfl⟩ := orderly.link_of_connected there hosted connected
  have other := (orderly.inStep there).peer_ne (List.mem_of_find?_eq_some linked)
  refine ⟨connected, ?_⟩
  rw [(orderly.inStep there).others _ other, linked]
  rfl

end Orderly

/-! ## What joins do to a mesh -/

/-- A mesh goes on: it stays orderly, and no node loses a member. -/
structure Grows (m after : Mesh) : Prop where
  orderly : after.Orderly
  steady : m.Steady after
  has : ∀ {x info}, m.HasMember x info → after.HasMember x info

theorem Grows.refl (orderly : m.Orderly) : m.Grows m := ⟨orderly, .refl m, id⟩

theorem Grows.trans {middle : Mesh} (first : m.Grows middle) (second : middle.Grows after) :
    m.Grows after :=
  ⟨second.orderly, first.steady.trans second.steady, fun has => second.has (first.has has)⟩

theorem Sets.steady (sets : m.Sets x next after) (there : m.node? x = some nx)
    (info : next.info = nx.info) (listens : next.listens = nx.listens) : m.Steady after := by
  refine ⟨sets.places, fun k => ?_⟩
  rw [sets.nodes]
  split
  · rename_i its
    rw [its, there, Option.map_some, Option.map_some, info, listens]
  · rfl

theorem Full.grows {nodes : List Nat} (full : m.Full nodes) (grows : m.Grows after) :
    after.Full nodes := by
  refine fun x its => ⟨(full x its).1.imp fun _ => grows.steady.hosts, fun y others distinct => ?_⟩
  obtain ⟨info, hosted, has⟩ := (full x its).2 y others distinct
  exact ⟨info, grows.steady.hosts hosted, grows.has has⟩

/-- A node of the mesh has taken a turn that leaves its links in order. -/
theorem Orderly.turn (orderly : m.Orderly) (there : m.node? x = some nx)
    (sets : m.Sets x next after) (info : next.info = nx.info) (listens : next.listens = nx.listens)
    (turn : nx.Turn x m.nextLink after.nextLink next)
    (links : ∀ l ∈ next.links, l ∈ nx.links ∨ m.Fits l) : after.Orderly := by
  have steady := sets.steady there info listens
  have before {k : Nat} {node : Node} (now : after.node? k = some node) :=
    steady.symm.node? now
  refine ⟨steady.numbers ▸ orderly.numbers, ?_, ?_, ?_, fun now l among => .steady ?_ steady⟩
  · intro j k a b first second named
    obtain ⟨a', there', same⟩ := before first
    obtain ⟨b', present', same'⟩ := before second
    refine orderly.names there' present' ?_
    rw [Node.name, Node.name, same, same']
    exact named
  · intro k node now
    obtain ⟨old, present, same⟩ := before now
    rw [steady.dial orderly.numbers, ← same]
    exact orderly.reachable present
  · intro k node now
    rw [sets.nodes] at now
    split at now
    · rename_i its
      cases now
      rw [its]
      exact (orderly.inStep there).turn turn
    · exact (orderly.inStep now).mono sets.later
  · rw [sets.nodes] at now
    split at now
    · cases now
      exact (links l among).elim (orderly.fits there l) id
    · exact orderly.fits now l among

theorem Grows.rest (orderly : m.Orderly) (there : m.node? x = some nx) (sets : m.Sets x nx after) :
    m.Grows after ∧ ∀ {a info}, after.HasMember a info → m.HasMember a info := by
  have same (k : Nat) : after.node? k = m.node? k := by
    rw [sets.nodes]
    split
    · rename_i its
      rw [its, there]
    · rfl
  refine ⟨⟨orderly.turn there sets rfl rfl (.rest sets.later) fun l kept => Or.inl kept,
    sets.steady there rfl rfl, ?_⟩, ?_⟩
  · rintro a info ⟨node, present, has⟩
    exact ⟨node, (same a).trans present, has⟩
  · rintro a info ⟨node, present, has⟩
    exact ⟨node, (same a).symm.trans present, has⟩

/-- A node that gets a link to another one has that one. -/
theorem Grows.meet (orderly : m.Orderly) (there : m.node? x = some nx)
    (present : m.node? y = some ny) (other : ny.name ≠ nx.name)
    (sets : m.Sets x (nx.adopt (.new m.nextLink ny.info (.node y))) after)
    (lt : m.nextLink < after.nextLink) :
    m.Grows after ∧ after.HasMember x ny.info ∧
      ∀ {a info}, after.HasMember a info → m.HasMember a info ∨ (a = x ∧ info = ny.info) := by
  have away : y ≠ x := by
    rintro rfl
    cases there.symm.trans present
    exact other rfl
  refine ⟨⟨orderly.turn there sets rfl rfl (.meet other away lt) ?_, sets.steady there rfl rfl, ?_⟩,
    ⟨_, sets.node?_self, (nx.has_adopt _ _ _ _).mpr (Or.inl rfl)⟩, ?_⟩
  · intro l among
    rw [Node.adopt, Node.know, Node.hold, Node.insertLink_eq] at among
    rcases Keyed.mem_insert among with rfl | kept
    · refine Or.inr ⟨by simp [Link.new, Link.AtRest], ⟨y, ny, present, rfl⟩, ?_⟩
      rintro j peer ⟨⟩ found
      cases found.symm.trans present
      rfl
    · exact Or.inl kept
  · rintro a info ⟨node, here, has⟩
    by_cases its : a = x
    · subst its
      cases here.symm.trans there
      refine ⟨_, sets.node?_self, (nx.has_adopt _ _ _ _).mpr ?_⟩
      by_cases named : ny.info.name = info.name
      · left
        have hosted : m.Hosts y ny.info := ⟨ny, present, rfl⟩
        obtain ⟨l, linked, -, same⟩ := orderly.link_of_connected there hosted (named ▸ has.1)
        have found := (orderly.has_of_connected there hosted (named ▸ has.1)).2
        rw [named, has.2] at found
        exact (Option.some.inj found).symm
      · exact Or.inr ⟨named, has⟩
    · exact ⟨node, (sets.node?_of_ne its).trans here, has⟩
  · rintro a info ⟨node, here, has⟩
    by_cases its : a = x
    · subst its
      cases here.symm.trans sets.node?_self
      rcases (nx.has_adopt _ _ _ _).mp has with same | ⟨-, had⟩
      · exact Or.inr ⟨rfl, same.symm⟩
      · exact Or.inl ⟨nx, there, had⟩
    · exact Or.inl ⟨node, (sets.node?_of_ne its).symm.trans here, has⟩

/-- A node that has called over a link has whom it had, if the link is not broken. -/
theorem Grows.call (orderly : m.Orderly) (there : m.node? x = some nx) {l ended : Link}
    (kept : l ∈ nx.links) (same : l.Same ended) (unbroken : l.broken = false)
    (still : ended.broken = false) (rest : ended.AtRest)
    (sets : m.Sets x (nx.updateLink ended) after) :
    m.Grows after ∧ ∀ {a info}, after.HasMember a info → m.HasMember a info := by
  have numbered := (orderly.inStep there).numbered
  refine ⟨⟨orderly.turn there sets rfl rfl (.call kept same sets.later) ?_,
    sets.steady there rfl rfl, ?_⟩, ?_⟩
  · intro link among
    obtain ⟨old, before, replaced⟩ := List.mem_map.mp among
    split at replaced
    · subst replaced
      have fits := orderly.fits there l kept
      refine Or.inr ⟨rest, same.peer ▸ fits.known, fun leads found => ?_⟩
      rw [same.peer]
      exact fits.ends (same.endpoint ▸ leads) found
    · exact Or.inl (replaced ▸ before)
  · rintro a info ⟨node, here, has⟩
    by_cases its : a = x
    · subst its
      cases here.symm.trans there
      exact ⟨_, sets.node?_self, (Node.has_updateLink numbered kept same unbroken still info).mpr has⟩
    · exact ⟨node, (sets.node?_of_ne its).trans here, has⟩
  · rintro a info ⟨node, here, has⟩
    by_cases its : a = x
    · subst its
      cases here.symm.trans sets.node?_self
      exact ⟨nx, there, (Node.has_updateLink numbered kept same unbroken still info).mp has⟩
    · exact ⟨node, (sets.node?_of_ne its).symm.trans here, has⟩

/-! ## Letting a node in -/

/-- A call over a link at rest that is not broken is answered as the peer answers it. -/
theorem callLink_rest (there : m.node? x = some nx) {l : Link} (kept : l ∈ nx.links)
    (numbered : nx.Numbered m.nextLink) (rest : l.AtRest) (unbroken : l.broken = false)
    (call : Call) : ∃ ended, l.Same ended ∧ ended.AtRest ∧
      ended.broken = !(m.serve nx l.endpoint call).1.isOk ∧
      m.callLink x l call = ((m.serve nx l.endpoint call).1,
        (m.serve nx l.endpoint call).2.modify x (·.updateLink ended)) := by
  have now : (nx.links.find? (·.number == l.number)).getD l = l := by
    rw [numbered.find?_number kept]
    rfl
  obtain ⟨replied, -, -, state⟩ :=
    Link.finish_begin rest unbroken (m.serve nx l.endpoint call).1
  refine ⟨_, (Link.finish_begin_spec unbroken (m.serve nx l.endpoint call).1).1,
    Link.atRest_finish rest unbroken _, state, ?_⟩
  simp only [callLink, there, now, Link.outcome?_begin_of_unbroken unbroken, replied,
    Option.getD_some]

/-- A node that lets another one in has it, whether it connects to it or is connected. -/
theorem Grows.letIn (orderly : m.Orderly) (there : m.node? x = some nx)
    (present : m.node? y = some ny) (succeeds : (m.letIn y nx.info).1.isOk = true) :
    (m.Grows (m.letIn y nx.info).2 ∧ (m.letIn y nx.info).2.HasMember y nx.info ∧
      ∀ {a info}, (m.letIn y nx.info).2.HasMember a info →
        m.HasMember a info ∨ (a = y ∧ info = nx.info)) ∧
      ∀ k, k ≠ y → (m.letIn y nx.info).2.node? k = m.node? k := by
  have hosted : m.Hosts x nx.info := ⟨nx, there, rfl⟩
  cases connected : ny.isConnected nx.info.name with
  | true =>
      rw [letIn_of_connected present connected]
      obtain ⟨grows, back⟩ := Grows.rest orderly present (.refl present)
      exact ⟨⟨grows, ⟨ny, present, orderly.has_of_connected present hosted connected⟩,
        fun has => Or.inl (back has)⟩, fun _ _ => rfl⟩
  | false =>
      rw [letIn_of_unconnected present connected] at succeeds ⊢
      rcases connect_spec present nx.info.address with ⟨e, failed, -⟩ | ⟨k, peer, meets, -, lt, sets⟩
      · rw [failed] at succeeds
        cases succeeds
      · cases meets.dialled.symm.trans (orderly.reachable there)
        cases meets.there.symm.trans there
        exact ⟨Grows.meet orderly present there meets.other sets lt,
          fun k other => sets.node?_of_ne other⟩

/-- A node that another one asks over a link to let it in has that one, if the call is answered. -/
theorem Grows.enter (orderly : m.Orderly) (there : m.node? x = some nx)
    (present : m.node? y = some ny) (has : nx.Has ny.info)
    (answered : (m.callNode x ny.info.name (.letMeIn nx.info)).1.isOk = true) :
    m.Grows (m.callNode x ny.info.name (.letMeIn nx.info)).2 ∧
      (m.callNode x ny.info.name (.letMeIn nx.info)).2.HasMember y nx.info ∧
      ∀ {a info}, (m.callNode x ny.info.name (.letMeIn nx.info)).2.HasMember a info →
        m.HasMember a info ∨ (a = y ∧ info = nx.info) := by
  have hosted : m.Hosts y ny.info := ⟨ny, present, rfl⟩
  obtain ⟨l, linked, unbroken, named⟩ := orderly.link_of_connected there hosted has.1
  have kept : l ∈ nx.links := List.mem_of_find?_eq_some linked
  obtain ⟨ended, same, rest, state, called⟩ := callLink_rest there kept
    (orderly.inStep there).numbered (orderly.fits there l kept).atRest unbroken (.letMeIn nx.info)
  have away := (orderly.inStep there).away l kept
  have whole : m.callNode x ny.info.name (.letMeIn nx.info) =
      ((m.serve nx l.endpoint (.letMeIn nx.info)).1.bind Reply.outcome,
        (m.serve nx l.endpoint (.letMeIn nx.info)).2.modify x (·.updateLink ended)) := by
    simp only [callNode, there, Option.bind_some, linked, called]
  rw [whole] at answered ⊢
  cases leads : l.endpoint with
  | mute =>
      rw [leads] at answered
      cases answered
  | node k =>
      rw [leads] at answered state away
      cases found : m.node? k with
      | none => simp [serve, found, Except.bind, Except.isOk, Except.toBool] at answered
      | some peer =>
          have its := (orderly.fits there l kept).ends leads found
          have hosts : m.Hosts k l.peer := ⟨peer, found, its⟩
          have own : k = y := (orderly.hosts_unique hosts hosted (congrArg NodeInfo.name named)).1
          subst own
          cases found.symm.trans present
          have served := handle_letMeIn present nx nx.info
          rw [handle] at served
          rw [served] at answered state ⊢
          have succeeds : (m.letIn k nx.info).1.isOk = true := by
            rw [← isOk_outcome_reply ny nx.info]
            exact answered
          obtain ⟨⟨grown, knows, back⟩, others⟩ := Grows.letIn orderly there present succeeds
          have distinct : x ≠ k := fun same => away (same ▸ rfl)
          have still : (m.letIn k nx.info).2.node? x = some nx := (others x distinct).trans there
          obtain ⟨grows, before⟩ := Grows.call grown.orderly still kept same unbroken state rest
            (sets_modify still (·.updateLink ended))
          exact ⟨grown.trans grows, grows.has knows, fun had => back (before had)⟩

end Mesh

/-! ## Joins -/

namespace Join

/-- The members that a join has still to ask to be let in. -/
def members : Join → List NodeInfo
  | .meeting members => members
  | .entering member members => member :: members
  | _ => []

/-- The members that a join has still to connect to. -/
def ahead : Join → List NodeInfo
  | .meeting members => members
  | .entering _ members => members
  | _ => []

/-- A join is about to ask a member to be let in. -/
def Asks (stage : Join) (info : NodeInfo) : Prop := ∃ members, stage = .entering info members

/-- A join has been told who the members are. -/
def Told : Join → Prop
  | .meeting _ | .entering _ _ => True
  | _ => False

theorem isOver_iff {stage : Join} : stage.isOver = true ↔ stage = .meeting [] := by
  constructor
  · intro finished
    unfold isOver at finished
    split at finished
    · rfl
    · cases finished
  · rintro rfl
    rfl

end Join

/-- A node that joins or has joined: its number, how far it has come, and whom it was told of. -/
structure Joiner where
  number : Nat
  stage : Join
  listed : List NodeInfo

/-- Is the call answered that a join makes next, if it makes one? -/
def Mesh.answered (m : Mesh) (number : Nat) (node : Node) : Join → Bool
  | .greeting endpoint => (m.ask node endpoint .isAlive).1.isOk
  | .listing endpoint => (m.ask node endpoint .getAllNodes).1.isOk
  | .meeting [] => true
  | .meeting (member :: _) =>
    node.isConnected member.name || (m.connect number member.address).1.isOk
  | .entering member _ => (m.callNode number member.name (.letMeIn node.info)).1.isOk

/-- The members that a join knows of after its next call. -/
def Mesh.told (m : Mesh) (node : Node) (listed : List NodeInfo) : Join → List NodeInfo
  | .listing endpoint =>
    match (m.ask node endpoint .getAllNodes).1 with
    | .ok reply => reply.nodes
    | .error _ => listed
  | _ => listed

namespace Mesh

variable {m after : Mesh} {x : Nat} {nx : Node} {endpoint : Endpoint} {stage : Join}
  {member : NodeInfo} {rest : List NodeInfo}

theorem joinStep_greeting (there : m.node? x = some nx)
    (stepped : m.joinStep x nx (.greeting endpoint) = (.ok stage, after)) :
    stage = .listing endpoint ∧ m.Sets x nx after := by
  have sets := ask_sets there nx endpoint (Or.inl rfl)
  rcases m.ask_spec nx endpoint (Or.inl rfl) with ⟨e, asked, -⟩ | ⟨k, peer, -, -, asked⟩
  · simp [joinStep, asked, Except.map] at stepped
  · rw [asked] at sets
    obtain ⟨rfl, rfl⟩ : .listing endpoint = stage ∧ m.put k peer = after := by
      simpa [joinStep, asked, Except.map] using stepped
    exact ⟨rfl, sets⟩

theorem joinStep_listing (there : m.node? x = some nx)
    (stepped : m.joinStep x nx (.listing endpoint) = (.ok stage, after)) (known : List NodeInfo) :
    ∃ k peer, endpoint = .node k ∧ m.node? k = some peer ∧
      stage = Join.next nx peer.membership.members ∧
      m.told nx known (.listing endpoint) = peer.membership.members ∧ m.Sets x nx after := by
  have sets := ask_sets there nx endpoint (Or.inr rfl)
  rcases m.ask_spec nx endpoint (Or.inr rfl) with ⟨e, asked, -⟩ | ⟨k, peer, its, present, asked⟩
  · simp [joinStep, asked, Except.map] at stepped
  · rw [asked] at sets
    obtain ⟨rfl, rfl⟩ : Join.next nx peer.membership.members = stage ∧ m.put k peer = after := by
      simpa [joinStep, asked, Except.map, Node.reply] using stepped
    exact ⟨k, peer, its, present, rfl, by simp [told, asked, Node.reply], sets⟩

theorem joinStep_meeting (there : m.node? x = some nx)
    (answered : m.answered x nx (.meeting (member :: rest)) = true)
    (stepped : m.joinStep x nx (.meeting (member :: rest)) = (.ok stage, after)) :
    stage = .entering member rest ∧ ((nx.isConnected member.name = true ∧ m = after) ∨
      ∃ k peer, m.Meets nx member.address k peer ∧ m.nextLink < after.nextLink ∧
        m.Sets x (nx.adopt (.new m.nextLink peer.info (.node k))) after) := by
  cases connected : nx.isConnected member.name with
  | true =>
      obtain ⟨rfl, rfl⟩ : .entering member rest = stage ∧ m = after := by
        simpa [joinStep, connected] using stepped
      exact ⟨rfl, Or.inl ⟨rfl, rfl⟩⟩
  | false =>
      rcases connect_spec there member.address with ⟨e, failed, -⟩ | ⟨k, peer, meets, met, lt, sets⟩
      · simp [Mesh.answered, connected, failed, Except.isOk, Except.toBool] at answered
      · obtain ⟨outcome, now, called⟩ :
            ∃ outcome now, m.connect x member.address = (outcome, now) := ⟨_, _, rfl⟩
        rw [called] at met lt sets
        subst met
        obtain ⟨rfl, rfl⟩ : .entering member rest = stage ∧ now = after := by
          simpa [joinStep, connected, called] using stepped
        exact ⟨rfl, Or.inr ⟨k, peer, meets, lt, sets⟩⟩

end Mesh

namespace Joiner

variable {m after : Mesh} {j next : Joiner}

/-- Go one call on with a join, if it is answered. -/
def call? (m : Mesh) (j : Joiner) : Option (Joiner × Mesh) :=
  match m.node? j.number with
  | none => none
  | some node =>
    if m.answered j.number node j.stage then
      match m.joinStep j.number node j.stage with
      | (.ok stage, after) => some (⟨j.number, stage, m.told node j.listed j.stage⟩, after)
      | (.error _, _) => none
    else none

/-- What a call that is answered does. -/
inductive Goes (m : Mesh) (j : Joiner) : Joiner → Mesh → Prop
  | greeted {node : Node} {endpoint : Endpoint} {after : Mesh} (place : j.stage = .greeting endpoint)
      (there : m.node? j.number = some node) (sets : m.Sets j.number node after) :
      Goes m j { j with stage := .listing endpoint } after
  | listed {node peer : Node} {k : Nat} {after : Mesh} (place : j.stage = .listing (.node k))
      (there : m.node? j.number = some node) (present : m.node? k = some peer)
      (sets : m.Sets j.number node after) :
      Goes m j { j with
        stage := Join.next node peer.membership.members
        listed := peer.membership.members } after
  | finished (place : j.stage = .meeting []) : Goes m j j m
  | kept {node : Node} {member : NodeInfo} {rest : List NodeInfo}
      (place : j.stage = .meeting (member :: rest)) (there : m.node? j.number = some node)
      (connected : node.isConnected member.name = true) :
      Goes m j { j with stage := .entering member rest } m
  | met {node peer : Node} {member : NodeInfo} {rest : List NodeInfo} {k : Nat} {after : Mesh}
      (place : j.stage = .meeting (member :: rest)) (there : m.node? j.number = some node)
      (meets : m.Meets node member.address k peer) (lt : m.nextLink < after.nextLink)
      (sets : m.Sets j.number (node.adopt (.new m.nextLink peer.info (.node k))) after) :
      Goes m j { j with stage := .entering member rest } after
  | entered {node : Node} {member : NodeInfo} {rest : List NodeInfo}
      (place : j.stage = .entering member rest) (there : m.node? j.number = some node)
      (answered : (m.callNode j.number member.name (.letMeIn node.info)).1.isOk = true) :
      Goes m j { j with stage := .meeting rest }
        (m.callNode j.number member.name (.letMeIn node.info)).2

theorem call?_spec (called : j.call? m = some (next, after)) :
    ∃ node, m.node? j.number = some node ∧ m.answered j.number node j.stage = true ∧
      m.joinStep j.number node j.stage = (.ok next.stage, after) ∧
      next = ⟨j.number, next.stage, m.told node j.listed j.stage⟩ := by
  unfold call? at called
  split at called
  · cases called
  · rename_i node there
    split at called
    · rename_i answered
      split at called
      · rename_i stage reached stepped
        obtain ⟨rfl, rfl⟩ := Prod.mk.inj (Option.some.inj called)
        exact ⟨node, there, answered, stepped, rfl⟩
      · cases called
    · cases called

theorem goes (called : j.call? m = some (next, after)) : j.Goes m next after := by
  obtain ⟨node, there, answered, stepped, same⟩ := call?_spec called
  generalize next.stage = stage at stepped same
  subst same
  cases place : j.stage with
  | greeting endpoint =>
      rw [place] at stepped
      obtain ⟨rfl, sets⟩ := Mesh.joinStep_greeting there stepped
      exact .greeted place there sets
  | listing endpoint =>
      rw [place] at stepped
      obtain ⟨k, peer, rfl, present, rfl, told, sets⟩ :=
        Mesh.joinStep_listing there stepped j.listed
      rw [told]
      exact .listed place there present sets
  | meeting members =>
      rw [place] at stepped answered
      cases members with
      | nil =>
          obtain ⟨⟨⟩, rfl⟩ := Prod.mk.inj stepped
          have same : j = ⟨j.number, .meeting [], j.listed⟩ := by rw [← place]
          have told : m.told node j.listed (.meeting []) = j.listed := rfl
          rw [told, ← same]
          exact .finished place
      | cons member rest =>
          obtain ⟨rfl, ⟨connected, rfl⟩ | ⟨k, peer, meets, lt, sets⟩⟩ :=
            Mesh.joinStep_meeting there answered stepped
          · exact .kept place there connected
          · exact .met place there meets lt sets
  | entering member rest =>
      rw [place] at stepped answered
      obtain ⟨⟨⟩, rfl⟩ := Prod.mk.inj stepped
      exact .entered place there answered

/-- What holds of a join at any time.  Its members are nodes of the mesh, each member that it was told
of is the node itself, lies ahead or is connected, and so is the one it is about to ask. -/
structure Sound (m : Mesh) (j : Joiner) : Prop where
  there : ∃ info, m.Hosts j.number info
  real : ∀ info ∈ j.stage.members, ∃ k, m.Hosts k info
  met : ∀ info ∈ j.listed,
    m.Hosts j.number info ∨ info ∈ j.stage.ahead ∨ m.HasMember j.number info
  linked : ∀ {info}, j.stage.Asks info → m.HasMember j.number info

theorem Sound.grows (sound : j.Sound m) (grows : m.Grows after) : j.Sound after where
  there := sound.there.imp fun _ => grows.steady.hosts
  real info among := (sound.real info among).imp fun _ => grows.steady.hosts
  met info among := (sound.met info among).imp grows.steady.hosts (Or.imp_right grows.has)
  linked asks := grows.has (sound.linked asks)

theorem Sound.entering (sound : j.Sound m) {member : NodeInfo} {rest : List NodeInfo}
    (place : j.stage = .meeting (member :: rest)) (has : m.HasMember j.number member) :
    Sound m { j with stage := .entering member rest } := by
  obtain ⟨there, real, met, -⟩ := sound
  rw [place] at real met
  refine ⟨there, real, fun info among => ?_, ?_⟩
  · rcases met info among with own | ahead | had
    · exact Or.inl own
    · rcases List.mem_cons.mp ahead with rfl | ahead
      · exact Or.inr (Or.inr has)
      · exact Or.inr (Or.inl ahead)
    · exact Or.inr (Or.inr had)
  · rintro _ ⟨_, ⟨⟩⟩
    exact has

theorem Sound.meeting (sound : j.Sound m) {member : NodeInfo} {rest : List NodeInfo}
    (place : j.stage = .entering member rest) : Sound m { j with stage := .meeting rest } := by
  obtain ⟨there, real, met, -⟩ := sound
  rw [place] at real met
  exact ⟨there, fun info among => real info (List.mem_cons_of_mem _ among), met,
    by rintro _ ⟨_, ⟨⟩⟩⟩

/-- What an answered call of a join comes to.  The member that was to be asked has the node then, and
the node has the member that it is to ask next.  Nobody has anyone new besides. -/
structure Served (m : Mesh) (j next : Joiner) (after : Mesh) : Prop where
  grows : m.Grows after
  linked : ∀ {info}, next.stage.Asks info → after.HasMember j.number info
  asked : ∀ {member own k}, j.stage.Asks member → m.Hosts k member → m.Hosts j.number own →
    after.HasMember k own
  back : ∀ {k info}, after.HasMember k info → m.HasMember k info ∨
    (k = j.number ∧ next.stage.Asks info) ∨
    (m.Hosts j.number info ∧ ∃ member, j.stage.Asks member ∧ m.Hosts k member)

theorem Goes.served (goes : j.Goes m next after) (orderly : m.Orderly) (sound : j.Sound m) :
    j.Served m next after := by
  cases goes with
  | greeted place there sets =>
      obtain ⟨grows, back⟩ := Mesh.Grows.rest orderly there sets
      exact ⟨grows, by rintro _ ⟨_, ⟨⟩⟩, fun ⟨_, asks⟩ => by simp [place] at asks,
        fun has => Or.inl (back has)⟩
  | listed place there present sets =>
      obtain ⟨grows, back⟩ := Mesh.Grows.rest orderly there sets
      exact ⟨grows, by rintro _ ⟨_, ⟨⟩⟩, fun ⟨_, asks⟩ => by simp [place] at asks,
        fun has => Or.inl (back has)⟩
  | finished place =>
      exact ⟨.refl orderly, sound.linked, fun ⟨_, asks⟩ => by simp [place] at asks, Or.inl⟩
  | @kept node member rest place there connected =>
      refine ⟨.refl orderly, ?_, fun ⟨_, asks⟩ => by simp [place] at asks, Or.inl⟩
      rintro _ ⟨_, ⟨⟩⟩
      obtain ⟨k, hosted⟩ := sound.real member (by simp [place, Join.members])
      exact ⟨node, there, orderly.has_of_connected there hosted connected⟩
  | @met node peer member rest k _ place there meets lt sets =>
      obtain ⟨y, ny, present, rfl⟩ := sound.real member (by simp [place, Join.members])
      cases meets.dialled.symm.trans (orderly.reachable present)
      cases meets.there.symm.trans present
      obtain ⟨grows, has, back⟩ := Mesh.Grows.meet orderly there present meets.other sets lt
      refine ⟨grows, ?_, fun ⟨_, asks⟩ => by simp [place] at asks, fun had => ?_⟩
      · rintro _ ⟨_, ⟨⟩⟩
        exact has
      · rcases back had with before | ⟨rfl, rfl⟩
        · exact Or.inl before
        · exact Or.inr (Or.inl ⟨rfl, rest, rfl⟩)
  | @entered node member rest place there answered =>
      have asks : j.stage.Asks member := ⟨rest, place⟩
      obtain ⟨y, ny, present, rfl⟩ := sound.real member (by simp [place, Join.members])
      obtain ⟨_, here, has⟩ := sound.linked asks
      cases here.symm.trans there
      obtain ⟨grows, knows, back⟩ := Mesh.Grows.enter orderly there present has answered
      refine ⟨grows, by rintro _ ⟨_, ⟨⟩⟩, ?_, fun had => ?_⟩
      · rintro _ own k ⟨_, asked⟩ hosted ⟨_, its, rfl⟩
        cases place.symm.trans asked
        cases its.symm.trans there
        have same := (orderly.hosts_unique hosted ⟨ny, present, rfl⟩ rfl).1
        exact same ▸ knows
      · rcases back had with before | ⟨rfl, rfl⟩
        · exact Or.inl before
        · exact Or.inr (Or.inr ⟨⟨node, there, rfl⟩, ny.info, asks, ny, present, rfl⟩)

theorem Goes.sound (goes : j.Goes m next after) (orderly : m.Orderly) (sound : j.Sound m) :
    next.number = j.number ∧ next.Sound after := by
  have served := goes.served orderly sound
  have still := sound.grows served.grows
  cases goes with
  | greeted place there sets =>
      have met := still.met
      rw [place] at met
      exact ⟨rfl, still.there, by simp [Join.members], met, served.linked⟩
  | @listed node peer k _ place there present sets =>
      refine ⟨rfl, still.there, fun info among => ?_, fun info among => ?_, served.linked⟩
      · obtain ⟨k, hosted⟩ := orderly.hosts_member present (List.mem_filter.mp among).1
        exact ⟨k, served.grows.steady.hosts hosted⟩
      · obtain ⟨k, hosted⟩ := orderly.hosts_member present among
        by_cases own : node.isMe info.name = true
        · have its : m.Hosts j.number node.info := ⟨node, there, rfl⟩
          have same := (orderly.hosts_unique its hosted (beq_iff_eq.mp own)).2
          exact Or.inl (served.grows.steady.hosts (same ▸ its))
        · exact Or.inr (Or.inl (List.mem_filter.mpr ⟨among, by simpa using own⟩))
  | finished place => exact ⟨rfl, sound⟩
  | kept place => exact ⟨rfl, still.entering place (served.linked ⟨_, rfl⟩)⟩
  | met place => exact ⟨rfl, still.entering place (served.linked ⟨_, rfl⟩)⟩
  | entered place => exact ⟨rfl, still.meeting place⟩

end Joiner

/-! ## Any number of joins -/

/-- A mesh with the joins that have begun. -/
structure Gathering where
  mesh : Mesh
  joins : List Joiner

/-- What happens next: the node of a number begins to join the mesh of the node at an address, or the
next call of a join is answered. -/
inductive JoinEvent
  | begin (number : Nat) (address : String)
  | call (join : Nat)

namespace Gathering

open Mesh (Grows)

variable {m : Mesh} {g after : Gathering}

/-- The gathering after an event, if it is possible. -/
def next? (g : Gathering) : JoinEvent → Option Gathering
  | .begin number address =>
    match g.mesh.node? number, g.mesh.dial address with
    | some _, .ok endpoint =>
      some { g with joins := g.joins ++ [⟨number, .greeting endpoint, []⟩] }
    | _, _ => none
  | .call i =>
    (g.joins[i]?).bind fun j =>
      (j.call? g.mesh).map fun (next, mesh) => ⟨mesh, g.joins.set i next⟩

/-- The gathering after events in this order. -/
def run? (g : Gathering) : List JoinEvent → Option Gathering
  | [] => some g
  | event :: rest => (g.next? event).bind fun g => run? g rest

theorem next?_begin {number : Nat} {address : String}
    (begun : g.next? (.begin number address) = some after) :
    ∃ node endpoint, g.mesh.node? number = some node ∧ g.mesh.dial address = .ok endpoint ∧
      after = { g with joins := g.joins ++ [⟨number, .greeting endpoint, []⟩] } := by
  simp only [next?] at begun
  split at begun
  · rename_i node endpoint there dialled
    exact ⟨node, endpoint, there, dialled, (Option.some.inj begun).symm⟩
  · cases begun

theorem next?_call {i : Nat} (called : g.next? (.call i) = some after) :
    ∃ j next mesh, g.joins[i]? = some j ∧ j.Goes g.mesh next mesh ∧
      after = ⟨mesh, g.joins.set i next⟩ := by
  obtain ⟨j, here, goes⟩ := Option.bind_eq_some_iff.mp called
  obtain ⟨⟨next, mesh⟩, made, rfl⟩ := Option.map_eq_some_iff.mp goes
  exact ⟨j, next, mesh, here, Joiner.goes made, rfl⟩

/-- What holds of joins at any time.  If a node has another one as a connected member, then that one
has it too, or the node is about to ask it to be let in. -/
structure Sound (g : Gathering) : Prop where
  orderly : g.mesh.Orderly
  either : ∀ {x y a b}, g.mesh.Hosts x a → g.mesh.Hosts y b → g.mesh.HasMember x b →
    g.mesh.HasMember y a ∨ ∃ j ∈ g.joins, j.number = x ∧ j.stage.Asks b
  joins : ∀ j ∈ g.joins, j.Sound g.mesh

namespace Sound

theorem start (orderly : m.Orderly) (symmetric : m.Mutual) : Sound ⟨m, []⟩ where
  orderly := orderly
  either := by
    intro x y a b first second has
    obtain ⟨info, hosted, had⟩ := symmetric x y ⟨b, second, has⟩
    exact Or.inl (first.unique hosted ▸ had)
  joins := by simp

theorem begun (sound : g.Sound) {number : Nat} {node : Node} (endpoint : Endpoint)
    (there : g.mesh.node? number = some node) :
    Sound { g with joins := g.joins ++ [⟨number, .greeting endpoint, []⟩] } where
  orderly := sound.orderly
  either first second has := by
    refine (sound.either first second has).imp id ?_
    rintro ⟨j, among, asks⟩
    exact ⟨j, List.mem_append_left _ among, asks⟩
  joins j among := by
    rcases List.mem_append.mp among with old | new
    · exact sound.joins j old
    · rw [List.mem_singleton.mp new]
      exact ⟨⟨node.info, node, there, rfl⟩, by simp [Join.members], by simp, by rintro _ ⟨_, ⟨⟩⟩⟩

theorem called (sound : g.Sound) {i : Nat} {j next : Joiner} {mesh : Mesh}
    (here : g.joins[i]? = some j) (goes : j.Goes g.mesh next mesh) :
    g.mesh.Grows mesh ∧ Sound ⟨mesh, g.joins.set i next⟩ := by
  have orderly := sound.orderly
  have fine := sound.joins j (List.mem_of_getElem? here)
  have served := goes.served orderly fine
  obtain ⟨number, nextFine⟩ := goes.sound orderly fine
  have steady := served.grows.steady
  have now : next ∈ g.joins.set i next :=
    List.mem_set (List.getElem?_eq_some_iff.mp here).1 next
  refine ⟨served.grows, served.grows.orderly, ?_, fun other among => ?_⟩
  · intro x y a b first second has
    have before := steady.symm.hosts first
    have beforeToo := steady.symm.hosts second
    rcases served.back has with had | ⟨rfl, asks⟩ | ⟨own, member, asked, hosted⟩
    · rcases sound.either before beforeToo had with has | ⟨k, among, rfl, asks⟩
      · exact Or.inl (served.grows.has has)
      · obtain ⟨n, there⟩ := List.mem_iff_getElem?.mp among
        by_cases same : i = n
        · subst same
          cases here.symm.trans there
          exact Or.inl (served.asked asks beforeToo before)
        · refine Or.inr ⟨k, List.mem_iff_getElem?.mpr ⟨n, ?_⟩, rfl, asks⟩
          rwa [List.getElem?_set_ne same]
    · exact Or.inr ⟨next, now, number, asks⟩
    · -- the node that was asked has the one that asked, which had it before
      have its := (orderly.hosts_unique own beforeToo rfl).1
      have same := hosted.unique before
      subst its
      exact Or.inl (served.grows.has (same ▸ fine.linked asked))
  · rcases List.mem_or_eq_of_mem_set among with old | rfl
    · exact (sound.joins other old).grows served.grows
    · exact nextFine

/-- Whatever happens next, no node loses a member. -/
theorem next (sound : g.Sound) {event : JoinEvent} (happens : g.next? event = some after) :
    g.mesh.Grows after.mesh ∧ after.Sound := by
  cases event with
  | begin number address =>
      obtain ⟨node, endpoint, there, -, rfl⟩ := next?_begin happens
      exact ⟨.refl sound.orderly, sound.begun endpoint there⟩
  | call i =>
      obtain ⟨j, next, mesh, here, goes, rfl⟩ := next?_call happens
      exact sound.called here goes

theorem run (sound : g.Sound) {events : List JoinEvent} (runs : g.run? events = some after) :
    g.mesh.Grows after.mesh ∧ after.Sound := by
  induction events generalizing g with
  | nil =>
      cases runs
      exact ⟨.refl sound.orderly, sound⟩
  | cons event rest ih =>
      obtain ⟨middle, happens, runs⟩ := Option.bind_eq_some_iff.mp runs
      obtain ⟨first, sound⟩ := sound.next happens
      obtain ⟨others, sound⟩ := ih sound runs
      exact ⟨first.trans others, sound⟩

theorem mutual_of_over (sound : g.Sound) (finished : ∀ j ∈ g.joins, j.stage.isOver = true) :
    g.mesh.Mutual := by
  rintro x y ⟨b, second, node, there, has⟩
  refine ⟨node.info, ⟨node, there, rfl⟩, ?_⟩
  rcases sound.either ⟨node, there, rfl⟩ second ⟨node, there, has⟩ with had | ⟨j, among, -, _, asks⟩
  · exact had
  · rw [Join.isOver_iff.mp (finished j among)] at asks
    cases asks

theorem has_listed (sound : g.Sound) {j : Joiner} (among : j ∈ g.joins)
    (finished : j.stage.isOver = true) {info : NodeInfo} (listed : info ∈ j.listed)
    (other : ¬ g.mesh.Hosts j.number info) : g.mesh.HasMember j.number info := by
  have met := (sound.joins j among).met info listed
  rw [Join.isOver_iff.mp finished] at met
  exact (met.resolve_left other).resolve_left List.not_mem_nil

end Sound

/-! ## One join at a time -/

/-- The calls of a join that nothing else happens in. -/
theorem run?_call {j last : Joiner} {final : Mesh} {n : Nat}
    (runs : run? ⟨m, [j]⟩ (List.replicate n (.call 0)) = some ⟨final, [last]⟩) :
    (m = final ∧ j = last) ∨ ∃ k next mesh, n = k + 1 ∧ j.call? m = some (next, mesh) ∧
      run? ⟨mesh, [next]⟩ (List.replicate k (.call 0)) = some ⟨final, [last]⟩ := by
  cases n with
  | zero =>
      cases runs
      exact Or.inl ⟨rfl, rfl⟩
  | succ k =>
      obtain ⟨middle, happens, runs⟩ := Option.bind_eq_some_iff.mp runs
      obtain ⟨⟨next, mesh⟩, called, rfl⟩ := Option.map_eq_some_iff.mp happens
      exact Or.inr ⟨k, next, mesh, rfl, called, runs⟩

theorem enterAll_of_run {x : Nat} {last : Joiner} {final : Mesh} {n : Nat}
    {members listed : List NodeInfo} (finished : last.stage.isOver = true)
    (runs : run? ⟨m, [⟨x, .meeting members, listed⟩]⟩ (List.replicate n (.call 0)) =
      some ⟨final, [last]⟩) : m.enterAll x members = final := by
  induction members generalizing m n listed with
  | nil =>
      induction n with
      | zero =>
          cases runs
          rfl
      | succ k ih =>
          obtain ⟨middle, happens, runs⟩ := Option.bind_eq_some_iff.mp runs
          obtain ⟨⟨next, mesh⟩, called, rfl⟩ := Option.map_eq_some_iff.mp happens
          obtain ⟨node, -, -, stepped, same⟩ := Joiner.call?_spec called
          generalize next.stage = stage at stepped same
          obtain ⟨⟨⟩, rfl⟩ := Prod.mk.inj stepped
          rw [same] at runs
          exact ih runs
  | cons member rest ih =>
      rcases run?_call runs with ⟨-, rfl⟩ | ⟨n, next, middle, -, called, runs⟩
      · cases finished
      · obtain ⟨node, there, answered, stepped, same⟩ := Joiner.call?_spec called
        generalize next.stage = stage at stepped same
        subst same
        obtain ⟨rfl, met⟩ := Mesh.joinStep_meeting there answered stepped
        -- the node is the one that it was, whether it had to connect or not
        obtain ⟨now, here, info⟩ : ∃ now, middle.node? x = some now ∧ now.info = node.info := by
          rcases met with ⟨-, rfl⟩ | ⟨k, peer, -, -, sets⟩
          · exact ⟨node, there, rfl⟩
          · exact ⟨_, sets.node?_self, rfl⟩
        rcases run?_call runs with ⟨-, rfl⟩ | ⟨n, next, after, -, called, runs⟩
        · cases finished
        · obtain ⟨caller, present, -, entered, same⟩ := Joiner.call?_spec called
          generalize next.stage = stage at entered same
          subst same
          cases present.symm.trans here
          obtain ⟨⟨⟩, rfl⟩ := Prod.mk.inj entered
          rw [info] at runs
          have stepped : m.joinStep x node (.meeting (member :: rest)) =
              (.ok (.entering member rest), middle) := stepped
          simp only [Mesh.enterAll, (there : m.node? x = some node), stepped]
          exact ih runs

/-- A join that nothing else happens in, and whose calls are all answered, is a whole join. -/
theorem joinAt_of_run {x : Nat} {address : String} {last : Joiner} {final : Mesh} {n : Nat}
    (finished : last.stage.isOver = true)
    (runs : run? ⟨m, []⟩ (.begin x address :: List.replicate n (.call 0)) =
      some ⟨final, [last]⟩) : m.joinAt x address = (.ok (), final) := by
  obtain ⟨middle, begun, runs⟩ := Option.bind_eq_some_iff.mp runs
  obtain ⟨node, endpoint, there, dialled, rfl⟩ := next?_begin begun
  rcases run?_call runs with ⟨-, rfl⟩ | ⟨n, next, greeted, -, called, runs⟩
  · cases finished
  · obtain ⟨caller, present, -, greets, same⟩ := Joiner.call?_spec called
    generalize next.stage = stage at greets same
    subst same
    cases present.symm.trans there
    obtain ⟨rfl, sets⟩ := Mesh.joinStep_greeting there greets
    rcases run?_call runs with ⟨-, rfl⟩ | ⟨n, next, listed, -, called, runs⟩
    · cases finished
    · obtain ⟨caller, present, -, lists, same⟩ := Joiner.call?_spec called
      generalize next.stage = stage at lists same
      subst same
      cases present.symm.trans sets.node?_self
      obtain ⟨k, peer, -, -, rfl, -⟩ := Mesh.joinStep_listing sets.node?_self lists []
      have greets : m.joinStep x node (.greeting endpoint) =
          (.ok (.listing endpoint), greeted) := greets
      have lists : greeted.joinStep x node (.listing endpoint) =
          (.ok (Join.next node peer.membership.members), listed) := lists
      have entered : listed.enterAll x (peer.membership.members.filter fun m => !node.isMe m.name) =
          final := enterAll_of_run finished runs
      simp only [Mesh.joinAt, (there : m.node? x = some node), dialled, greets, lists, Join.next,
        entered]

/-- Joins that do not overlap, so that each is a whole join (`joinAt_of_run`): it begins when the one
before is over, at the address of some node that is in already. -/
inductive InTurn (m : Mesh) (nodes : List Nat) : Mesh → List Nat → Prop
  | nobody : InTurn m nodes m nodes
  | join {before after : Mesh} {joined : List Nat} {x member : Nat} {info : NodeInfo} {n : Nat}
      {j : Joiner} (first : InTurn m nodes before joined) (among : member ∈ joined)
      (hosted : before.Hosts member info)
      (runs : run? ⟨before, []⟩ (.begin x info.address :: List.replicate n (.call 0)) =
        some ⟨after, [j]⟩)
      (finished : j.stage.isOver = true) : InTurn m nodes after (x :: joined)

/-- What holds of a single join at a node of a full mesh: when it was told who the members are, it was
told of all nodes of that mesh. -/
structure Alone (x member : Nat) (nodes : List Nat) (g : Gathering) (j : Joiner) : Prop where
  joins : g.joins = [j]
  number : j.number = x
  full : g.mesh.Full nodes
  told : j.stage = .greeting (.node member) ∨ j.stage = .listing (.node member) ∨
    (j.stage.Told ∧ ∀ y ∈ nodes, ∀ info, g.mesh.Hosts y info → info ∈ j.listed)

theorem Alone.call {x member : Nat} {nodes : List Nat} {j : Joiner} (sound : g.Sound)
    (alone : g.Alone x member nodes j) (among : member ∈ nodes)
    (called : g.next? (.call 0) = some after) : ∃ next, after.Alone x member nodes next := by
  obtain ⟨other, next, mesh, here, goes, rfl⟩ := next?_call called
  rw [alone.joins] at here ⊢
  obtain rfl : j = other := Option.some.inj here
  have fine := sound.joins j (by rw [alone.joins]; exact List.mem_singleton_self j)
  have grows := (goes.served sound.orderly fine).grows
  refine ⟨next, rfl, (goes.sound sound.orderly fine).1.trans alone.number,
    alone.full.grows grows, ?_⟩
  have kept (told : j.stage.Told) : ∀ y ∈ nodes, ∀ info, mesh.Hosts y info → info ∈ j.listed := by
    rcases alone.told with greets | lists | ⟨-, all⟩
    · rw [greets] at told
      exact told.elim
    · rw [lists] at told
      exact told.elim
    · exact fun y its info hosted => all y its info (grows.steady.symm.hosts hosted)
  cases goes with
  | greeted place =>
      rcases alone.told with greets | lists | ⟨told, -⟩
      · cases place.symm.trans greets
        exact Or.inr (Or.inl rfl)
      · cases place.symm.trans lists
      · rw [place] at told
        exact told.elim
  | @listed node peer k _ place there present =>
      rcases alone.told with greets | lists | ⟨told, -⟩
      · cases place.symm.trans greets
      · cases place.symm.trans lists
        refine Or.inr (Or.inr ⟨trivial, fun y its info now => ?_⟩)
        have hosted := grows.steady.symm.hosts now
        have found : peer.membership.get? info.name = some info := by
          by_cases own : y = member
          · subst own
            rw [← (Mesh.Hosts.unique ⟨peer, present, rfl⟩ hosted)]
            exact (sound.orderly.inStep present).own
          · obtain ⟨info', hosted', node', there', has⟩ := (alone.full member among).2 y its own
            cases hosted.unique hosted'
            cases there'.symm.trans present
            exact has.2
        exact List.mem_of_find?_eq_some found
      · rw [place] at told
        exact told.elim
  | finished place => exact Or.inr (Or.inr ⟨by rw [place]; trivial, kept (by rw [place]; trivial)⟩)
  | kept place => exact Or.inr (Or.inr ⟨trivial, kept (by rw [place]; trivial)⟩)
  | met place => exact Or.inr (Or.inr ⟨trivial, kept (by rw [place]; trivial)⟩)
  | entered place => exact Or.inr (Or.inr ⟨trivial, kept (by rw [place]; trivial)⟩)

theorem Alone.calls {x member : Nat} {nodes : List Nat} {j : Joiner} (sound : g.Sound)
    (alone : g.Alone x member nodes j) (among : member ∈ nodes) {calls : Nat}
    (runs : g.run? (List.replicate calls (.call 0)) = some after) :
    ∃ next, after.Alone x member nodes next := by
  induction calls generalizing g j with
  | zero =>
      cases runs
      exact ⟨j, alone⟩
  | succ n ih =>
      obtain ⟨middle, called, runs⟩ := Option.bind_eq_some_iff.mp runs
      obtain ⟨next, alone⟩ := alone.call sound among called
      exact ih (sound.next called).2 alone runs

/-- A join that nothing else happens in takes a full mesh to a full mesh with the node that joins. -/
theorem full_of_join {before : Mesh} {nodes : List Nat} {x member : Nat} {info : NodeInfo}
    {calls : Nat} {j : Joiner} (orderly : before.Orderly) (symmetric : before.Mutual)
    (full : before.Full nodes) (among : member ∈ nodes) (hosted : before.Hosts member info)
    (runs : run? ⟨before, []⟩ (.begin x info.address :: List.replicate calls (.call 0)) =
      some ⟨m, [j]⟩)
    (finished : j.stage.isOver = true) : m.Orderly ∧ m.Mutual ∧ m.Full (x :: nodes) := by
  have sound := Sound.start orderly symmetric
  obtain ⟨grows, ended⟩ := sound.run runs
  have its : j ∈ (⟨m, [j]⟩ : Gathering).joins := List.mem_singleton_self j
  have symmetric : m.Mutual := ended.mutual_of_over (by simpa using finished)
  obtain ⟨middle, begun, runs⟩ := Option.bind_eq_some_iff.mp runs
  obtain ⟨node, endpoint, there, dialled, rfl⟩ := next?_begin begun
  obtain ⟨host, present, rfl⟩ := hosted
  cases dialled.symm.trans (orderly.reachable present)
  obtain ⟨next, alone⟩ := Alone.calls (sound.next begun).2
    ⟨rfl, rfl, full, Or.inl rfl⟩ among runs
  obtain rfl : j = next := (List.cons.inj alone.joins).1
  have number : j.number = x := alone.number
  have told : ∀ y ∈ nodes, ∀ info, m.Hosts y info → info ∈ j.listed := by
    rcases alone.told with greets | lists | ⟨-, all⟩
    · cases (Join.isOver_iff.mp finished).symm.trans greets
    · cases (Join.isOver_iff.mp finished).symm.trans lists
    · exact all
  have newcomer : m.Hosts x node.info := grows.steady.hosts ⟨node, there, rfl⟩
  have has (y : Nat) (old : y ∈ nodes) (distinct : y ≠ x) : m.Has x y := by
    obtain ⟨info, hosted⟩ := (alone.full y old).1
    refine ⟨info, hosted, number ▸ ended.has_listed its finished (told y old info hosted) ?_⟩
    intro own
    exact distinct ((ended.orderly.hosts_unique hosted own rfl).1.trans number)
  refine ⟨ended.orderly, symmetric, fun a its => ?_⟩
  rcases List.mem_cons.mp its with rfl | old
  · refine ⟨⟨_, newcomer⟩, fun b others distinct => ?_⟩
    exact has b ((List.mem_cons.mp others).resolve_left distinct) distinct
  · refine ⟨(alone.full a old).1, fun b others distinct => ?_⟩
    rcases List.mem_cons.mp others with rfl | others
    · exact symmetric _ _ (has a old (Ne.symm distinct))
    · exact (alone.full a old).2 b others distinct

/-- **Joining is mutual.**  Let the nodes of a mesh bear different names, answer at their own
addresses and know of each other rightly, and let of two nodes each have the other as a connected
member or neither.  Let nodes join at will, at any address, so that the calls of their joins come in
any order, and let every call be answered.  Whenever all joins are over, of two nodes each has the
other or neither has.  A node whose join is over has every member that it was told of.  If joins do
not overlap, and each is at some node of a full mesh or at one that has joined it since, then the mesh
is full with all of them. -/
theorem joins_mutual (orderly : m.Orderly) (symmetric : m.Mutual) :
    (∀ events g, run? ⟨m, []⟩ events = some g →
      ((∀ j ∈ g.joins, j.stage.isOver = true) → g.mesh.Mutual) ∧
      ∀ j ∈ g.joins, j.stage.isOver = true → ∀ info ∈ j.listed,
        ¬ g.mesh.Hosts j.number info → g.mesh.HasMember j.number info) ∧
    ∀ nodes last joined, m.Full nodes → InTurn m nodes last joined → last.Full joined := by
  constructor
  · intro events g runs
    obtain ⟨-, sound⟩ := (Sound.start orderly symmetric).run runs
    exact ⟨sound.mutual_of_over, fun j among finished info => sound.has_listed among finished⟩
  · intro nodes last joined full inTurn
    have whole : last.Orderly ∧ last.Mutual ∧ last.Full joined := by
      induction inTurn with
      | nobody => exact ⟨orderly, symmetric, full⟩
      | join _ among hosted runs finished ih =>
          obtain ⟨orderly, symmetric, full⟩ := ih
          exact full_of_join orderly symmetric full among hosted runs finished
    exact whole.2.2

/-- Three nodes that know of themselves alone. -/
def trio : Mesh :=
  .meshOf [Mesh.nodeAt "node-a" 9001, Mesh.nodeAt "node-b" 9002, Mesh.nodeAt "node-c" 9003]

theorem trio_orderly : trio.Orderly ∧ trio.Mutual := by
  have nodes : trio.nodes = [(0, Mesh.nodeAt "node-a" 9001), (1, Mesh.nodeAt "node-b" 9002),
      (2, Mesh.nodeAt "node-c" 9003)] := rfl
  refine Mesh.Orderly.alone ?_ ?_ ?_ ?_ ?_ <;> rw [nodes]
  · decide
  · decide
  · simp only [List.forall_mem_cons, List.not_mem_nil, false_implies, implies_true, and_true]
    exact ⟨rfl, rfl, rfl⟩
  · simp only [List.forall_mem_cons, List.not_mem_nil, false_implies, implies_true, and_true]
    exact ⟨rfl, rfl, rfl⟩
  · simp only [List.forall_mem_cons, List.not_mem_nil, false_implies, implies_true, and_true]
    exact ⟨rfl, rfl, rfl⟩

/-- Two nodes join at the first one at a time, so that neither is told of the other. -/
def crossing : List JoinEvent :=
  [.begin 1 "127.0.0.1:9001", .begin 2 "127.0.0.1:9001", .call 0, .call 1, .call 0, .call 1,
    .call 0, .call 1, .call 0, .call 1]

theorem joins_mutual_trio :
    (∃ g, run? ⟨trio, []⟩ crossing = some g ∧ g.mesh.Mutual ∧ g.mesh.Has 0 1 ∧ g.mesh.Has 1 0) ∧
      ∃ last, InTurn trio [0] last [2, 1, 0] ∧ last.Full [2, 1, 0] := by
  obtain ⟨orderly, symmetric⟩ := trio_orderly
  obtain ⟨interleaved, inTurn⟩ := joins_mutual orderly symmetric
  constructor
  · obtain ⟨g, runs, stages, has⟩ : ∃ g, run? ⟨trio, []⟩ crossing = some g ∧
        g.joins.map (·.stage.isOver) = [true, true] ∧ g.mesh.Has 1 0 :=
      ⟨_, rfl, rfl, _, ⟨_, rfl, rfl⟩, _, rfl, rfl, rfl⟩
    have finished : ∀ j ∈ g.joins, j.stage.isOver = true := by
      intro j among
      have its := List.mem_map_of_mem (f := (·.stage.isOver)) among
      rw [stages] at its
      simpa using its
    have symmetric := (interleaved crossing g runs).1 finished
    exact ⟨g, runs, symmetric, symmetric 1 0 has, has⟩
  · have full : trio.Full [0] := by
      intro x among
      obtain rfl := List.mem_singleton.mp among
      exact ⟨⟨_, _, rfl, rfl⟩, fun y others distinct =>
        absurd (List.mem_singleton.mp others) distinct⟩
    have atFirst : trio.Hosts 0 ⟨"node-a", "127.0.0.1", 9001⟩ := ⟨_, rfl, rfl⟩
    obtain ⟨middle, last, first, atSecond, runs⟩ : ∃ middle last, InTurn trio [0] middle [1, 0] ∧
        middle.Hosts 1 ⟨"node-b", "127.0.0.1", 9002⟩ ∧
        ∃ j, run? ⟨middle, []⟩ (.begin 2 "127.0.0.1:9002" :: List.replicate 6 (.call 0)) =
          some ⟨last, [j]⟩ ∧ j.stage.isOver = true :=
      ⟨_, _, .join (n := 4) .nobody (List.mem_singleton_self 0) atFirst rfl rfl, ⟨_, rfl, rfl⟩,
        _, rfl, rfl⟩
    obtain ⟨j, runs, finished⟩ := runs
    have both : InTurn trio [0] last [2, 1, 0] :=
      .join (n := 6) first List.mem_cons_self atSecond runs finished
    exact ⟨last, both, inTurn [0] last [2, 1, 0] full both⟩

end Gathering

end CrawlMesh
