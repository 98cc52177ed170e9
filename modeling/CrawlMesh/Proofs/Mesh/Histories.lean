/-
# What a node has done about its members

`Mesh.reach_spec`, `Mesh.letIn_of_connected` and `Mesh.callLink_cases` say what a mesh makes of the
members and links of one of its nodes: connecting adds a new link, and then its peer as a member, if
another node answers at the address, letting a node in does nothing if there is a usable link of its
name, and a call changes the one link that it goes over.  So each call of a join, each check of a link
and each eviction is one turn (`Mesh.Turned`), and whole joins and rounds of heartbeats are made of
these.

A node that has done such things since it knew of itself alone has a history (`Mesh.History`), whatever
the others have done in the meantime.  Its members and links are in step (`history_inStep`).  A node
that asks such a node to be let in becomes known at its address, unless there is a usable link of its
name; then the older link stays (`letMeIn_knows`), also if it leads elsewhere
(`older_link_hides_restart`).
-/
import CrawlMesh.Mesh.Join
import CrawlMesh.Proofs.Mesh.Peers

namespace CrawlMesh

set_option autoImplicit false

/-- A link to a node that answers on a new stream is kept, unless it bears the name of the node that
has dialled. -/
theorem Node.meet_reply (n peer : Node) (address : String) (clock : Nat) (endpoint : Endpoint) :
    n.meet address clock endpoint (.ok (peer.reply .isAlive (.ok ()))) =
      if n.isMe peer.name then (.error (.argument s!"{address} is this node"), n)
      else (.ok peer.info, n.hold (.new clock peer.info endpoint)) := rfl

/-! ## What a mesh makes of a node -/

namespace Mesh

variable {m after : Mesh} {number : Nat} {node next : Node} {address : String}

/-- What of a mesh never changes by calls: the numbers of its nodes, and what can be reached. -/
def places (m : Mesh) : List Nat × List (NodeInfo × Net.SocketAddress) × (Net.SocketAddress → Bool) :=
  (m.nodes.map (·.1), m.mute, m.reaches)

theorem places_put (m : Mesh) (number : Nat) (node : Node) : (m.put number node).places = m.places := by
  have numbers : (m.put number node).nodes.map (·.1) = m.nodes.map (·.1) := by
    rw [put, List.map_map]
    refine List.map_congr_left fun entry _ => ?_
    by_cases replaced : entry.1 = number <;> simp [replaced]
  rw [places, numbers]
  rfl

/-- The node of a number has become another one, and the others are as they were. -/
structure Sets (m : Mesh) (number : Nat) (next : Node) (after : Mesh) : Prop where
  nodes : ∀ k, after.node? k = if k = number then some next else m.node? k
  places : after.places = m.places
  later : m.nextLink ≤ after.nextLink

theorem Sets.node?_self (sets : m.Sets number next after) : after.node? number = some next := by
  rw [sets.nodes, if_pos rfl]

theorem Sets.node?_of_ne (sets : m.Sets number next after) {k : Nat} (other : k ≠ number) :
    after.node? k = m.node? k := by
  rw [sets.nodes, if_neg other]

theorem Sets.refl (there : m.node? number = some node) : m.Sets number node m := by
  refine ⟨fun k => ?_, rfl, Nat.le_refl _⟩
  split
  · rename_i same
    rw [same, there]
  · rfl

theorem Sets.trans {middle : Mesh} {last : Node} (first : m.Sets number next middle)
    (second : middle.Sets number last after) : m.Sets number last after := by
  refine ⟨fun k => ?_, second.places.trans first.places, Nat.le_trans first.later second.later⟩
  rw [second.nodes]
  split
  · rfl
  · rename_i other
    exact first.node?_of_ne other

theorem sets_put (there : m.node? number = some node) (next : Node) :
    m.Sets number next (m.put number next) := by
  refine ⟨fun k => ?_, places_put m number next, Nat.le_refl _⟩
  rw [node?_put]
  by_cases same : k = number
  · simp [same, there]
  · simp [same]

theorem sets_modify (there : m.node? number = some node) (f : Node → Node) :
    m.Sets number (f node) (m.modify number f) := by
  rw [modify, there]
  exact sets_put there (f node)

theorem Sets.put_self (there : m.node? number = some node) {k : Nat} {peer : Node}
    (present : m.node? k = some peer) : m.Sets number node (m.put k peer) := by
  refine ⟨fun j => ?_, places_put m k peer, Nat.le_refl _⟩
  rw [(sets_put present peer).nodes]
  by_cases its : j = k
  · rw [if_pos its, its, present]
    by_cases same : k = number
    · rw [if_pos same, ← Option.some.injEq, ← there, ← present, same]
    · rw [if_neg same]
  · rw [if_neg its]
    exact (Sets.refl there).nodes j

/-- The node at the other end of a stream tells who it is and whom it knows, and changes nothing. -/
theorem exchange_spec (m : Mesh) (caller : Node) (endpoint : Endpoint) {call : Call}
    (asks : call = .isAlive ∨ call = .getAllNodes) :
    (∃ e, m.exchange caller endpoint call = (.error e, m) ∧
      ∀ k peer, endpoint = .node k → m.node? k ≠ some peer) ∨
    ∃ k peer, endpoint = .node k ∧ m.node? k = some peer ∧
      m.exchange caller endpoint call = (.ok (peer.reply call (.ok ())), m.put k peer) := by
  cases endpoint with
  | mute => exact Or.inl ⟨_, rfl, by simp⟩
  | node k =>
      cases there : m.node? k with
      | none =>
          left
          refine ⟨streamClosed, by simp [exchange, there], ?_⟩
          rintro _ peer ⟨⟩ present
          cases there.symm.trans present
      | some peer =>
          right
          refine ⟨k, peer, rfl, there, ?_⟩
          rcases asks with rfl | rfl <;> simp [exchange, there, Node.answer]

theorem outcome_reply (n : Node) (call : Call) :
    (n.reply call (.ok ())).outcome = .ok (n.reply call (.ok ())) := by
  cases call <;> rfl

theorem ask_spec (m : Mesh) (caller : Node) (endpoint : Endpoint) {call : Call}
    (asks : call = .isAlive ∨ call = .getAllNodes) :
    (∃ e, m.ask caller endpoint call = (.error e, m) ∧
      ∀ k peer, endpoint = .node k → m.node? k ≠ some peer) ∨
    ∃ k peer, endpoint = .node k ∧ m.node? k = some peer ∧
      m.ask caller endpoint call = (.ok (peer.reply call (.ok ())), m.put k peer) := by
  rcases m.exchange_spec caller endpoint asks with ⟨e, asked, nobody⟩ | ⟨k, peer, its, there, asked⟩
  · exact Or.inl ⟨e, by simp only [ask, asked, Except.bind], nobody⟩
  · exact Or.inr ⟨k, peer, its, there, by simp only [ask, asked, Except.bind, outcome_reply]⟩

/-- At an address there is another node than the one that dials it. -/
structure Meets (m : Mesh) (node : Node) (address : String) (k : Nat) (peer : Node) : Prop where
  dialled : m.dial address = .ok (.node k)
  there : m.node? k = some peer
  other : peer.name ≠ node.name

theorem Meets.ne {k : Nat} {peer : Node} (meets : m.Meets node address k peer)
    (there : m.node? number = some node) : k ≠ number := by
  rintro rfl
  cases meets.there.symm.trans there
  exact meets.other rfl

/-- A node that dials an address where a node answers becomes what it makes of the answer. -/
theorem reach_answered (there : m.node? number = some node) {k : Nat} {peer : Node}
    (dialled : m.dial address = .ok (.node k)) (present : m.node? k = some peer)
    {outcome : Outcome NodeInfo} (met : node.meet address m.nextLink (.node k)
      (.ok (peer.reply .isAlive (.ok ()))) = (outcome, next)) :
    (m.reach number address).1 = outcome ∧
      m.nextLink < (m.reach number address).2.nextLink ∧
      m.Sets number next (m.reach number address).2 := by
  have asked : m.ask node (.node k) .isAlive =
      (.ok (peer.reply .isAlive (.ok ())), m.put k peer) := by
    rcases m.ask_spec node (.node k) (Or.inl rfl) with ⟨e, -, nobody⟩ | ⟨_, other, ⟨⟩, found, asked⟩
    · exact absurd present (nobody k peer rfl)
    · cases found.symm.trans present
      exact asked
  have same (j : Nat) :
      ({ m.put k peer with nextLink := m.nextLink + 1 } : Mesh).node? j = m.node? j := by
    refine ((sets_put present peer).nodes j).trans ?_
    split
    · rename_i its
      rw [its, present]
    · rfl
  have now := (same number).trans there
  have reached : m.reach number address =
      (outcome, ({ m.put k peer with nextLink := m.nextLink + 1 } : Mesh).put number next) := by
    simp only [reach, there, dialled, asked, change]
    rw [show (m.put k peer).nextLink = m.nextLink from rfl, now]
    simp only [Nat.add_sub_cancel, met]
  rw [reached]
  refine ⟨rfl, Nat.lt_succ_self _, fun j => ?_,
    (places_put _ _ _).trans (places_put m k peer), Nat.le_succ _⟩
  rw [(sets_put now next).nodes, same]

/-- A node that dials an address keeps a link to the node there, which bears the name that it calls
itself; if no other node is there, nothing changes. -/
theorem reach_spec (there : m.node? number = some node) (address : String) :
    (∃ e, (m.reach number address).1 = .error e ∧ m.Sets number node (m.reach number address).2 ∧
      ∀ k peer, ¬ m.Meets node address k peer) ∨
    ∃ k peer, m.Meets node address k peer ∧ (m.reach number address).1 = .ok peer.info ∧
      m.nextLink < (m.reach number address).2.nextLink ∧
      m.Sets number (node.hold (.new m.nextLink peer.info (.node k)))
        (m.reach number address).2 := by
  cases dialled : m.dial address with
  | error e =>
      left
      have failed : m.reach number address = (.error e, m) := by simp only [reach, there, dialled]
      rw [failed]
      refine ⟨e, rfl, .refl there, fun k peer meets => ?_⟩
      cases meets.dialled.symm.trans dialled
  | ok endpoint =>
      rcases m.ask_spec node endpoint (Or.inl rfl) with ⟨e, asked, nobody⟩ | ⟨k, peer, rfl, present, -⟩
      · left
        have same : ({ m with nextLink := m.nextLink + 1 } : Mesh).node? number = some node := there
        have failed : m.reach number address =
            (.error e, { m with nextLink := m.nextLink + 1 }.put number node) := by
          simp only [reach, there, dialled, asked, change, same, Node.meet]
        rw [failed]
        refine ⟨e, rfl, ⟨(sets_put same node).nodes, places_put _ _ _, Nat.le_succ _⟩,
          fun k peer meets => ?_⟩
        cases meets.dialled.symm.trans dialled
        exact nobody k peer rfl meets.there
      · by_cases mine : node.isMe peer.name = true
        · left
          obtain ⟨failed, -, sets⟩ := reach_answered there dialled present
            ((node.meet_reply peer address m.nextLink (.node k)).trans (if_pos mine))
          refine ⟨_, failed, sets, fun j other meets => ?_⟩
          cases meets.dialled.symm.trans dialled
          cases meets.there.symm.trans present
          exact meets.other (beq_iff_eq.mp mine).symm
        · right
          obtain ⟨met, lt, sets⟩ := reach_answered there dialled present
            ((node.meet_reply peer address m.nextLink (.node k)).trans (if_neg mine))
          exact ⟨k, peer, ⟨dialled, present, fun same => mine (beq_iff_eq.mpr same.symm)⟩, met, lt,
            sets⟩

/-- The node at the other end of a link that a connect keeps becomes a member. -/
theorem connect_spec (there : m.node? number = some node) (address : String) :
    (∃ e, (m.connect number address).1 = .error e ∧ m.Sets number node (m.connect number address).2 ∧
      ∀ k peer, ¬ m.Meets node address k peer) ∨
    ∃ k peer, m.Meets node address k peer ∧ (m.connect number address).1 = .ok peer.info ∧
      m.nextLink < (m.connect number address).2.nextLink ∧
      m.Sets number (node.adopt (.new m.nextLink peer.info (.node k)))
        (m.connect number address).2 := by
  obtain ⟨outcome, half, reached⟩ :
    ∃ outcome half, m.reach number address = (outcome, half) := ⟨_, _, rfl⟩
  rcases reach_spec there address with ⟨e, failed, sets, nobody⟩ | ⟨k, peer, meets, met, lt, sets⟩
  · rw [reached] at failed sets
    cases failed
    have connected : m.connect number address = (.error e, half) := by simp only [connect, reached]
    rw [connected]
    exact Or.inl ⟨e, rfl, sets, nobody⟩
  · rw [reached] at met lt sets
    cases met
    have connected : m.connect number address = (.ok peer.info, half.enter number peer.info) := by
      simp only [connect, reached]
    rw [connected]
    have entered := sets_modify sets.node?_self (·.know peer.info)
    exact Or.inr ⟨k, peer, meets, rfl, lt_of_lt_of_le lt entered.later, sets.trans entered⟩

theorem letIn_of_connected {info : NodeInfo} (there : m.node? number = some node)
    (connected : node.isConnected info.name = true) : m.letIn number info = (.ok (), m) := by
  simp only [letIn, there, connected, if_true]

theorem letIn_of_unconnected {info : NodeInfo} (there : m.node? number = some node)
    (unconnected : node.isConnected info.name = false) :
    m.letIn number info =
      ((m.connect number info.address).1.map fun _ => (), (m.connect number info.address).2) := by
  simp [letIn, there, unconnected]

/-- The node that handles a call to let a node in replies to it. -/
theorem handle_letMeIn (there : m.node? number = some node) (caller : Node) (info : NodeInfo) :
    m.handle number caller (.letMeIn info) =
      (.ok (node.reply (.letMeIn info) (m.letIn number info).1), (m.letIn number info).2) := by
  simp only [handle, serve, there]

/-! ## One thing at a time -/

/-- One thing happens to the node of a number at most. -/
def Turned (m : Mesh) (number : Nat) (after : Mesh) : Prop :=
  ∀ node, m.node? number = some node → node.InStep number m.nextLink →
    ∃ next, after.node? number = some next ∧ node.Turn number m.nextLink after.nextLink next

theorem connect_turned (m : Mesh) (number : Nat) (address : String) :
    m.Turned number (m.connect number address).2 := by
  intro node there _
  rcases connect_spec there address with ⟨e, -, sets, -⟩ | ⟨k, peer, meets, -, lt, sets⟩
  · exact ⟨node, sets.node?_self, .rest sets.later⟩
  · exact ⟨_, sets.node?_self, .meet meets.other (meets.ne there) lt⟩

theorem letIn_turned (m : Mesh) (number : Nat) (info : NodeInfo) :
    m.Turned number (m.letIn number info).2 := by
  intro node there inStep
  cases connected : node.isConnected info.name with
  | true =>
      rw [letIn_of_connected there connected]
      exact ⟨node, there, .rest (Nat.le_refl _)⟩
  | false =>
      rw [letIn_of_unconnected there connected]
      exact m.connect_turned number info.address node there inStep

/-- A call to another node does not change the node that makes it. -/
theorem serve_elsewhere (caller : Node) {endpoint : Endpoint} (call : Call)
    (away : endpoint ≠ .node number) :
    (m.serve caller endpoint call).2.node? number = m.node? number ∧
      m.nextLink ≤ (m.serve caller endpoint call).2.nextLink := by
  have exchanged : (m.exchange caller endpoint call).2.node? number = m.node? number ∧
      m.nextLink ≤ (m.exchange caller endpoint call).2.nextLink := by
    cases endpoint with
    | mute => exact ⟨rfl, Nat.le_refl _⟩
    | node k =>
        cases there : m.node? k with
        | none => simp [exchange, there]
        | some peer =>
            have other : number ≠ k := fun same => away (same ▸ rfl)
            simp only [exchange, there]
            exact ⟨(sets_put there _).node?_of_ne other, Nat.le_refl _⟩
  unfold serve
  split
  · rename_i k info
    have other : number ≠ k := fun same => away (same ▸ rfl)
    split
    · exact ⟨rfl, Nat.le_refl _⟩
    · rename_i peer there
      cases connected : peer.isConnected info.name with
      | true => simp [letIn_of_connected there connected]
      | false =>
          rw [letIn_of_unconnected there connected]
          rcases connect_spec there info.address with ⟨e, -, sets, -⟩ | ⟨_, _, -, -, -, sets⟩
          · exact ⟨sets.node?_of_ne other, sets.later⟩
          · exact ⟨sets.node?_of_ne other, sets.later⟩
  · exact exchanged

/-- A call over a link, as the node has it now, ends at once if the link is broken. Otherwise the
peer makes something of it, and the link is the same as before, and not broken if the call was
answered. -/
theorem callLink_cases (there : m.node? number = some node) {link l : Link} (call : Call)
    (now : (node.links.find? (·.number == link.number)).getD link = l) :
    (∃ e, m.callLink number link call = (.error e, m)) ∨
    ∃ ended, l.Same ended ∧ l.broken = false ∧
      ((m.callLink number link call).1.isOk = true → ended.broken = false) ∧
      (m.callLink number link call).2 =
        (m.serve node l.endpoint call).2.modify number (·.updateLink ended) := by
  cases broken : l.broken with
  | true =>
      left
      refine ⟨l.brokenError, ?_⟩
      simp only [callLink, there, now, Link.begin_of_broken broken]
  | false =>
      right
      obtain ⟨same, kept⟩ := Link.finish_begin_spec broken (m.serve node l.endpoint call).1
      have called : m.callLink number link call =
          (((l.begin.finish l.calls.length (m.serve node l.endpoint call).1).outcome?
              l.calls.length).getD (m.serve node l.endpoint call).1,
            (m.serve node l.endpoint call).2.modify number (·.updateLink
              (l.begin.finish l.calls.length (m.serve node l.endpoint call).1).forget)) := by
        simp only [callLink, there, now, Link.outcome?_begin_of_unbroken broken]
      rw [called]
      exact ⟨_, same, rfl, kept, rfl⟩

theorem callLink_turned {link : Link} (call : Call)
    (there : m.node? number = some node) (kept : link ∈ node.links) :
    m.Turned number (m.callLink number link call).2 := by
  intro n present inStep
  cases there.symm.trans present
  have now : (node.links.find? (·.number == link.number)).getD link = link := by
    rw [inStep.numbered.find?_number kept]
    rfl
  rcases callLink_cases there call now with ⟨e, failed⟩ | ⟨ended, same, -, -, called⟩
  · rw [failed]
    exact ⟨node, there, .rest (Nat.le_refl _)⟩
  · obtain ⟨still, later⟩ := m.serve_elsewhere node call (inStep.away link kept)
    have sets := sets_modify (still.trans there) (·.updateLink ended)
    rw [called]
    exact ⟨_, sets.node?_self, .call kept same (Nat.le_trans later sets.later)⟩

theorem callNode_turned (m : Mesh) (number : Nat) (name : String) (call : Call) :
    m.Turned number (m.callNode number name call).2 := by
  intro node there inStep
  cases linked : node.link? name with
  | none =>
      have failed : (m.callNode number name call).2 = m := by simp [callNode, there, linked]
      rw [failed]
      exact ⟨node, there, .rest (Nat.le_refl _)⟩
  | some link =>
      have called : (m.callNode number name call).2 = (m.callLink number link call).2 := by
        simp [callNode, there, linked]
      rw [called]
      exact callLink_turned call there (List.mem_of_find?_eq_some linked) node there inStep

/-- A node that asks over a stream stays as it is. -/
theorem exchange_sets (there : m.node? number = some node) (caller : Node) (endpoint : Endpoint)
    {call : Call} (asks : call = .isAlive ∨ call = .getAllNodes) :
    m.Sets number node (m.exchange caller endpoint call).2 := by
  rcases m.exchange_spec caller endpoint asks with ⟨e, asked, -⟩ | ⟨k, peer, -, present, asked⟩
  · rw [asked]
    exact .refl there
  · rw [asked]
    exact .put_self there present

theorem ask_sets (there : m.node? number = some node) (caller : Node) (endpoint : Endpoint)
    {call : Call} (asks : call = .isAlive ∨ call = .getAllNodes) :
    m.Sets number node (m.ask caller endpoint call).2 :=
  exchange_sets there caller endpoint asks

/-- A join goes on by one call. -/
theorem joinStep_turned (m : Mesh) (number : Nat) (caller : Node) (stage : Join) :
    m.Turned number (m.joinStep number caller stage).2 := by
  intro node there inStep
  cases stage with
  | greeting endpoint =>
      have sets := ask_sets there caller endpoint (Or.inl rfl)
      exact ⟨node, sets.node?_self, .rest sets.later⟩
  | listing endpoint =>
      have sets := ask_sets there caller endpoint (Or.inr rfl)
      exact ⟨node, sets.node?_self, .rest sets.later⟩
  | meeting members =>
      cases members with
      | nil => exact ⟨node, there, .rest (Nat.le_refl _)⟩
      | cons member rest =>
          obtain ⟨next, now, turn⟩ := m.connect_turned number member.address node there inStep
          simp only [joinStep]
          split
          · exact ⟨node, there, .rest (Nat.le_refl _)⟩
          · split
            · rename_i connected
              rw [connected] at now turn
              exact ⟨next, now, turn⟩
            · rename_i failed
              rw [failed] at now turn
              exact ⟨next, now, turn⟩
  | entering member rest => exact m.callNode_turned number member.name _ node there inStep

/-- A check of a link changes the entry of the node for that link at most, and nothing if the node
does not keep it any more. The entry is not broken after a check that was answered. -/
theorem callLink_isAlive (there : m.node? number = some node) (link : Link) :
    ∃ next, m.Sets number next (m.callLink number link .isAlive).2 ∧
      (next = node ∨ ∃ l ended, l ∈ node.links ∧ l.number = link.number ∧ l.Same ended ∧
        ((m.callLink number link .isAlive).1.isOk = true → ended.broken = false) ∧
        next = node.updateLink ended) := by
  rcases callLink_cases there .isAlive rfl with ⟨e, failed⟩ | ⟨ended, same, -, kept, called⟩
  · rw [failed]
    exact ⟨node, .refl there, Or.inl rfl⟩
  · have served : ∀ endpoint, m.Sets number node (m.serve node endpoint .isAlive).2 := by
      intro endpoint
      cases endpoint <;> exact exchange_sets there node _ (Or.inl rfl)
    rw [called]
    refine ⟨_, (served _).trans (sets_modify (served _).node?_self (·.updateLink ended)), ?_⟩
    cases found : node.links.find? (·.number == link.number) with
    | none =>
        left
        have number : ended.number = link.number := by
          rw [same.number, found]
          rfl
        have missing : ∀ l ∈ node.links, l.number ≠ ended.number := by
          intro l among its
          have none := List.find?_eq_none.mp found l among
          simp [its, number] at none
        have unchanged : node.links.map (fun l => if l.number == ended.number then ended else l) =
            node.links := by
          refine (List.map_congr_left fun l among => ?_).trans (List.map_id _)
          simp [missing l among]
        exact congrArg (fun links => { node with links := links }) unchanged
    | some l =>
        right
        rw [found] at same
        refine ⟨l, ended, List.mem_of_find?_eq_some found, ?_, same, kept, rfl⟩
        simpa using List.find?_some found

theorem check_turned (m : Mesh) (number : Nat) (round : Round) :
    m.Turned number (m.check number round).2 := by
  intro node there inStep
  unfold check
  split
  · exact ⟨node, there, .rest (Nat.le_refl _)⟩
  · rename_i link rest unchecked
    obtain ⟨next, sets, changed⟩ := callLink_isAlive there link
    have turn : node.Turn number m.nextLink (m.callLink number link .isAlive).2.nextLink next := by
      rcases changed with rfl | ⟨l, ended, kept, -, same, -, rfl⟩
      · exact .rest sets.later
      · exact .call kept same sets.later
    have now := sets.node?_self
    split
    · rename_i called
      rw [called] at now turn
      exact ⟨next, now, turn⟩
    · rename_i called
      rw [called] at now turn
      exact ⟨next, now, turn⟩

theorem evict_turned (m : Mesh) (number : Nat) (link : Link) :
    m.Turned number (m.modify number fun n => (n.evict link).2) := by
  intro node there _
  have sets := sets_modify there fun n => (n.evict link).2
  have same : (m.modify number fun n => (n.evict link).2).nextLink = m.nextLink := by
    rw [modify, there]
    rfl
  rw [same]
  exact ⟨_, sets.node?_self, .evict link⟩

/-! ## Whole operations -/

/-- The members and links of the node of a number are in step. -/
def InStepAt (m : Mesh) (number : Nat) : Prop :=
  ∃ node, m.node? number = some node ∧ node.InStep number m.nextLink

namespace InStepAt

theorem turned (inStep : m.InStepAt number) (turned : m.Turned number after) :
    after.InStepAt number := by
  obtain ⟨node, there, steps⟩ := inStep
  obtain ⟨next, now, turn⟩ := turned node there steps
  exact ⟨next, now, steps.turn turn⟩

theorem enterAll (inStep : m.InStepAt number) (members : List NodeInfo) :
    (m.enterAll number members).InStepAt number := by
  induction members generalizing m with
  | nil => exact inStep
  | cons member rest ih =>
      simp only [Mesh.enterAll]
      split
      · exact inStep
      · rename_i node there
        have met := inStep.turned (m.joinStep_turned number node (.meeting (member :: rest)))
        split
        · rename_i entered others middle entering
          rw [entering] at met
          exact ih (met.turned (middle.joinStep_turned number node (.entering entered rest)))
        · rename_i middle _ skipped
          rw [skipped] at met
          exact ih met

theorem joinAt (inStep : m.InStepAt number) (address : String) :
    (m.joinAt number address).2.InStepAt number := by
  simp only [Mesh.joinAt]
  split
  · exact inStep
  · rename_i node there
    split
    · exact inStep
    · rename_i endpoint dialled
      have greeted := inStep.turned (m.joinStep_turned number node (.greeting endpoint))
      split
      · rename_i failed
        rw [failed] at greeted
        exact greeted
      · rename_i middle answered
        rw [answered] at greeted
        have listed := greeted.turned (middle.joinStep_turned number node (.listing endpoint))
        split
        · rename_i members last listing
          rw [listing] at listed
          exact listed.enterAll members
        · rename_i last _ listing
          rw [listing] at listed
          exact listed
        · rename_i failed
          rw [failed] at listed
          exact listed

theorem checkAll (inStep : m.InStepAt number) (n : Nat) (round : Round) :
    (m.checkAll number n round).2.InStepAt number := by
  induction n generalizing m round with
  | zero => exact inStep
  | succ n ih => exact ih (inStep.turned (m.check_turned number round)) _

theorem evictAll (inStep : m.InStepAt number) (links : List Link) :
    (m.evictAll number links).InStepAt number := by
  induction links generalizing m with
  | nil => exact inStep
  | cons link rest ih => exact ih (inStep.turned (m.evict_turned number link))

theorem detect (inStep : m.InStepAt number) : (m.detect number).InStepAt number := by
  unfold Mesh.detect
  split
  · exact inStep
  · rename_i node there
    exact (inStep.checkAll node.links.length (Mesh.round node)).evictAll _

end InStepAt

/-! ## Histories -/

/-- What a node does about its members and links, each to its end. A join and a round of heartbeats
may also be taken call by call, so that other nodes may change in the middle of it. -/
inductive Deed
  | connect (address : String)
  | join (address : String)
  | joinCall (stage : Join)
  /-- Handle the call of a node that asks to be let in. -/
  | letIn (caller : Node) (info : NodeInfo)
  | call (name : String) (call : Call)
  | detect
  | check (round : Round)
  /-- Evict a link, be it one that the node still keeps or not. -/
  | evict (link : Link)

def perform (m : Mesh) (number : Nat) : Deed → Mesh
  | .connect address => (m.connect number address).2
  | .join address => (m.joinAt number address).2
  | .joinCall stage => ((m.node? number).map fun node => (m.joinStep number node stage).2).getD m
  | .letIn caller info => (m.handle number caller (.letMeIn info)).2
  | .call name call => (m.callNode number name call).2
  | .detect => m.detect number
  | .check round => (m.check number round).2
  | .evict link => m.modify number fun n => (n.evict link).2

/-- What may have become of a mesh since the node of a number knew of itself alone. Other nodes come,
go and change as they like, and so does what the node itself has besides members and links. -/
inductive History (number : Nat) : Mesh → Prop
  | alone {m : Mesh} {node : Node} (there : m.node? number = some node) (links : node.links = [])
      (members : node.membership.members = [node.info]) : History number m
  | deed {m : Mesh} (history : History number m) (deed : Deed) : History number (m.perform number deed)
  | elsewhere {m after : Mesh} (history : History number m)
      (same : (after.node? number).map (fun n => (n.info, n.links, n.membership)) =
        (m.node? number).map fun n => (n.info, n.links, n.membership))
      (later : m.nextLink ≤ after.nextLink) : History number after

namespace InStepAt

theorem perform (inStep : m.InStepAt number) (deed : Deed) :
    (m.perform number deed).InStepAt number := by
  cases deed with
  | connect address => exact inStep.turned (m.connect_turned number address)
  | join address => exact inStep.joinAt address
  | joinCall stage =>
      obtain ⟨node, there, -⟩ := id inStep
      simp only [Mesh.perform, there]
      exact inStep.turned (m.joinStep_turned number node stage)
  | letIn caller info =>
      obtain ⟨node, there, -⟩ := id inStep
      simp only [Mesh.perform, handle_letMeIn there]
      exact inStep.turned (m.letIn_turned number info)
  | call name call => exact inStep.turned (m.callNode_turned number name call)
  | detect => exact inStep.detect
  | check round => exact inStep.turned (m.check_turned number round)
  | evict link => exact inStep.turned (m.evict_turned number link)

theorem history (history : m.History number) : m.InStepAt number := by
  induction history with
  | alone there links members => exact ⟨_, there, .alone links members⟩
  | deed _ deed ih => exact ih.perform deed
  | @elsewhere m after _ same later ih =>
      obtain ⟨node, there, inStep⟩ := ih
      rw [there] at same
      obtain ⟨next, now, parts⟩ := Option.map_eq_some_iff.mp same
      obtain ⟨info, links, membership⟩ := by simpa using parts
      exact ⟨next, now, (inStep.mono later).congr info links membership⟩

end InStepAt

/-- **Members and links stay in step.**  Whatever a node has done since it knew of itself alone, and
whoever answered at the addresses it dialled, its members are itself and the peers of its links: their
names are its own name and the names under which it keeps links, no name twice, so it keeps no link
under its own name, and each member other than itself is the peer that the link recorded. -/
theorem history_inStep (history : m.History number) :
    ∃ node, m.node? number = some node ∧
      (node.membership.members.map (·.name)).Perm (node.name :: node.connected) ∧
      node.name ∉ node.connected ∧ node.connected.Nodup ∧
      ∀ link ∈ node.links, node.membership.get? link.peer.name = some link.peer := by
  obtain ⟨node, there, inStep⟩ := InStepAt.history history
  have names : (node.name :: node.connected).Nodup :=
    inStep.perm.nodup_iff.mp inStep.members.nodup
  obtain ⟨apart, distinct⟩ := List.nodup_cons.mp names
  refine ⟨node, there, inStep.perm, apart, distinct, fun link kept => ?_⟩
  rw [inStep.others _ (inStep.peer_ne kept), inStep.numbered.link?_eq kept]
  rfl

/-! ### Peers that come back -/

/-- A node without spiders that listens at a port of this machine, and knows of itself alone. -/
def nodeAt (name : String) (port : UInt16) : Node :=
  { nodeWith name port [] with listens := .v4 ⟨127, 0, 0, 1⟩ port }

/-- Nodes on this machine. -/
def meshOf (nodes : List Node) : Mesh :=
  nodes.foldl (fun m node => (m.addNode node).2) (.new (fun _ => true) 9100)

/-- The first node has a link to the second one, which was started anew at another port then. -/
def moved : Mesh :=
  let linked := (meshOf [nodeAt "node-a" 9001, nodeAt "node-b" 9002]).perform 0
    (.connect "127.0.0.1:9002")
  ({ linked with nodes := linked.nodes.filter (·.1 != 1) }.addNode (nodeAt "node-b" 9003)).2

theorem moved_history : moved.History 0 := by
  have first : (meshOf [nodeAt "node-a" 9001, nodeAt "node-b" 9002]).History 0 := .alone rfl rfl rfl
  exact .elsewhere (first.deed (.connect "127.0.0.1:9002")) rfl (by decide)

/-- There is also a node of the name of the first one. The first node connects to it, which it must not,
and to the second one at its new port; it evicts the old link to that one when it has the new one. -/
def reused : Mesh :=
  ((((moved.addNode (nodeAt "node-a" 9004)).2.perform 0 (.connect "127.0.0.1:9004")).perform 0
    (.connect "127.0.0.1:9003")).perform 0
    (.evict (.new 0 ⟨"node-b", "127.0.0.1", 9002⟩ (.node 1)))).perform 0 .detect

theorem history_inStep_reused_names :
    reused.History 0 ∧
      (∃ node, reused.node? 0 = some node ∧
        (node.membership.members.map (·.name)).Perm (node.name :: node.connected) ∧
        node.name ∉ node.connected ∧ node.connected.Nodup ∧
        ∀ link ∈ node.links, node.membership.get? link.peer.name = some link.peer) ∧
      (reused.node? 0).map (·.membership.members) =
        some [⟨"node-a", "127.0.0.1", 9001⟩, ⟨"node-b", "127.0.0.1", 9003⟩] := by
  have namesake : (moved.addNode (nodeAt "node-a" 9004)).2.History 0 :=
    moved_history.elsewhere rfl (by decide)
  have history : reused.History 0 := (((namesake.deed _).deed _).deed _).deed _
  exact ⟨history, history_inStep history, rfl⟩

/-! ## Letting a node in -/

/-- The node of a number has a member as the member calls itself, and its link of that name is one to
the address of the member. -/
def Knows (m : Mesh) (number : Nat) (info : NodeInfo) : Prop :=
  ∃ node link, m.node? number = some node ∧ node.membership.get? info.name = some info ∧
    node.link? info.name = some link ∧ link.peer = info

theorem isOk_outcome_reply (n : Node) (info : NodeInfo) (outcome : Outcome Unit) :
    (n.reply (.letMeIn info) outcome).outcome.isOk = outcome.isOk := by
  cases outcome <;> rfl

/-- A node that is let in where no usable link of its name is kept is refused if it bears the name of
the node, and otherwise becomes a member at the address it gave, over a new link to there. -/
theorem letIn_unconnected_spec {k : Nat} {peer : Node} {info : NodeInfo}
    (there : m.node? number = some node) (dialled : m.dial info.address = .ok (.node k))
    (present : m.node? k = some peer) (answers : peer.info = info)
    (unconnected : node.isConnected info.name = false) :
    (info.name = node.name ∧ (m.letIn number info).1.isOk = false) ∨
      (info.name ≠ node.name ∧ (m.letIn number info).1.isOk = true ∧
        m.Sets number (node.adopt (.new m.nextLink info (.node k))) (m.letIn number info).2) := by
  have named : peer.name = info.name := congrArg NodeInfo.name answers
  rw [letIn_of_unconnected there unconnected]
  rcases connect_spec there info.address with
    ⟨e, failed, -, nobody⟩ | ⟨_, other, meets, met, -, sets⟩
  · left
    rw [failed]
    refine ⟨?_, rfl⟩
    by_contra distinct
    exact nobody k peer ⟨dialled, present, named ▸ distinct⟩
  · right
    cases meets.dialled.symm.trans dialled
    cases meets.there.symm.trans present
    rw [met]
    exact ⟨named ▸ meets.other, rfl, answers ▸ sets⟩

/-- **Letting a node in.**  Let a node ask to be let in, at whose address it answers itself.  It is
told that it was let in unless it bears the name of the node it asks.  If that one had no usable link
of its name, then it is known afterwards at the address it gave, over a new link to there.  If there
was such a link, then nothing changes: the member and the link of that name are those of the older
link, so the node is known at its address if and only if that link was one to there. -/
theorem letMeIn_knows {k : Nat} {peer : Node} {info : NodeInfo} (history : m.History number)
    (caller : Node) (there : m.node? number = some node)
    (dialled : m.dial info.address = .ok (.node k)) (present : m.node? k = some peer)
    (answers : peer.info = info) :
    ∃ reply after, m.handle number caller (.letMeIn info) = (.ok reply, after) ∧
      (reply.outcome.isOk = true ↔ info.name ≠ node.name) ∧
      (node.isConnected info.name = false → reply.outcome.isOk = true →
        after.Knows number info ∧ ∃ link, (after.node? number).bind (·.link? info.name) = some link ∧
          link.endpoint = .node k ∧ link.broken = false) ∧
      ∀ link, node.link? info.name = some link → link.broken = false →
        after = m ∧ (after.Knows number info ↔ link.peer = info) := by
  obtain ⟨own, found, inStep⟩ := InStepAt.history history
  cases found.symm.trans there
  refine ⟨_, _, handle_letMeIn there caller info, ?_⟩
  rw [isOk_outcome_reply]
  cases connected : node.isConnected info.name with
  | true =>
      rw [letIn_of_connected there connected]
      refine ⟨⟨fun _ own => ?_, fun _ => rfl⟩, by simp, ?_⟩
      · rw [Node.isConnected, own, inStep.apart] at connected
        cases connected
      · intro link linked unbroken
        have kept : link ∈ node.links := List.mem_of_find?_eq_some linked
        have its : link.peer.name = info.name := by simpa using List.find?_some linked
        refine ⟨rfl, ?_, ?_⟩
        · rintro ⟨_, other, now, -, found, same⟩
          cases now.symm.trans there
          cases found.symm.trans linked
          exact same
        · intro same
          refine ⟨node, link, there, ?_, linked, same⟩
          rw [inStep.others _ (its ▸ inStep.peer_ne kept), linked, Option.map_some, same]
  | false =>
      have unlinked (link : Link) (linked : node.link? info.name = some link)
          (unbroken : link.broken = false) : False := by
        simp [Node.isConnected, linked, unbroken] at connected
      rcases letIn_unconnected_spec there dialled present answers connected with
        ⟨own, refused⟩ | ⟨distinct, succeeds, sets⟩
      · rw [refused]
        exact ⟨by simp [own], by simp, fun link linked unbroken => (unlinked link linked unbroken).elim⟩
      · refine ⟨⟨fun _ => distinct, fun _ => succeeds⟩, fun _ _ => ?_,
          fun link linked unbroken => (unlinked link linked unbroken).elim⟩
        have linked : (node.adopt (.new m.nextLink info (.node k))).link? info.name =
            some (.new m.nextLink info (.node k)) := by
          rw [Node.link?_adopt]
          exact if_pos rfl
        have member : (node.adopt (.new m.nextLink info (.node k))).membership.get? info.name =
            some info := by
          rw [Node.get?_adopt]
          exact if_pos rfl
        refine ⟨⟨_, _, sets.node?_self, member, linked, rfl⟩,
          .new m.nextLink info (.node k), ?_, rfl, rfl⟩
        rw [sets.node?_self, Option.bind_some, linked]

/-- The node that was started anew, at its new port. -/
def rejoining : NodeInfo := ⟨"node-b", "127.0.0.1", 9003⟩

/-- A node that is not known yet, and one that is known at its old port. -/
theorem letMeIn_knows_new_and_moved :
    (∃ node, (meshOf [nodeAt "node-a" 9001, nodeAt "node-b" 9003]).node? 0 = some node ∧
      node.isConnected rejoining.name = false ∧ ∃ reply after,
        (meshOf [nodeAt "node-a" 9001, nodeAt "node-b" 9003]).handle 0 (nodeAt "node-b" 9003)
          (.letMeIn rejoining) = (.ok reply, after) ∧ reply.outcome.isOk = true ∧
        after.Knows 0 rejoining) ∧
    ∃ node link, moved.node? 0 = some node ∧ node.link? rejoining.name = some link ∧
      link.broken = false ∧ ∃ reply after,
        moved.handle 0 (nodeAt "node-b" 9003) (.letMeIn rejoining) = (.ok reply, after) ∧
        reply.outcome.isOk = true ∧ after = moved ∧ (after.Knows 0 rejoining ↔ link.peer = rejoining) := by
  constructor
  · have history : (meshOf [nodeAt "node-a" 9001, nodeAt "node-b" 9003]).History 0 :=
      .alone rfl rfl rfl
    have answers : (nodeAt "node-b" 9003).info = rejoining := rfl
    obtain ⟨reply, after, handled, told, known, -⟩ :=
      letMeIn_knows (k := 1) history (nodeAt "node-b" 9003) rfl rfl rfl answers
    have succeeds := told.mpr (by decide)
    exact ⟨_, rfl, rfl, reply, after, handled, succeeds, (known rfl succeeds).1⟩
  · have answers : (nodeAt "node-b" 9003).info = rejoining := rfl
    obtain ⟨reply, after, handled, told, -, older⟩ :=
      letMeIn_knows (k := 2) moved_history (nodeAt "node-b" 9003) rfl rfl rfl answers
    exact ⟨_, _, rfl, rfl, rfl, reply, after, handled, told.mpr (by decide), older _ rfl rfl⟩

/-- A node that was started anew at another port, where it answers, is told that it was let in, and is
still known at its old port: the link to that one is not broken yet. -/
theorem older_link_hides_restart :
    moved.History 0 ∧ moved.dial rejoining.address = .ok (.node 2) ∧
      (moved.node? 2).map (·.info) = some rejoining ∧
      (∃ reply, (moved.handle 0 (nodeAt "node-b" 9003) (.letMeIn rejoining)).1 = .ok reply ∧
        reply.outcome.isOk = true) ∧
      ¬ (moved.handle 0 (nodeAt "node-b" 9003) (.letMeIn rejoining)).2.Knows 0 rejoining := by
  refine ⟨moved_history, rfl, rfl, ⟨_, rfl, rfl⟩, ?_⟩
  have member : ((moved.handle 0 (nodeAt "node-b" 9003) (.letMeIn rejoining)).2.node? 0).bind
      (·.membership.get? rejoining.name) = some ⟨"node-b", "127.0.0.1", 9002⟩ := rfl
  rintro ⟨node, link, there, known, -, -⟩
  rw [there, Option.bind_some, known] at member
  exact absurd (Option.some.inj member) (by decide)

end Mesh

end CrawlMesh
