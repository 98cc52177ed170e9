/-
# Heartbeats and peers that come back

A node may be at several rounds of heartbeats and several connects at a time.  A round takes the links
of the moment when it begins, checks each of them by one call, and evicts those that failed when all
are checked; a connect keeps the new link first and makes its peer a member then.  `Vigil.Step` is one
step of all that; a connect or a round that nothing else happens in is a run of such steps
(`Vigil.connect_run`, `Vigil.detect_run`).

A link is known by its number, and a later link has a higher one.  So a round never knows a link that
was made after it began.  A link goes when a newer one of its name takes its place, or by an eviction,
and then a check of that very link has failed (`Vigil.Happens.link?`); a member goes together with its
link (`Vigil.Happens.member?`).  A peer that has been linked anew since a round began is therefore
still connected when the round is over, whatever the round found on the old stream
(`Vigil.heartbeats_spare_relinked`).
-/
import CrawlMesh.Proofs.Mesh.Histories

namespace CrawlMesh

set_option autoImplicit false

/-! ## Whole calls -/

namespace Mesh

variable {m : Mesh} {number : Nat} {node next : Node} {name : String}

/-- A check of the first link of a round. -/
theorem check_spec (there : m.node? number = some node) (link : Link) (rest failed : List Link) :
    ∃ dead next after, m.check number ⟨link :: rest, failed⟩ = (⟨rest, failed ++ dead⟩, after) ∧
      (dead = [] ∨ dead = [link]) ∧ m.Sets number next after ∧
      (next = node ∨ ∃ l ended, l ∈ node.links ∧ l.number = link.number ∧ l.Same ended ∧
        (dead = [] → ended.broken = false) ∧ next = node.updateLink ended) := by
  obtain ⟨next, sets, changed⟩ := callLink_isAlive there link
  obtain ⟨outcome, after, called⟩ :
      ∃ outcome after, m.callLink number link .isAlive = (outcome, after) := ⟨_, _, rfl⟩
  rw [called] at sets changed
  cases outcome with
  | ok reply =>
      refine ⟨[], next, after, by simp [check, called], Or.inl rfl, sets, changed.imp_right ?_⟩
      rintro ⟨l, ended, kept, its, same, unbroken, now⟩
      exact ⟨l, ended, kept, its, same, fun _ => unbroken rfl, now⟩
  | error e =>
      refine ⟨[link], next, after, by simp [check, called], Or.inr rfl, sets, changed.imp_right ?_⟩
      rintro ⟨l, ended, kept, its, same, -, now⟩
      exact ⟨l, ended, kept, its, same, by simp, now⟩

end Mesh

/-! ## Steps -/

/-- A node that watches over its peers in a mesh: the peers whose links it keeps and that become
members next, its rounds of heartbeats, also those that are over, and the checks that failed, each with
the place of its round. -/
structure Vigil where
  mesh : Mesh
  entering : List NodeInfo
  rounds : List Mesh.Round
  failures : List (Nat × Link)

namespace Vigil

open Mesh (Round)

variable {v after : Vigil} {number : Nat} {node next : Node} {name : String}

/-- One step of connects and rounds of heartbeats. -/
inductive Step (number : Nat) (v : Vigil) : Vigil → Prop
  /-- No other node is at an address that is dialled. -/
  | refused {address : String} {e : CrawlError} {mesh : Mesh}
      (reached : v.mesh.reach number address = (.error e, mesh)) :
      Step number v { v with mesh := mesh }
  /-- Another node is at an address that is dialled, and a link to it is kept. -/
  | reached {address : String} {peer : NodeInfo} {mesh : Mesh}
      (reached : v.mesh.reach number address = (.ok peer, mesh)) :
      Step number v { v with mesh := mesh, entering := v.entering ++ [peer] }
  /-- The peer of a link that is kept becomes a member. -/
  | entered {i : Nat} {peer : NodeInfo} (waits : v.entering[i]? = some peer) :
      Step number v { v with
        mesh := v.mesh.enter number peer, entering := v.entering.eraseIdx i }
  /-- A round begins with the links of the moment. -/
  | begun {node : Node} (there : v.mesh.node? number = some node) :
      Step number v { v with rounds := v.rounds ++ [Mesh.round node] }
  /-- Any one of the links of a round is checked. -/
  | checked {i k : Nat} {r : Round} {link : Link} {dead : List Link} {mesh : Mesh}
      (here : v.rounds[i]? = some r) (unchecked : r.unchecked[k]? = some link)
      (checked : v.mesh.check number ⟨link :: r.unchecked.eraseIdx k, r.failed⟩ =
        (⟨r.unchecked.eraseIdx k, r.failed ++ dead⟩, mesh)) :
      Step number v { v with
        mesh := mesh
        rounds := v.rounds.set i ⟨r.unchecked.eraseIdx k, r.failed ++ dead⟩
        failures := v.failures ++ dead.map (i, ·) }
  /-- A link that failed is evicted, when all links of the round are checked. -/
  | evicted {i k : Nat} {r : Round} {link : Link} (here : v.rounds[i]? = some r)
      (all : r.unchecked = []) (failed : r.failed[k]? = some link) :
      Step number v { v with
        mesh := v.mesh.modify number fun n => (n.evict link).2
        rounds := v.rounds.set i ⟨[], r.failed.eraseIdx k⟩ }
  /-- Whatever happens to other nodes, and to what the node has besides members and links. -/
  | elsewhere {mesh : Mesh}
      (same : (mesh.node? number).map (fun n => (n.links, n.membership)) =
        (v.mesh.node? number).map fun n => (n.links, n.membership))
      (later : v.mesh.nextLink ≤ mesh.nextLink) : Step number v { v with mesh := mesh }

/-- A run of steps. -/
def Run (number : Nat) : Vigil → Vigil → Prop := Relation.ReflTransGen (Step number)

/-- What a step makes of the links and members of the node. -/
inductive Happens (v : Vigil) (node : Node) : Node → Vigil → Prop
  | rest {next : Node} {mesh : Mesh} (links : next.links = node.links)
      (membership : next.membership = node.membership) : Happens v node next { v with mesh := mesh }
  | reached {peer : NodeInfo} {k : Nat} {mesh : Mesh} (lt : v.mesh.nextLink < mesh.nextLink) :
      Happens v node (node.hold (.new v.mesh.nextLink peer (.node k)))
        { v with mesh := mesh, entering := v.entering ++ [peer] }
  | entered {i : Nat} {peer : NodeInfo} {mesh : Mesh} (waits : v.entering[i]? = some peer) :
      Happens v node (node.know peer)
        { v with mesh := mesh, entering := v.entering.eraseIdx i }
  | begun : Happens v node node { v with rounds := v.rounds ++ [Mesh.round node] }
  | checked {i k : Nat} {r : Round} {link : Link} {dead : List Link} {next : Node} {mesh : Mesh}
      (here : v.rounds[i]? = some r) (unchecked : r.unchecked[k]? = some link)
      (found : dead = [] ∨ dead = [link])
      (changed : next = node ∨ ∃ l ended, l ∈ node.links ∧ l.number = link.number ∧ l.Same ended ∧
        (dead = [] → ended.broken = false) ∧ next = node.updateLink ended) :
      Happens v node next { v with
        mesh := mesh
        rounds := v.rounds.set i ⟨r.unchecked.eraseIdx k, r.failed ++ dead⟩
        failures := v.failures ++ dead.map (i, ·) }
  | evicted {i k : Nat} {r : Round} {link : Link} {mesh : Mesh} (here : v.rounds[i]? = some r)
      (failed : r.failed[k]? = some link) :
      Happens v node (node.evict link).2 { v with
        mesh := mesh
        rounds := v.rounds.set i ⟨[], r.failed.eraseIdx k⟩ }

theorem Step.happens (step : v.Step number after) (there : v.mesh.node? number = some node) :
    ∃ next, after.mesh.node? number = some next ∧ v.mesh.nextLink ≤ after.mesh.nextLink ∧
      v.Happens node next after := by
  cases step with
  | refused reached =>
      rcases Mesh.reach_spec there _ with ⟨e, -, sets, -⟩ | ⟨k, peer, -, met, -⟩
      · rw [reached] at sets
        exact ⟨node, sets.node?_self, sets.later, .rest rfl rfl⟩
      · rw [reached] at met
        cases met
  | reached reached =>
      rcases Mesh.reach_spec there _ with ⟨e, failed, -⟩ | ⟨k, peer, -, met, lt, sets⟩
      · rw [reached] at failed
        cases failed
      · rw [reached] at met lt sets
        cases met
        exact ⟨_, sets.node?_self, sets.later, .reached lt⟩
  | @entered i peer waits =>
      have sets := Mesh.sets_modify there (·.know peer)
      exact ⟨_, sets.node?_self, sets.later, .entered waits⟩
  | begun present =>
      cases present.symm.trans there
      exact ⟨node, there, Nat.le_refl _, .begun⟩
  | @checked i k r link dead mesh here unchecked checked =>
      obtain ⟨found, next, last, same, either, sets, changed⟩ :=
        Mesh.check_spec there link (r.unchecked.eraseIdx k) r.failed
      rw [checked] at same
      obtain ⟨rounds, rfl⟩ := Prod.mk.inj same
      have its : found = dead := by simpa using rounds.symm
      subst its
      exact ⟨next, sets.node?_self, sets.later, .checked here unchecked either changed⟩
  | @evicted i k r link here all failed =>
      have sets := Mesh.sets_modify there fun n => (n.evict link).2
      exact ⟨_, sets.node?_self, sets.later, .evicted here failed⟩
  | elsewhere same later =>
      rw [there] at same
      obtain ⟨next, now, parts⟩ := Option.map_eq_some_iff.mp same
      obtain ⟨links, membership⟩ := Prod.mk.inj parts
      exact ⟨next, now, later, .rest links membership⟩

/-! ## Whole connects and rounds -/

/-- A connect that nothing else happens in is a run. -/
theorem connect_run {address : String} {peer : NodeInfo}
    (connected : (v.mesh.connect number address).1 = .ok peer) :
    Run number v { v with mesh := (v.mesh.connect number address).2 } := by
  obtain ⟨kept, met, entered⟩ : ∃ kept, v.mesh.reach number address = (.ok peer, kept) ∧
      (v.mesh.connect number address).2 = kept.enter number peer := by
    rcases met : v.mesh.reach number address with ⟨e | other, kept⟩ <;>
      simp only [Mesh.connect, met] at connected ⊢
    · cases connected
    · cases connected
      exact ⟨kept, rfl, rfl⟩
  have first : v.Step number { v with mesh := kept, entering := v.entering ++ [peer] } :=
    .reached met
  have second : Step number ⟨kept, v.entering ++ [peer], v.rounds, v.failures⟩
      ⟨kept.enter number peer, (v.entering ++ [peer]).eraseIdx v.entering.length, v.rounds,
        v.failures⟩ := .entered List.getElem?_concat_length
  have rest : (v.entering ++ [peer]).eraseIdx v.entering.length = v.entering := by
    rw [List.eraseIdx_append_of_length_le (Nat.le_refl _), Nat.sub_self]
    exact List.append_nil _
  rw [rest] at second
  rw [entered]
  exact .tail (.single first) second

theorem checkAll_run {i : Nat} {unchecked failed : List Link}
    (there : v.mesh.node? number = some node) (here : v.rounds[i]? = some ⟨unchecked, failed⟩) :
    ∃ dead logged, (v.mesh.checkAll number unchecked.length ⟨unchecked, failed⟩).1 = ⟨[], dead⟩ ∧
      Run number v { v with
        mesh := (v.mesh.checkAll number unchecked.length ⟨unchecked, failed⟩).2
        rounds := v.rounds.set i ⟨[], dead⟩
        failures := logged } := by
  induction unchecked generalizing v node failed with
  | nil =>
      refine ⟨failed, v.failures, rfl, ?_⟩
      have same : v.rounds.set i ⟨[], failed⟩ = v.rounds := by
        obtain ⟨lt, its⟩ := List.getElem?_eq_some_iff.mp here
        rw [← its, List.set_getElem_self]
      rw [same]
      exact .refl
  | cons link rest ih =>
      obtain ⟨found, next, after, checked, -, sets, -⟩ := Mesh.check_spec there link rest failed
      have step : v.Step number { v with
          mesh := after
          rounds := v.rounds.set i ⟨rest, failed ++ found⟩
          failures := v.failures ++ found.map (i, ·) } :=
        .checked (k := 0) here rfl checked
      have now : (v.rounds.set i ⟨rest, failed ++ found⟩)[i]? = some ⟨rest, failed ++ found⟩ :=
        List.getElem?_set_self (List.getElem?_eq_some_iff.mp here).1
      obtain ⟨dead, logged, finished, run⟩ := ih (v := { v with
          mesh := after
          rounds := v.rounds.set i ⟨rest, failed ++ found⟩
          failures := v.failures ++ found.map (i, ·) }) sets.node?_self now
      rw [List.set_set] at run
      simp only [List.length_cons, Mesh.checkAll, checked]
      exact ⟨dead, logged, finished, .head step run⟩

theorem evictAll_run {i : Nat} {dead : List Link} (here : v.rounds[i]? = some ⟨[], dead⟩) :
    Run number v { v with
      mesh := v.mesh.evictAll number dead, rounds := v.rounds.set i ⟨[], []⟩ } := by
  induction dead generalizing v with
  | nil =>
      obtain ⟨lt, its⟩ := List.getElem?_eq_some_iff.mp here
      rw [← its, List.set_getElem_self]
      exact .refl
  | cons link rest ih =>
      have step : v.Step number { v with
          mesh := v.mesh.modify number fun n => (n.evict link).2
          rounds := v.rounds.set i ⟨[], rest⟩ } := .evicted (k := 0) here rfl rfl
      have run := ih (v := { v with
          mesh := v.mesh.modify number fun n => (n.evict link).2
          rounds := v.rounds.set i ⟨[], rest⟩ })
        (List.getElem?_set_self (List.getElem?_eq_some_iff.mp here).1)
      rw [List.set_set] at run
      exact .head step run

/-- A round of heartbeats that nothing else happens in is a run. -/
theorem detect_run (there : v.mesh.node? number = some node) :
    ∃ logged, Run number v { v with
      mesh := v.mesh.detect number, rounds := v.rounds ++ [⟨[], []⟩], failures := logged } := by
  have began : v.Step number { v with rounds := v.rounds ++ [Mesh.round node] } := .begun there
  have here : (v.rounds ++ [Mesh.round node])[v.rounds.length]? = some ⟨node.links, []⟩ := by
    rw [List.getElem?_concat_length]
    rfl
  have last (r changed : Round) :
      (v.rounds ++ [r]).set v.rounds.length changed = v.rounds ++ [changed] := by simp
  obtain ⟨dead, logged, finished, checks⟩ :=
    checkAll_run (v := { v with rounds := v.rounds ++ [Mesh.round node] }) there here
  rw [last] at checks
  have swept : v.mesh.detect number =
      (v.mesh.checkAll number node.links.length ⟨node.links, []⟩).2.evictAll number dead := by
    have checked : (v.mesh.checkAll number node.links.length (Mesh.round node)).1 = ⟨[], dead⟩ :=
      finished
    simp only [Mesh.detect, there, checked]
    rfl
  have evictions : Run number
      ⟨(v.mesh.checkAll number node.links.length ⟨node.links, []⟩).2, v.entering,
        v.rounds ++ [Round.mk [] dead], logged⟩
      ⟨(v.mesh.checkAll number node.links.length ⟨node.links, []⟩).2.evictAll number dead, v.entering,
        (v.rounds ++ [Round.mk [] dead]).set v.rounds.length ⟨[], []⟩, logged⟩ :=
    evictAll_run List.getElem?_concat_length
  rw [← swept, last] at evictions
  exact ⟨logged, .head began (checks.trans evictions)⟩

/-! ## What rounds know -/

/-- A round has a link that is to be checked or evicted. -/
def Holds (v : Vigil) (i : Nat) (link : Link) : Prop :=
  ∃ r, v.rounds[i]? = some r ∧ (link ∈ r.unchecked ∨ link ∈ r.failed)

theorem round_of_set {rounds : List Round} {i j : Nat} {r changed : Round}
    (here : (rounds.set i changed)[j]? = some r) :
    (i = j ∧ r = changed) ∨ (i ≠ j ∧ rounds[j]? = some r) := by
  by_cases same : i = j
  · subst same
    obtain ⟨_, now⟩ := List.getElem?_eq_some_iff.mp here
    exact Or.inl ⟨rfl, by simpa using now.symm⟩
  · rw [List.getElem?_set_ne same] at here
    exact Or.inr ⟨same, here⟩

theorem round_of_begun {rounds : List Round} {j : Nat} {r begun : Round}
    (here : (rounds ++ [begun])[j]? = some r) :
    (j = rounds.length ∧ r = begun) ∨ rounds[j]? = some r := by
  by_cases before : j < rounds.length
  · rw [List.getElem?_append_left before] at here
    exact Or.inr here
  · rw [List.getElem?_append_right (Nat.le_of_not_lt before), List.getElem?_singleton] at here
    split at here
    · exact Or.inl ⟨by omega, (Option.some.inj here).symm⟩
    · cases here

/-- A round gets no links but those that the node has when it begins. -/
theorem Happens.holds (happens : v.Happens node next after) {i : Nat} {link : Link}
    (holds : after.Holds i link) : v.Holds i link ∨ (i = v.rounds.length ∧ link ∈ node.links) := by
  obtain ⟨r, here, among⟩ := holds
  cases happens with
  | rest | reached | entered => exact Or.inl ⟨r, here, among⟩
  | begun =>
      rcases round_of_begun here with ⟨rfl, rfl⟩ | before
      · exact Or.inr ⟨rfl, among.resolve_right List.not_mem_nil⟩
      · exact Or.inl ⟨r, before, among⟩
  | checked its unchecked found =>
      rcases round_of_set here with ⟨rfl, rfl⟩ | ⟨-, before⟩
      · refine Or.inl ⟨_, its, ?_⟩
        rcases among with rest | failed
        · exact Or.inl (List.mem_of_mem_eraseIdx rest)
        · rcases List.mem_append.mp failed with failed | dead
          · exact Or.inr failed
          · rcases found with rfl | rfl
            · cases dead
            · rw [List.mem_singleton.mp dead]
              exact Or.inl (List.mem_of_getElem? unchecked)
      · exact Or.inl ⟨r, before, among⟩
  | evicted its failed =>
      rcases round_of_set here with ⟨rfl, rfl⟩ | ⟨-, before⟩
      · exact Or.inl ⟨_, its, Or.inr (List.mem_of_mem_eraseIdx
          (among.resolve_left List.not_mem_nil))⟩
      · exact Or.inl ⟨r, before, among⟩

theorem Happens.failures_subset (happens : v.Happens node next after) :
    v.failures ⊆ after.failures := by
  cases happens with
  | rest | reached | entered | begun | evicted => exact List.Subset.refl _
  | checked => exact List.subset_append_left _ _

theorem Happens.rounds_le (happens : v.Happens node next after) :
    v.rounds.length ≤ after.rounds.length := by
  cases happens with
  | rest | reached | entered => exact Nat.le_refl _
  | begun => simp
  | checked | evicted => simp

/-- What holds of a node and its rounds at any time.  Links have numbers of their own, also among
those that rounds still know, and a link that a round has to evict failed in that round.  The peer of
a link is a member, or becomes one. -/
structure Sound (v : Vigil) (node : Node) : Prop where
  numbered : node.Numbered v.mesh.nextLink
  known : ∀ i link, v.Holds i link → link.number < v.mesh.nextLink ∧
    ∀ l ∈ node.links, l.number = link.number → l.peer = link.peer
  logged : ∀ i r, v.rounds[i]? = some r → ∀ link ∈ r.failed, (i, link) ∈ v.failures
  indexed : ∀ f ∈ v.failures, f.1 < v.rounds.length
  entered : ∀ l ∈ node.links,
    (node.membership.get? l.peer.name).isSome = true ∨ l.peer.name ∈ v.entering.map (·.name)

/-- A check of a link failed, whatever had become of it. -/
def Failed (v : Vigil) (link : Link) : Prop :=
  ∃ f ∈ v.failures, f.2.number = link.number ∧ f.2.peer = link.peer

/-- A link after a step is one as before, which only a check that failed breaks, or the new one. -/
theorem Happens.among (happens : v.Happens node next after) (sound : v.Sound node) {l : Link}
    (kept : l ∈ next.links) :
    (∃ old ∈ node.links, old.number = l.number ∧ old.peer = l.peer ∧
      (l.broken = true → old.broken = true ∨ after.Failed l)) ∨
    (l.number = v.mesh.nextLink ∧ v.mesh.nextLink < after.mesh.nextLink ∧ l.broken = false) := by
  have unchanged (among : l ∈ node.links) : ∃ old ∈ node.links, old.number = l.number ∧
      old.peer = l.peer ∧ (l.broken = true → old.broken = true ∨ after.Failed l) :=
    ⟨l, among, rfl, rfl, Or.inl⟩
  cases happens with
  | rest links => exact Or.inl (unchanged (links ▸ kept))
  | reached lt =>
      rw [Node.hold, Node.insertLink_eq] at kept
      rcases Keyed.mem_insert kept with rfl | kept
      · exact Or.inr ⟨rfl, lt, rfl⟩
      · exact Or.inl (unchanged kept)
  | entered | begun => exact Or.inl (unchanged kept)
  | @checked i k r link dead _ _ its unchecked found changed =>
      rcases changed with rfl | ⟨entry, ended, among, number, same, unbroken, rfl⟩
      · exact Or.inl (unchanged kept)
      · obtain ⟨old, before, replaced⟩ := List.mem_map.mp kept
        have keeps := sound.numbered.same_replaced among same before
        rw [replaced] at keeps
        refine Or.inl ⟨old, before, keeps.number.symm, keeps.peer.symm, fun broken => ?_⟩
        split at replaced
        · right
          subst replaced
          rcases found with rfl | rfl
          · cases broken.symm.trans (unbroken rfl)
          · have held : v.Holds i link := ⟨r, its, Or.inl (List.mem_of_getElem? unchecked)⟩
            refine ⟨(i, link), by simp, number.symm.trans same.number.symm, ?_⟩
            exact ((sound.known i link held).2 entry among number).symm.trans same.peer.symm
        · exact Or.inl (replaced ▸ broken)
  | @evicted i k r link =>
      rcases node.evict_spec link with ⟨same, -⟩ | ⟨-, gone⟩
      · rw [same] at kept
        exact Or.inl (unchanged kept)
      · rw [gone] at kept
        exact Or.inl (unchanged (List.mem_filter.mp kept).1)

namespace Sound

theorem alone {m : Mesh} (inStep : node.InStep number m.nextLink) : Sound ⟨m, [], [], []⟩ node := by
  refine ⟨inStep.numbered, ?_, ?_, ?_, fun l kept => Or.inl ?_⟩
  · rintro i link ⟨r, here, -⟩
    cases here
  · intro i r here
    cases here
  · intro f none
    cases none
  · rw [inStep.others _ (inStep.peer_ne kept), inStep.numbered.link?_eq kept]
    rfl

theorem entered_step (sound : v.Sound node) (happens : v.Happens node next after) :
    ∀ l ∈ next.links,
      (next.membership.get? l.peer.name).isSome = true ∨
        l.peer.name ∈ after.entering.map (·.name) := by
  intro l kept
  cases happens with
  | rest links membership =>
      rw [membership]
      exact sound.entered l (links ▸ kept)
  | @reached peer k mesh lt =>
      rw [Node.hold, Node.insertLink_eq] at kept
      rcases Keyed.mem_insert kept with rfl | kept
      · exact Or.inr (by simp [Link.new])
      · refine (sound.entered l kept).imp id fun waits => ?_
        rw [List.map_append]
        exact List.mem_append_left _ waits
  | @entered i peer mesh waits =>
      rw [Node.get?_know]
      by_cases its : peer.name = l.peer.name
      · exact Or.inl (by simp [its])
      · rw [if_neg its]
        refine (sound.entered l kept).imp id fun waiting => ?_
        obtain ⟨other, among, named⟩ := List.mem_map.mp waiting
        refine List.mem_map.mpr ⟨other, ?_, named⟩
        obtain ⟨j, there⟩ := List.mem_iff_getElem?.mp among
        refine List.mem_eraseIdx_iff_getElem?.mpr ⟨j, ?_, there⟩
        rintro rfl
        cases waits.symm.trans there
        exact its named
  | begun => exact sound.entered l kept
  | @checked i k r link dead _ _ its unchecked found changed =>
      rcases changed with rfl | ⟨entry, ended, among, -, same, -, rfl⟩
      · exact sound.entered l kept
      · obtain ⟨old, before, replaced⟩ := List.mem_map.mp kept
        have keeps := sound.numbered.same_replaced among same before
        rw [replaced] at keeps
        rw [keeps.peer]
        exact sound.entered old before
  | @evicted i k r link mesh =>
      rcases node.evict_spec link with ⟨same, -⟩ | ⟨-, gone⟩
      · rw [same] at kept ⊢
        exact sound.entered l kept
      · rw [gone] at kept ⊢
        obtain ⟨before, other⟩ := List.mem_filter.mp kept
        have distinct : ¬ link.peer.name = l.peer.name := fun same => by simp [same] at other
        rw [Membership.get?_erase, if_neg distinct]
        exact sound.entered l before

theorem numbered_step (sound : v.Sound node) (happens : v.Happens node next after)
    (later : v.mesh.nextLink ≤ after.mesh.nextLink) : next.Numbered after.mesh.nextLink := by
  cases happens with
  | rest links => exact (sound.numbered.mono later).congr links
  | @reached peer k _ lt => exact ((sound.numbered.adopt peer (.node k)).mono lt).congr rfl
  | entered => exact (sound.numbered.mono later).congr rfl
  | begun => exact sound.numbered
  | checked _ _ _ changed =>
      rcases changed with rfl | ⟨l, ended, kept, -, same, -, rfl⟩
      · exact sound.numbered.mono later
      · exact (sound.numbered.updateLink kept same).mono later
  | @evicted i k r link => exact (sound.numbered.evict link).mono later

/-- What a round knows stays true: a link that is made later has a number of its own. -/
theorem known_step (sound : v.Sound node) (happens : v.Happens node next after)
    (later : v.mesh.nextLink ≤ after.mesh.nextLink) {i : Nat} {link : Link}
    (holds : after.Holds i link) : link.number < after.mesh.nextLink ∧
      ∀ l ∈ next.links, l.number = link.number → l.peer = link.peer := by
  have before : link.number < v.mesh.nextLink ∧
      ∀ l ∈ node.links, l.number = link.number → l.peer = link.peer := by
    rcases happens.holds holds with held | ⟨-, kept⟩
    · exact sound.known i link held
    · exact ⟨sound.numbered.below link kept,
        fun l among same => congrArg Link.peer (sound.numbered.link_eq kept among same)⟩
  refine ⟨lt_of_lt_of_le before.1 later, fun l kept same => ?_⟩
  rcases happens.among sound kept with ⟨old, among, number, peer, -⟩ | ⟨newest, -⟩
  · exact peer ▸ before.2 old among (number.trans same)
  · omega

theorem logged_step (sound : v.Sound node) (happens : v.Happens node next after) {i : Nat}
    {r : Round} (here : after.rounds[i]? = some r) {link : Link} (failed : link ∈ r.failed) :
    (i, link) ∈ after.failures := by
  cases happens with
  | rest | reached | entered => exact sound.logged i r here link failed
  | begun =>
      rcases round_of_begun here with ⟨rfl, rfl⟩ | before
      · cases failed
      · exact sound.logged i r before link failed
  | checked its =>
      rcases round_of_set here with ⟨rfl, rfl⟩ | ⟨-, before⟩
      · rcases List.mem_append.mp failed with failed | dead
        · exact List.mem_append_left _ (sound.logged _ _ its link failed)
        · exact List.mem_append_right _ (List.mem_map.mpr ⟨link, dead, rfl⟩)
      · exact List.mem_append_left _ (sound.logged i r before link failed)
  | evicted its =>
      rcases round_of_set here with ⟨rfl, rfl⟩ | ⟨-, before⟩
      · exact sound.logged _ _ its link (List.mem_of_mem_eraseIdx failed)
      · exact sound.logged i r before link failed

theorem indexed_step (sound : v.Sound node) (happens : v.Happens node next after) {f : Nat × Link}
    (failed : f ∈ after.failures) : f.1 < after.rounds.length := by
  refine lt_of_lt_of_le ?_ happens.rounds_le
  cases happens with
  | rest | reached | entered | begun | evicted => exact sound.indexed f failed
  | checked its =>
      rcases List.mem_append.mp failed with failed | dead
      · exact sound.indexed f failed
      · obtain ⟨link, -, rfl⟩ := List.mem_map.mp dead
        exact (List.getElem?_eq_some_iff.mp its).1

theorem step (sound : v.Sound node) (happens : v.Happens node next after)
    (later : v.mesh.nextLink ≤ after.mesh.nextLink) : after.Sound next where
  numbered := sound.numbered_step happens later
  known _ _ := sound.known_step happens later
  logged _ _ here _ := sound.logged_step happens here
  indexed _ := sound.indexed_step happens
  entered := sound.entered_step happens

end Sound

/-! ## Links and members that go -/

theorem Sound.failed_of_held (sound : v.Sound node) {i : Nat} {r : Round} {link l : Link}
    (here : v.rounds[i]? = some r) (failed : link ∈ r.failed) (kept : l ∈ node.links)
    (same : l.number = link.number) : v.Failed l :=
  ⟨(i, link), sound.logged i r here link failed, same.symm,
    ((sound.known i link ⟨r, here, Or.inr failed⟩).2 l kept same).symm⟩

/-- A link stays, or gives way to a newer one of its name, or goes because a check of it failed. -/
theorem Happens.link? (happens : v.Happens node next after) (sound : v.Sound node) {l : Link}
    (linked : node.link? name = some l) :
    (∃ now, next.link? name = some now ∧ (now.number = l.number ∨ v.mesh.nextLink ≤ now.number)) ∨
      (next.link? name = none ∧ v.Failed l) := by
  have unchanged (same : next.links = node.links) :
      ∃ now, next.link? name = some now ∧ (now.number = l.number ∨ v.mesh.nextLink ≤ now.number) :=
    ⟨l, by rw [Node.link?, same]; exact linked, Or.inl rfl⟩
  cases happens with
  | rest links => exact Or.inl (unchanged links)
  | @reached peer k mesh lt =>
      left
      rw [Node.link?_hold]
      split
      · exact ⟨_, rfl, Or.inr (Nat.le_refl _)⟩
      · exact ⟨l, linked, Or.inl rfl⟩
  | entered | begun => exact Or.inl (unchanged rfl)
  | checked _ _ _ changed =>
      rcases changed with rfl | ⟨entry, ended, among, -, same, -, rfl⟩
      · exact Or.inl (unchanged rfl)
      · left
        rw [sound.numbered.link?_updateLink among same, linked]
        exact ⟨_, rfl, Or.inl
          (sound.numbered.same_replaced among same (List.mem_of_find?_eq_some linked)).number⟩
  | @evicted i k r link mesh here failed =>
      rcases node.link?_evict link name with same | ⟨-, gone, other, found, number⟩
      · rw [same]
        exact Or.inl ⟨l, linked, Or.inl rfl⟩
      · cases found.symm.trans linked
        exact Or.inr ⟨gone, sound.failed_of_held here (List.mem_of_getElem? failed)
          (List.mem_of_find?_eq_some linked) number⟩

/-- A member goes together with the link to it. -/
theorem Happens.member? (happens : v.Happens node next after)
    (member : (node.membership.get? name).isSome = true)
    (gone : next.membership.get? name = none) :
    (∃ l, node.link? name = some l) ∧ next.link? name = none := by
  have absurdly (same : next.membership = node.membership) : False := by
    rw [same] at gone
    simp [gone] at member
  cases happens with
  | rest _ membership => exact (absurdly membership).elim
  | reached | begun => exact (absurdly rfl).elim
  | @entered i peer mesh waits =>
      rw [Node.get?_know] at gone
      split at gone
      · cases gone
      · simp [gone] at member
  | checked _ _ _ changed =>
      rcases changed with rfl | ⟨_, _, -, -, -, -, rfl⟩ <;> exact (absurdly rfl).elim
  | @evicted i k r link mesh here failed =>
      rcases node.evict_spec link with ⟨same, -⟩ | ⟨⟨l, linked, -⟩, dropped⟩
      · exact (absurdly (by rw [same])).elim
      · rw [dropped, Membership.get?_erase] at gone
        split at gone
        · rename_i named
          rw [dropped, ← named]
          exact ⟨⟨l, linked⟩, (Keyed.find?_filter _ _ _).trans (if_pos rfl)⟩
        · simp [gone] at member

/-! ## Since a round began -/

/-- What holds of a node since the round of some place began, when the next link was to get some
number: the round knows of no link that was made since then, and a check has failed on every such link
that is broken. -/
structure Since (bound index : Nat) (v : Vigil) (node : Node) : Prop extends v.Sound node where
  le : bound ≤ v.mesh.nextLink
  begun : index < v.rounds.length
  older : ∀ link, v.Holds index link → link.number < bound
  own : ∀ f ∈ v.failures, f.1 = index → f.2.number < bound
  intact : ∀ l ∈ node.links, bound ≤ l.number → l.broken = true → v.Failed l

namespace Since

variable {bound index : Nat}

theorem start (sound : v.Sound node) :
    Since v.mesh.nextLink v.rounds.length
      { v with rounds := v.rounds ++ [Mesh.round node] } node := by
  have happens : v.Happens node node { v with rounds := v.rounds ++ [Mesh.round node] } := .begun
  refine { sound.step happens (Nat.le_refl _) with
    le := Nat.le_refl _, begun := by simp, older := ?_, own := ?_, intact := ?_ }
  · intro link holds
    rcases happens.holds holds with ⟨r, here, -⟩ | ⟨-, kept⟩
    · exact absurd (List.getElem?_eq_some_iff.mp here).1 (Nat.lt_irrefl _)
    · exact sound.numbered.below link kept
  · intro f failed its
    exact absurd (sound.indexed f failed) (its ▸ Nat.lt_irrefl _)
  · intro l kept newer
    exact absurd (sound.numbered.below l kept) (Nat.not_lt.mpr newer)

theorem step (since : v.Since bound index node) (happens : v.Happens node next after)
    (later : v.mesh.nextLink ≤ after.mesh.nextLink) : after.Since bound index next := by
  refine { since.toSound.step happens later with
    le := Nat.le_trans since.le later
    begun := lt_of_lt_of_le since.begun happens.rounds_le
    older := ?_, own := ?_, intact := ?_ }
  · intro link holds
    rcases happens.holds holds with held | ⟨same, -⟩
    · exact since.older link held
    · exact absurd same (Nat.ne_of_lt since.begun)
  · intro f failed its
    cases happens with
    | rest | reached | entered | begun | evicted => exact since.own f failed its
    | @checked i k r link dead _ _ here unchecked found =>
        rcases List.mem_append.mp failed with failed | recent
        · exact since.own f failed its
        · obtain ⟨checked, dead, rfl⟩ := List.mem_map.mp recent
          have same : checked = link := by
            rcases found with rfl | rfl
            · cases dead
            · exact List.mem_singleton.mp dead
          subst same
          exact since.older checked
            ⟨r, its ▸ here, Or.inl (List.mem_of_getElem? unchecked)⟩
  · intro l kept newer broken
    rcases happens.among since.toSound kept with ⟨old, among, number, peer, breaks⟩ | ⟨-, -, unbroken⟩
    · rcases breaks broken with before | failed
      · obtain ⟨f, logged, its, who⟩ := since.intact old among (number ▸ newer) before
        exact ⟨f, happens.failures_subset logged, its.trans number, who.trans peer⟩
      · exact failed
    · cases broken.symm.trans unbroken

end Since

/-! ## Runs -/

/-- What holds at first and is kept by every step holds at the end of a run. -/
theorem Run.keeps {p : Vigil → Node → Prop} (run : Run number v after)
    (there : v.mesh.node? number = some node) (start : p v node)
    (step : ∀ {u w : Vigil} {n next : Node}, u.Happens n next w →
      u.mesh.nextLink ≤ w.mesh.nextLink → p u n → p w next) :
    ∃ last, after.mesh.node? number = some last ∧ p after last := by
  induction run with
  | refl => exact ⟨node, there, start⟩
  | tail _ one ih =>
      obtain ⟨middle, here, holds⟩ := ih
      obtain ⟨last, now, later, happens⟩ := one.happens here
      exact ⟨last, now, step happens later holds⟩

/-- A peer has a link that was made since a round began, or a check of another round failed on one. -/
def Relinked (bound index : Nat) (name : String) (v : Vigil) (node : Node) : Prop :=
  (∃ l, node.link? name = some l ∧ bound ≤ l.number) ∨
    ∃ f ∈ v.failures, f.1 ≠ index ∧ f.2.peer.name = name ∧ bound ≤ f.2.number

/-- A check that failed on a link made since a round began is one of another round. -/
theorem Since.relinked_of_failed {bound index : Nat} (since : v.Since bound index node) {l : Link}
    (named : l.peer.name = name) (newer : bound ≤ l.number) (failed : v.Failed l) :
    ∃ f ∈ v.failures, f.1 ≠ index ∧ f.2.peer.name = name ∧ bound ≤ f.2.number := by
  obtain ⟨f, logged, number, peer⟩ := failed
  refine ⟨f, logged, fun its => ?_, peer ▸ named, number ▸ newer⟩
  exact absurd (since.own f logged its) (Nat.not_lt.mpr (number ▸ newer))

theorem Relinked.step {bound index : Nat} (since : v.Since bound index node)
    (relinked : Relinked bound index name v node) (happens : v.Happens node next after) :
    Relinked bound index name after next := by
  have logged : (∃ f ∈ v.failures, f.1 ≠ index ∧ f.2.peer.name = name ∧ bound ≤ f.2.number) →
      Relinked bound index name after next := by
    rintro ⟨f, failed, rest⟩
    exact Or.inr ⟨f, happens.failures_subset failed, rest⟩
  rcases relinked with ⟨l, linked, newer⟩ | failed
  · rcases happens.link? since.toSound linked with ⟨now, found, same | fresh⟩ | ⟨-, failed⟩
    · exact Or.inl ⟨now, found, same ▸ newer⟩
    · exact Or.inl ⟨now, found, Nat.le_trans since.le fresh⟩
    · exact logged (since.relinked_of_failed (by simpa using List.find?_some linked) newer failed)
  · exact logged failed

/-- The link that the watching node keeps under a name. -/
def link? (number : Nat) (v : Vigil) (name : String) : Option Link :=
  (v.mesh.node? number).bind (·.link? name)

/-- The member that the watching node knows under a name. -/
def member? (number : Nat) (v : Vigil) (name : String) : Option NodeInfo :=
  (v.mesh.node? number).bind (·.membership.get? name)

/-- **Heartbeats spare peers that were linked anew.**  Whatever a node has done, let it be at any
number of rounds of heartbeats and connects at a time.  A link goes only when a newer one of its name
takes its place or after a check of that link has failed, and a member goes only together with the
link to it.  So let a round begin, and let a peer have a link afterwards that was made since.  Then
the peer is connected and a member, or about to become one while the connect is not over, whatever the
round finds, unless a check of another round fails on such a link. -/
theorem heartbeats_spare_relinked {m : Mesh} (history : m.History number)
    (run : Run number ⟨m, [], [], []⟩ v) :
    (∀ after, v.Step number after → ∀ name l, v.link? number name = some l →
      (∃ now, after.link? number name = some now ∧
        (now.number = l.number ∨ (l.number < v.mesh.nextLink ∧ v.mesh.nextLink ≤ now.number))) ∨
      (after.link? number name = none ∧ v.Failed l)) ∧
    (∀ after, v.Step number after → ∀ name, (v.member? number name).isSome = true →
      after.member? number name = none →
        (v.link? number name).isSome = true ∧ after.link? number name = none) ∧
    ∀ node middle last, v.mesh.node? number = some node →
      Run number { v with rounds := v.rounds ++ [Mesh.round node] } middle →
      Run number middle last → ∀ name l, middle.link? number name = some l →
        v.mesh.nextLink ≤ l.number →
        (∀ f ∈ last.failures, f.1 ≠ v.rounds.length → f.2.peer.name = name →
          f.2.number < v.mesh.nextLink) →
        last.mesh.isConnected number name = true ∧
          ((last.member? number name).isSome = true ∨ name ∈ last.entering.map (·.name)) := by
  obtain ⟨first, there, inStep⟩ := Mesh.InStepAt.history history
  obtain ⟨node, here, sound⟩ := run.keeps (p := Sound) there (Sound.alone inStep)
    fun happens later sound => sound.step happens later
  refine ⟨fun after step name l linked => ?_, fun after step name member gone => ?_, ?_⟩
  · obtain ⟨next, now, -, happens⟩ := step.happens here
    simp only [link?, here, now, Option.bind_some] at linked ⊢
    have below := sound.numbered.below l (List.mem_of_find?_eq_some linked)
    refine (happens.link? sound linked).imp_left ?_
    rintro ⟨link, found, newer⟩
    exact ⟨link, found, newer.imp_right fun le => ⟨below, le⟩⟩
  · obtain ⟨next, now, -, happens⟩ := step.happens here
    simp only [link?, member?, here, now, Option.bind_some] at member gone ⊢
    obtain ⟨⟨l, linked⟩, dropped⟩ := happens.member? member gone
    exact ⟨by rw [linked]; rfl, dropped⟩
  · intro _ middle last present before behind name l linked newer spared
    cases present.symm.trans here
    obtain ⟨between, halfway, since⟩ :=
      before.keeps (p := Since v.mesh.nextLink v.rounds.length) here (.start sound)
        fun happens later since => since.step happens later
    rw [link?, halfway, Option.bind_some] at linked
    obtain ⟨final, now, since, relinked⟩ := behind.keeps
      (p := fun u n => u.Since v.mesh.nextLink v.rounds.length n ∧
        Relinked v.mesh.nextLink v.rounds.length name u n)
      halfway ⟨since, Or.inl ⟨l, linked, newer⟩⟩
      fun happens later ⟨since, relinked⟩ => ⟨since.step happens later, relinked.step since happens⟩
    have unharmed : ¬ ∃ f ∈ last.failures, f.1 ≠ v.rounds.length ∧ f.2.peer.name = name ∧
        v.mesh.nextLink ≤ f.2.number := by
      rintro ⟨f, failed, other, named, le⟩
      exact absurd (spared f failed other named) (Nat.not_lt.mpr le)
    obtain ⟨link, found, fresh⟩ := relinked.resolve_right unharmed
    have kept : link ∈ final.links := List.mem_of_find?_eq_some found
    have named : link.peer.name = name := by simpa using List.find?_some found
    have unbroken : link.broken = false := by
      rw [← Bool.not_eq_true]
      intro broken
      exact unharmed (since.relinked_of_failed named fresh (since.intact link kept fresh broken))
    refine ⟨?_, ?_⟩
    · simp [Mesh.isConnected, now, Node.isConnected, found, unbroken]
    · rw [member?, now, Option.bind_some, ← named]
      exact since.entered link kept

/-- The link that the first node has to the second one from before that was started anew. -/
def stale : Link := .new 0 ⟨"node-b", "127.0.0.1", 9002⟩ (.node 1)

/-- A round is on when the second node is linked anew. -/
def met : Vigil :=
  ⟨(Mesh.moved.reach 0 "127.0.0.1:9003").2.enter 0 Mesh.rejoining, [], [⟨[stale], []⟩], []⟩

/-- The check of the old link has failed. -/
def missed : Vigil := ⟨(met.mesh.check 0 ⟨[stale], []⟩).2, [], [⟨[], [stale]⟩], [(0, stale)]⟩

/-- The round is over. -/
def spared : Vigil :=
  { missed with mesh := missed.mesh.modify 0 fun n => (n.evict stale).2, rounds := [⟨[], []⟩] }

theorem run_met : Run 0 ⟨Mesh.moved, [], [⟨[stale], []⟩], []⟩ met := by
  have dialled : Mesh.moved.reach 0 "127.0.0.1:9003" =
      (.ok Mesh.rejoining, (Mesh.moved.reach 0 "127.0.0.1:9003").2) := rfl
  have reached : Step 0 ⟨Mesh.moved, [], [⟨[stale], []⟩], []⟩
      ⟨(Mesh.moved.reach 0 "127.0.0.1:9003").2, [Mesh.rejoining], [⟨[stale], []⟩], []⟩ :=
    .reached dialled
  exact .tail (.single reached) (.entered (i := 0) rfl)

theorem run_spared : Run 0 met spared := by
  have found : met.mesh.check 0 ⟨[stale], []⟩ = (⟨[], [] ++ [stale]⟩, missed.mesh) := rfl
  have checked : met.Step 0 missed :=
    .checked (i := 0) (k := 0) (r := ⟨[stale], []⟩) rfl rfl found
  exact .tail (.single checked) (.evicted (i := 0) (k := 0) (r := ⟨[], [stale]⟩) rfl rfl rfl)

/-- The round found that nobody answers on the old link. -/
theorem heartbeats_spare_relinked_moved :
    Run 0 ⟨Mesh.moved, [], [], []⟩ spared ∧ spared.rounds = [⟨[], []⟩] ∧
      (∃ f ∈ spared.failures, f.2.peer.name = "node-b") ∧
      spared.mesh.isConnected 0 "node-b" = true ∧
      (spared.member? 0 "node-b").isSome = true := by
  obtain ⟨node, there, links⟩ : ∃ node, Mesh.moved.node? 0 = some node ∧
      Mesh.round node = ⟨[stale], []⟩ := ⟨_, rfl, rfl⟩
  have began : Step 0 ⟨Mesh.moved, [], [], []⟩ ⟨Mesh.moved, [], [Mesh.round node], []⟩ := .begun there
  obtain ⟨-, -, spares⟩ := heartbeats_spare_relinked Mesh.moved_history .refl
  rw [links] at began
  obtain ⟨connected, member⟩ := spares node met spared there (links ▸ run_met) run_spared "node-b"
    (.new 1 Mesh.rejoining (.node 2)) rfl (by decide) (by simp [spared, missed])
  exact ⟨.trans (.head began run_met) run_spared, rfl, ⟨(0, stale), List.mem_singleton_self _, rfl⟩,
    connected, member.resolve_right (by simp [spared, missed])⟩

end Vigil

end CrawlMesh
