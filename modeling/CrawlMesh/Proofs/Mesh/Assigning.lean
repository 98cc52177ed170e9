/-
# Requests are assigned to the members in turn

A distribution keeps a cursor while members come and go.  The cursor is left behind the member that was
picked last, and by the next pick there may be fewer members than that.  All that a pick depends on is the
place to which the cursor comes among so many members (`Distribution.place`).

* There is a member at this place as soon as there is a member at all, so that a request stays unassigned
  only where nobody is (`Distribution.place_lt`, `Distribution.assign_spec`).
* After a pick the place among as many members is the next one, behind the last one the first
  (`Distribution.place_next`).
* Hence the picks go round for as long as the names of the members stay the same, whatever else is done
  to the members, and they begin wherever the cursor was left (`Roster.picks_eq`).
* A place is met every time that the count of picks has one remainder (`count_visits`), and no two
  members have one name, as they are in the order of their names (`Roster.names_ascending`).  So no
  member is picked more than once more often than another (`assigned_in_turn`).
-/
import CrawlMesh.Mesh.Distribution
import CrawlMesh.Proofs.Mesh.Peers
import Mathlib.Algebra.Order.Floor.Div
import Mathlib.Data.Int.CardIntervalMod

namespace CrawlMesh

set_option autoImplicit false

namespace Distribution

variable {members : Nat}

/-! ## One pick -/

theorem place_lt (d : Distribution) (somebody : 0 < members) : d.place members < members := by
  unfold place
  split <;> omega

/-- Behind a pick comes the next place, and behind the last place the first. -/
theorem place_next (d : Distribution) (somebody : 0 < members) :
    ({ d with cursor := d.place members + 1 } : Distribution).place members =
      (d.place members + 1) % members := by
  have within := d.place_lt somebody
  rw [place]
  split
  · rename_i past
    have last : d.place members + 1 = members := Nat.le_antisymm within past
    rw [last, Nat.mod_self]
  · rename_i below
    exact (Nat.mod_eq_of_lt (Nat.lt_of_not_le below)).symm

/-- A request is assigned to the member at the place of the cursor, unless there are no members. -/
theorem assign_spec (d : Distribution) (m : Membership) (r : Request) :
    m.members = [] ∧ d.assign m r = (none, r, d) ∨
      d.place m.size < m.size ∧ ∃ node, m.members[d.place m.size]? = some node ∧
        d.assign m r = (some node.name, { r with nodeName := some node.name },
          { d with cursor := d.place m.size + 1 }) := by
  rcases Nat.eq_zero_or_pos m.size with nobody | somebody
  · have empty := List.eq_nil_of_length_eq_zero nobody
    exact Or.inl ⟨empty, by simp [assign, empty]⟩
  · have within := d.place_lt somebody
    have found := List.getElem?_eq_getElem within
    exact Or.inr ⟨within, _, found, by rw [assign, found]⟩

end Distribution

/-! ## Members that come and go -/

/-- Members, and who assigns requests to them. -/
structure Roster where
  membership : Membership
  distribution : Distribution

namespace Roster

/-- What happens to a roster. -/
inductive Event
  | joins (node : NodeInfo)
  | leaves (name : String)
  | assigns (request : Request)

/-- The request that is to be assigned. -/
def Event.request? : Event → Option Request
  | .assigns r => some r
  | _ => none

/-- Nobody is there yet, and nothing was assigned. -/
def new : Roster := ⟨.empty, .new⟩

/-- The names of the members. -/
def names (r : Roster) : List String := r.membership.members.map NodeInfo.name

/-- The place of the member to be picked next. -/
def place (r : Roster) : Nat := r.distribution.place r.membership.size

/-- What an event answers, and the roster after it: for a request that is to be assigned, the name of the
member that was picked, and the request. -/
def step (r : Roster) : Event → Option (Option String × Request) × Roster
  | .joins node => (none, { r with membership := (r.membership.add node).2 })
  | .leaves name => (none, { r with membership := (r.membership.delete name).2 })
  | .assigns request =>
    let (name, request, distribution) := r.distribution.assign r.membership request
    (some (name, request), { r with distribution := distribution })

def after (r : Roster) : List Event → Roster
  | [] => r
  | e :: rest => (r.step e).2.after rest

def answers (r : Roster) : List Event → List (Option String × Request)
  | [] => []
  | e :: rest => (r.step e).1.toList ++ (r.step e).2.answers rest

/-- The names of the members are the same all along, whatever happens. -/
def Steady (r : Roster) (events : List Event) : Prop :=
  ∀ count ≤ events.length, (r.after (events.take count)).names = r.names

instance (r : Roster) (events : List Event) : Decidable (r.Steady events) :=
  inferInstanceAs (Decidable (∀ count ≤ events.length, _))

variable {r : Roster} {e : Event} {events : List Event}

theorem Steady.first (steady : r.Steady (e :: events)) : (r.step e).2.names = r.names :=
  steady 1 (by simp)

theorem Steady.rest (steady : r.Steady (e :: events)) : (r.step e).2.Steady events := by
  intro count within
  rw [steady.first]
  exact steady (count + 1) (Nat.succ_le_succ within)

theorem length_names (r : Roster) : r.names.length = r.membership.size := List.length_map ..

theorem getElem?_names (r : Roster) (place : Nat) :
    r.names[place]? = r.membership.members[place]?.map NodeInfo.name := List.getElem?_map ..

/-! ## The members are in order -/

theorem ascending_step (ascending : Keyed.Ascending NodeInfo.name r.membership.members) (e : Event) :
    Keyed.Ascending NodeInfo.name (r.step e).2.membership.members := by
  cases e with
  | joins node =>
      simp only [step, Membership.add, Membership.insert, Membership.insertNode_eq]
      exact ascending.insert
  | leaves name => exact ascending.filter _
  | assigns request => exact ascending

theorem ascending_after (ascending : Keyed.Ascending NodeInfo.name r.membership.members)
    (events : List Event) : Keyed.Ascending NodeInfo.name (r.after events).membership.members := by
  induction events generalizing r with
  | nil => exact ascending
  | cons e rest ih => exact ih (ascending_step ascending e)

/-- The members are in the order of their names. -/
theorem names_ascending (events : List Event) : (new.after events).names.Pairwise (· < ·) :=
  List.pairwise_map.mpr (ascending_after (r := new) List.Pairwise.nil events)

/-! ## The picks go round -/

/-- An assignment picks the member at the place and moves on to the next one. -/
theorem step_assigns (r : Roster) (request : Request) :
    ∃ noted, (r.step (.assigns request)).1 = some (r.names[r.place]?, noted) ∧
      (r.step (.assigns request)).2.names = r.names ∧
      (r.names ≠ [] → (r.step (.assigns request)).2.place = (r.place + 1) % r.names.length) := by
  rcases r.distribution.assign_spec r.membership request with ⟨nobody, same⟩ | ⟨within, node, found, same⟩
  · refine ⟨request, ?_, rfl, fun somebody => ?_⟩
    · simp [step, same, names, nobody]
    · exact absurd (by simp [names, nobody]) somebody
  · have picked : r.names[r.place]? = some node.name := by
      rw [getElem?_names, place, found]
      rfl
    refine ⟨{ request with nodeName := some node.name }, ?_, rfl, fun _ => ?_⟩
    · simp [step, same, picked]
    · have next := r.distribution.place_next (Nat.lt_of_le_of_lt (Nat.zero_le _) within)
      rw [length_names]
      simpa [step, same, place] using next

theorem place_lt (somebody : r.names ≠ []) : r.place < r.names.length := by
  rw [length_names]
  refine r.distribution.place_lt ?_
  rw [← length_names]
  exact List.length_pos_of_ne_nil somebody

/-- Where the names stay the same, who comes or goes does not move the place. -/
theorem place_of_same {r' : Roster} (names : r'.names = r.names)
    (distribution : r'.distribution = r.distribution) : r'.place = r.place := by
  rw [place, place, distribution, ← length_names, names, length_names]

/-- **The picks go round** from the place of the cursor, for as long as the names stay the same. -/
theorem picks_eq (steady : r.Steady events) :
    (r.answers events).map Prod.fst =
      (List.range (events.filterMap Event.request?).length).map fun turn =>
        r.names[(r.place + turn) % r.names.length]? := by
  induction events generalizing r with
  | nil => rfl
  | cons e rest ih =>
      have later := ih steady.rest
      rw [steady.first] at later
      cases e with
      | joins node =>
          rw [place_of_same steady.first rfl] at later
          exact later
      | leaves name =>
          rw [place_of_same steady.first rfl] at later
          exact later
      | assigns request =>
          obtain ⟨noted, answer, -, next⟩ := r.step_assigns request
          simp only [answers, answer, Event.request?, List.filterMap_cons, Option.toList_some,
            List.singleton_append, List.map_cons, List.length_cons, List.range_succ_eq_map,
            List.map_map, later]
          by_cases nobody : r.names = []
          · simp [nobody, Function.comp_def]
          · rw [Nat.add_zero, Nat.mod_eq_of_lt (place_lt nobody)]
            refine congrArg (_ :: ·) (List.map_congr_left fun turn _ => ?_)
            rw [next nobody, Nat.mod_add_mod, Function.comp_apply, Nat.succ_eq_one_add,
              Nat.add_assoc]

/-! ## Everyone has a turn -/

/-- The number of turns at which a place is met on the way round. -/
theorem count_visits (start turns : Nat) {members place : Nat} (within : place < members) :
    (List.range turns).countP (fun turn => (start + turn) % members = place) =
      turns / members + if (place + (members - 1) * start) % members < turns % members then 1 else 0 := by
  have somebody : 0 < members := Nat.lt_of_le_of_lt (Nat.zero_le _) within
  have ahead : start + (place + (members - 1) * start) = place + members * start := by
    obtain ⟨others, rfl⟩ := Nat.exists_eq_succ_of_ne_zero somebody.ne'
    rw [Nat.succ_sub_one, Nat.succ_mul]
    omega
  have met (turn : Nat) : (start + turn) % members = place ↔
      turn ≡ place + (members - 1) * start [MOD members] := by
    constructor
    · intro here
      refine Nat.ModEq.add_left_cancel' start ?_
      rw [ahead, Nat.ModEq, here, Nat.add_mul_mod_self_left, Nat.mod_eq_of_lt within]
    · intro same
      have moved := same.add_left start
      rwa [ahead, Nat.ModEq, Nat.add_mul_mod_self_left, Nat.mod_eq_of_lt within] at moved
  simp only [met]
  exact Nat.count_modEq_card turns somebody _

theorem ceilDiv_of_remainder {turns members : Nat} (left : 0 < turns % members) (somebody : 0 < members) :
    turns ⌈/⌉ members = turns / members + 1 := by
  have parts := Nat.div_add_mod turns members
  have below := Nat.mod_lt turns somebody
  rw [Nat.ceilDiv_eq_add_pred_div, Nat.div_eq_iff somebody]
  rw [Nat.add_mul, Nat.mul_comm]
  omega

/-- On a way round, names that differ are met in equal shares, rounded down or up. -/
theorem count_turns {names : List String} (distinct : names.Nodup) {name : String}
    (among : name ∈ names) (start turns : Nat) :
    let picks := (List.range turns).map fun turn => names[(start + turn) % names.length]?
    picks.count (some name) = turns / names.length ∨
      picks.count (some name) = turns ⌈/⌉ names.length := by
  intro picks
  obtain ⟨place, within, rfl⟩ := List.mem_iff_getElem.mp among
  have somebody : 0 < names.length := Nat.lt_of_le_of_lt (Nat.zero_le _) within
  have visits : picks.count (some names[place]) =
      (List.range turns).countP fun turn => (start + turn) % names.length = place := by
    rw [List.count_eq_countP, List.countP_map]
    refine List.countP_congr fun turn _ => ?_
    rw [Function.comp_apply, beq_iff_eq, decide_eq_true_iff, ← List.getElem?_eq_getElem within]
    exact List.getElem?_inj (Nat.mod_lt _ somebody) distinct
  rw [visits, count_visits start turns within]
  split
  · rename_i early
    right
    rw [ceilDiv_of_remainder (Nat.lt_of_le_of_lt (Nat.zero_le _) early) somebody]
  · left
    rw [Nat.add_zero]

/-- **Requests are assigned to the members in turn.**  Whoever has joined and left and whatever was assigned
before, the members stand in the ascending order of their names.  A request goes to a member, at a place
that there is, and bears its name; it stays as it is, and the cursor with it, exactly where there are no
members.  While the names of the members stay the same, they are picked in this order, round and round,
and each of them as often as any other, up to one time. -/
theorem assigned_in_turn (events : List Event) :
    let r := new.after events
    r.names.Pairwise (· < ·) ∧
    (∀ request : Request,
      let assigned := r.distribution.assign r.membership request
      (assigned.1 = none ↔ r.membership.members = []) ∧
      (r.membership.members = [] ∧ assigned = (none, request, r.distribution) ∨
        r.place < r.membership.size ∧ ∃ node, r.membership.members[r.place]? = some node ∧
          assigned = (some node.name, { request with nodeName := some node.name },
            { r.distribution with cursor := r.place + 1 }))) ∧
    ∀ later, r.Steady later →
      let picks := (r.answers later).map Prod.fst
      let turns := (later.filterMap Event.request?).length
      picks = ((List.range turns).map fun turn => r.names[(r.place + turn) % r.names.length]?) ∧
      ∀ name ∈ r.names, picks.count (some name) = turns / r.names.length ∨
        picks.count (some name) = turns ⌈/⌉ r.names.length := by
  intro r
  have ascending : r.names.Pairwise (· < ·) := names_ascending events
  refine ⟨ascending, fun request => ?_, fun later steady => ?_⟩
  · intro assigned
    have spec := r.distribution.assign_spec r.membership request
    refine ⟨?_, spec⟩
    rcases spec with ⟨nobody, same⟩ | ⟨within, node, found, same⟩
    · simp [assigned, same, nobody]
    · have somebody : r.membership.members ≠ [] := List.ne_nil_of_length_pos (Nat.zero_lt_of_lt within)
      simp [assigned, same, somebody]
  · intro picks turns
    have round := picks_eq steady
    refine ⟨round, fun name among => ?_⟩
    simp only [picks, round]
    exact count_turns (ascending.imp ne_of_lt) among r.place turns

/-- Three members had a turn each and one of them has left; then a member moves to another port. -/
theorem assigned_in_turn_after_leaving :
    let node (name : String) (port : UInt16) : NodeInfo := ⟨name, "10.0.0.1", port⟩
    let r := new.after [.joins (node "node-c" 1), .joins (node "node-b" 2), .joins (node "node-a" 3),
      .assigns default, .assigns default, .assigns default, .leaves "node-c"]
    let later : List Event :=
      [.assigns default, .joins (node "node-b" 4), .assigns default, .assigns default]
    let picks := (r.answers later).map Prod.fst
    r.distribution.cursor = 3 ∧ r.membership.size = 2 ∧ r.names.Pairwise (· < ·) ∧ r.Steady later ∧
      picks = [some "node-a", some "node-b", some "node-a"] ∧ "node-b" ∈ r.names ∧
      (picks.count (some "node-b") = 1 ∨ picks.count (some "node-b") = 2) := by
  intro node r later picks
  have steady : r.Steady later := by decide +kernel
  have among : "node-b" ∈ r.names := by decide +kernel
  obtain ⟨ascending, -, turns⟩ := assigned_in_turn [.joins (node "node-c" 1), .joins (node "node-b" 2),
    .joins (node "node-a" 3), .assigns default, .assigns default, .assigns default, .leaves "node-c"]
  obtain ⟨round, share⟩ := turns later steady
  exact ⟨by decide +kernel, by decide +kernel, ascending, steady, round.trans (by decide +kernel), among,
    (share "node-b" among).imp (·.trans (by decide +kernel)) (·.trans (by decide +kernel))⟩

end Roster

end CrawlMesh
