/-
# Work goes to the module with the lowest score

A registrar chooses among the modules of a role by their scores, computed anew from the counts.

* In a list of modules the first one of the lowest score is chosen (`leastLoaded_split`).  As modules are in
  ascending order of their identifiers, this is the one of the lowest score, and of several such ones that
  of the smallest identifier (`Registrar.Least`); there is one at most (`Least.unique`), and it is chosen
  exactly where there is one (`Registrar.select_ok_iff`).
* The usual score counts a unit that was called, accepted and completed as seven, as long as the whole of
  it stays in 64 bits (`Counts.toNat_simpleScore_worked`).
* So of modules that began with the same counts the chosen one was given the fewest units, and one more
  leaves all of them within one of each other (`Even.round`).  By induction they stay so round after
  round (`work_goes_to_lowest_score`).
-/
import CrawlMesh.Proofs.Module.Shelves

namespace CrawlMesh

set_option autoImplicit false

variable {α : Type}

/-- The score of a module as it is computed from its counts. -/
def Module.load (m : Module α) : UInt64 := m.meter.calculator m.meter.counts

namespace Registrar

variable {r : Registrar α} {role : Role} {m n : Module α}

/-! ## The first of the lowest score -/

/-- Of a list the first module of the lowest score is chosen: those before it have higher scores, those
behind it no lower ones. -/
theorem leastLoaded_split {l : List (Module α)} (found : leastLoaded l = some m) :
    ∃ before behind, l = before ++ m :: behind ∧
      (∀ n ∈ before, m.meter.score < n.meter.score) ∧ ∀ n ∈ behind, m.meter.score ≤ n.meter.score := by
  induction l generalizing m with
  | nil => cases found
  | cons n rest ih =>
      simp only [leastLoaded] at found
      split at found
      · rename_i nobody
        cases found
        exact ⟨[], rest, rfl, by simp, by simp [leastLoaded_eq_none nobody]⟩
      · rename_i best found'
        obtain ⟨before, behind, rfl, higher, noLower⟩ := ih found'
        split at found <;> cases found
        · rename_i least
          refine ⟨[], _, rfl, by simp, fun other among => ?_⟩
          rcases List.mem_append.mp among with among | among
          · exact UInt64.le_trans least (UInt64.le_of_lt (higher other among))
          · rcases List.mem_cons.mp among with rfl | among
            · exact least
            · exact UInt64.le_trans least (noLower other among)
        · rename_i lower
          refine ⟨n :: before, behind, rfl, fun other among => ?_, noLower⟩
          rcases List.mem_cons.mp among with rfl | among
          · exact UInt64.not_le.mp lower
          · exact higher other among

/-- In order, that is the one of the smallest identifier among those of the lowest score. -/
theorem leastLoaded_spec {l : List (Module α)} (ordered : Keyed.Ascending key l)
    (found : leastLoaded l = some m) :
    m ∈ l ∧ ∀ n ∈ l, m.meter.score ≤ n.meter.score ∧
      (n.meter.score = m.meter.score → m.id.text ≤ n.id.text) := by
  obtain ⟨before, behind, rfl, higher, noLower⟩ := leastLoaded_split found
  obtain ⟨-, inOrder, -⟩ := List.pairwise_append.mp ordered
  refine ⟨by simp, fun n among => ?_⟩
  rcases List.mem_append.mp among with among | among
  · have lt := higher n among
    exact ⟨UInt64.le_of_lt lt, fun same => absurd same (UInt64.ne_of_lt lt).symm⟩
  · rcases List.mem_cons.mp among with rfl | among
    · exact ⟨UInt64.le_refl _, fun _ => le_refl _⟩
    · exact ⟨noLower n among, fun _ => le_of_lt ((List.pairwise_cons.mp inOrder).1 n among)⟩

/-- Whatever was registered and taken out, modules are in order. -/
theorem ordered_run (ops : List (Operation α)) :
    Keyed.Ascending key (run Registrar.step empty ops).2.modules :=
  (run_agrees (fun _ _ op agrees => agrees.step op) agrees_empty ops).2.lists.ascending

/-- A module of a role that has the lowest score, and of several such ones the smallest identifier. -/
structure Least (r : Registrar α) (role : Role) (m : Module α) : Prop where
  among : m ∈ r.modules
  ofRole : m.role = role
  lowest : ∀ n ∈ r.modules, n.role = role → m.load ≤ n.load
  first : ∀ n ∈ r.modules, n.role = role → n.load = m.load → m.id.text ≤ n.id.text

theorem mem_ofRole : m ∈ r.ofRole role ↔ m ∈ r.modules ∧ m.role = role := by
  simp [Registrar.ofRole]

theorem eq_of_id (ordered : Keyed.Ascending key r.modules) (left : m ∈ r.modules)
    (right : n ∈ r.modules) (same : m.id.text = n.id.text) : m = n := by
  have found := ordered.find?_eq left
  rw [show key m = key n from same, ordered.find?_eq right] at found
  exact (Option.some.inj found).symm

theorem Least.unique (ordered : Keyed.Ascending key r.modules) (left : r.Least role m)
    (right : r.Least role n) : m = n := by
  have load : m.load = n.load := UInt64.le_antisymm (left.lowest n right.among right.ofRole)
    (right.lowest m left.among left.ofRole)
  exact eq_of_id ordered left.among right.among (le_antisymm
    (left.first n right.among right.ofRole load.symm) (right.first m left.among left.ofRole load))

theorem ascending_map (ordered : Keyed.Ascending key r.modules) {f : Module α → Module α}
    (same : ∀ m, (f m).id = m.id) : Keyed.Ascending key (r.modules.map f) := by
  refine List.pairwise_map.mpr (ordered.imp fun {m n} lt => ?_)
  rwa [key, key, same m, same n]

/-- What is chosen is the least module with its score computed anew. -/
theorem least_of_select (ordered : Keyed.Ascending key r.modules)
    (chosen : (r.select role).1 = .ok m) : ∃ n, r.Least role n ∧ n.updateScore = m := by
  rw [select_eq] at chosen
  split at chosen
  · rename_i found
    cases chosen
    have ascending : Keyed.Ascending key ((r.ofRole role).map Module.updateScore) :=
      ascending_map (r := ⟨r.ofRole role⟩) (ordered.filter _) fun _ => rfl
    obtain ⟨among, best⟩ := leastLoaded_spec ascending found
    obtain ⟨n, member, rfl⟩ := List.mem_map.mp among
    obtain ⟨inside, isRole⟩ := mem_ofRole.mp member
    have against (other : Module α) (member : other ∈ r.modules) (isRole : other.role = role) :=
      best other.updateScore (List.mem_map_of_mem (mem_ofRole.mpr ⟨member, isRole⟩))
    exact ⟨n, ⟨inside, isRole, fun other member isRole => (against other member isRole).1,
      fun other member isRole => (against other member isRole).2⟩, rfl⟩
  · cases chosen

/-- A choice fails only where no module is of the role: the modules of the role are those on its shelf. -/
theorem select_error_iff {e : CrawlError} :
    (r.select role).1 = .error e ↔ e = noneRegistered role ∧ ∀ m ∈ r.modules, m.role ≠ role := by
  have shelf : (⟨fun other => some (r.ofRole other)⟩ : Shelves α).select role = (r.select role).1 :=
    (select_eq r role).symm
  rw [← shelf, Shelves.select_error]
  simp [Shelves.on, Registrar.ofRole, List.filter_eq_nil_iff]

theorem select_ok_iff (ordered : Keyed.Ascending key r.modules) :
    (r.select role).1 = .ok m ↔ ∃ n, r.Least role n ∧ n.updateScore = m := by
  refine ⟨least_of_select ordered, ?_⟩
  rintro ⟨n, least, rfl⟩
  cases chosen : (r.select role).1 with
  | error e => exact absurd least.ofRole ((select_error_iff.mp chosen).2 n least.among)
  | ok m =>
      obtain ⟨n', least', rfl⟩ := least_of_select ordered chosen
      rw [least.unique ordered least']

end Registrar

/-! ## What a unit weighs -/

namespace Counts

/-- The usual score as a natural number. -/
def weight (c : Counts) : Nat :=
  c.called.toNat + 2 * c.accepted.toNat + 4 * c.completed.toNat + 16 * c.handling.toNat

/-- Counts after so many more units that were called, accepted and completed. -/
def worked (c : Counts) (units : Nat) : Counts where
  called := c.called + UInt64.ofNat units
  accepted := c.accepted + UInt64.ofNat units
  completed := c.completed + UInt64.ofNat units
  handling := c.handling

@[simp] theorem worked_zero (c : Counts) : c.worked 0 = c := by simp [worked]

theorem worked_worked (c : Counts) (units more : Nat) :
    (c.worked units).worked more = c.worked (units + more) := by
  simp [worked, UInt64.ofNat_add, UInt64.add_assoc]

/-- A unit weighs seven, whatever the parts of the score are in 64 bits. -/
theorem toNat_simpleScore_worked (c : Counts) {units : Nat} (fits : c.weight + 7 * units < 2 ^ 64) :
    (c.worked units).simpleScore.toNat = c.weight + 7 * units := by
  simp only [weight] at fits ⊢
  simp only [simpleScore, worked, UInt64.toNat_add, UInt64.toNat_shiftLeft, Nat.shiftLeft_eq,
    UInt64.toNat_ofNat']
  -- a remainder of remainders is one remainder, and the score is below the modulus
  simp only [Nat.reducePow, UInt64.reduceToNat, Nat.one_mod, pow_one, Nat.reduceMod,
    Nat.add_mod_mod, Nat.mod_add_mod, Nat.mod_mul_mod]
  omega

end Counts

theorem Meter.counts_count (m : Meter) : (m.count true true).counts = m.counts.worked 1 := by
  simp [Meter.count, Meter.begin, Meter.finish, Meter.hold, Meter.called, Meter.accepted,
    Meter.completed, Meter.release, Counts.worked]

namespace Registrar

/-! ## Rounds -/

/-- One round: a module of a role is chosen and completes a unit. -/
def round (role : Role) (r : Registrar α) : Option ModuleId × Registrar α :=
  match r.select role with
  | (.ok m, r) => (some m.id, r.modifyMeter m.id (·.count true true))
  | (.error _, r) => (none, r)

def afterRounds (role : Role) (r : Registrar α) : Nat → Registrar α
  | 0 => r
  | n + 1 => ((r.afterRounds role n).round role).2

/-- How many units of some rounds were given to a module. -/
def units (role : Role) (r : Registrar α) (id : ModuleId) : Nat → Nat
  | 0 => 0
  | n + 1 => r.units role id n + if ((r.afterRounds role n).round role).1 = some id then 1 else 0

variable {r : Registrar α} {role : Role} {m n : Module α}

theorem updateScores_eq (r : Registrar α) (role : Role) : (r.updateScores role).modules =
    r.modules.map fun m => { m with meter.score := if m.role = role then m.load else m.meter.score } := by
  refine List.map_congr_left fun m _ => ?_
  split <;> rfl

theorem select_snd (r : Registrar α) (role : Role) : (r.select role).2 = r.updateScores role := by
  rw [select]
  split <;> rfl

theorem signature_round (role : Role) (r : Registrar α) : (r.round role).2.signature = r.signature := by
  have chosen := signature_updateScores r role
  rw [← select_snd] at chosen
  unfold round
  split
  · rename_i after select
    rw [select] at chosen
    rw [← chosen]
    exact signature_modifyMeter _ _ fun _ => rfl
  · rename_i after select
    rwa [select] at chosen

theorem signature_afterRounds (role : Role) (r : Registrar α) (rounds : Nat) :
    (r.afterRounds role rounds).signature = r.signature := by
  induction rounds with
  | zero => rfl
  | succ rounds ih => exact (signature_round role _).trans ih

theorem mem_of_signature {after : Registrar α} (same : after.signature = r.signature)
    (among : m ∈ after.modules) : ∃ n ∈ r.modules, n.id = m.id ∧ n.role = m.role := by
  have listed : (m.id, m.role) ∈ after.signature := List.mem_map.mpr ⟨m, among, rfl⟩
  rw [same] at listed
  obtain ⟨n, member, entry⟩ := List.mem_map.mp listed
  exact ⟨n, member, Prod.mk.inj entry⟩

theorem ordered_of_signature {after : Registrar α} (same : after.signature = r.signature)
    (ordered : Keyed.Ascending key r.modules) : Keyed.Ascending key after.modules := by
  have names (r : Registrar α) : r.signature.map (·.1.text) = r.modules.map key := by
    rw [signature, List.map_map]
    rfl
  have keys := congrArg (List.map (·.1.text)) same
  rw [names, names] at keys
  rw [Keyed.Ascending, ← List.pairwise_map, keys, List.pairwise_map]
  exact ordered

/-- A change of one meter leaves all other modules as they are. -/
theorem mem_modifyMeter {after : Module α} {id : ModuleId} {f : Meter → Meter}
    (among : after ∈ (r.modifyMeter id f).modules) :
    ∃ m ∈ r.modules, m.id = id ∧ after = { m with meter := f m.meter } ∨ m.id ≠ id ∧ after = m := by
  obtain ⟨m, member, rfl⟩ := List.mem_map.mp among
  refine ⟨m, member, ?_⟩
  by_cases self : m.id = id
  · exact Or.inl ⟨self, by simp [self]⟩
  · exact Or.inr ⟨self, by simp [self]⟩

/-- What a round does: it gives a unit to the least module, if there is one, and counts it for this module
alone. -/
theorem round_spec (role : Role) (ordered : Keyed.Ascending key r.modules) :
    (((r.round role).1 = none ∧ ∀ m ∈ r.modules, m.role ≠ role) ∨
      ∃ n, r.Least role n ∧ (r.round role).1 = some n.id) ∧
    ∀ after ∈ (r.round role).2.modules, ∃ m ∈ r.modules, after.id = m.id ∧ after.role = m.role ∧
      after.meter.calculator = m.meter.calculator ∧
      after.meter.counts =
        m.meter.counts.worked (if (r.round role).1 = some m.id then 1 else 0) := by
  have scored {after : Module α} (among : after ∈ (r.updateScores role).modules) :
      ∃ m ∈ r.modules, after.id = m.id ∧ after.role = m.role ∧
        after.meter.calculator = m.meter.calculator ∧ after.meter.counts = m.meter.counts := by
    rw [updateScores_eq] at among
    obtain ⟨m, member, rfl⟩ := List.mem_map.mp among
    exact ⟨m, member, rfl, rfl, rfl, rfl⟩
  have snd := select_snd r role
  cases chosen : (r.select role).1 with
  | error e =>
      have nobody := select_error_iff.mp chosen
      have round : r.round role = (none, r.updateScores role) := by
        rw [Registrar.round, ← Prod.eta (r.select role), chosen, snd]
      rw [round]
      refine ⟨Or.inl ⟨rfl, nobody.2⟩, fun after among => ?_⟩
      obtain ⟨m, member, same⟩ := scored among
      exact ⟨m, member, by simpa using same⟩
  | ok best =>
      obtain ⟨n, least, rfl⟩ := least_of_select ordered chosen
      have round : r.round role =
          (some n.id, (r.updateScores role).modifyMeter n.id (·.count true true)) := by
        rw [Registrar.round, ← Prod.eta (r.select role), chosen, snd]
        rfl
      rw [round]
      refine ⟨Or.inr ⟨n, least, rfl⟩, fun after among => ?_⟩
      obtain ⟨middle, inside, ⟨self, rfl⟩ | ⟨other, rfl⟩⟩ := mem_modifyMeter among
      · obtain ⟨m, member, id, isRole, calculator, counts⟩ := scored inside
        refine ⟨m, member, id, isRole, calculator, ?_⟩
        rw [if_pos (congrArg some (self.symm.trans id)), ← counts]
        exact Meter.counts_count middle.meter
      · obtain ⟨m, member, id, isRole, calculator, counts⟩ := scored inside
        refine ⟨m, member, id, isRole, calculator, ?_⟩
        rw [if_neg fun same => other (id.trans (Option.some.inj same).symm), Counts.worked_zero]
        exact counts

/-! ## Even shares -/

/-- The modules of a role began with the same counts and have been given units since, none of them two
more than another. -/
structure Even (role : Role) (start : Counts) (units : ModuleId → Nat) (r : Registrar α) : Prop where
  ordered : Keyed.Ascending key r.modules
  simple : ∀ m ∈ r.modules, m.role = role → m.meter.calculator = Counts.simpleScore
  counts : ∀ m ∈ r.modules, m.role = role → m.meter.counts = start.worked (units m.id)
  even : ∀ m ∈ r.modules, m.role = role → ∀ n ∈ r.modules, n.role = role → units m.id ≤ units n.id + 1

variable {start : Counts} {units : ModuleId → Nat}

/-- The load tells the units, as long as it stays in 64 bits. -/
theorem Even.toNat_load (even : r.Even role start units) (among : m ∈ r.modules) (isRole : m.role = role)
    (fits : start.weight + 7 * units m.id < 2 ^ 64) : m.load.toNat = start.weight + 7 * units m.id := by
  rw [Module.load, even.simple m among isRole, even.counts m among isRole]
  exact Counts.toNat_simpleScore_worked start fits

/-- The least module was given the fewest units. -/
theorem Even.fewest (even : r.Even role start units)
    (fit : ∀ m ∈ r.modules, m.role = role → start.weight + 7 * units m.id < 2 ^ 64)
    (least : r.Least role m) (among : n ∈ r.modules) (isRole : n.role = role) :
    units m.id ≤ units n.id := by
  have lowest := UInt64.le_iff_toNat_le.mp (least.lowest n among isRole)
  rw [even.toNat_load least.among least.ofRole (fit m least.among least.ofRole),
    even.toNat_load among isRole (fit n among isRole)] at lowest
  omega

theorem Even.round (even : r.Even role start units)
    (fit : ∀ m ∈ r.modules, m.role = role → start.weight + 7 * units m.id < 2 ^ 64) :
    Even role start (fun id => units id + if (r.round role).1 = some id then 1 else 0)
      (r.round role).2 := by
  obtain ⟨given, worked⟩ := round_spec role even.ordered
  refine ⟨ordered_of_signature (signature_round role r) even.ordered, ?_, ?_, ?_⟩
  · intro after among isRole
    obtain ⟨m, member, -, sameRole, calculator, -⟩ := worked after among
    rw [calculator]
    exact even.simple m member (sameRole.symm.trans isRole)
  · intro after among isRole
    obtain ⟨m, member, id, sameRole, -, counts⟩ := worked after among
    rw [counts, even.counts m member (sameRole.symm.trans isRole), Counts.worked_worked, id]
  · intro left amongLeft leftRole right amongRight rightRole
    obtain ⟨m, inside, id, sameRole, -⟩ := worked left amongLeft
    obtain ⟨n, inside', id', sameRole', -⟩ := worked right amongRight
    have mRole := sameRole.symm.trans leftRole
    have nRole := sameRole'.symm.trans rightRole
    have before := even.even m inside mRole n inside' nRole
    simp only [id, id']
    rcases given with ⟨nobody, -⟩ | ⟨best, least, chosen⟩
    · simpa [nobody] using before
    · by_cases self : best.id = m.id
      · have fewest := even.fewest fit least inside' nRole
        rw [self] at fewest
        rw [chosen, self, if_pos rfl]
        omega
      · rw [chosen, if_neg fun same => self (Option.some.inj same)]
        omega

/-- **Modules that began alike stay within one unit of each other**, round after round. -/
theorem even_afterRounds (ordered : Keyed.Ascending key r.modules)
    (alike : ∀ m ∈ r.modules, m.role = role →
      m.meter.calculator = Counts.simpleScore ∧ m.meter.counts = start) {rounds : Nat}
    (fit : ∀ done < rounds, ∀ m ∈ r.modules, m.role = role →
      start.weight + 7 * r.units role m.id done < 2 ^ 64) :
    Even role start (fun id => r.units role id rounds) (r.afterRounds role rounds) := by
  induction rounds with
  | zero =>
      refine ⟨ordered, fun m among isRole => (alike m among isRole).1, fun m among isRole => ?_,
        fun _ _ _ _ _ _ => Nat.zero_le _⟩
      rw [units, Counts.worked_zero]
      exact (alike m among isRole).2
  | succ rounds ih =>
      have before := ih fun done earlier => fit done (Nat.lt_succ_of_lt earlier)
      refine before.round fun m among isRole => ?_
      obtain ⟨n, member, id, sameRole⟩ :=
        mem_of_signature (signature_afterRounds role r rounds) among
      rw [← id]
      exact fit rounds (Nat.lt_succ_self rounds) n member (sameRole.trans isRole)

/-- Every round gives a unit, if there is a module of the role. -/
theorem round_gives (ordered : Keyed.Ascending key r.modules) (among : m ∈ r.modules)
    (isRole : m.role = role) (done : Nat) :
    ∃ n ∈ r.modules, n.role = role ∧ ((r.afterRounds role done).round role).1 = some n.id := by
  have same := signature_afterRounds role r done
  rcases (round_spec role (ordered_of_signature same ordered)).1 with
    ⟨-, nobody⟩ | ⟨best, least, chosen⟩
  · obtain ⟨n, member, -, sameRole⟩ := mem_of_signature same.symm among
    exact absurd (sameRole.trans isRole) (nobody n member)
  · obtain ⟨n, member, id, sameRole⟩ := mem_of_signature same least.among
    exact ⟨n, member, sameRole.trans least.ofRole, by rw [chosen, id]⟩

/-- **Work goes to the module with the lowest score.**  Whatever modules there are and whatever their counts
and scores, the one that is chosen for a role is the one whose score, computed anew, is the lowest, and of
several such ones the one of the smallest identifier; the scores of the role are stored and nothing
else changes, and the choice fails just where the role has no module.  With the usual score, modules
that began with the same counts are given equally many units in any number of rounds, up to one, as
long as no score leaves 64 bits: every round gives one, and the counts tell the units. -/
theorem work_goes_to_lowest_score (r : Registrar α) (ordered : Keyed.Ascending key r.modules)
    (role : Role) :
    (∀ m, (r.select role).1 = .ok m ↔ ∃ n, r.Least role n ∧ n.updateScore = m) ∧
    (r.select role).2.modules = (r.modules.map fun m =>
      { m with meter.score := if m.role = role then m.load else m.meter.score }) ∧
    (∀ e, (r.select role).1 = .error e ↔
      e = noneRegistered role ∧ ∀ m ∈ r.modules, m.role ≠ role) ∧
    ∀ start rounds,
      (∀ m ∈ r.modules, m.role = role →
        m.meter.calculator = Counts.simpleScore ∧ m.meter.counts = start) →
      (∀ done < rounds, ∀ m ∈ r.modules, m.role = role →
        start.weight + 7 * r.units role m.id done < 2 ^ 64) →
      (∀ m ∈ r.modules, m.role = role → ∀ done, ∃ n ∈ r.modules, n.role = role ∧
        ((r.afterRounds role done).round role).1 = some n.id) ∧
      (∀ m ∈ (r.afterRounds role rounds).modules, m.role = role →
        m.meter.counts = start.worked (r.units role m.id rounds)) ∧
      ∀ m ∈ r.modules, m.role = role → ∀ n ∈ r.modules, n.role = role →
        r.units role m.id rounds ≤ r.units role n.id rounds + 1 := by
  refine ⟨fun m => select_ok_iff ordered, ?_, fun e => select_error_iff, ?_⟩
  · rw [select_snd, updateScores_eq]
  · intro start rounds alike fit
    have even := even_afterRounds ordered alike fit
    refine ⟨fun m among isRole => round_gives ordered among isRole, even.counts, ?_⟩
    intro m among isRole n among' isRole'
    have same := (signature_afterRounds role r rounds).symm
    obtain ⟨left, inLeft, id, sameRole⟩ := mem_of_signature same among
    obtain ⟨right, inRight, id', sameRole'⟩ := mem_of_signature same among'
    rw [← id, ← id']
    exact even.even left inLeft (sameRole.trans isRole) right inRight (sameRole'.trans isRole')

/-- Two downloaders with equal counts, registered in the order of their numbers, which is not the one of
their identifiers. -/
theorem work_goes_to_lowest_score_two_downloaders :
    let named (text : String) : Module Unit :=
      ⟨.downloader, ⟨⟨text⟩, .downloader, Counts.simpleScore, ⟨4, 4, 3, 0⟩, 0⟩, ()⟩
    let r : Registrar Unit := ⟨[named "D10", named "D2"]⟩
    (run step empty [.register (named "D2"), .register (named "D10")]).2 = r ∧
      Keyed.Ascending key r.modules ∧
      (r.select .downloader).1 = .ok (named "D10").updateScore ∧
      (∀ done < 5, ∀ m ∈ r.modules, m.role = .downloader →
        (⟨4, 4, 3, 0⟩ : Counts).weight + 7 * r.units .downloader m.id done < 2 ^ 64) ∧
      r.units .downloader ⟨"D10"⟩ 5 ≤ r.units .downloader ⟨"D2"⟩ 5 + 1 := by
  intro named r
  have reached : (run step empty [.register (named "D2"), .register (named "D10")]).2 = r := by
    have two : (named "D2").Registrable := ⟨⟨.downloader, 2, none⟩, by decide +kernel, rfl⟩
    have ten : (named "D10").Registrable := ⟨⟨.downloader, 10, none⟩, by decide +kernel, rfl⟩
    have below : key (named "D10") < key (named "D2") := by decide +kernel
    simp only [run, step, register_of_registrable _ two, register_of_registrable _ ten, empty,
      Keyed.insert, if_pos below, r]
  have ordered : Keyed.Ascending key r.modules := reached ▸ ordered_run _
  have alike : ∀ m ∈ r.modules, m.role = .downloader →
      m.meter.calculator = Counts.simpleScore ∧ m.meter.counts = ⟨4, 4, 3, 0⟩ := by
    simp [r, named]
  have fit : ∀ done < 5, ∀ m ∈ r.modules, m.role = .downloader →
      (⟨4, 4, 3, 0⟩ : Counts).weight + 7 * r.units .downloader m.id done < 2 ^ 64 := by
    decide +kernel
  obtain ⟨chosen, -, -, rounds⟩ := work_goes_to_lowest_score r ordered .downloader
  obtain ⟨-, -, even⟩ := rounds ⟨4, 4, 3, 0⟩ 5 alike fit
  have least : r.Least .downloader (named "D10") := by
    refine ⟨List.mem_cons_self, rfl, ?_, ?_⟩
    · simp [r, named, Module.load]
    · simp [r, named, Module.id]
  exact ⟨reached, ordered, (chosen _).mpr ⟨named "D10", least, rfl⟩, fit,
    even (named "D10") (by simp [r]) rfl (named "D2") (by simp [r]) rfl⟩

end Registrar

end CrawlMesh
