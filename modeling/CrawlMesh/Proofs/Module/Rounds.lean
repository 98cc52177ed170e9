/-
# Serial numbers go round

A generator gives the numbers from its first to its last one and begins again.  How far it has come
depends on the count of the numbers given alone (`Serial.Given`): the next number is the first one and
the remainder by the period, and the rounds are the quotient, as far as 64 bits count them.

* A new generator has given nothing, whatever bounds it was asked for (`given_new`).
* A generator gives the number that is due and has then given one more (`Given.get`).  One is added only
  to a number below the last one, so that the addition stays in 64 bits (`Given.next_succ`).
* By induction the same holds after every run (`Given.after`).  As many consecutive numbers as the period
  are those from the first to the last in some order (`Given.perm_run`), because the remainders of
  consecutive counts are all remainders.

All of this is said of natural numbers: the period of a generator with the full range, `2 ^ 64`, is no
number of 64 bits (`numbers_go_round`).
-/
import CrawlMesh.Serial
import Mathlib.Order.Interval.Finset.Nat

namespace CrawlMesh

set_option autoImplicit false

namespace Serial

/-! ## How far a generator has come -/

/-- A generator of the numbers from a first to a last one that has given so many of them. -/
structure Given (first last given : Nat) (s : Serial) : Prop where
  start : s.start.toNat = first
  max : s.max.toNat = last
  ordered : first ≤ last
  next : s.next.toNat = first + given % (last - first + 1)
  rounds : s.rounds.toNat = given / (last - first + 1) % 2 ^ 64

/-- The last number of a generator that is asked for a maximum. -/
def lastNumber (max : UInt64) : Nat := if max = 0 then 2 ^ 64 - 1 else max.toNat

theorem toNat_min (a b : UInt64) : (if a ≤ b then a else b).toNat = min a.toNat b.toNat := by
  rw [apply_ite UInt64.toNat, min_def]
  rfl

theorem given_new (start max : UInt64) :
    Given (min start.toNat (lastNumber max)) (lastNumber max) 0 (new start max) := by
  have bound : (new start max).max.toNat = lastNumber max := by
    by_cases unbounded : max = 0 <;> simp [new, lastNumber, unbounded]
  have first : (new start max).start.toNat = min start.toNat (lastNumber max) := by
    rw [← bound]
    exact toNat_min start (new start max).max
  exact ⟨first, bound, min_le_right _ _, first, by simp [new]⟩

variable {s : Serial} {first last given : Nat}

theorem remainder_le (first last given : Nat) : given % (last - first + 1) ≤ last - first :=
  Nat.le_of_lt_succ (Nat.mod_lt given (Nat.succ_pos _))

/-- The last number is due at the end of a round. -/
theorem Given.next_eq_max (g : s.Given first last given) :
    s.next = s.max ↔ given % (last - first + 1) = last - first := by
  have ordered := g.ordered
  rw [← UInt64.toNat_inj, g.next, g.max]
  omega

/-- Below the last number there is room for one more. -/
theorem Given.next_succ (g : s.Given first last given) (below : s.next ≠ s.max) :
    (s.next + 1).toNat = s.next.toNat + 1 := by
  have within := remainder_le first last given
  have notLast := mt g.next_eq_max.mpr below
  have next := g.next
  have max := g.max
  have most := s.max.toNat_lt
  rw [UInt64.toNat_add, UInt64.toNat_one]
  omega

/-- The number that is due is given, and then one more has been given. -/
theorem Given.get (g : s.Given first last given) :
    s.get.1.toNat = first + given % (last - first + 1) ∧ s.get.2.Given first last (given + 1) := by
  by_cases atLast : s.next = s.max
  · have wraps : (given + 1) % (last - first + 1) = 0 :=
      Nat.succ_mod_succ_eq_zero_iff.mpr (g.next_eq_max.mp atLast)
    have after : s.get = (s.next, { s with next := s.start, rounds := s.rounds + 1 }) := by
      simp [Serial.get, atLast]
    rw [after]
    refine ⟨g.next, g.start, g.max, g.ordered, ?_, ?_⟩
    · rw [wraps, Nat.add_zero]
      exact g.start
    · rw [Nat.succ_div_of_dvd (Nat.dvd_of_mod_eq_zero wraps)]
      simp [UInt64.toNat_add, g.rounds]
  · have notLast := mt g.next_eq_max.mpr atLast
    have within := remainder_le first last given
    have after : s.get = (s.next, { s with next := s.next + 1 }) := by simp [Serial.get, atLast]
    rw [after]
    refine ⟨g.next, g.start, g.max, g.ordered, ?_, ?_⟩
    · have goesOn : (given + 1) % (last - first + 1) = given % (last - first + 1) + 1 := by
        rw [← Nat.mod_add_mod, Nat.mod_eq_of_lt (by omega)]
      rw [goesOn, g.next_succ atLast, g.next, Nat.add_assoc]
    · have inside : ¬ (last - first + 1) ∣ given + 1 := by
        rw [Nat.dvd_iff_mod_eq_zero, Nat.succ_mod_succ_eq_zero_iff]
        exact notLast
      rw [Nat.succ_div_of_not_dvd inside]
      exact g.rounds

/-! ## Runs -/

/-- The generator after so many numbers. -/
def after (s : Serial) : Nat → Serial
  | 0 => s
  | n + 1 => s.get.2.after n

/-- What one more number leaves. -/
theorem after_succ (s : Serial) (n : Nat) : s.after (n + 1) = (s.after n).get.2 := by
  induction n generalizing s with
  | zero => rfl
  | succ n ih => exact ih s.get.2

/-- A run consists of the numbers in turn, each with the generator after it. -/
theorem run_eq (s : Serial) (count : Nat) :
    s.run count = (List.range count).map fun n => (s.after n).get := by
  induction count generalizing s with
  | zero => rfl
  | succ count ih =>
      rw [List.range_succ_eq_map, List.map_cons, List.map_map]
      exact congrArg (s.get :: ·) (ih s.get.2)

theorem Given.after (g : s.Given first last given) (n : Nat) :
    (s.after n).Given first last (given + n) := by
  induction n with
  | zero => exact g
  | succ n ih =>
      rw [after_succ]
      exact ih.get.2

/-- As many numbers as the period are all numbers from the first to the last one. -/
theorem Given.perm_run (g : s.Given first last given) :
    ((s.run (last - first + 1)).map (·.1.toNat)).Perm
      ((List.range (last - first + 1)).map (first + ·)) := by
  have due : (s.run (last - first + 1)).map (·.1.toNat) =
      ((List.range' given (last - first + 1)).map (· % (last - first + 1))).map (first + ·) := by
    rw [run_eq, List.map_map, List.range'_eq_map_range, List.map_map, List.map_map]
    refine List.map_congr_left fun n _ => ?_
    exact (g.after n).get.1
  have remainders : ((List.range' given (last - first + 1)).map (· % (last - first + 1))).Perm
      (List.range (last - first + 1)) := by
    have all := Nat.multiset_Ico_map_mod given (last - first + 1)
    rw [Multiset.Ico, Nat.Ico_eq_range', Nat.add_sub_cancel_left] at all
    exact Multiset.coe_eq_coe.mp all
  rw [due]
  exact remainders.map _

/-- **Serial numbers go round.**  Whatever bounds a generator is made with, a number that it gives and the
one after it are the first number and the remainder of the count by the period, and the rounds are the
quotient in 64 bits; one is never added to the largest number.  Hence among as many consecutive numbers
as the period there is every number from the first to the last, and none of them twice. -/
theorem numbers_go_round (start max : UInt64) :
    let last := lastNumber max
    let first := min start.toNat last
    let period := last - first + 1
    let s := new start max
    (∀ count, s.run count = (List.range count).map fun n => (s.after n).get) ∧
    (∀ n,
      (s.after n).get.1.toNat = first + n % period ∧
      (s.after n).get.2 = s.after (n + 1) ∧
      (s.after (n + 1)).next.toNat = first + (n + 1) % period ∧
      (s.after (n + 1)).rounds.toNat = (n + 1) / period % 2 ^ 64 ∧
      ((s.after n).next ≠ (s.after n).max →
        ((s.after n).next + 1).toNat = (s.after n).next.toNat + 1)) ∧
    ∀ done,
      let numbers := ((s.after done).run period).map Prod.fst
      numbers.Nodup ∧ ∀ k, k ∈ numbers ↔ first ≤ k.toNat ∧ k.toNat ≤ last := by
  intro last first period s
  have g (n : Nat) : (s.after n).Given first last n := by
    simpa using (given_new start max).after n
  refine ⟨run_eq s, fun n => ?_, fun done => ?_⟩
  · exact ⟨(g n).get.1, (after_succ s n).symm, (g (n + 1)).next, (g (n + 1)).rounds,
      (g n).next_succ⟩
  · intro numbers
    have perm : (numbers.map UInt64.toNat).Perm ((List.range period).map (first + ·)) := by
      simpa [numbers, Function.comp_def] using (g done).perm_run
    constructor
    · refine List.Nodup.of_map UInt64.toNat (perm.nodup_iff.mpr ?_)
      exact List.nodup_range.map (add_right_injective first)
    · intro k
      have ordered := (g 0).ordered
      rw [← List.mem_map_of_injective (fun _ _ => UInt64.toNat_inj.mp), perm.mem_iff]
      simp only [List.mem_map, List.mem_range]
      constructor
      · rintro ⟨n, within, same⟩
        omega
      · rintro ⟨above, below⟩
        exact ⟨k.toNat - first, by omega, by omega⟩

/-- A generator with the full range begins again with its first number of all. -/
theorem numbers_go_round_full_range :
    let s := new 0 0
    (s.after 7).next ≠ (s.after 7).max ∧
      ((s.after 7).next + 1).toNat = (s.after 7).next.toNat + 1 ∧
      (s.after (2 ^ 64 - 1)).get.1.toNat = 2 ^ 64 - 1 ∧
      (s.after (2 ^ 64 - 1 + 1)).next.toNat = 0 ∧ (s.after (2 ^ 64 - 1 + 1)).rounds.toNat = 1 := by
  intro s
  obtain ⟨-, turns, -⟩ := numbers_go_round 0 0
  have notLast : (s.after 7).next ≠ (s.after 7).max := by decide
  obtain ⟨number, -, next, rounds, -⟩ := turns (2 ^ 64 - 1)
  exact ⟨notLast, (turns 7).2.2.2.2 notLast, number.trans (by decide), next.trans (by decide),
    rounds.trans (by decide)⟩

end Serial

end CrawlMesh
