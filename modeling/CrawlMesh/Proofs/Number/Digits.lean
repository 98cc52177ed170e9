/-
# The digits of a number

A number is written in digits of a base, high ones first (`Nat.toDigits`), without leading zeros
(`toDigits_of_pos`), and a reader of decimal digits gives the number of any digits, with leading zeros
or without, as long as it is below the bound of the reader (`Decimal.readDigits_eq_ok_iff`).
-/
import CrawlMesh.Number.Decimal
import Mathlib.Data.List.Basic
import Mathlib.Data.Nat.Digits.Defs

namespace CrawlMesh

set_option autoImplicit false

/-- The digits of a number are those of its base. -/
theorem mem_toDigits {base n : Nat} (two_le : 1 < base) {c : Char} (member : c ∈ base.toDigits n) :
    ∃ d < base, c = d.digitChar := by
  induction n using Nat.strong_induction_on with
  | _ n ih =>
      rw [Nat.toDigits_eq_if two_le] at member
      split at member
      · rename_i small
        exact ⟨n, small, List.mem_singleton.mp member⟩
      · rename_i large
        rcases List.mem_append.mp member with front | last
        · exact ih (n / base) (Nat.div_lt_self (by omega) two_le) front
        · exact ⟨n % base, Nat.mod_lt n (by omega), List.mem_singleton.mp last⟩

/-- A number other than zero is written without leading zeros. -/
theorem toDigits_of_pos {n : Nat} (pos : 0 < n) :
    ∃ c ds, Nat.toDigits 10 n = c :: ds ∧ c ≠ '0' := by
  induction n using Nat.strongRecOn with
  | _ n ih =>
      rw [Nat.toDigits_eq_if (by decide)]
      split
      · rename_i small
        have first : ∀ d < 10, 0 < d → Nat.digitChar d ≠ '0' := by decide
        exact ⟨_, [], rfl, first n small pos⟩
      · obtain ⟨c, ds, shape, first⟩ := ih (n / 10) (by omega) (by omega)
        exact ⟨c, _, by rw [shape, List.cons_append], first⟩

theorem isDigit_of_mem_decimal {n : Nat} {c : Char} (member : c ∈ Nat.toDigits 10 n) :
    c.isDigit = true :=
  Nat.isDigit_of_mem_toDigits (by decide) (by decide) member

theorem not_mem_decimal {c : Char} (noDigit : c.isDigit = false) (n : Nat) :
    c ∉ Nat.toDigits 10 n := by
  intro member
  rw [isDigit_of_mem_decimal member] at noDigit
  cases noDigit

theorem le_ofDigitChars (ds : List Char) (n : Nat) : n ≤ Nat.ofDigitChars 10 ds n := by
  rw [Nat.ofDigitChars_eq_ofDigitChars_zero]
  have := Nat.le_mul_of_pos_left n (Nat.pow_pos (n := ds.length) (show 0 < 10 by decide))
  omega

theorem digit?_of_isDigit {c : Char} (digit : c.isDigit = true) :
    Decimal.digit? c = some (c.toNat - '0'.toNat) := by
  unfold Decimal.digit?
  rw [if_pos]
  simpa [Char.isDigit, Char.le_def] using digit

namespace Decimal

/-- Digits are read as their number exactly if it stays below the bound. -/
theorem readDigits_eq_ok_iff {bound acc n : Nat} {ds : List Char}
    (digits : ∀ c ∈ ds, c.isDigit = true) (small : acc < bound) :
    readDigits bound acc ds = .ok n ↔ Nat.ofDigitChars 10 ds acc = n ∧ n < bound := by
  induction ds generalizing acc with
  | nil =>
      simp only [readDigits, Except.ok.injEq, Nat.ofDigitChars_nil]
      exact ⟨fun same => ⟨same, same ▸ small⟩, And.left⟩
  | cons c ds ih =>
      rw [readDigits, digit?_of_isDigit (digits c List.mem_cons_self), Nat.ofDigitChars_cons,
        Nat.mul_comm 10 acc]
      dsimp only
      split
      · rename_i less
        exact ih (fun d member => digits d (List.mem_cons_of_mem c member)) less
      · rename_i large
        have grows := le_ofDigitChars ds (acc * 10 + (c.toNat - '0'.toNat))
        constructor
        · intro read
          cases read
        · rintro ⟨rfl, less⟩
          omega

end Decimal

end CrawlMesh
