/-
# The parts of a text

A text is cut in two at the first or at the last of a character, or in parts at every one.  Nothing is
lost by that.  Two parts are those of a text exactly if the text is both of them with the character
between them, and the character is not in the first one (`splitFirst?_eq_some_iff`) or not in the second
one (`splitLast?_eq_some_iff`).  Cutting at every one is `List.splitOnP`, so that parts without the
character are found again in the text they are joined to, and a text is its parts joined
(`List.splitOn_intercalate`, `List.intercalate_splitOn`).
-/
import CrawlMesh.Text.Split
import Mathlib.Data.List.Basic

namespace CrawlMesh.Text

set_option autoImplicit false

variable {α : Type} {p : α → Bool}

/-! ## A stretch and what stops it -/

theorem takeWhile_append_stop {a b : List α} (all : ∀ x ∈ a, p x = true)
    (stop : ∀ x ∈ b.head?, p x = false) : (a ++ b).takeWhile p = a := by
  rw [List.takeWhile_append_of_pos all]
  cases b with
  | nil => simp
  | cons x rest =>
      have ends := stop x rfl
      simp [ends]

theorem dropWhile_append_stop {a b : List α} (all : ∀ x ∈ a, p x = true)
    (stop : ∀ x ∈ b.head?, p x = false) : (a ++ b).dropWhile p = b := by
  rw [List.dropWhile_append_of_pos all]
  cases b with
  | nil => rfl
  | cons x rest =>
      have ends := stop x rfl
      simp [ends]

/-! ## Two parts -/

variable {c : Char} {cs before behind : List Char}

theorem splitFirst?_eq_none_iff : splitFirst? c cs = none ↔ c ∉ cs := by
  simp [splitFirst?]

/-- The first of a character has none before it. -/
theorem splitFirst?_eq_some_iff :
    splitFirst? c cs = some (before, behind) ↔ cs = before ++ c :: behind ∧ c ∉ before := by
  have others {front : List Char} (free : c ∉ front) : ∀ d ∈ front, (d != c) = true := by
    intro d member
    rw [bne_iff_ne]
    rintro rfl
    exact free member
  constructor
  · intro split
    have present : c ∈ cs := by
      by_contra missing
      rw [splitFirst?_eq_none_iff.mpr missing] at split
      cases split
    obtain ⟨front, back, rfl, free⟩ := List.eq_append_cons_of_mem present
    have stop : ∀ d ∈ (c :: back).head?, (d != c) = false := by simp
    rw [splitFirst?, takeWhile_append_stop (others free) stop,
      dropWhile_append_stop (others free) stop, if_pos (by simp)] at split
    cases split
    exact ⟨rfl, free⟩
  · rintro ⟨rfl, free⟩
    have stop : ∀ d ∈ (c :: behind).head?, (d != c) = false := by simp
    rw [splitFirst?, takeWhile_append_stop (others free) stop,
      dropWhile_append_stop (others free) stop, if_pos (by simp)]
    rfl

theorem splitLast?_eq_none_iff : splitLast? c cs = none ↔ c ∉ cs := by
  rw [splitLast?, Option.map_eq_none_iff, splitFirst?_eq_none_iff, List.mem_reverse]

/-- The last of a character has none behind it. -/
theorem splitLast?_eq_some_iff :
    splitLast? c cs = some (before, behind) ↔ cs = before ++ c :: behind ∧ c ∉ behind := by
  have mirrored : splitLast? c cs = some (before, behind) ↔
      splitFirst? c cs.reverse = some (behind.reverse, before.reverse) := by
    rw [splitLast?, Option.map_eq_some_iff]
    constructor
    · rintro ⟨⟨back, front⟩, split, same⟩
      cases same
      simpa using split
    · intro split
      exact ⟨_, split, by simp⟩
  rw [mirrored, splitFirst?_eq_some_iff, List.mem_reverse, List.reverse_eq_iff]
  simp

/-! ## All parts -/

theorem splitWhere_eq (l : List α) : splitWhere p l = l.splitOnP p := by
  induction l with
  | nil => rfl
  | cons x rest ih =>
      rw [splitWhere, ih, List.splitOnP_cons_eq_if_modifyHead]
      cases parts : rest.splitOnP p with
      | nil => exact absurd parts (List.splitOnP_ne_nil p rest)
      | cons part others => rfl

theorem splitWhere_append {cut : α} (cuts : p cut = true) (front back : List α) :
    splitWhere p (front ++ cut :: back) = splitWhere p front ++ splitWhere p back := by
  simp only [splitWhere_eq, List.splitOnP_append_cons front back cuts]

theorem splitWhere_whole {l : List α} (uncut : ∀ x ∈ l, p x = false) : splitWhere p l = [l] := by
  rw [splitWhere_eq, List.splitOnP_eq_singleton uncut]

/-- A part holds what the text holds, and nothing at which it is cut. -/
theorem of_mem_splitWhere {l part : List α} {x : α} (among : part ∈ splitWhere p l)
    (member : x ∈ part) : x ∈ l ∧ p x = false := by
  induction l generalizing part with
  | nil =>
      cases List.mem_singleton.mp among
      cases member
  | cons y rest ih =>
      have later {other : List α} (among : other ∈ splitWhere p rest) (member : x ∈ other) :
          x ∈ y :: rest ∧ p x = false :=
        (ih among member).imp_left (List.mem_cons_of_mem y)
      cases parts : splitWhere p rest with
      | nil => exact absurd parts (splitWhere_ne_nil p rest)
      | cons first others =>
          rw [parts] at later
          simp only [splitWhere, parts] at among
          split at among
          · rcases List.mem_cons.mp among with rfl | among
            · cases member
            · exact later among member
          · rename_i uncut
            rcases List.mem_cons.mp among with rfl | among
            · rcases List.mem_cons.mp member with rfl | member
              · exact ⟨List.mem_cons_self, by simpa using uncut⟩
              · exact later List.mem_cons_self member
            · exact later (List.mem_cons_of_mem first among) member

theorem mem_of_mem_intercalate {sep : List α} {parts : List (List α)} {x : α}
    (member : x ∈ sep.intercalate parts) : x ∈ sep ∨ ∃ part ∈ parts, x ∈ part := by
  induction parts with
  | nil => cases member
  | cons part rest ih =>
      cases rest with
      | nil =>
          rw [List.intercalate_singleton] at member
          exact Or.inr ⟨part, List.mem_cons_self, member⟩
      | cons next rest =>
          rw [List.intercalate_cons_cons, List.mem_append, List.mem_append] at member
          rcases member with (first | between) | later
          · exact Or.inr ⟨part, List.mem_cons_self, first⟩
          · exact Or.inl between
          · exact (ih later).imp_right fun ⟨other, among, inside⟩ =>
              ⟨other, List.mem_cons_of_mem part among, inside⟩

end CrawlMesh.Text
