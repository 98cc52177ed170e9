/-
# What lower case changes

A letter moves to its small letter by the run that holds it.  The table is checked run against run: where
a run moves its letters, no run holds anything, and there are none of the dots, blanks, digits and marks
that separate the parts of a text (`runs_move_apart`).  So small letters stay where they are, and no letter
becomes a mark (`simpleLower_cases`).

A text in lower case holds small letters only, and what it does not share with the text it was made of
is no mark (`of_mem_lower`); a text of small letters is its own (`lower_eq_self`).  One letter reads more
than itself: a capital sigma looks at the letters on both sides of it, also across a dot.  Texts without
one are put in lower case part by part (`lower_append`).
-/
import CrawlMesh.Text.Blank
import CrawlMesh.Text.Case
import Mathlib.Data.List.Basic

namespace CrawlMesh

set_option autoImplicit false

namespace Unicode

/-! ## The runs of the table -/

/-- Where a run moves a code point. -/
def CaseRun.move (r : CaseRun) (n : Nat) : Nat := Int.toNat (n + r.shift)

/-- Nothing that the run `r` moves comes to a code point of the run `q`: it comes before or behind all of
them, or falls between the strides. -/
def CaseRun.avoids (r q : CaseRun) : Bool :=
  (Nat.blt (r.move r.last) q.first).or <| (Nat.blt q.last (r.move r.first)).or <|
    (r.first == r.last || r.stride % q.stride == 0) && (r.move r.first - q.first) % q.stride != 0

/-- Code points that no letter moves to: marks, digits and capitals of seven bits, blanks, the capital with
a dot, and what is no character. -/
def reserved : List CaseRun := [
  ⟨0x00, 0x60, 1, 0⟩, ⟨0x7B, 0xA0, 1, 0⟩, ⟨0x130, 0x130, 1, 0⟩, ⟨0x1680, 0x1680, 1, 0⟩,
  ⟨0x2000, 0x205F, 1, 0⟩, ⟨0x3000, 0x3000, 1, 0⟩, ⟨0xD800, 0xDFFF, 1, 0⟩]

theorem runs_move_apart : (lowercaseRuns.toList.all fun r =>
    Nat.blt 0 (r.move r.first) && Nat.blt (r.move r.last) 0x110000 &&
      (lowercaseRuns.toList ++ reserved).all r.avoids) = true := by decide +kernel

variable {r q : CaseRun} {n : Nat}

theorem CaseRun.holds_iff :
    r.holds n = true ↔ r.first ≤ n ∧ n ≤ r.last ∧ r.stride ∣ n - r.first := by
  simp [holds, and_assoc, Nat.dvd_iff_mod_eq_zero]

theorem CaseRun.not_holds_move (above : 0 < r.move r.first) (apart : r.avoids q = true)
    (held : r.holds n = true) : q.holds (r.move n) = false := by
  obtain ⟨least, most, steps⟩ := holds_iff.mp held
  have moved : r.move n = r.move r.first + (n - r.first) := by
    unfold move at above ⊢
    omega
  have bounded : r.move n ≤ r.move r.last := by
    unfold move
    omega
  rw [← Bool.not_eq_true, holds_iff]
  rintro ⟨from_, upto, strides⟩
  simp only [avoids, Bool.or_eq_true, Bool.and_eq_true, Nat.blt_eq, beq_iff_eq, bne_iff_ne,
    ← Nat.dvd_iff_mod_eq_zero] at apart
  rcases apart with before | behind | ⟨regular, between⟩
  · omega
  · omega
  · have whole : q.stride ∣ n - r.first := by
      rcases regular with single | regular
      · rw [show n - r.first = 0 by omega]
        exact Nat.dvd_zero _
      · exact Nat.dvd_trans regular steps
    by_cases below : r.move r.first ≤ q.first
    · rw [Nat.sub_eq_zero_of_le below] at between
      exact between (Nat.zero_mod _)
    · rw [show r.move n - q.first = (r.move r.first - q.first) + (n - r.first) by omega] at strides
      exact between (Nat.mod_eq_zero_of_dvd ((Nat.dvd_add_left whole).mp strides))

/-! ## One character -/

/-- A character that lower case leaves alone. -/
structure IsSmall (c : Char) : Prop where
  unmoved : ∀ r ∈ lowercaseRuns.toList, r.holds c.toNat = false
  plain : c ≠ '\u0130'

/-- A character that is no blank, no mark and no capital of seven bits. -/
def Unreserved (c : Char) : Prop := ∀ q ∈ reserved, q.holds c.toNat = false

variable {c d : Char}

namespace IsSmall

theorem simpleLower_eq (small : IsSmall c) : simpleLower c = c := by
  have unheld : lowercaseRuns.find? (·.holds c.toNat) = none := by
    rw [← Array.find?_toList, List.find?_eq_none]
    intro r member held
    rw [small.unmoved r member] at held
    cases held
  unfold simpleLower
  rw [unheld]

theorem ne_sigma (small : IsSmall c) : c ≠ '\u03a3' := by
  rintro rfl
  have held : lowercaseRuns.toList.any (·.holds 0x3A3) = true := by decide +kernel
  obtain ⟨r, member, held⟩ := List.any_eq_true.mp held
  exact absurd held (by simpa using small.unmoved r member)

end IsSmall

theorem isSmall_dot : IsSmall '.' := by
  have unheld : (lowercaseRuns.toList.all fun r => !r.holds 0x2E) = true := by decide +kernel
  exact ⟨fun r member => by simpa using List.all_eq_true.mp unheld r member, by decide⟩

namespace Unreserved

theorem ne (free : Unreserved c) (mark : reserved.any (·.holds d.toNat) = true) : c ≠ d := by
  rintro rfl
  obtain ⟨q, member, held⟩ := List.any_eq_true.mp mark
  exact absurd held (by simp [free q member])

theorem not_blank (free : Unreserved c) : Text.isBlank c = false := by
  simp only [Unreserved, reserved, List.forall_mem_cons, List.not_mem_nil, CaseRun.holds,
    Nat.mod_one] at free
  simp [Text.isBlank] at free ⊢
  omega

end Unreserved

/-- A letter comes to where no run is and nothing is reserved. -/
theorem free_of_move (member : r ∈ lowercaseRuns.toList) (held : r.holds n = true) :
    r.move n < 0x110000 ∧ (∀ q ∈ lowercaseRuns.toList, q.holds (r.move n) = false) ∧
      ∀ q ∈ reserved, q.holds (r.move n) = false := by
  have apart := List.all_eq_true.mp runs_move_apart r member
  simp only [Bool.and_eq_true, Nat.blt_eq, List.all_eq_true, List.forall_mem_append] at apart
  obtain ⟨⟨above, below⟩, runs, marks⟩ := apart
  obtain ⟨-, most, -⟩ := CaseRun.holds_iff.mp held
  refine ⟨?_, fun q member => CaseRun.not_holds_move above (runs q member) held,
    fun q member => CaseRun.not_holds_move above (marks q member) held⟩
  unfold CaseRun.move at below ⊢
  omega

theorem toNat_ofNat (valid : n.isValidChar) : (Char.ofNat n).toNat = n := by
  unfold Char.ofNat
  rw [dif_pos valid]
  rfl

/-- A character is held by no run and stays, or becomes a small letter that is no mark. -/
theorem simpleLower_cases (c : Char) :
    (simpleLower c = c ∧ ∀ r ∈ lowercaseRuns.toList, r.holds c.toNat = false) ∨
      IsSmall (simpleLower c) ∧ Unreserved (simpleLower c) := by
  unfold simpleLower
  split
  · rename_i r found
    right
    have among := Array.mem_toList_iff.mpr (Array.mem_of_find?_eq_some found)
    have held := Array.find?_some found
    obtain ⟨below, unheld, free⟩ := free_of_move among held
    have valid : (r.move c.toNat).isValidChar := by
      have apart := free
      simp [reserved, CaseRun.holds, Nat.mod_one] at apart
      unfold Nat.isValidChar
      omega
    have value : (Char.ofNat (r.move c.toNat)).toNat = r.move c.toNat := toNat_ofNat valid
    rw [← value] at unheld free
    have unreserved : Unreserved (Char.ofNat (r.move c.toNat)) := free
    exact ⟨⟨unheld, unreserved.ne (by decide)⟩, unreserved⟩
  · rename_i missing
    rw [← Array.find?_toList, List.find?_eq_none] at missing
    exact Or.inl ⟨rfl, fun r member => by simpa using missing r member⟩

/-- The small letters of seven bits. -/
theorem simpleLower_eq_toLower (small : c.toNat < 0x80) : simpleLower c = c.toLower := by
  have table : lowercaseRuns.toList = ⟨0x41, 0x5A, 1, 32⟩ :: lowercaseRuns.toList.tail := rfl
  have later : (lowercaseRuns.toList.tail.all fun r => Nat.blt 0x7F r.first) = true := by
    decide +kernel
  have letters : ∀ n < 128, (Char.ofNat n).toLower =
      if 0x41 ≤ n ∧ n ≤ 0x5A then Char.ofNat (n + 32) else Char.ofNat n := by decide
  have unheld : ∀ r ∈ lowercaseRuns.toList.tail, ¬ r.holds c.toNat = true := by
    intro r member held
    have behind := List.all_eq_true.mp later r member
    rw [Nat.blt_eq] at behind
    have least := (CaseRun.holds_iff.mp held).1
    omega
  have first : CaseRun.holds ⟨0x41, 0x5A, 1, 32⟩ c.toNat =
      decide (0x41 ≤ c.toNat ∧ c.toNat ≤ 0x5A) := by simp [CaseRun.holds, Nat.mod_one]
  have letter := letters c.toNat small
  rw [Char.ofNat_toNat] at letter
  unfold simpleLower
  rw [← Array.find?_toList, table, List.find?_cons, List.find?_eq_none.mpr unheld, first, letter]
  by_cases capital : 0x41 ≤ c.toNat ∧ c.toNat ≤ 0x5A
  · rw [if_pos capital, decide_eq_true capital]
    rfl
  · rw [if_neg capital, decide_eq_false capital]

end Unicode

namespace Text

open Unicode

/-! ## Letters of seven bits -/

/-- A character in small letters is itself, or it was a capital. -/
theorem toLower_cases (c : Char) : c.toLower = c ∨ ∃ n < 26, c = Char.ofNat (65 + n) := by
  unfold Char.toLower
  split
  · rename_i capital
    have least : 65 ≤ c.toNat := capital.1
    have most : c.toNat ≤ 90 := capital.2
    refine Or.inr ⟨c.toNat - 65, by omega, ?_⟩
    rw [show 65 + (c.toNat - 65) = c.toNat by omega, Char.ofNat_toNat]
  · exact Or.inl rfl

/-- A character in capital letters is itself, or it was a small letter. -/
theorem toUpper_cases (c : Char) : c.toUpper = c ∨ ∃ n < 26, c = Char.ofNat (97 + n) := by
  unfold Char.toUpper
  split
  · rename_i small
    have least : 97 ≤ c.toNat := small.1
    have most : c.toNat ≤ 122 := small.2
    refine Or.inr ⟨c.toNat - 97, by omega, ?_⟩
    rw [show 97 + (c.toNat - 97) = c.toNat by omega, Char.ofNat_toNat]
  · exact Or.inl rfl

variable {c : Char} {cs before : List Char} {s t : String}

/-! ## Texts -/

/-- The small letters of a character other than a capital sigma. -/
def smallLetters (c : Char) : List Char :=
  if c == '\u0130' then ['i', '\u0307'] else [simpleLower c]

/-- What a character may become. -/
inductive Becomes : Char → List Char → Prop
  | letters (c : Char) : Becomes c (smallLetters c)
  | last : Becomes '\u03a3' ['\u03c2']
  | inner : Becomes '\u03a3' ['\u03c3']

theorem lowerChars_cons (before : List Char) (c : Char) (rest : List Char) :
    ∃ small, Becomes c small ∧
      lowerChars before (c :: rest) = small ++ lowerChars (c :: before) rest := by
  rw [lowerChars]
  refine ⟨_, ?_, rfl⟩
  have letters := Becomes.letters c
  unfold smallLetters at letters
  split
  · rename_i dotted
    rwa [if_pos dotted] at letters
  · rename_i undotted
    rw [if_neg undotted] at letters
    split
    · rename_i sigma
      rw [beq_iff_eq.mp sigma]
      split
      · exact .last
      · exact .inner
    · exact letters

/-- The letters that are written out in the rules are small. -/
theorem small_of_written :
    ∀ d ∈ ['i', '\u0307', '\u03c2', '\u03c3'], IsSmall d ∧ Unreserved d := by
  have unheld : (['i', '\u0307', '\u03c2', '\u03c3'].all fun d =>
      (lowercaseRuns.toList ++ reserved).all fun q => !q.holds d.toNat) = true := by decide +kernel
  intro d member
  have free := List.all_eq_true.mp unheld d member
  simp only [List.all_eq_true, Bool.not_eq_true', List.forall_mem_append] at free
  have unreserved : Unreserved d := free.2
  exact ⟨⟨free.1, unreserved.ne (by decide)⟩, unreserved⟩

namespace Becomes

variable {small : List Char}

theorem ne_nil (becomes : Becomes c small) : small ≠ [] := by
  cases becomes with
  | letters =>
      unfold smallLetters
      split <;> simp
  | last => simp
  | inner => simp

/-- A character becomes small letters, and no mark that it was not. -/
theorem isSmall (becomes : Becomes c small) : ∀ d ∈ small, IsSmall d ∧ (d = c ∨ Unreserved d) := by
  have written {few : List Char} (among : ∀ d ∈ few, d ∈ ['i', '\u0307', '\u03c2', '\u03c3']) :
      ∀ d ∈ few, IsSmall d ∧ (d = c ∨ Unreserved d) :=
    fun d member => (small_of_written d (among d member)).imp_right Or.inr
  cases becomes with
  | letters =>
      unfold smallLetters
      split
      · exact written (by simp)
      · rename_i plain
        intro d member
        rw [List.mem_singleton.mp member]
        rcases simpleLower_cases c with ⟨same, unheld⟩ | ⟨small, unreserved⟩
        · rw [same]
          exact ⟨⟨unheld, by simpa using plain⟩, Or.inl rfl⟩
        · exact ⟨small, Or.inr unreserved⟩
  | last => exact written (by simp)
  | inner => exact written (by simp)

end Becomes

theorem of_mem_lowerChars (member : c ∈ lowerChars before cs) :
    IsSmall c ∧ (c ∈ cs ∨ Unreserved c) := by
  induction cs generalizing before with
  | nil => cases member
  | cons d rest ih =>
      obtain ⟨small, becomes, step⟩ := lowerChars_cons before d rest
      rw [step] at member
      rcases List.mem_append.mp member with first | later
      · refine (becomes.isSmall c first).imp_right (Or.imp_left ?_)
        rintro rfl
        exact List.mem_cons_self
      · exact (ih later).imp_right (Or.imp_left (List.mem_cons_of_mem d))

/-- Without a capital sigma, every character is put in lower case by itself. -/
theorem lowerChars_eq_flatMap (free : '\u03a3' ∉ cs) :
    lowerChars before cs = cs.flatMap smallLetters := by
  induction cs generalizing before with
  | nil => rfl
  | cons c rest ih =>
      obtain ⟨small, becomes, step⟩ := lowerChars_cons before c rest
      cases becomes with
      | letters => rw [step, ih fun later => free (List.mem_cons_of_mem c later), List.flatMap_cons]
      | last => exact absurd List.mem_cons_self free
      | inner => exact absurd List.mem_cons_self free

theorem flatMap_smallLetters (small : ∀ c ∈ cs, IsSmall c) : cs.flatMap smallLetters = cs := by
  have same : ∀ c ∈ cs, smallLetters c = [c] := by
    intro c member
    rw [smallLetters, if_neg (by simpa using (small c member).plain), (small c member).simpleLower_eq]
  rw [List.flatMap_congr same, List.flatMap_singleton']

/-- Text of seven bits is no special case. -/
theorem lower_eq (s : String) : lower s = String.ofList (lowerChars [] s.toList) := by
  unfold lower
  split
  · rename_i seven
    have below : ∀ c ∈ s.toList, c.toNat < 0x80 := by simpa using seven
    have free : '\u03a3' ∉ s.toList := fun member => absurd (below _ member) (by decide)
    have each : ∀ c ∈ s.toList, smallLetters c = [c.toLower] := by
      intro c member
      have plain : c ≠ '\u0130' := by
        rintro rfl
        exact absurd (below _ member) (by decide)
      rw [smallLetters, if_neg (by simpa using plain), simpleLower_eq_toLower (below c member)]
    rw [lowerChars_eq_flatMap free, List.flatMap_congr each, List.map_eq_flatMap]
  · rfl

/-- A text in lower case holds small letters, and no mark that was not there before. -/
theorem of_mem_lower (member : c ∈ (lower s).toList) : IsSmall c ∧ (c ∈ s.toList ∨ Unreserved c) := by
  rw [lower_eq, String.toList_ofList] at member
  exact of_mem_lowerChars member

theorem lower_eq_self (small : ∀ c ∈ s.toList, IsSmall c) : lower s = s := by
  have free : '\u03a3' ∉ s.toList := fun member => (small _ member).ne_sigma rfl
  rw [lower_eq, lowerChars_eq_flatMap free, flatMap_smallLetters small, String.ofList_toList]

theorem lower_lower (s : String) : lower (lower s) = lower s :=
  lower_eq_self fun _ member => (of_mem_lower member).1

theorem lower_append (free : '\u03a3' ∉ s.toList ++ t.toList) : lower (s ++ t) = lower s ++ lower t := by
  have left : '\u03a3' ∉ s.toList := fun member => free (List.mem_append_left _ member)
  have right : '\u03a3' ∉ t.toList := fun member => free (List.mem_append_right _ member)
  rw [lower_eq, lower_eq, lower_eq, String.toList_append, lowerChars_eq_flatMap free,
    lowerChars_eq_flatMap left, lowerChars_eq_flatMap right, List.flatMap_append, String.ofList_append]

theorem lower_eq_empty_iff : lower s = "" ↔ s = "" := by
  constructor
  · intro empty
    rw [lower_eq, ← String.toList_inj, String.toList_ofList] at empty
    cases text : s.toList with
    | nil => exact String.toList_inj.mp text
    | cons c rest =>
        obtain ⟨small, becomes, step⟩ := lowerChars_cons [] c rest
        rw [text, step] at empty
        exact absurd (List.append_eq_nil_iff.mp empty).1 becomes.ne_nil
  · rintro rfl
    rfl

end Text

end CrawlMesh
