/-
# Tables in ascending order

Entries in ascending order of their keys, one for each key.  An entry is put at its place, in place of
one of the same key (`Keyed.insert`); the order is kept (`Keyed.Ascending.insert`), and what is found
under a name is the entry put last (`Keyed.find?_insert`).  An entry of a new key only adds to the
others (`Keyed.perm_insert`), so that the table of entries of different keys holds all of them
(`Keyed.perm_table`), and is the entries themselves if they are in order (`Keyed.Ascending.table`).
Of entries of one key a table holds the last (`Keyed.mem_table_iff`).
-/
import Mathlib.Data.List.Find
import Mathlib.Data.List.Induction
import Mathlib.Data.String.Basic

namespace CrawlMesh

set_option autoImplicit false

namespace Keyed

variable {α : Type} {key : α → String}

/-- Put an entry at its place among entries in ascending order of their keys, in place of one of the
same key. -/
def insert (key : α → String) (x : α) : List α → List α
  | [] => [x]
  | y :: rest =>
    if key x < key y then x :: y :: rest
    else if key x == key y then x :: rest
    else y :: insert key x rest

/-- Entries in ascending order of their keys, no two of one key. -/
def Ascending (key : α → String) (entries : List α) : Prop :=
  entries.Pairwise fun x y => key x < key y

theorem mem_insert {x y : α} {entries : List α} (member : y ∈ insert key x entries) :
    y = x ∨ y ∈ entries := by
  induction entries with
  | nil => exact Or.inl (List.mem_singleton.mp member)
  | cons z rest ih =>
      simp only [insert] at member
      split at member
      · exact List.mem_cons.mp member
      · split at member
        · exact (List.mem_cons.mp member).imp_right (List.mem_cons_of_mem z)
        · rcases List.mem_cons.mp member with same | member
          · exact Or.inr (same ▸ List.mem_cons_self)
          · exact (ih member).imp_right (List.mem_cons_of_mem z)

theorem mem_insert_self (x : α) (entries : List α) : x ∈ insert key x entries := by
  induction entries with
  | nil => exact List.mem_singleton_self x
  | cons y rest ih =>
      simp only [insert]
      split
      · exact List.mem_cons_self
      · split
        · exact List.mem_cons_self
        · exact List.mem_cons_of_mem y ih

/-- An entry gives way only to one of the same key. -/
theorem mem_insert_of_mem {y : α} (x : α) {entries : List α} (member : y ∈ entries) :
    y ∈ insert key x entries ∨ key y = key x := by
  induction entries with
  | nil => cases member
  | cons z rest ih =>
      simp only [insert]
      split
      · exact Or.inl (List.mem_cons_of_mem x member)
      · split
        · rename_i taken
          rcases List.mem_cons.mp member with rfl | later
          · exact Or.inr (beq_iff_eq.mp taken).symm
          · exact Or.inl (List.mem_cons_of_mem x later)
        · rcases List.mem_cons.mp member with rfl | later
          · exact Or.inl List.mem_cons_self
          · exact (ih later).imp_left (List.mem_cons_of_mem z)

theorem find?_insert (x : α) (entries : List α) (name : String) :
    (insert key x entries).find? (key · == name) =
      if key x = name then some x else entries.find? (key · == name) := by
  induction entries with
  | nil => by_cases same : key x = name <;> simp [insert, same]
  | cons y rest ih =>
      simp only [insert]
      split
      · by_cases same : key x = name <;> simp [same]
      · split
        · rename_i taken
          by_cases same : key x = name
          · simp [same]
          · have other : ¬ key y = name := fun named => same ((beq_iff_eq.mp taken).trans named)
            simp [same, other]
        · rename_i distinct
          by_cases named : key y = name
          · have other : ¬ key x = name := fun same => distinct (by simp [same, named])
            simp [named, other]
          · simp [named, ih]

theorem pairwise_insert {r : α → α → Prop} {x : α} {entries : List α} (pairwise : entries.Pairwise r)
    (before : ∀ y ∈ entries, r x y) (behind : ∀ y ∈ entries, r y x) :
    (insert key x entries).Pairwise r := by
  induction entries with
  | nil => exact List.pairwise_singleton r x
  | cons y rest ih =>
      obtain ⟨first, others⟩ := List.pairwise_cons.mp pairwise
      simp only [insert]
      split
      · exact List.pairwise_cons.mpr ⟨before, pairwise⟩
      · split
        · exact List.pairwise_cons.mpr ⟨fun z member => before z (List.mem_cons_of_mem y member), others⟩
        · refine List.pairwise_cons.mpr ⟨?_, ih others
            (fun z member => before z (List.mem_cons_of_mem y member))
            fun z member => behind z (List.mem_cons_of_mem y member)⟩
          intro z member
          rcases mem_insert member with rfl | member
          · exact behind y List.mem_cons_self
          · exact first z member

theorem Ascending.insert {x : α} {entries : List α} (ascending : Ascending key entries) :
    Ascending key (insert key x entries) := by
  induction entries with
  | nil => exact List.pairwise_singleton _ x
  | cons y rest ih =>
      obtain ⟨above, rest_⟩ := List.pairwise_cons.mp ascending
      simp only [Keyed.insert]
      split
      · rename_i below
        refine List.pairwise_cons.mpr ⟨?_, ascending⟩
        intro z member
        rcases List.mem_cons.mp member with rfl | member
        · exact below
        · exact lt_trans below (above z member)
      · split
        · rename_i taken
          refine List.pairwise_cons.mpr ⟨?_, rest_⟩
          rw [beq_iff_eq.mp taken]
          exact above
        · rename_i notBelow distinct
          refine List.pairwise_cons.mpr ⟨?_, ih rest_⟩
          intro z member
          rcases mem_insert member with rfl | member
          · exact lt_of_le_of_ne (not_lt.mp notBelow) fun same => distinct (by simp [same])
          · exact above z member

theorem mem_keys_iff {entries : List α} {name : String} :
    name ∈ entries.map key ↔ ∃ x, entries.find? (key · == name) = some x := by
  rw [← Option.isSome_iff_exists, List.find?_isSome, List.mem_map]
  simp

theorem Ascending.nodup {entries : List α} (ascending : Ascending key entries) :
    (entries.map key).Nodup :=
  List.pairwise_map.mpr (ascending.imp fun lt => ne_of_lt lt)

/-- Of entries with different keys, none has the key of one behind it. -/
theorem fresh_of_nodup {x : α} {done rest : List α}
    (distinct : ((done ++ x :: rest).map key).Nodup) : key x ∉ done.map key := by
  rw [List.map_append, List.map_cons, List.nodup_append] at distinct
  exact fun member => distinct.2.2 _ member _ List.mem_cons_self rfl

theorem find?_eq_of_nodup {x : α} {entries : List α} (distinct : (entries.map key).Nodup)
    (member : x ∈ entries) : entries.find? (key · == key x) = some x := by
  induction entries with
  | nil => cases member
  | cons y rest ih =>
      obtain ⟨fresh, distinct⟩ := List.nodup_cons.mp distinct
      rcases List.mem_cons.mp member with rfl | member
      · simp
      · have differ : ¬ key y = key x := fun same => fresh (same ▸ List.mem_map_of_mem member)
        rw [List.find?_cons_of_neg (by simpa using differ)]
        exact ih distinct member

theorem Ascending.find?_eq {x : α} {entries : List α} (ascending : Ascending key entries)
    (member : x ∈ entries) : entries.find? (key · == key x) = some x :=
  find?_eq_of_nodup ascending.nodup member

theorem find?_filter (gone : String) (entries : List α) (name : String) :
    (entries.filter (key · != gone)).find? (key · == name) =
      if gone = name then none else entries.find? (key · == name) := by
  rw [List.find?_filter]
  by_cases same : gone = name
  · simp [same]
  · rw [if_neg same]
    refine List.find?_congr fun x _ => ?_
    by_cases named : key x = name
    · simp [named, Ne.symm same]
    · simp [named]

/-- An entry that is put in takes the place of one of the same key. -/
theorem Ascending.mem_insert_iff {x y : α} {entries : List α} (ascending : Ascending key entries) :
    x ∈ Keyed.insert key y entries ↔ x = y ∨ (x ∈ entries ∧ key y ≠ key x) := by
  constructor
  · intro member
    have found := ascending.insert.find?_eq member
    rw [find?_insert] at found
    split at found
    · exact Or.inl (Option.some.inj found).symm
    · rename_i other
      exact Or.inr ⟨List.mem_of_find?_eq_some found, other⟩
  · intro either
    refine List.mem_of_find?_eq_some (p := (key · == key x)) ?_
    rw [find?_insert]
    rcases either with rfl | ⟨member, other⟩
    · rw [if_pos rfl]
    · rw [if_neg other, ascending.find?_eq member]

/-- An entry of a new key only adds to the others. -/
theorem perm_insert {x : α} {entries : List α} (fresh : key x ∉ entries.map key) :
    (insert key x entries).Perm (x :: entries) := by
  induction entries with
  | nil => exact List.Perm.refl _
  | cons y rest ih =>
      rw [List.map_cons, List.mem_cons, not_or] at fresh
      simp only [insert]
      split
      · exact List.Perm.refl _
      · split
        · rename_i taken
          exact absurd (beq_iff_eq.mp taken) fresh.1
        · exact ((ih fresh.2).cons y).trans (List.Perm.swap x y rest)

/-- An entry behind all others is put at the end. -/
theorem insert_of_lt {x : α} {entries : List α} (last : ∀ y ∈ entries, key y < key x) :
    insert key x entries = entries ++ [x] := by
  induction entries with
  | nil => rfl
  | cons y rest ih =>
      have above := last y List.mem_cons_self
      have distinct : (key x == key y) = false := beq_eq_false_iff_ne.mpr (ne_of_gt above)
      simp only [insert, if_neg (lt_asymm above), distinct, Bool.false_eq_true, if_false,
        List.cons_append]
      rw [ih fun z member => last z (List.mem_cons_of_mem y member)]

/-! ## Tables -/

/-- The table of some entries, of which the last one of a key counts. -/
def table (key : α → String) (entries : List α) : List α :=
  entries.foldl (fun done x => insert key x done) []

@[simp] theorem table_concat (entries : List α) (x : α) :
    table key (entries ++ [x]) = insert key x (table key entries) := by
  simp only [table, List.foldl_append, List.foldl_cons, List.foldl_nil]

theorem ascending_table (entries : List α) : Ascending key (table key entries) := by
  induction entries using List.reverseRecOn with
  | nil => exact List.Pairwise.nil
  | append_singleton entries x ih =>
      rw [table_concat]
      exact ih.insert

/-- A table holds the last entry of every key. -/
theorem mem_table_iff {x : α} {entries : List α} : x ∈ table key entries ↔
    ∃ earlier later, entries = earlier ++ x :: later ∧ ∀ y ∈ later, key y ≠ key x := by
  induction entries using List.reverseRecOn with
  | nil => simp [table]
  | append_singleton entries y ih =>
      rw [table_concat, (ascending_table entries).mem_insert_iff, ih]
      constructor
      · rintro (rfl | ⟨⟨earlier, later, rfl, others⟩, other⟩)
        · exact ⟨entries, [], rfl, by simp⟩
        · refine ⟨earlier, later ++ [y], by simp, ?_⟩
          intro z member
          rcases List.mem_append.mp member with inside | last
          · exact others z inside
          · rw [List.mem_singleton.mp last]
            exact other
      · rintro ⟨earlier, later, same, others⟩
        rcases List.eq_nil_or_concat later with rfl | ⟨init, z, rfl⟩
        · obtain ⟨-, last⟩ := List.append_inj' same rfl
          cases last
          exact Or.inl rfl
        · have parts : entries ++ [y] = (earlier ++ x :: init) ++ [z] := by simpa using same
          obtain ⟨rfl, last⟩ := List.append_inj' parts rfl
          cases last
          refine Or.inr ⟨⟨earlier, init, rfl, fun w member => others w (by simp [member])⟩, ?_⟩
          exact others y (by simp)

theorem perm_foldl_insert {entries : List α} (done : List α)
    (distinct : ((done ++ entries).map key).Nodup) :
    (entries.foldl (fun done x => insert key x done) done).Perm (done ++ entries) := by
  induction entries generalizing done with
  | nil => simp
  | cons x rest ih =>
      have moved : (done ++ x :: rest).Perm (x :: done ++ rest) := List.perm_middle
      have added : (insert key x done ++ rest).Perm (x :: done ++ rest) :=
        (perm_insert (fresh_of_nodup distinct)).append_right rest
      rw [List.foldl_cons]
      refine (ih (insert key x done) ?_).trans (added.trans moved.symm)
      rwa [((added.trans moved.symm).map key).nodup_iff]

/-- Entries of different keys are all in the table. -/
theorem perm_table {entries : List α} (distinct : (entries.map key).Nodup) :
    (table key entries).Perm entries :=
  perm_foldl_insert [] distinct

/-- What is in ascending order is its own table. -/
theorem Ascending.table {entries : List α} (ascending : Ascending key entries) :
    table key entries = entries := by
  have behind : ∀ done : List α, Ascending key (done ++ entries) →
      entries.foldl (fun done x => Keyed.insert key x done) done = done ++ entries := by
    clear ascending
    induction entries with
    | nil => simp
    | cons x rest ih =>
        intro done ascending
        have last : ∀ y ∈ done, key y < key x := fun y member =>
          (List.pairwise_append.mp ascending).2.2 y member x List.mem_cons_self
        rw [List.foldl_cons, insert_of_lt last, ih]
        · simp
        · simpa using ascending
  exact behind [] ascending

theorem insert_map {β : Type} (f : β → α) (x : β) (entries : List β) :
    insert key (f x) (entries.map f) = (insert (key ∘ f) x entries).map f := by
  induction entries with
  | nil => rfl
  | cons y rest ih =>
      simp only [insert, List.map_cons, Function.comp_apply]
      split
      · rfl
      · split
        · rfl
        · rw [List.map_cons, ih]

/-- What is made of entries without a change of their keys stands in the order of the entries. -/
theorem table_map {β : Type} (f : β → α) (entries : List β) :
    table key (entries.map f) = (table (key ∘ f) entries).map f := by
  have behind : ∀ done : List β,
      (entries.map f).foldl (fun done x => insert key x done) (done.map f) =
        (entries.foldl (fun done x => insert (key ∘ f) x done) done).map f := by
    induction entries with
    | nil => simp
    | cons x rest ih =>
        intro done
        rw [List.map_cons, List.foldl_cons, insert_map, ih, List.foldl_cons]
  exact behind []

end Keyed

end CrawlMesh
