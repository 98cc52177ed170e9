/-
# The shape of a pool

What holds of the buffers of a pool at all times (`Shape`), and what its operations do to the
items in them, read buffer by buffer (`items`).

* A put that finds room adds its item at the end of one buffer, the first that is not full, or
  of a new one behind the others (`putFirst_spec`).
* A get finds an item at once as long as any buffer holds one, since the buffer whose turn it is
  is not empty then (`Shape.next_filled`); it takes the first item of that buffer, and the buffer
  goes with its last item unless it is the only one (`tryGet_in_turn`, `tryGet_spec`).

The shape bounds the product of the capacities, so that the ceiling is that product
(`Shape.ceiling_eq`) and a pool below it has a place for one more item
(`Shape.room_of_total_lt`).
-/
import CrawlMesh.Pool
import Mathlib.Data.List.Basic

namespace CrawlMesh

set_option autoImplicit false

open List (Perm)
open scoped List

variable {α : Type}

/-! ## Buffers -/

namespace Buffer

theorem put?_of_room {b : Buffer α} (room : b.isFull = false) (x : α) :
    b.put? x = some { b with items := b.items ++ [x] } := by
  simp [put?, room]

theorem take?_eq_some {b c : Buffer α} {x : α} (taken : b.take? = some (x, c)) :
    b.items = x :: c.items ∧ c.cap = b.cap := by
  unfold take? at taken
  split at taken
  · cases taken
  · rename_i y rest items
    cases taken
    exact ⟨items, rfl⟩

end Buffer

namespace Pool

/-- The items of a list of buffers, buffer by buffer. -/
def contents (buffers : List (Buffer α)) : List α := buffers.flatMap (·.items)

/-- All items of a pool, buffer by buffer. -/
def items (p : Pool α) : List α := contents p.buffers

/-- What holds of a pool at all times. -/
structure Shape (p : Pool α) : Prop where
  cap_pos : 0 < p.bufferCap
  max_pos : 0 < p.maxBuffers
  product_le : p.bufferCap * p.maxBuffers ≤ largestCount
  some_buffer : p.buffers ≠ []
  few_buffers : p.buffers.length ≤ p.maxBuffers
  same_cap : ∀ b ∈ p.buffers, b.cap = p.bufferCap
  fits : ∀ b ∈ p.buffers, b.items.length ≤ p.bufferCap
  filled : p.closed = false → 1 < p.buffers.length → ∀ b ∈ p.buffers, b.items ≠ []
  emptied : p.closed = true → p.items = []
  total_eq : p.total = p.items.length
  cursor_le : p.cursor ≤ p.buffers.length

@[simp] theorem contents_nil : contents ([] : List (Buffer α)) = [] := rfl

@[simp] theorem contents_cons (b : Buffer α) (rest : List (Buffer α)) :
    contents (b :: rest) = b.items ++ contents rest := rfl

@[simp] theorem contents_append (bs cs : List (Buffer α)) :
    contents (bs ++ cs) = contents bs ++ contents cs := by
  simp [contents]

/-- Buffers that are all full hold their capacity times their number. -/
theorem contents_length_of_full {cap : Nat} {buffers : List (Buffer α)}
    (sameCap : ∀ b ∈ buffers, b.cap = cap) (fits : ∀ b ∈ buffers, b.items.length ≤ cap)
    (full : ∀ b ∈ buffers, b.isFull = true) :
    (contents buffers).length = buffers.length * cap := by
  induction buffers with
  | nil => simp
  | cons b rest ih =>
      have bCap := sameCap b (by simp)
      have bFits := fits b (by simp)
      have bFull : b.cap ≤ b.items.length := by simpa [Buffer.isFull] using full b (by simp)
      have restLength := ih (fun c hc => sameCap c (by simp [hc]))
        (fun c hc => fits c (by simp [hc])) (fun c hc => full c (by simp [hc]))
      simp only [contents_cons, List.length_append, restLength, List.length_cons, Nat.succ_mul]
      omega

/-! ## Putting -/

/-- Where an item goes: to the end of the first buffer with room, or into a new last one. -/
theorem putFirst_spec {cap : Nat} (positive : 0 < cap) (x : α) (buffers : List (Buffer α)) :
    (∃ before b after, buffers = before ++ b :: after ∧ (∀ c ∈ before, c.isFull = true) ∧
        b.isFull = false ∧
        putFirst cap x buffers = some (before ++ { b with items := b.items ++ [x] } :: after)) ∨
      ((∀ b ∈ buffers, b.isFull = true) ∧
        putFirst cap x buffers = some (buffers ++ [⟨cap, [x]⟩])) := by
  induction buffers with
  | nil =>
      have room : (Buffer.new cap : Buffer α).isFull = false :=
        decide_eq_false (Nat.not_le.mpr positive)
      refine Or.inr ⟨by simp, ?_⟩
      rw [putFirst, Buffer.put?_of_room room]
      rfl
  | cons b rest ih =>
      cases full : b.isFull with
      | false =>
          refine Or.inl ⟨[], b, rest, rfl, by simp, full, ?_⟩
          simp [putFirst, full, Buffer.put?_of_room full]
      | true =>
          rcases ih with ⟨before, c, after, rfl, beforeFull, room, put⟩ | ⟨restFull, put⟩
          · refine Or.inl ⟨b :: before, c, after, rfl, ?_, room, ?_⟩
            · simpa [full] using beforeFull
            · simp [putFirst, full, put]
          · refine Or.inr ⟨?_, ?_⟩
            · simpa [full] using restFull
            · simp [putFirst, full, put]

/-! ## Taking -/

/-- The first in turn is the place where the turn begins. -/
theorem turn_eq_cons {start count : Nat} (lt : start < count) :
    ∃ rest, turn start count = start :: rest := by
  obtain ⟨n, rfl⟩ := Nat.exists_eq_succ_of_ne_zero (Nat.ne_of_gt (Nat.zero_lt_of_lt lt))
  rw [turn, List.range_succ_eq_map, List.map_cons, Nat.add_zero, Nat.mod_eq_of_lt lt]
  exact ⟨_, rfl⟩

theorem firstFilled_eq_some {buffers : List (Buffer α)} {places : List Nat} {i : Nat} {x : α}
    {c : Buffer α} (found : firstFilled buffers places = some (i, x, c)) :
    ∃ b, buffers[i]? = some b ∧ b.items = x :: c.items ∧ c.cap = b.cap := by
  induction places with
  | nil => simp [firstFilled] at found
  | cons place rest ih =>
      simp only [firstFilled] at found
      split at found
      · rename_i y d taken
        cases found
        unfold takeAt at taken
        obtain ⟨b, at_, taken⟩ := Option.bind_eq_some_iff.mp taken
        exact ⟨b, at_, Buffer.take?_eq_some taken⟩
      · exact ih found

/-- A place splits a list in what stands before it, what stands there and what stands behind. -/
theorem split_at {β : Type} {l : List β} {i : Nat} {b : β} (at_ : l[i]? = some b) :
    ∃ before after, l = before ++ b :: after ∧ before.length = i := by
  obtain ⟨lt, rfl⟩ := List.getElem?_eq_some_iff.mp at_
  refine ⟨l.take i, l.drop (i + 1), ?_, by simp; omega⟩
  rw [List.getElem_cons_drop, List.take_append_drop]

/-! ## The shape -/

namespace Shape

variable {p : Pool α}

theorem ceiling_eq (shape : p.Shape) : p.ceiling = p.bufferCap * p.maxBuffers :=
  Nat.min_eq_left shape.product_le

theorem new {bufferCap maxBuffers : UInt32} (capPos : 1 ≤ bufferCap) (maxPos : 1 ≤ maxBuffers) :
    Shape (⟨bufferCap.toNat, maxBuffers.toNat, [.new bufferCap.toNat], 0, 0, false⟩ : Pool α) := by
  have capPos : 1 ≤ bufferCap.toNat := UInt32.le_iff_toNat_le.mp capPos
  have maxPos : 1 ≤ maxBuffers.toNat := UInt32.le_iff_toNat_le.mp maxPos
  have capLt := bufferCap.toNat_lt
  have maxLt := maxBuffers.toNat_lt
  have product : bufferCap.toNat * maxBuffers.toNat ≤ (2 ^ 32 - 1) * (2 ^ 32 - 1) :=
    Nat.mul_le_mul (by omega) (by omega)
  refine ⟨capPos, maxPos, ?_, ?_, maxPos, ?_, ?_, ?_, fun _ => rfl, rfl, by simp⟩
  · exact Nat.le_trans product (by decide)
  · simp
  · simp [Buffer.new]
  · simp [Buffer.new]
  · simp

/-- A pool that holds less than it may is not full to the last buffer, or may have one more. -/
theorem room_of_total_lt (shape : p.Shape) (lt : p.total < p.bufferCap * p.maxBuffers)
    (full : ∀ b ∈ p.buffers, b.isFull = true) : p.buffers.length < p.maxBuffers := by
  have length := contents_length_of_full shape.same_cap shape.fits full
  rw [shape.total_eq, items, length, Nat.mul_comm] at lt
  exact Nat.lt_of_mul_lt_mul_left lt

theorem total_le (shape : p.Shape) : p.total ≤ p.bufferCap * p.maxBuffers := by
  have bound : ∀ bs : List (Buffer α), (∀ b ∈ bs, b.items.length ≤ p.bufferCap) →
      (contents bs).length ≤ p.bufferCap * bs.length := by
    intro bs fits
    induction bs with
    | nil => simp
    | cons b rest ih =>
        have bFits := fits b (by simp)
        have restFits := ih fun c hc => fits c (by simp [hc])
        simp only [contents_cons, List.length_append, List.length_cons, Nat.mul_succ]
        omega
  rw [shape.total_eq]
  exact Nat.le_trans (bound p.buffers shape.fits) (Nat.mul_le_mul_left _ shape.few_buffers)

end Shape

/-! ## What the operations do -/

theorem putFirst_perm {cap : Nat} (positive : 0 < cap) {x : α} {buffers after : List (Buffer α)}
    (put : putFirst cap x buffers = some after) : contents after ~ x :: contents buffers := by
  rcases putFirst_spec positive x buffers with ⟨before, b, rest, rfl, -, -, placed⟩ | ⟨-, placed⟩
  · cases placed.symm.trans put
    simp only [contents_append, contents_cons, List.append_assoc, List.singleton_append]
    rw [← List.append_assoc, ← List.append_assoc]
    exact List.perm_middle
  · cases placed.symm.trans put
    simp only [contents_append, contents_cons, contents_nil, List.append_nil]
    exact List.perm_append_singleton _ _

/-- A put into an open pool below its ceiling finds a buffer for its item. -/
theorem tryPut_of_room {p : Pool α} (shape : p.Shape) (isOpen : p.closed = false)
    (lt : p.total < p.bufferCap * p.maxBuffers) (x : α) :
    ∃ buffers, putFirst p.bufferCap x p.buffers = some buffers ∧
      p.tryPut x = .ok { p with buffers := buffers, total := p.total + 1 } := by
  have below : ¬ p.ceiling ≤ p.total := by rw [shape.ceiling_eq]; omega
  rcases putFirst_spec shape.cap_pos x p.buffers with ⟨_, _, _, _, _, _, put⟩ | ⟨_, put⟩
  · exact ⟨_, put, by simp only [tryPut, isOpen, below, put, Bool.false_eq_true, if_false]⟩
  · exact ⟨_, put, by simp only [tryPut, isOpen, below, put, Bool.false_eq_true, if_false]⟩

theorem tryPut_of_full {p : Pool α} (shape : p.Shape) (isOpen : p.closed = false)
    (full : p.total = p.bufferCap * p.maxBuffers) (x : α) : p.tryPut x = .error (.full x) := by
  have above : p.ceiling ≤ p.total := Nat.le_of_eq (shape.ceiling_eq.trans full.symm)
  simp only [tryPut, isOpen, above, Bool.false_eq_true, if_false, if_true]

theorem tryPut_of_closed {p : Pool α} (closed : p.closed = true) (x : α) :
    p.tryPut x = .error (.closed x) := by
  simp only [tryPut, closed, if_true]

/-- What replaces an element of a list brings only itself in. -/
theorem mem_replaced {β : Type} {before after : List β} {b c d : β}
    (member : d ∈ before ++ c :: after) : d = c ∨ d ∈ before ++ b :: after := by
  simp only [List.mem_append, List.mem_cons] at member ⊢
  tauto

/-- The shape of an open pool with other buffers, each of which is an old one or fits. -/
theorem Shape.of_buffers {p : Pool α} (shape : p.Shape) (isOpen : p.closed = false)
    {buffers : List (Buffer α)} {cursor : Nat} (some_buffer : buffers ≠ [])
    (few : buffers.length ≤ p.maxBuffers)
    (each : ∀ c ∈ buffers, c ∈ p.buffers ∨
      c.cap = p.bufferCap ∧ c.items.length ≤ p.bufferCap)
    (filled : 1 < buffers.length → ∀ c ∈ buffers, c.items ≠ [])
    {total : Nat} (totalEq : total = (contents buffers).length)
    (cursorLe : cursor ≤ buffers.length) :
    Shape { p with buffers := buffers, total := total, cursor := cursor } := by
  refine ⟨shape.cap_pos, shape.max_pos, shape.product_le, some_buffer, few, ?_, ?_,
    fun _ => filled, fun closed => absurd (isOpen.symm.trans closed) (by decide), totalEq, cursorLe⟩
  · intro c member
    rcases each c member with old | ⟨sameCap, -⟩
    · exact shape.same_cap c old
    · exact sameCap
  · intro c member
    rcases each c member with old | ⟨-, fits⟩
    · exact shape.fits c old
    · exact fits

/-- A put keeps the shape. -/
theorem Shape.put {p : Pool α} (shape : p.Shape) (isOpen : p.closed = false)
    (lt : p.total < p.bufferCap * p.maxBuffers) {x : α} {buffers : List (Buffer α)}
    (put : putFirst p.bufferCap x p.buffers = some buffers) :
    Shape { p with buffers := buffers, total := p.total + 1 } := by
  have total : p.total + 1 = (contents buffers).length := by
    rw [(putFirst_perm shape.cap_pos put).length_eq, shape.total_eq]
    rfl
  have cursor := shape.cursor_le
  rcases putFirst_spec shape.cap_pos x p.buffers with
    ⟨before, b, after, split, -, room, placed⟩ | ⟨full, placed⟩
  · cases placed.symm.trans put
    have bMember : b ∈ p.buffers := by simp [split]
    have sameLength : (before ++ { b with items := b.items ++ [x] } :: after).length =
        p.buffers.length := by simp [split]
    refine shape.of_buffers isOpen (by simp) (sameLength ▸ shape.few_buffers) ?_ ?_ total
      (sameLength ▸ cursor)
    · intro c member
      rcases mem_replaced (b := b) member with rfl | old
      · have bRoom : b.items.length < b.cap := by simpa [Buffer.isFull] using room
        rw [shape.same_cap b bMember] at bRoom
        exact Or.inr ⟨shape.same_cap b bMember, by simpa using Nat.succ_le_of_lt bRoom⟩
      · exact Or.inl (split ▸ old)
    · intro many c member
      rcases mem_replaced (b := b) member with rfl | old
      · simp
      · exact shape.filled isOpen (sameLength ▸ many) c (split ▸ old)
  · cases placed.symm.trans put
    have more := shape.room_of_total_lt lt full
    refine shape.of_buffers isOpen (by simp) (by simpa using Nat.succ_le_of_lt more) ?_ ?_ total
      (by simp; omega)
    · intro c member
      rcases List.mem_append.mp member with old | new
      · exact Or.inl old
      · rw [List.mem_singleton.mp new]
        exact Or.inr ⟨rfl, shape.cap_pos⟩
    · intro _ c member
      rcases List.mem_append.mp member with old | new
      · -- all were full, and a full buffer is not empty
        have cFull : c.cap ≤ c.items.length := by simpa [Buffer.isFull] using full c old
        have positive := shape.cap_pos
        rw [shape.same_cap c old] at cFull
        intro empty
        rw [empty, List.length_nil] at cFull
        omega
      · rw [List.mem_singleton.mp new]
        simp

/-- The buffer whose turn it is holds an item if any does, for no buffer is empty but a single one. -/
theorem Shape.next_filled {p : Pool α} (shape : p.Shape) (isOpen : p.closed = false)
    (some_item : p.total ≠ 0) :
    ∃ b x rest, p.buffers[p.cursor % p.buffers.length]? = some b ∧ b.items = x :: rest := by
  have lt : p.cursor % p.buffers.length < p.buffers.length :=
    Nat.mod_lt _ (List.length_pos_of_ne_nil shape.some_buffer)
  suffices filled : p.buffers[p.cursor % p.buffers.length].items ≠ [] by
    obtain ⟨x, rest, bItems⟩ := List.exists_cons_of_ne_nil filled
    exact ⟨_, x, rest, List.getElem?_eq_getElem lt, bItems⟩
  by_cases many : 1 < p.buffers.length
  · exact shape.filled isOpen many _ (List.getElem_mem lt)
  · obtain ⟨b, single⟩ := List.length_eq_one_iff.mp (show p.buffers.length = 1 by omega)
    have total := shape.total_eq
    simp only [items, single, contents_cons, contents_nil, List.append_nil] at total
    simp only [single, List.getElem_singleton]
    intro empty
    exact some_item (by rw [total, empty, List.length_nil])

/-- **A get serves the buffer whose turn it is**: it takes the first item, and the buffer goes with
its last one, unless it is the only one. -/
theorem tryGet_in_turn {p : Pool α} (shape : p.Shape) (isOpen : p.closed = false)
    (some_item : p.total ≠ 0) {place : Nat} (turn : p.cursor % p.buffers.length = place) :
    ∃ b x rest, p.buffers[place]? = some b ∧ b.items = x :: rest ∧
      ((rest = [] ∧ 1 < p.buffers.length ∧
          p.tryGet = .ok (some (x, { p with
            buffers := p.buffers.eraseIdx place, total := p.total - 1, cursor := place }))) ∨
        ((1 < p.buffers.length → rest ≠ []) ∧
          p.tryGet = .ok (some (x, { p with
            buffers := p.buffers.set place { b with items := rest }, total := p.total - 1,
            cursor := place + 1 })))) := by
  subst turn
  obtain ⟨b, x, rest, at_, bItems⟩ := shape.next_filled isOpen some_item
  obtain ⟨later, turns⟩ := turn_eq_cons (List.getElem?_eq_some_iff.mp at_).1
  have found : firstFilled p.buffers (Pool.turn (p.cursor % p.buffers.length) p.buffers.length) =
      some (p.cursor % p.buffers.length, x, { b with items := rest }) := by
    simp only [turns, firstFilled, takeAt, at_, Option.bind_some, Buffer.take?, bItems]
  refine ⟨b, x, rest, at_, bItems, ?_⟩
  simp only [tryGet, isOpen, found, Bool.false_eq_true, if_false, beq_iff_eq, some_item,
    Bool.and_eq_true, decide_eq_true_eq, Buffer.isEmpty, List.isEmpty_iff, gt_iff_lt]
  by_cases drained : rest = [] ∧ 1 < p.buffers.length
  · exact Or.inl ⟨drained.1, drained.2, by rw [if_pos drained]⟩
  · exact Or.inr ⟨fun many empty => drained ⟨empty, many⟩, by rw [if_neg drained]⟩

/-- A get from an open pool that holds an item takes the first one of some buffer. The buffer goes
with its last item, unless it is the only one. -/
theorem tryGet_spec {p : Pool α} (shape : p.Shape) (isOpen : p.closed = false)
    (some_item : p.total ≠ 0) :
    ∃ before b after x rest, p.buffers = before ++ b :: after ∧ b.items = x :: rest ∧
      ((rest = [] ∧ 1 < p.buffers.length ∧
          p.tryGet = .ok (some (x, { p with
            buffers := before ++ after, total := p.total - 1, cursor := before.length }))) ∨
        ((1 < p.buffers.length → rest ≠ []) ∧
          p.tryGet = .ok (some (x, { p with
            buffers := before ++ { b with items := rest } :: after, total := p.total - 1,
            cursor := before.length + 1 })))) := by
  obtain ⟨b, x, rest, at_, bItems, taken⟩ := tryGet_in_turn shape isOpen some_item rfl
  obtain ⟨before, after, split, place⟩ := split_at at_
  refine ⟨before, b, after, x, rest, split, bItems, ?_⟩
  have erased : p.buffers.eraseIdx before.length = before ++ after := by
    rw [split, List.eraseIdx_append_of_length_le (Nat.le_refl _)]
    simp
  have replaced (c : Buffer α) : p.buffers.set before.length c = before ++ c :: after := by
    rw [split, List.set_append_right _ _ (Nat.le_refl _)]
    simp
  simpa only [← place, erased, replaced] using taken

theorem tryGet_some {p : Pool α} (shape : p.Shape) (isOpen : p.closed = false)
    (some_item : p.total ≠ 0) : ∃ x q, p.tryGet = .ok (some (x, q)) := by
  obtain ⟨_, _, _, x, _, _, _, ⟨_, _, get⟩ | ⟨_, get⟩⟩ := tryGet_spec shape isOpen some_item
  · exact ⟨x, _, get⟩
  · exact ⟨x, _, get⟩

theorem tryGet_of_empty {p : Pool α} (isOpen : p.closed = false) (empty : p.total = 0) :
    p.tryGet = .ok none := by
  simp only [tryGet, isOpen, empty, Bool.false_eq_true, if_false, beq_self_eq_true, if_true]

theorem tryGet_of_closed {p : Pool α} (closed : p.closed = true) :
    p.tryGet = .error getClosed := by
  simp only [tryGet, closed, if_true]

/-- A get keeps the shape, and takes out the item it gives and nothing else. -/
theorem Shape.take {p q : Pool α} (shape : p.Shape) (isOpen : p.closed = false)
    (some_item : p.total ≠ 0) {x : α} (taken : p.tryGet = .ok (some (x, q))) :
    q.Shape ∧ p.items ~ x :: q.items ∧ q.closed = false ∧ q.bufferCap = p.bufferCap ∧
      q.maxBuffers = p.maxBuffers := by
  obtain ⟨before, b, after, y, rest, split, bItems, cases⟩ := tryGet_spec shape isOpen some_item
  have perm : p.items ~ y :: (contents before ++ (rest ++ contents after)) := by
    rw [items, split, contents_append, contents_cons, bItems]
    exact List.perm_middle
  have total : p.total - 1 = (contents before ++ (rest ++ contents after)).length := by
    rw [shape.total_eq, perm.length_eq, List.length_cons, Nat.add_sub_cancel]
  have length : p.buffers.length = before.length + after.length + 1 := by
    simp [split, Nat.add_assoc]
  have few := shape.few_buffers
  have bMember : b ∈ p.buffers := by simp [split]
  rcases cases with ⟨rfl, many, get⟩ | ⟨kept, get⟩
  · cases get.symm.trans taken
    have old : ∀ c ∈ before ++ after, c ∈ p.buffers := by
      intro c member
      simp only [split, List.mem_append, List.mem_cons] at member ⊢
      tauto
    refine ⟨shape.of_buffers isOpen ?_ ?_ (fun c member => Or.inl (old c member)) ?_ ?_ ?_, ?_,
      isOpen, rfl, rfl⟩
    · intro none_left
      have lengths := congrArg List.length none_left
      simp only [List.length_append, List.length_nil] at lengths
      omega
    · simp only [List.length_append]
      omega
    · exact fun _ c member => shape.filled isOpen many c (old c member)
    · simpa using total
    · simp
    · simpa [items] using perm
  · cases get.symm.trans taken
    refine ⟨shape.of_buffers isOpen (by simp) ?_ ?_ ?_ ?_ (by simp), ?_, isOpen, rfl, rfl⟩
    · simp only [List.length_append, List.length_cons]
      omega
    · intro c member
      rcases mem_replaced (b := b) member with rfl | old
      · have bFits := shape.fits b bMember
        rw [bItems, List.length_cons] at bFits
        exact Or.inr ⟨shape.same_cap b bMember, Nat.le_of_succ_le bFits⟩
      · exact Or.inl (split ▸ old)
    · intro many c member
      have many : 1 < p.buffers.length := by
        simp only [List.length_append, List.length_cons] at many
        omega
      rcases mem_replaced (b := b) member with rfl | old
      · exact kept many
      · exact shape.filled isOpen many c (split ▸ old)
    · simpa using total
    · simpa [items] using perm

/-- A put changes neither the size of a pool nor whether it is closed. -/
theorem kept_tryPut {p q : Pool α} {x : α} (put : p.tryPut x = .ok q) :
    q.maxBuffers = p.maxBuffers ∧ q.closed = p.closed := by
  unfold tryPut at put
  split at put
  · cases put
  · split at put
    · cases put
    · split at put <;> cases put
      exact ⟨rfl, rfl⟩

theorem kept_tryGet {p q : Pool α} {x : α} (taken : p.tryGet = .ok (some (x, q))) :
    q.maxBuffers = p.maxBuffers ∧ q.closed = p.closed := by
  unfold tryGet at taken
  split at taken
  · cases taken
  · split at taken
    · cases taken
    · split at taken
      · cases taken
      · split at taken <;> cases taken <;> exact ⟨rfl, rfl⟩

/-! ## Closing -/

theorem close_spec (p : Pool α) : p.close.1 = !p.closed ∧ p.close.2.closed = true ∧
    p.close.2.bufferCap = p.bufferCap ∧ p.close.2.maxBuffers = p.maxBuffers := by
  cases closed : p.closed <;> simp [close, closed]

theorem Shape.items_close {p : Pool α} (shape : p.Shape) : p.close.2.items = [] := by
  cases closed : p.closed with
  | true => simpa [Pool.close, closed] using shape.emptied closed
  | false => simp [Pool.close, closed, items, contents]

theorem Shape.close {p : Pool α} (shape : p.Shape) : p.close.2.Shape := by
  have noItems := shape.items_close
  cases closed : p.closed with
  | true => simpa [Pool.close, closed] using shape
  | false =>
      have some_buffer := shape.some_buffer
      simp only [Pool.close, closed, Bool.false_eq_true, if_false] at noItems ⊢
      refine ⟨shape.cap_pos, shape.max_pos, shape.product_le, by simpa using some_buffer,
        by simpa using shape.few_buffers, ?_, ?_, by simp, fun _ => noItems, ?_,
        by simpa using shape.cursor_le⟩
      · simpa using shape.same_cap
      · simp
      · rw [noItems]
        rfl

end Pool

end CrawlMesh
