/-
# The bounds of a pool

What puts and gets make of a new pool keeps its shape and stays open (`Ready.after`), and that is all that
its numbers depend on.

* The counts are small: the product of the capacities is below the largest count (`product_lt`), and
  with it the ceiling and the total.
* A get that goes round looks at buffers that are there (`lt_of_mem_turn`) and finds an item at the first of
  them unless the total is zero (`Ready.firstFilled`).
* A put that is below the ceiling brings its item into the first buffer with room or into a new one, neither
  of which refuses it (`Ready.putFirst`).

So a get gives nothing only from an empty pool and a put is refused only by a full one, and the number of
buffers, what each of them holds, the total and the cursor are in their bounds (`new_keeps_bounds`).
-/
import CrawlMesh.Proofs.Pool.Turns
import Mathlib.Algebra.GroupWithZero.Nat

namespace CrawlMesh

set_option autoImplicit false

variable {α : Type}

namespace Pool

variable {p : Pool α}

/-! ## Puts and gets -/

/-- A put or a get keeps a pool ready. -/
theorem Ready.step (ready : p.Ready) {op : Operation α} (stays : op ≠ .close) :
    (p.step op).2.Ready := by
  refine ⟨(step_bag ready.shape op).2, ?_⟩
  cases op with
  | put x => exact (step_put_spec p x).2.2.trans ready.is_open
  | get =>
      simp only [Pool.step]
      split
      · rename_i taken
        exact (kept_tryGet taken).2.trans ready.is_open
      · exact ready.is_open
      · exact ready.is_open
  | close => exact absurd rfl stays

/-- Puts and gets keep a pool ready. -/
theorem Ready.after (ready : p.Ready) {ops : List (Operation α)} (noClose : .close ∉ ops) :
    (p.after ops).Ready := by
  induction ops generalizing p with
  | nil => exact ready
  | cons op rest ih =>
      rw [List.mem_cons, not_or] at noClose
      exact ih (ready.step (Ne.symm noClose.1)) noClose.2

/-! ## Counts -/

theorem Shape.total_eq_sum (shape : p.Shape) :
    p.total = (p.buffers.map (·.items.length)).sum := by
  rw [shape.total_eq, items, contents, List.length_flatMap]

/-- Two capacities of 32 bits have a product that a count of 64 bits holds, with room for one more. -/
theorem product_lt (bufferCap maxBuffers : UInt32) :
    bufferCap.toNat * maxBuffers.toNat < largestCount := by
  have capLe := Nat.le_pred_of_lt bufferCap.toNat_lt
  have maxLe := Nat.le_pred_of_lt maxBuffers.toNat_lt
  exact Nat.lt_of_le_of_lt (Nat.mul_le_mul capLe maxLe) (by decide)

/-- An empty pool has a single buffer. -/
theorem Ready.single_of_empty (ready : p.Ready) (empty : p.total = 0) : p.buffers.length = 1 := by
  obtain ⟨shape, isOpen⟩ := ready
  have some_buffer := List.length_pos_of_ne_nil shape.some_buffer
  rcases Nat.lt_or_ge 1 p.buffers.length with many | few
  · obtain ⟨b, rest, split⟩ := List.exists_cons_of_ne_nil shape.some_buffer
    have held := shape.filled isOpen many b (by simp [split])
    have total := shape.total_eq_sum
    rw [empty, split, List.map_cons, List.sum_cons] at total
    have none_held : b.items.length = 0 := by omega
    exact absurd (List.eq_nil_of_length_eq_zero none_held) held
  · omega

/-! ## Getting -/

/-- Places in turn are places of buffers. -/
theorem lt_of_mem_turn {start count place : Nat} (member : place ∈ turn start count) :
    place < count := by
  obtain ⟨offset, within, rfl⟩ := List.mem_map.mp member
  exact Nat.mod_lt _ (Nat.zero_lt_of_lt (List.mem_range.mp within))

/-- In a pool that holds an item the buffers in turn give one. -/
theorem Ready.firstFilled (ready : p.Ready) (some_item : p.total ≠ 0) :
    firstFilled p.buffers (turn (p.cursor % p.buffers.length) p.buffers.length) ≠ none := by
  obtain ⟨x, q, taken⟩ := tryGet_some ready.shape ready.is_open some_item
  intro missing
  simp only [Pool.tryGet, ready.is_open, Bool.false_eq_true, if_false, beq_iff_eq, some_item,
    missing] at taken
  cases taken

theorem Ready.tryGet_none (ready : p.Ready) : p.tryGet = .ok none ↔ p.total = 0 := by
  constructor
  · intro nothing
    by_contra some_item
    obtain ⟨x, q, taken⟩ := tryGet_some ready.shape ready.is_open some_item
    cases nothing.symm.trans taken
  · exact tryGet_of_empty ready.is_open

/-! ## Putting -/

/-- The first buffer with room takes an item, and a new one does. -/
theorem Ready.putFirst (ready : p.Ready) (x : α) : putFirst p.bufferCap x p.buffers ≠ none := by
  rcases putFirst_spec ready.shape.cap_pos x p.buffers with ⟨_, _, _, _, _, _, put⟩ | ⟨_, put⟩
  · simp [put]
  · simp [put]

theorem Ready.tryPut_error (ready : p.Ready) (x : α) (e : PutRefusal α) :
    p.tryPut x = .error e ↔ e = .full x ∧ p.total = p.bufferCap * p.maxBuffers := by
  obtain ⟨shape, isOpen⟩ := ready
  rcases Nat.lt_or_eq_of_le shape.total_le with lt | full
  · obtain ⟨buffers, -, put⟩ := tryPut_of_room shape isOpen lt x
    rw [put]
    simp [Nat.ne_of_lt lt]
  · rw [tryPut_of_full shape isOpen full]
    simp [full, eq_comm]

/-! ## New pools -/

/-- **A new pool keeps its bounds.** After any puts and gets

* there are buffers, not more than there may be, and none holds more than its capacity;
* the total is the sum of their lengths, and of several buffers none is empty, so that an empty pool has a
  single one;
* the cursor is at a buffer or behind the last, every place that a get looks at is one of a buffer, and the
  sums from which it gets these places do not overflow;
* the ceiling is the product of the capacities, and a count holds it and one more;
* one of the buffers that a get looks at gives an item unless the total is zero, and the buffer that is
  chosen for an item, or opened for it, does not refuse it. So a get that gives nothing and a put that is
  refused tell that the pool is empty and that it is full. -/
theorem new_keeps_bounds {bufferCap maxBuffers : UInt32} (capPos : 1 ≤ bufferCap)
    (maxPos : 1 ≤ maxBuffers) :
    ∃ p : Pool α, new bufferCap maxBuffers = .ok p ∧ ∀ ops : List (Operation α), .close ∉ ops →
      let q := p.after ops
      (1 ≤ q.buffers.length ∧ q.buffers.length ≤ maxBuffers.toNat) ∧
      (∀ b ∈ q.buffers, b.cap = bufferCap.toNat ∧ b.items.length ≤ bufferCap.toNat) ∧
      q.total = (q.buffers.map (·.items.length)).sum ∧
      (1 < q.buffers.length → ∀ b ∈ q.buffers, b.items ≠ []) ∧
      (q.total = 0 → q.buffers.length = 1) ∧
      q.cursor ≤ q.buffers.length ∧
      (∀ place ∈ turn (q.cursor % q.buffers.length) q.buffers.length, place < q.buffers.length) ∧
      q.cursor + q.buffers.length < largestCount ∧
      q.ceiling = bufferCap.toNat * maxBuffers.toNat ∧ q.ceiling < largestCount ∧
      (q.total ≠ 0 →
        firstFilled q.buffers (turn (q.cursor % q.buffers.length) q.buffers.length) ≠ none) ∧
      (∀ x, putFirst q.bufferCap x q.buffers ≠ none) ∧
      (q.tryGet = .ok none ↔ q.total = 0) ∧
      ∀ x e, q.tryPut x = .error e ↔ e = .full x ∧ q.total = q.ceiling := by
  have capNe : bufferCap ≠ 0 := by rintro rfl; exact absurd capPos (by decide)
  have maxNe : maxBuffers ≠ 0 := by rintro rfl; exact absurd maxPos (by decide)
  refine ⟨⟨bufferCap.toNat, maxBuffers.toNat, [.new bufferCap.toNat], 0, 0, false⟩, ?_, ?_⟩
  · simp [new, capNe, maxNe]
  intro ops noClose q
  have shape := Shape.new (α := α) capPos maxPos
  obtain ⟨-, cap, number⟩ : _ ∧ q.bufferCap = bufferCap.toNat ∧ q.maxBuffers = maxBuffers.toNat :=
    after_spec shape ops
  have ready : q.Ready := Ready.after ⟨shape, rfl⟩ noClose
  have shape := ready.shape
  have ceiling : q.ceiling = bufferCap.toNat * maxBuffers.toNat := by
    rw [shape.ceiling_eq, cap, number]
  have few : q.buffers.length ≤ maxBuffers.toNat := number ▸ shape.few_buffers
  refine ⟨⟨List.length_pos_of_ne_nil shape.some_buffer, few⟩, fun b member => ?_, shape.total_eq_sum,
    shape.filled ready.is_open, ready.single_of_empty, shape.cursor_le, fun _ => lt_of_mem_turn, ?_,
    ceiling, ceiling ▸ product_lt bufferCap maxBuffers, ready.firstFilled, ready.putFirst,
    ready.tryGet_none, fun x e => ?_⟩
  · rw [← cap]
    exact ⟨shape.same_cap b member, shape.fits b member⟩
  · have cursor := shape.cursor_le
    have maxLt := maxBuffers.toNat_lt
    have large : largestCount = 2 ^ 64 - 1 := rfl
    omega
  · rw [shape.ceiling_eq]
    exact ready.tryPut_error x e

theorem new_keeps_bounds_two_by_three :
    (1 : UInt32) ≤ 2 ∧ (1 : UInt32) ≤ 3 ∧ ∃ p : Pool Nat, new 2 3 = .ok p ∧
      (p.after [.put 1, .put 2, .put 3, .get]).buffers.length = 2 ∧
      (p.after [.put 1, .put 2, .put 3, .get]).total = 2 ∧
      (p.after [.put 1, .put 2, .put 3, .get]).tryGet ≠ .ok none ∧
      ∀ e, (p.after [.put 1, .put 2, .put 3, .get]).tryPut 4 ≠ .error e := by
  obtain ⟨p, made, bounds⟩ := @new_keeps_bounds Nat 2 3 (by decide) (by decide)
  have start : p = ⟨2, 3, [.new 2], 0, 0, false⟩ := (Except.ok.inj made).symm
  obtain ⟨-, -, -, -, -, -, -, -, ceiling, -, -, -, gets, puts⟩ :=
    bounds [.put 1, .put 2, .put 3, .get] (by simp)
  have total : (p.after [.put 1, .put 2, .put 3, .get]).total = 2 := by rw [start]; rfl
  refine ⟨by decide, by decide, p, made, by rw [start]; rfl, total, fun nothing => ?_,
    fun e refused => ?_⟩
  · cases total.symm.trans (gets.mp nothing)
  · have full := ((puts 4 e).mp refused).2
    rw [ceiling, total] at full
    cases full

end Pool

end CrawlMesh
