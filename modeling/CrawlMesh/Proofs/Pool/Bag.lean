/-
# Pools as bounded bags

What a pool answers to a sequence of puts, gets and closings is what a bounded bag answers: a bag
of items with a capacity, from which a get may take any item (`Bag.Step`).  A pool of one buffer
answers as a bounded queue does, whose gets take the oldest item (`Queue.step`).

The pool stands for the bag of its items (`Pool.bag`).  One operation on a pool is one on its bag
(`step_bag`), and keeps the shape of the pool; a run of operations is then explained by the bag
(`explains_answers`).  With a single buffer the pool stands for a queue in the same way
(`step_queue`, `answers_eq_queue`).
-/
import CrawlMesh.Proofs.Pool.Shape
import Mathlib.Data.Multiset.AddSub

namespace CrawlMesh

set_option autoImplicit false

open scoped List

variable {α : Type}

/-! ## Operations and their answers -/

namespace Pool

/-- What is done to a pool without waiting. -/
inductive Operation (α : Type)
  | put (item : α)
  | get
  | close

/-- What an operation answers. A refusal hands the item back. -/
inductive Answer (α : Type)
  | put (outcome : Except (PutRefusal α) Unit)
  | got (outcome : Outcome (Option α))
  | closed (wasOpen : Bool)

/-- One operation on a pool. -/
def step (p : Pool α) : Operation α → Answer α × Pool α
  | .put x =>
    match p.tryPut x with
    | .ok q => (.put (.ok ()), q)
    | .error e => (.put (.error e), p)
  | .get =>
    match p.tryGet with
    | .ok (some (x, q)) => (.got (.ok (some x)), q)
    | .ok none => (.got (.ok none), p)
    | .error e => (.got (.error e), p)
  | .close => (.closed p.close.1, p.close.2)

/-- The answers to operations one after the other, each with the total after it. -/
def answers (p : Pool α) : List (Operation α) → List (Answer α × Nat)
  | [] => []
  | op :: rest => ((p.step op).1, (p.step op).2.total) :: (p.step op).2.answers rest

end Pool

open Pool

/-! ## Bags -/

/-- A bounded bag that can be closed. -/
structure Bag (α : Type) where
  capacity : Nat
  items : Multiset α
  closed : Bool

namespace Bag

def empty (capacity : Nat) : Bag α := ⟨capacity, 0, false⟩

/-- What a bag may answer to an operation, and what it is afterwards. Only which item a get takes
is left open. -/
def Step (b : Bag α) : Operation α → Answer α → Bag α → Prop
  | .put x, answer, after =>
    if b.closed then answer = .put (.error (.closed x)) ∧ after = b
    else if b.items.card = b.capacity then answer = .put (.error (.full x)) ∧ after = b
    else answer = .put (.ok ()) ∧ after = { b with items := x ::ₘ b.items }
  | .get, answer, after =>
    if b.closed then answer = .got (.error getClosed) ∧ after = b
    else if b.items.card = 0 then answer = .got (.ok none) ∧ after = b
    else ∃ x rest, b.items = x ::ₘ rest ∧ answer = .got (.ok (some x)) ∧
      after = { b with items := rest }
  | .close, answer, after =>
    answer = .closed (!b.closed) ∧ after = { b with items := 0, closed := true }

/-- Are these, one after the other, answers that a bag may give and sizes that it has then? -/
def Explains (b : Bag α) : List (Operation α) → List (Answer α × Nat) → Prop
  | [], [] => True
  | op :: ops, (answer, size) :: rest =>
    ∃ after, b.Step op answer after ∧ size = after.items.card ∧ after.Explains ops rest
  | _, _ => False

end Bag

/-! ## Queues -/

/-- A bounded queue that can be closed, oldest item first. -/
structure Queue (α : Type) where
  capacity : Nat
  items : List α
  closed : Bool

namespace Queue

def empty (capacity : Nat) : Queue α := ⟨capacity, [], false⟩

/-- One operation on a queue. -/
def step (q : Queue α) : Operation α → Answer α × Queue α
  | .put x =>
    if q.closed then (.put (.error (.closed x)), q)
    else if q.items.length = q.capacity then (.put (.error (.full x)), q)
    else (.put (.ok ()), { q with items := q.items ++ [x] })
  | .get =>
    if q.closed then (.got (.error getClosed), q)
    else
      match q.items with
      | [] => (.got (.ok none), q)
      | x :: rest => (.got (.ok (some x)), { q with items := rest })
  | .close => (.closed (!q.closed), { q with items := [], closed := true })

/-- The answers to operations one after the other, each with the length after it. -/
def answers (q : Queue α) : List (Operation α) → List (Answer α × Nat)
  | [] => []
  | op :: rest => ((q.step op).1, (q.step op).2.items.length) :: (q.step op).2.answers rest

end Queue

/-! ## The bag of a pool -/

namespace Pool

/-- The bag that a pool stands for. -/
def bag (p : Pool α) : Bag α := ⟨p.bufferCap * p.maxBuffers, p.items, p.closed⟩

theorem Shape.card_bag {p : Pool α} (shape : p.Shape) : p.bag.items.card = p.total := by
  rw [shape.total_eq]
  exact Multiset.coe_card p.items

theorem step_put_bag {p : Pool α} (shape : p.Shape) (x : α) :
    p.bag.Step (.put x) (p.step (.put x)).1 (p.step (.put x)).2.bag ∧
      (p.step (.put x)).2.Shape := by
  have card := shape.card_bag
  cases closed : p.closed with
  | true =>
      have bagClosed : p.bag.closed = true := closed
      simp only [step, tryPut_of_closed closed, Bag.Step, bagClosed, if_true, and_self, true_and]
      exact shape
  | false =>
      have bagOpen : p.bag.closed = false := closed
      by_cases full : p.total = p.bufferCap * p.maxBuffers
      · have bagFull : p.bag.items.card = p.bag.capacity := card.trans full
        simp only [step, tryPut_of_full shape closed full, Bag.Step, bagOpen, bagFull,
          Bool.false_eq_true, if_false, if_true, and_self, true_and]
        exact shape
      · have lt : p.total < p.bufferCap * p.maxBuffers := Nat.lt_of_le_of_ne shape.total_le full
        have bagRoom : ¬ p.bag.items.card = p.bag.capacity :=
          fun same => full (card.symm.trans same)
        obtain ⟨buffers, put, result⟩ := tryPut_of_room shape closed lt x
        have added : (contents buffers : Multiset α) = x ::ₘ (p.items : Multiset α) :=
          Multiset.coe_eq_coe.mpr (putFirst_perm shape.cap_pos put)
        simp only [step, result, Bag.Step, bagOpen, bagRoom, Bool.false_eq_true, if_false, true_and]
        refine ⟨?_, shape.put closed lt put⟩
        simp only [bag, ← added, closed]
        rfl

theorem step_get_bag {p : Pool α} (shape : p.Shape) :
    p.bag.Step .get (p.step .get).1 (p.step .get).2.bag ∧ (p.step .get).2.Shape := by
  have card := shape.card_bag
  cases closed : p.closed with
  | true =>
      have bagClosed : p.bag.closed = true := closed
      simp only [step, tryGet_of_closed closed, Bag.Step, bagClosed, if_true, and_self, true_and]
      exact shape
  | false =>
      have bagOpen : p.bag.closed = false := closed
      by_cases empty : p.total = 0
      · have bagEmpty : p.bag.items.card = 0 := card.trans empty
        simp only [step, tryGet_of_empty closed empty, Bag.Step, bagOpen, bagEmpty,
          Bool.false_eq_true, if_false, if_true, and_self, true_and]
        exact shape
      · have bagFilled : ¬ p.bag.items.card = 0 := fun same => empty (card.symm.trans same)
        obtain ⟨x, q, taken⟩ := tryGet_some shape closed empty
        obtain ⟨nextShape, perm, stillOpen, capEq, maxEq⟩ := shape.take closed empty taken
        have removed : (p.items : Multiset α) = x ::ₘ (q.items : Multiset α) :=
          Multiset.coe_eq_coe.mpr perm
        simp only [step, taken, Bag.Step, bagOpen, bagFilled, Bool.false_eq_true, if_false]
        refine ⟨⟨x, q.items, removed, rfl, ?_⟩, nextShape⟩
        simp only [bag, capEq, maxEq, stillOpen]

/-- **One operation on a pool is one on its bag**, and keeps the shape. -/
theorem step_bag {p : Pool α} (shape : p.Shape) (op : Operation α) :
    p.bag.Step op (p.step op).1 (p.step op).2.bag ∧ (p.step op).2.Shape := by
  cases op with
  | put x => exact step_put_bag shape x
  | get => exact step_get_bag shape
  | close =>
      obtain ⟨wasOpen, closed, capEq, maxEq⟩ := close_spec p
      refine ⟨⟨congrArg Answer.closed wasOpen, ?_⟩, shape.close⟩
      simp only [step, bag, shape.items_close, closed, capEq, maxEq]
      rfl

/-- What a pool of good shape answers, its bag explains. -/
theorem explains_answers {p : Pool α} (shape : p.Shape) (ops : List (Operation α)) :
    p.bag.Explains ops (p.answers ops) := by
  induction ops generalizing p with
  | nil => trivial
  | cons op rest ih =>
      obtain ⟨bagStep, nextShape⟩ := step_bag shape op
      exact ⟨_, bagStep, nextShape.card_bag.symm, ih nextShape⟩

/-! ## The queue of a pool with one buffer -/

/-- The queue that a pool with one buffer stands for. -/
def queue (p : Pool α) : Queue α := ⟨p.bufferCap, p.items, p.closed⟩

theorem Shape.single {p : Pool α} (shape : p.Shape) (one : p.maxBuffers = 1) :
    ∃ b, p.buffers = [b] ∧ b.cap = p.bufferCap ∧ p.items = b.items := by
  have few := shape.few_buffers
  rw [one] at few
  obtain ⟨b, rest, split⟩ := List.exists_cons_of_ne_nil shape.some_buffer
  rw [split, List.length_cons] at few
  have noRest : rest = [] := List.eq_nil_of_length_eq_zero (by omega)
  subst noRest
  exact ⟨b, split, shape.same_cap b (by simp [split]), by simp [items, split]⟩

theorem step_put_queue {p : Pool α} (shape : p.Shape) (one : p.maxBuffers = 1) (x : α) :
    p.queue.step (.put x) = ((p.step (.put x)).1, (p.step (.put x)).2.queue) := by
  obtain ⟨b, buffers, bCap, itemsEq⟩ := shape.single one
  have product : p.bufferCap * p.maxBuffers = p.bufferCap := by rw [one, Nat.mul_one]
  have total := shape.total_eq
  cases closed : p.closed with
  | true => simp [step, tryPut_of_closed closed, Queue.step, queue, closed]
  | false =>
      by_cases full : p.total = p.bufferCap * p.maxBuffers
      · have queueFull : p.items.length = p.bufferCap := by rw [← total, full, product]
        simp [step, tryPut_of_full shape closed full, Queue.step, queue, closed, queueFull]
      · have lt : p.total < p.bufferCap * p.maxBuffers := Nat.lt_of_le_of_ne shape.total_le full
        have queueRoom : p.items.length ≠ p.bufferCap := by rw [← total, ← product]; exact full
        have room : b.isFull = false := by
          rw [product, total, itemsEq, ← bCap] at lt
          exact decide_eq_false (Nat.not_le.mpr lt)
        obtain ⟨after, put, result⟩ := tryPut_of_room shape closed lt x
        rw [buffers, putFirst, room] at put
        simp only [Bool.false_eq_true, if_false, Buffer.put?_of_room room, Option.map_some,
          Option.some.injEq] at put
        have added : contents after = p.items ++ [x] := by simp [← put, itemsEq]
        simp only [step, result, Queue.step, queue, closed, queueRoom, Bool.false_eq_true, if_false,
          ← added]
        rfl

theorem step_get_queue {p : Pool α} (shape : p.Shape) (one : p.maxBuffers = 1) :
    p.queue.step .get = ((p.step .get).1, (p.step .get).2.queue) := by
  have total := shape.total_eq
  cases closed : p.closed with
  | true => simp [step, tryGet_of_closed closed, Queue.step, queue, closed]
  | false =>
      by_cases empty : p.total = 0
      · have noItems : p.items = [] := List.eq_nil_of_length_eq_zero (total.symm.trans empty)
        simp [step, tryGet_of_empty closed empty, Queue.step, queue, closed, noItems]
      · obtain ⟨before, b, after, x, rest, split, bItems, cases⟩ := tryGet_spec shape closed empty
        obtain ⟨b', single, -, -⟩ := shape.single one
        have lengths := congrArg List.length (split.symm.trans single)
        simp only [List.length_append, List.length_cons, List.length_nil] at lengths
        have noneBefore : before = [] := List.eq_nil_of_length_eq_zero (by omega)
        have noneAfter : after = [] := List.eq_nil_of_length_eq_zero (by omega)
        subst noneBefore noneAfter
        have oldItems : p.items = x :: rest := by simp [items, split, bItems]
        rcases cases with ⟨-, many, -⟩ | ⟨-, get⟩
        · simp [single] at many
        · simp [step, get, Queue.step, queue, closed, oldItems]
          simp [items]

/-- **One operation on a pool with one buffer is one on its queue.** -/
theorem step_queue {p : Pool α} (shape : p.Shape) (one : p.maxBuffers = 1) (op : Operation α) :
    p.queue.step op = ((p.step op).1, (p.step op).2.queue) := by
  cases op with
  | put x => exact step_put_queue shape one x
  | get => exact step_get_queue shape one
  | close =>
      obtain ⟨wasOpen, closed, capEq, -⟩ := close_spec p
      simp [step, Queue.step, queue, wasOpen, closed, capEq, shape.items_close]

theorem maxBuffers_step (p : Pool α) (op : Operation α) :
    (p.step op).2.maxBuffers = p.maxBuffers := by
  cases op with
  | put x =>
      simp only [step]
      split
      · exact (kept_tryPut ‹_›).1
      · rfl
  | get =>
      simp only [step]
      split
      · exact (kept_tryGet ‹_›).1
      · rfl
      · rfl
  | close => exact (close_spec p).2.2.2

/-- A pool of good shape with one buffer answers as its queue does. -/
theorem answers_eq_queue {p : Pool α} (shape : p.Shape) (one : p.maxBuffers = 1)
    (ops : List (Operation α)) : p.answers ops = p.queue.answers ops := by
  induction ops generalizing p with
  | nil => rfl
  | cons op rest ih =>
      obtain ⟨-, nextShape⟩ := step_bag shape op
      have total : (p.step op).2.total = (p.step op).2.queue.items.length := nextShape.total_eq
      rw [answers, Queue.answers, step_queue shape one, total,
        ih nextShape ((maxBuffers_step p op).trans one)]

/-! ## New pools -/

/-- **A new pool is an empty bounded bag.** Whatever is put, got and closed, the answers are those
that a bag of the product of the capacities may give, and the totals are its sizes. With a
single buffer the answers are those of a bounded queue. -/
theorem new_refines_bag {bufferCap maxBuffers : UInt32} (capPos : 1 ≤ bufferCap)
    (maxPos : 1 ≤ maxBuffers) :
    ∃ p : Pool α, new bufferCap maxBuffers = .ok p ∧ p.total = 0 ∧
      ∀ ops : List (Operation α),
        (Bag.empty (bufferCap.toNat * maxBuffers.toNat)).Explains ops (p.answers ops) ∧
          (maxBuffers = 1 → p.answers ops = (Queue.empty bufferCap.toNat).answers ops) := by
  have shape : Shape (α := α) _ := Shape.new capPos maxPos
  have capNe : bufferCap ≠ 0 := by rintro rfl; exact absurd capPos (by decide)
  have maxNe : maxBuffers ≠ 0 := by rintro rfl; exact absurd maxPos (by decide)
  refine ⟨⟨bufferCap.toNat, maxBuffers.toNat, [.new bufferCap.toNat], 0, 0, false⟩, ?_, rfl, ?_⟩
  · simp [new, capNe, maxNe]
  · intro ops
    refine ⟨explains_answers shape ops, ?_⟩
    rintro rfl
    exact answers_eq_queue shape rfl ops

theorem new_refines_bag_two_by_three :
    (1 : UInt32) ≤ 2 ∧ (1 : UInt32) ≤ 3 ∧
      ∃ p : Pool Nat, new 2 3 = .ok p ∧ p.total = 0 ∧
        ∀ ops : List (Operation Nat),
          (Bag.empty ((2 : UInt32).toNat * (3 : UInt32).toNat)).Explains ops (p.answers ops) ∧
            ((3 : UInt32) = 1 → p.answers ops = (Queue.empty (2 : UInt32).toNat).answers ops) :=
  ⟨by decide, by decide, new_refines_bag (by decide) (by decide)⟩

-- With a second buffer the oldest item need not be taken first.
example :
    (new 2 2).map (fun p => p.answers [.put 1, .put 2, .put 3, .get, .get, .get]) =
      .ok [(.put (.ok ()), 1), (.put (.ok ()), 2), (.put (.ok ()), 3), (.got (.ok (some 1)), 2),
        (.got (.ok (some 3)), 1), (.got (.ok (some 2)), 0)] := rfl

end Pool

end CrawlMesh
