/-
# Whose turn it is

Gets serve the buffers of a pool in turn.  As long as no buffer is opened an item therefore comes
within a number of gets that can be told in advance: a round for each item before it in its buffer,
and then those until its buffer's turn comes (`Pool.rank`).  Every get lowers the ranks of all
items (`Due.get`).

A buffer that a put opens stands behind the others, and a turn that has come to the end goes on
with it instead of beginning again.  So what an opened buffer holds may come before items that
were there long ago.  It delays each of them by no more gets than it has places (`Due.put`), but
the next buffer may be opened as soon as it is drained, and so on for ever
(`after_full`, `got_rounds`).

`fair_iff_single` draws up the balance: whatever is put meanwhile, all items of a pool are out
after as many gets as the pool and the opened buffers have places, and the opened buffers need not
be counted exactly if the pool can have a single one only.
-/
import CrawlMesh.Proofs.Pool.Bag
import CrawlMesh.Proofs.Pool.Inbox
import Mathlib.Data.List.Perm.Subperm
import Mathlib.Tactic.SplitIfs

namespace CrawlMesh

set_option autoImplicit false

open scoped List

variable {α β : Type}

namespace Pool

/-! ## What gets give -/

/-- The item that an answer gives. -/
def Answer.item? : Answer α → Option α
  | .got (.ok given) => given
  | _ => none

/-- The items that the gets among operations give, first one first. -/
def got (p : Pool α) (ops : List (Operation α)) : List α :=
  (p.answers ops).filterMap fun answered => answered.1.item?

/-- The pool after operations. -/
def after (p : Pool α) (ops : List (Operation α)) : Pool α := ops.foldl (fun q op => (q.step op).2) p

/-- How many buffers are opened during operations. -/
def opened (p : Pool α) : List (Operation α) → Nat
  | [] => 0
  | op :: rest =>
    (if p.buffers.length < (p.step op).2.buffers.length then 1 else 0) + (p.step op).2.opened rest

/-- If the gets among operations give so many items, then all that the pool held are among these. -/
def Clears (p : Pool α) (ops : List (Operation α)) (bound : Nat) : Prop :=
  bound ≤ (p.got ops).length → p.items <+~ (p.got ops).take bound

/-- No item waits for more gets than the pool has places, whatever is put meanwhile. -/
def Fair (p : Pool α) : Prop :=
  ∀ ops, .close ∉ ops → p.Clears ops (p.bufferCap * p.maxBuffers)

@[simp] theorem got_nil (p : Pool α) : p.got [] = [] := rfl

theorem got_cons (p : Pool α) (op : Operation α) (rest : List (Operation α)) :
    p.got (op :: rest) = (p.step op).1.item?.toList ++ (p.step op).2.got rest := by
  simp only [got, answers, List.filterMap_cons]
  cases (p.step op).1.item? <;> rfl

theorem after_cons (p : Pool α) (op : Operation α) (rest : List (Operation α)) :
    p.after (op :: rest) = (p.step op).2.after rest := rfl

theorem after_append (p : Pool α) (first second : List (Operation α)) :
    p.after (first ++ second) = (p.after first).after second := List.foldl_append

variable {p q : Pool α} {x : α}

/-! ## What one operation does -/

theorem bufferCap_tryPut (put : p.tryPut x = .ok q) : q.bufferCap = p.bufferCap := by
  unfold tryPut at put
  repeat' split at put
  all_goals cases put
  rfl

/-- A put gives no item, and closes nothing. -/
theorem step_put_spec (p : Pool α) (x : α) : (p.step (.put x)).1.item? = none ∧
    (p.step (.put x)).2.bufferCap = p.bufferCap ∧ (p.step (.put x)).2.closed = p.closed := by
  simp only [step]
  split
  · rename_i q put
    exact ⟨rfl, bufferCap_tryPut put, (kept_tryPut put).2⟩
  · exact ⟨rfl, rfl, rfl⟩

/-- A put into an open pool changes nothing, or brings its item into a buffer with room, or into
one that it opens. -/
theorem put_cases (shape : p.Shape) (isOpen : p.closed = false) (x : α) :
    (p.step (.put x)).2 = p ∨
      (∃ place b, p.buffers[place]? = some b ∧ (p.step (.put x)).2 = { p with
        buffers := p.buffers.set place { b with items := b.items ++ [x] },
        total := p.total + 1 }) ∨
      (p.step (.put x)).2 = { p with
        buffers := p.buffers ++ [⟨p.bufferCap, [x]⟩], total := p.total + 1 } := by
  by_cases full : p.total = p.bufferCap * p.maxBuffers
  · exact Or.inl (by simp only [step, tryPut_of_full shape isOpen full])
  · have lt : p.total < p.bufferCap * p.maxBuffers := Nat.lt_of_le_of_ne shape.total_le full
    obtain ⟨buffers, put, result⟩ := tryPut_of_room shape isOpen lt x
    simp only [step, result]
    rcases putFirst_spec shape.cap_pos x p.buffers with
      ⟨before, b, later, split, -, -, placed⟩ | ⟨-, placed⟩
    · cases placed.symm.trans put
      refine Or.inr (Or.inl ⟨before.length, b, by simp [split], ?_⟩)
      rw [split, List.set_append_right _ _ (Nat.le_refl _)]
      simp
    · cases placed.symm.trans put
      exact Or.inr (Or.inr rfl)

/-- A put into an open pool brings its item in or is refused. -/
theorem items_put (shape : p.Shape) (isOpen : p.closed = false) (x : α) :
    (p.step (.put x)).2.items = p.items ∨ (p.step (.put x)).2.items ~ x :: p.items := by
  by_cases full : p.total = p.bufferCap * p.maxBuffers
  · exact Or.inl (by simp only [step, tryPut_of_full shape isOpen full])
  · have lt : p.total < p.bufferCap * p.maxBuffers := Nat.lt_of_le_of_ne shape.total_le full
    obtain ⟨buffers, put, result⟩ := tryPut_of_room shape isOpen lt x
    simp only [step, result]
    exact Or.inr (putFirst_perm shape.cap_pos put)

/-! ## When an item comes -/

/-- How many gets come before the one from place `i`, of `n` places and with the cursor at `c`. -/
def turnsTo (n c i : Nat) : Nat := if c % n ≤ i then i - c % n else i + n - c % n

/-- How many gets bring item `k` of buffer `i`, if no buffer is opened and none goes. -/
def rank (p : Pool α) (i k : Nat) : Nat :=
  k * p.buffers.length + turnsTo p.buffers.length p.cursor i + 1

/-- The items that are told apart come within so many gets, as long as no buffer is opened. -/
def Due (p : Pool α) (old : α → Bool) (bound : Nat) : Prop :=
  ∀ i k b x, p.buffers[i]? = some b → b.items[k]? = some x → old x = true → p.rank i k ≤ bound

/-- A cursor behind the last place is one at the first. -/
theorem mod_of_le {c n : Nat} (le : c ≤ n) : c % n = if c = n then 0 else c := by
  split
  · rename_i same
    rw [same, Nat.mod_self]
  · exact Nat.mod_eq_of_lt (by omega)

theorem turnsTo_lt {n i : Nat} (c : Nat) (lt : i < n) : turnsTo n c i < n := by
  have : c % n < n := Nat.mod_lt _ (by omega)
  unfold turnsTo
  split_ifs <;> omega

/-- The place that was served has all others before it then, and these one less. -/
theorem turnsTo_served {n i : Nat} (c : Nat) (lt : i < n) :
    turnsTo n (c % n + 1) i + 1 = if i = c % n then n else turnsTo n c i := by
  have below : c % n < n := Nat.mod_lt _ (by omega)
  simp only [turnsTo, mod_of_le (c := c % n + 1) below]
  split_ifs <;> omega

/-- When the buffer that was served goes, those behind it move up. -/
theorem turnsTo_gone {n i : Nat} (c : Nat) (lt : i < n - 1) :
    turnsTo (n - 1) (c % n) i + 1 = turnsTo n c (if i < c % n then i else i + 1) := by
  have below : c % n < n := Nat.mod_lt _ (by omega)
  simp only [turnsTo, mod_of_le (c := c % n) (n := n - 1) (by omega)]
  split_ifs <;> omega

/-- A place more at the end delays the others by one turn at most. -/
theorem turnsTo_opened {n c i : Nat} (le : c ≤ n) (lt : i < n) :
    turnsTo (n + 1) c i ≤ turnsTo n c i + 1 := by
  simp only [turnsTo, mod_of_le le, Nat.mod_eq_of_lt (Nat.lt_succ_of_le le)]
  split_ifs <;> omega

variable {old : α → Bool} {bound : Nat}

/-- Nothing that a pool holds waits for more gets than it has places. -/
theorem Shape.due (shape : p.Shape) (old : α → Bool) :
    p.Due old (p.bufferCap * p.maxBuffers) := by
  intro i k b x at_ inside _
  obtain ⟨lt, -⟩ := List.getElem?_eq_some_iff.mp at_
  obtain ⟨within, -⟩ := List.getElem?_eq_some_iff.mp inside
  have fits := shape.fits b (List.mem_of_getElem? at_)
  have turns := turnsTo_lt p.cursor lt
  calc p.rank i k ≤ k * p.buffers.length + p.buffers.length := by
        unfold rank
        omega
    _ = (k + 1) * p.buffers.length := (Nat.succ_mul _ _).symm
    _ ≤ p.bufferCap * p.maxBuffers := Nat.mul_le_mul (by omega) shape.few_buffers

/-- A pool in which nothing is due any more holds none of the items that are told apart. -/
theorem Due.none_left (due : p.Due old 0) : p.items.filter old = [] := by
  rw [List.filter_eq_nil_iff]
  intro x member isOld
  obtain ⟨b, held, inside⟩ := List.mem_flatMap.mp member
  obtain ⟨i, at_⟩ := List.getElem?_of_mem held
  obtain ⟨k, place⟩ := List.getElem?_of_mem inside
  exact absurd (due i k b x at_ place isOld) (by simp [rank])

/-- A put that opens no buffer delays nothing. One that does delays every item by no more gets
than a buffer has places. -/
theorem Due.put (due : p.Due old bound) (shape : p.Shape) (isOpen : p.closed = false)
    (fresh : old x = false) :
    (p.step (.put x)).2.Due old (bound + p.bufferCap *
      if p.buffers.length < (p.step (.put x)).2.buffers.length then 1 else 0) := by
  rcases put_cases shape isOpen x with same | ⟨place, b, at_, same⟩ | same
  · simpa only [same, Nat.lt_irrefl, if_false, Nat.mul_zero, Nat.add_zero] using due
  · simp only [same, List.length_set, Nat.lt_irrefl, if_false, Nat.mul_zero, Nat.add_zero]
    intro i k c y at_' inside isOld
    simp only [rank, List.length_set]
    simp only [List.getElem?_set] at at_'
    split_ifs at at_' with here within
    · cases at_'
      subst here
      rcases Nat.lt_trichotomy k b.items.length with lt | rfl | gt
      · rw [List.getElem?_append_left lt] at inside
        exact due place k b y at_ inside isOld
      · simp only [List.getElem?_concat_length, Option.some.injEq] at inside
        rw [inside, isOld] at fresh
        cases fresh
      · rw [List.getElem?_eq_none (by simpa using Nat.succ_le_of_lt gt)] at inside
        cases inside
    · exact due i k c y at_' inside isOld
  · simp only [same, List.length_append, List.length_singleton, Nat.lt_succ_self, if_true,
      Nat.mul_one]
    intro i k c y at_ inside isOld
    simp only [rank, List.length_append, List.length_singleton]
    rcases Nat.lt_trichotomy i p.buffers.length with lt | rfl | gt
    · simp only [List.getElem?_append_left lt] at at_
      obtain ⟨within, -⟩ := List.getElem?_eq_some_iff.mp inside
      have fits := shape.fits c (List.mem_of_getElem? at_)
      have turns := turnsTo_opened shape.cursor_le lt
      have before := due i k c y at_ inside isOld
      rw [Nat.mul_succ]
      unfold rank at before
      omega
    · simp only [List.getElem?_concat_length, Option.some.injEq] at at_
      cases at_
      rw [List.getElem?_singleton] at inside
      split_ifs at inside
      cases inside
      rw [isOld] at fresh
      cases fresh
    · rw [List.getElem?_eq_none (by simpa using Nat.succ_le_of_lt gt)] at at_
      cases at_

/-- Every get brings all items nearer. -/
theorem Due.get (due : p.Due old (bound + 1)) (shape : p.Shape) (isOpen : p.closed = false)
    (some_item : p.total ≠ 0) (taken : p.tryGet = .ok (some (x, q))) : q.Due old bound := by
  obtain ⟨b, y, rest, at_, bItems, cases⟩ := tryGet_in_turn shape isOpen some_item rfl
  obtain ⟨lt, -⟩ := List.getElem?_eq_some_iff.mp at_
  rcases cases with ⟨rfl, many, get⟩ | ⟨-, get⟩
  · cases get.symm.trans taken
    intro i k c z at_' inside isOld
    have length : (p.buffers.eraseIdx (p.cursor % p.buffers.length)).length =
        p.buffers.length - 1 := List.length_eraseIdx_of_lt lt
    obtain ⟨within, -⟩ := List.getElem?_eq_some_iff.mp at_'
    have older : p.buffers[if i < p.cursor % p.buffers.length then i else i + 1]? = some c := by
      simp only [List.getElem?_eraseIdx] at at_'
      split_ifs at at_' ⊢ <;> exact at_'
    have before := due _ k c z older inside isOld
    simp only [length] at within
    have turns := turnsTo_gone p.cursor within
    have less : k * (p.buffers.length - 1) ≤ k * p.buffers.length :=
      Nat.mul_le_mul_left _ (Nat.sub_le _ _)
    simp only [rank, length] at before ⊢
    omega
  · cases get.symm.trans taken
    intro i k c z at_' inside isOld
    simp only [rank, List.length_set]
    simp only [List.getElem?_set] at at_'
    split_ifs at at_' with here
    · cases at_'
      subst here
      have older : b.items[k + 1]? = some z := by rw [bItems, List.getElem?_cons_succ]; exact inside
      have before := due _ (k + 1) b z at_ older isOld
      have turns := turnsTo_served p.cursor lt
      rw [if_pos rfl] at turns
      unfold rank at before
      rw [Nat.succ_mul] at before
      omega
    · obtain ⟨within, -⟩ := List.getElem?_eq_some_iff.mp at_'
      have before := due i k c z at_' inside isOld
      have turns := turnsTo_served p.cursor within
      rw [if_neg (Ne.symm here)] at turns
      unfold rank at before
      omega

/-! ## Runs -/

theorem tryGet_step (taken : p.tryGet = .ok (some (x, q))) :
    p.step .get = (.got (.ok (some x)), q) := by
  simp only [step, taken]

/-- A get opens no buffer. -/
theorem opened_get (shape : p.Shape) (isOpen : p.closed = false) (some_item : p.total ≠ 0)
    (taken : p.tryGet = .ok (some (x, q))) (rest : List (Operation α)) :
    p.opened (.get :: rest) = q.opened rest := by
  have fewer : ¬ p.buffers.length < q.buffers.length := by
    obtain ⟨b, y, left, -, -, ⟨-, -, get⟩ | ⟨-, get⟩⟩ := tryGet_in_turn shape isOpen some_item rfl
    · cases get.symm.trans taken
      exact Nat.not_lt.mpr (List.length_eraseIdx_le _ _)
    · cases get.symm.trans taken
      simp
  rw [opened, tryGet_step taken, if_neg fewer, Nat.zero_add]

/-- **What is due is got in time.** Items are told apart from all that is put later; those that a
pool holds are among the next ones that gets give, up to the number of gets they are due in and
as many for each opened buffer as a buffer has places. -/
theorem Due.got (due : p.Due old bound) (shape : p.Shape) (isOpen : p.closed = false)
    {ops : List (Operation α)} (noClose : .close ∉ ops)
    (fresh : ∀ x, .put x ∈ ops → old x = false)
    (enough : bound + p.bufferCap * p.opened ops ≤ (p.got ops).length) :
    p.items.filter old <+~ (p.got ops).take (bound + p.bufferCap * p.opened ops) := by
  induction ops generalizing p bound with
  | nil =>
      obtain rfl : bound = 0 := by
        simp only [got_nil, List.length_nil] at enough
        omega
      rw [due.none_left]
      exact List.nil_subperm
  | cons op rest ih =>
      have noClose' : .close ∉ rest := fun member => noClose (List.mem_cons_of_mem _ member)
      have fresh' : ∀ x, .put x ∈ rest → old x = false :=
        fun x member => fresh x (List.mem_cons_of_mem _ member)
      cases op with
      | close => exact absurd List.mem_cons_self noClose
      | put x =>
          obtain ⟨none_, cap, closed⟩ := step_put_spec p x
          have isNew : old x = false := fresh x List.mem_cons_self
          have later := ih (due.put shape isOpen isNew) (step_bag shape (.put x)).2
            (closed.trans isOpen) noClose' fresh'
          rw [got_cons, none_, Option.toList_none, List.nil_append] at enough ⊢
          rw [opened, Nat.mul_add, ← Nat.add_assoc] at enough ⊢
          rw [cap] at later
          refine List.Subperm.trans (List.Perm.subperm ?_) (later enough)
          rcases items_put shape isOpen x with same | added
          · rw [same]
          · simpa [isNew] using (added.filter old).symm
      | get =>
          by_cases empty : p.total = 0
          · have noItems : p.items = [] := List.eq_nil_of_length_eq_zero (shape.total_eq ▸ empty)
            rw [noItems]
            exact List.nil_subperm
          · obtain ⟨x, q, taken⟩ := tryGet_some shape isOpen empty
            obtain ⟨nextShape, perm, stillOpen, cap, -⟩ := shape.take isOpen empty taken
            have given : p.got (.get :: rest) = x :: q.got rest := by
              rw [got_cons, tryGet_step taken]
              rfl
            cases bound with
            | zero =>
                rw [due.none_left]
                exact List.nil_subperm
            | succ bound =>
                rw [opened_get shape isOpen empty taken, given, ← cap] at enough ⊢
                rw [Nat.add_right_comm, List.length_cons] at enough
                rw [Nat.add_right_comm, List.take_succ_cons]
                have later := ih (due.get shape isOpen empty taken) nextShape stillOpen noClose'
                  fresh' (Nat.le_of_succ_le_succ enough)
                refine List.Subperm.trans (perm.filter old).subperm ?_
                rw [List.filter_cons]
                split
                · exact (List.subperm_cons x).mpr later
                · exact later.cons_right x

/-! ## Telling items apart

What a pool does does not depend on its items, so that those which are in it may be marked, and
told apart from equal ones that are put later. -/

end Pool

/-- A buffer with other items in the places of its items. -/
def Buffer.map (f : α → β) (b : Buffer α) : Buffer β := ⟨b.cap, b.items.map f⟩

namespace Pool

/-- A pool with other items in the places of its items. -/
def map (f : α → β) (p : Pool α) : Pool β :=
  ⟨p.bufferCap, p.maxBuffers, p.buffers.map (Buffer.map f), p.total, p.cursor, p.closed⟩

/-- An operation on other items. -/
def Operation.map (f : α → β) : Operation α → Operation β
  | .put x => .put (f x)
  | .get => .get
  | .close => .close

variable (f : α → β)

theorem isFull_map (b : Buffer α) : (b.map f).isFull = b.isFull := by
  simp [Buffer.isFull, Buffer.map]

theorem put?_map (b : Buffer α) (x : α) : (b.map f).put? (f x) = (b.put? x).map (Buffer.map f) := by
  rw [Buffer.put?, Buffer.put?, isFull_map]
  split
  · rfl
  · simp [Buffer.map]

theorem putFirst_map (cap : Nat) (x : α) (buffers : List (Buffer α)) :
    putFirst cap (f x) (buffers.map (Buffer.map f)) =
      (putFirst cap x buffers).map (List.map (Buffer.map f)) := by
  induction buffers with
  | nil =>
      have put := put?_map f (Buffer.new cap) x
      simp only [List.map_nil, putFirst, Option.map_map]
      rw [show (Buffer.new cap : Buffer β) = (Buffer.new cap : Buffer α).map f from rfl, put,
        Option.map_map]
      rfl
  | cons b rest ih =>
      simp only [List.map_cons, putFirst, isFull_map, ih, put?_map]
      split <;> simp [Option.map_map, Function.comp_def]

theorem firstFilled_map (buffers : List (Buffer α)) (places : List Nat) :
    firstFilled (buffers.map (Buffer.map f)) places =
      (firstFilled buffers places).map fun found => (found.1, f found.2.1, found.2.2.map f) := by
  have takeAt_map (i : Nat) : takeAt (buffers.map (Buffer.map f)) i =
      (takeAt buffers i).map fun taken => (f taken.1, taken.2.map f) := by
    simp only [takeAt, List.getElem?_map]
    cases buffers[i]? with
    | none => rfl
    | some b => cases items : b.items <;> simp [Buffer.take?, Buffer.map, items]
  induction places with
  | nil => rfl
  | cons i rest ih =>
      simp only [firstFilled, takeAt_map]
      cases takeAt buffers i with
      | none => exact ih
      | some taken => rfl

theorem tryPut_map (p : Pool α) (x : α) :
    ((p.map f).tryPut (f x)).toOption = (p.tryPut x).toOption.map (Pool.map f) := by
  simp only [tryPut, ceiling, map, putFirst_map]
  cases p.closed with
  | true => rfl
  | false =>
      by_cases full : min (p.bufferCap * p.maxBuffers) largestCount ≤ p.total
      · simp [full, Except.toOption]
      · cases putFirst p.bufferCap x p.buffers <;> simp [full, Except.toOption, map]

theorem tryGet_map (p : Pool α) :
    (p.map f).tryGet = p.tryGet.map (Option.map (Prod.map f (Pool.map f))) := by
  simp only [tryGet, map, List.length_map, firstFilled_map]
  cases p.closed with
  | true => rfl
  | false =>
      cases p.total == 0 with
      | true => rfl
      | false =>
          cases firstFilled p.buffers (turn (p.cursor % p.buffers.length) p.buffers.length) with
          | none => rfl
          | some found =>
              obtain ⟨i, x, b⟩ := found
              have empty : (b.map f).isEmpty = b.isEmpty := by simp [Buffer.isEmpty, Buffer.map]
              cases drained : b.isEmpty && decide (p.buffers.length > 1) <;>
                simp [Except.map, map, empty, drained, List.map_set, List.eraseIdx_map]

/-- An operation gives the item in the place of the one that is given, and leaves the others. -/
theorem step_map (p : Pool α) (op : Operation α) :
    ((p.map f).step (op.map f)).1.item? = (p.step op).1.item?.map f ∧
      ((p.map f).step (op.map f)).2 = (p.step op).2.map f := by
  cases op with
  | put x =>
      have after_put {γ : Type} (p : Pool γ) (x : γ) :
          (p.step (.put x)).2 = (p.tryPut x).toOption.getD p := by
        simp only [step]
        cases p.tryPut x <;> rfl
      refine ⟨?_, ?_⟩
      · rw [Operation.map, (step_put_spec _ _).1, (step_put_spec _ _).1]
        rfl
      · rw [Operation.map, after_put, after_put, tryPut_map]
        cases p.tryPut x <;> rfl
  | get =>
      simp only [Operation.map, step, tryGet_map]
      rcases p.tryGet with e | _ | ⟨x, q⟩ <;> exact ⟨rfl, rfl⟩
  | close =>
      cases closed : p.closed with
      | true => simp [Operation.map, step, close, map, closed, Answer.item?]
      | false => simp [Operation.map, step, close, map, closed, Answer.item?, Buffer.map]

theorem got_map (p : Pool α) (ops : List (Operation α)) :
    (p.map f).got (ops.map (Operation.map f)) = (p.got ops).map f := by
  induction ops generalizing p with
  | nil => rfl
  | cons op rest ih =>
      obtain ⟨given, left⟩ := step_map f p op
      rw [List.map_cons, got_cons, got_cons, given, left, ih, List.map_append]
      cases (p.step op).1.item? <;> rfl

theorem opened_map (p : Pool α) (ops : List (Operation α)) :
    (p.map f).opened (ops.map (Operation.map f)) = p.opened ops := by
  induction ops generalizing p with
  | nil => rfl
  | cons op rest ih =>
      have same (p : Pool α) : (p.map f).buffers.length = p.buffers.length := List.length_map _
      rw [List.map_cons, opened, opened, (step_map f p op).2, ih, same, same]

theorem items_map (p : Pool α) : (p.map f).items = p.items.map f := by
  simp [items, contents, map, Buffer.map, List.map_flatMap, List.flatMap_map]

/-- A pool has its shape whatever it holds. -/
theorem Shape.map {p : Pool α} (shape : p.Shape) : (p.map f).Shape := by
  obtain ⟨capPos, maxPos, product, some_, few, sameCap, fits, filled, emptied, total, cursor⟩ := shape
  refine ⟨capPos, maxPos, product, by simpa [Pool.map] using some_, by simpa [Pool.map] using few,
    ?_, ?_, ?_, ?_, ?_, by simpa [Pool.map] using cursor⟩
  · simpa [Pool.map, Buffer.map] using sameCap
  · simpa [Pool.map, Buffer.map] using fits
  · simpa [Pool.map, Buffer.map] using filled
  · intro closed
    rw [items_map, emptied closed, List.map_nil]
  · rw [items_map, List.length_map]
    exact total

/-- A mark can be taken away again. -/
theorem map_marked (mark : Bool) (p : Pool α) : (p.map (·, mark)).map Prod.fst = p := by
  have each (b : Buffer α) : (b.map (·, mark)).map Prod.fst = b := by
    simp [Buffer.map, Function.comp_def]
  simp [map, each, Function.comp_def]

theorem Operation.map_marked (mark : Bool) (op : Operation α) :
    (op.map (·, mark)).map Prod.fst = op := by
  cases op <;> rfl

/-! ## All items leave -/

/-- **Whatever is put, all items leave.** What an open pool holds is among the next items that gets
give, as many as the pool and the buffers that are opened meanwhile have places. -/
theorem Shape.clears {p : Pool α} (shape : p.Shape) (isOpen : p.closed = false)
    {ops : List (Operation α)} (noClose : .close ∉ ops) :
    p.Clears ops (p.bufferCap * (p.maxBuffers + p.opened ops)) := by
  intro enough
  -- what is in the pool is marked, and what is put is not
  obtain ⟨inside, rfl, shape', marked⟩ : ∃ inside : Pool (α × Bool), inside.map Prod.fst = p ∧
      inside.Shape ∧ ∀ x ∈ inside.items, x.2 = true := by
    refine ⟨p.map (·, true), map_marked true p, shape.map _, ?_⟩
    simp [items_map]
  obtain ⟨later, rfl, unmarked⟩ : ∃ later : List (Operation (α × Bool)),
      later.map (Operation.map Prod.fst) = ops ∧ ∀ x, .put x ∈ later → x.2 = false := by
    refine ⟨ops.map (Operation.map (·, false)), ?_, ?_⟩
    · simp [Function.comp_def, Operation.map_marked]
    · intro x member
      obtain ⟨op, -, same⟩ := List.mem_map.mp member
      cases op <;> cases same
      rfl
  have stays : .close ∉ later := fun member => noClose (List.mem_map_of_mem member)
  rw [opened_map, got_map, List.length_map] at enough
  rw [opened_map, got_map, items_map, ← List.map_take]
  have all := (shape'.due Prod.snd).got shape' isOpen stays unmarked
    (by rw [← Nat.mul_add]; exact enough)
  rw [List.filter_eq_self.mpr marked, ← Nat.mul_add] at all
  obtain ⟨those, perm, sublist⟩ := all
  exact ⟨those.map Prod.fst, perm.map Prod.fst, sublist.map Prod.fst⟩

/-! ## Which pools need no count -/

/-- A pool that can have a single buffer only opens none. -/
theorem Shape.opened_of_single {p : Pool α} (shape : p.Shape) (one : p.maxBuffers = 1)
    (ops : List (Operation α)) : p.opened ops = 0 := by
  induction ops generalizing p with
  | nil => rfl
  | cons op rest ih =>
      have nextShape := (step_bag shape op).2
      have nextOne := (maxBuffers_step p op).trans one
      have few := nextShape.few_buffers
      have some_ := List.length_pos_of_ne_nil shape.some_buffer
      rw [opened, ih nextShape nextOne, if_neg (by omega)]

/-- An open pool with a single buffer. -/
def single (cap maxBuffers : Nat) (l : List α) (cursor : Nat) : Pool α :=
  ⟨cap, maxBuffers, [⟨cap, l⟩], l.length, cursor, false⟩

section Single

variable {n m c : Nat} {l : List α}

theorem put_single (shape : (single n m l c).Shape) (lt : l.length < n) (x : α) :
    ((single n m l c).step (.put x)).2 = single n m (l ++ [x]) c := by
  have room : l.length < n * m := Nat.lt_of_lt_of_le lt (Nat.le_mul_of_pos_right n shape.max_pos)
  obtain ⟨buffers, put, result⟩ := tryPut_of_room shape rfl room x
  have free : (⟨n, l⟩ : Buffer α).isFull = false := decide_eq_false (Nat.not_le.mpr lt)
  simp only [single, putFirst, free, Bool.false_eq_true, if_false, Buffer.put?_of_room free,
    Option.map_some, Option.some.injEq] at put
  simp only [step, result, ← put]
  simp [single]

theorem get_single (x : α) :
    (single n m (x :: l) c).step .get = (.got (.ok (some x)), single n m l 1) := by
  simp [single, step, tryGet, turn, firstFilled, takeAt, Buffer.take?, Nat.mod_one]

/-- Puts of one item fill a single buffer. -/
theorem fill_single (shape : (single n m l c).Shape) (x : α) {k : Nat} (le : l.length + k ≤ n) :
    (single n m l c).after (List.replicate k (.put x)) =
      single n m (l ++ List.replicate k x) c := by
  induction k generalizing l with
  | zero => simp [after]
  | succ k ih =>
      have put := put_single shape (show l.length < n by omega) x
      have nextShape := (step_bag shape (.put x)).2
      rw [put] at nextShape
      have rest := ih nextShape (by simp; omega)
      rw [List.replicate_succ, List.replicate_succ, after_cons, put]
      simpa using rest

/-- **A round with a full first buffer.** If the cursor is behind it, an item that comes opens a
second buffer, goes with the next get, and all is as before. -/
theorem round_single (shape : (single n m l 1).Shape) (full : l.length = n) (many : 1 < m) (y : α)
    (rest : List (Operation α)) :
    (single n m l 1).got (.put y :: .get :: rest) = y :: (single n m l 1).got rest := by
  have positive : 0 < n := shape.cap_pos
  have room : l.length < n * m := by
    rw [full]
    exact (Nat.lt_mul_iff_one_lt_right positive).mpr many
  obtain ⟨buffers, put, result⟩ := tryPut_of_room shape rfl room y
  have noRoom : (⟨n, l⟩ : Buffer α).isFull = true := decide_eq_true (Nat.le_of_eq full.symm)
  have free : (Buffer.new n : Buffer α).isFull = false :=
    decide_eq_false (Nat.not_le.mpr positive)
  simp only [single, putFirst, noRoom, if_true, Buffer.put?_of_room free, Option.map_some,
    Option.some.injEq] at put
  have opens : ((single n m l 1).step (.put y)).2 =
      ⟨n, m, [⟨n, l⟩, ⟨n, [y]⟩], l.length + 1, 1, false⟩ := by
    simp only [step, result, ← put]
    rfl
  have serves : (⟨n, m, [⟨n, l⟩, ⟨n, [y]⟩], l.length + 1, 1, false⟩ : Pool α).step .get =
      (.got (.ok (some y)), single n m l 1) := rfl
  rw [got_cons, (step_put_spec _ y).1, opens, got_cons, serves]
  rfl

end Single

/-- The operations of rounds in each of which an item comes and one goes. -/
def rounds (y : α) (n : Nat) : List (Operation α) :=
  (List.replicate n [Operation.put y, .get]).flatten

theorem got_rounds {n m : Nat} {l : List α} (shape : (single n m l 1).Shape) (full : l.length = n)
    (many : 1 < m) (y : α) (k : Nat) :
    (single n m l 1).got (rounds y k) = List.replicate k y := by
  induction k with
  | zero => rfl
  | succ k ih =>
      rw [rounds, List.replicate_succ, List.flatten_cons]
      exact (round_single shape full many y _).trans (congrArg (y :: ·) ih)

/-- Putting an item, taking it and filling the buffer again leaves the cursor behind the buffer. -/
theorem after_full {start : Pool α} {bufferCap maxBuffers : UInt32}
    (made : new bufferCap maxBuffers = .ok start) (x : α) :
    start.after ([.put x, .get] ++ List.replicate bufferCap.toNat (.put x)) =
      single bufferCap.toNat maxBuffers.toNat (List.replicate bufferCap.toNat x) 1 := by
  have shape := (new_spec made).1.shape
  obtain rfl : single bufferCap.toNat maxBuffers.toNat [] 0 = start := by
    unfold new at made
    repeat' split at made
    all_goals cases made
    rfl
  have put := put_single shape shape.cap_pos x
  have shape' := (step_bag shape (.put x)).2
  rw [put] at shape'
  have shape'' := (step_bag shape' .get).2
  have get := get_single (n := bufferCap.toNat) (m := maxBuffers.toNat) (c := 0) (l := []) x
  rw [List.nil_append, get] at shape''
  rw [after_append]
  simp only [after, List.foldl_cons, List.foldl_nil, put, List.nil_append, get]
  exact fill_single shape'' x (by simp)

/-! ## The balance -/

theorem bufferCap_step (p : Pool α) (op : Operation α) :
    (p.step op).2.bufferCap = p.bufferCap := by
  cases op with
  | put x => exact (step_put_spec p x).2.1
  | get =>
      simp only [step]
      split
      · rename_i x q taken
        unfold tryGet at taken
        repeat' split at taken
        all_goals cases taken
        all_goals rfl
      · rfl
      · rfl
  | close => exact (close_spec p).2.2.1

theorem after_spec {p : Pool α} (shape : p.Shape) (ops : List (Operation α)) :
    (p.after ops).Shape ∧ (p.after ops).bufferCap = p.bufferCap ∧
      (p.after ops).maxBuffers = p.maxBuffers := by
  induction ops generalizing p with
  | nil => exact ⟨shape, rfl, rfl⟩
  | cons op rest ih =>
      obtain ⟨nextShape, cap, number⟩ := ih (step_bag shape op).2
      exact ⟨nextShape, cap.trans (bufferCap_step p op), number.trans (maxBuffers_step p op)⟩

/-- **When pools are fair.** Wherever operations can take a pool, as long as it is open:

* all items that it holds are among the next ones that gets give, as many as the pool and the
  buffers that are opened meanwhile have places;
* they are so with the places of the pool alone, whatever comes, exactly if the pool can have a
  single buffer only. -/
theorem fair_iff_single [Nontrivial α] {bufferCap maxBuffers : UInt32} {start : Pool α}
    (made : new bufferCap maxBuffers = .ok start) :
    (∀ before ops, (start.after before).closed = false → .close ∉ ops →
      (start.after before).Clears ops
        (bufferCap.toNat * (maxBuffers.toNat + (start.after before).opened ops))) ∧
    ((∀ before, (start.after before).closed = false → (start.after before).Fair) ↔
      maxBuffers = 1) := by
  have shape := (new_spec made).1.shape
  have sizes : start.bufferCap = bufferCap.toNat ∧ start.maxBuffers = maxBuffers.toNat := by
    unfold new at made
    repeat' split at made
    all_goals cases made
    exact ⟨rfl, rfl⟩
  have reached (before : List (Operation α)) : (start.after before).Shape ∧
      (start.after before).bufferCap = bufferCap.toNat ∧
      (start.after before).maxBuffers = maxBuffers.toNat := by
    obtain ⟨shape', cap, number⟩ := after_spec shape before
    exact ⟨shape', cap.trans sizes.1, number.trans sizes.2⟩
  refine ⟨?_, ?_, ?_⟩
  · intro before ops isOpen noClose
    obtain ⟨shape', cap, number⟩ := reached before
    have clears := shape'.clears isOpen noClose
    rwa [cap, number] at clears
  · intro fair
    by_contra several
    have many : 1 < maxBuffers.toNat := by
      have positive := shape.max_pos
      have notOne : maxBuffers.toNat ≠ 1 := fun one => several (UInt32.toNat_inj.mp one)
      omega
    obtain ⟨x, y, ne⟩ := exists_pair_ne α
    -- the first buffer is full of one item, and in each round another one comes and goes
    have full := after_full made x
    have shape' := (reached ([.put x, .get] ++ List.replicate bufferCap.toNat (.put x))).1
    have fair := fair ([.put x, .get] ++ List.replicate bufferCap.toNat (.put x))
      (by rw [full]; rfl)
    rw [full] at shape' fair
    have noClose : .close ∉ rounds y (bufferCap.toNat * maxBuffers.toNat) := by
      simp [rounds]
    have clears := fair _ noClose
    rw [Clears, got_rounds shape' List.length_replicate many] at clears
    have given := (clears (by simp [single])).subset
      (show x ∈ _ by simpa [single, items] using Nat.ne_of_gt shape'.cap_pos)
    simp only [List.take_replicate, List.mem_replicate] at given
    exact ne given.2
  · intro one before isOpen ops noClose
    obtain ⟨shape', -, number⟩ := reached before
    have clears := shape'.clears isOpen noClose
    rwa [shape'.opened_of_single (number.trans (by rw [one]; rfl)), Nat.add_zero] at clears

theorem fair_iff_single_two_buffers : ∃ start p : Pool Nat, new 1 2 = .ok start ∧
    start.after [.put 0, .get, .put 1] = p ∧ p.closed = false ∧
    p.opened [.put 2, .get, .put 3, .get, .get, .put 4, .get] = 2 ∧
    p.Clears [.put 2, .get, .put 3, .get, .get, .put 4, .get] (1 * (2 + 2)) ∧
    p.got [.put 2, .get, .put 3, .get, .get, .put 4, .get] = [2, 3, 1, 4] ∧
    ¬ ∀ before, (start.after before).closed = false → (start.after before).Fair := by
  have made : new 1 2 = .ok (single 1 2 ([] : List Nat) 0) := rfl
  have reached : (single 1 2 ([] : List Nat) 0).after [.put 0, .get, .put 1] = single 1 2 [1] 1 :=
    rfl
  have opens : (single 1 2 [1] 1).opened [.put 2, .get, .put 3, .get, .get, .put 4, .get] = 2 := rfl
  have clears := (fair_iff_single made).1 [.put 0, .get, .put 1]
    [.put 2, .get, .put 3, .get, .get, .put 4, .get] rfl (by simp)
  rw [reached, opens] at clears
  refine ⟨_, _, made, reached, rfl, opens, clears, rfl, fun fair => ?_⟩
  exact absurd ((fair_iff_single made).2.mp fair) (by decide)

/-- **An item that starves.** It is in the pool from the beginning and never comes, though every
get gives an item: not among the next two, for which the pool has places, and not later. -/
theorem first_item_starves : ∃ start p : Pool Nat, new 1 2 = .ok start ∧
    start.after [.put 0, .get, .put 1] = p ∧ p.closed = false ∧ 1 ∈ p.items ∧
    p.got [.put 2, .get, .put 3, .get] = [2, 3] ∧
    1 ∉ (p.got [.put 2, .get, .put 3, .get]).take (1 * 2) ∧
    ∀ n, p.got (rounds 2 n) = List.replicate n 2 := by
  refine ⟨_, _, rfl, rfl, rfl, List.mem_cons_self, rfl, by decide, fun n => ?_⟩
  have made : new 1 2 = .ok (single 1 2 ([] : List Nat) 0) := rfl
  have shape := (after_spec (new_spec made).1.shape [.put 0, .get, .put 1]).1
  exact got_rounds (n := 1) (m := 2) (l := [1]) shape rfl (by decide) 2 n

end Pool

end CrawlMesh
