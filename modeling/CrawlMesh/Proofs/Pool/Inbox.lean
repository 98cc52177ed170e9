/-
# What an inbox holds

An inbox holds what waits and what is in its pool (`Inbox.held`).  As long as the pool is open
nothing is lost: a put adds its item, whether it enters or waits (`put_of_ready`), letting one enter
changes nothing (`admit?_of_ready`), and a take removes the item it gives (`take?_of_ready`).
-/
import CrawlMesh.Crawl.Inbox
import CrawlMesh.Proofs.Pool.Shape
import Mathlib.Data.List.Perm.Basic
import Mathlib.Data.Multiset.Bind

namespace CrawlMesh

set_option autoImplicit false

variable {α : Type}

/-! ## Places -/

/-- A list is what stands at a place together with the others. -/
theorem coe_eq_cons_eraseIdx {l : List α} {place : Nat} {x : α} (at_ : l[place]? = some x) :
    (l : Multiset α) = x ::ₘ ↑(l.eraseIdx place) := by
  obtain ⟨lt, rfl⟩ := List.getElem?_eq_some_iff.mp at_
  exact Multiset.coe_eq_coe.mpr (List.getElem_cons_eraseIdx_perm lt).symm

theorem coe_set_eq_cons_eraseIdx {l : List α} {place : Nat} {x : α} (at_ : l[place]? = some x)
    (y : α) : (l.set place y : Multiset α) = y ::ₘ ↑(l.eraseIdx place) := by
  obtain ⟨lt, -⟩ := List.getElem?_eq_some_iff.mp at_
  exact Multiset.coe_eq_coe.mpr (List.set_perm_cons_eraseIdx lt y)

/-! What the members of a list hold together, member by member. -/

theorem bind_concat {β : Type} (l : List α) (x : α) (f : α → Multiset β) :
    (↑(l ++ [x]) : Multiset α).bind f = (l : Multiset α).bind f + f x := by
  rw [← Multiset.coe_add, Multiset.add_bind, Multiset.coe_singleton, Multiset.singleton_bind]

theorem bind_of_place {β : Type} {l : List α} {place : Nat} {x : α} (at_ : l[place]? = some x)
    (f : α → Multiset β) :
    (l : Multiset α).bind f = f x + (↑(l.eraseIdx place) : Multiset α).bind f := by
  rw [coe_eq_cons_eraseIdx at_, Multiset.cons_bind]

theorem bind_set {β : Type} {l : List α} {place : Nat} {x : α} (at_ : l[place]? = some x) (y : α)
    (f : α → Multiset β) :
    (↑(l.set place y) : Multiset α).bind f =
      f y + (↑(l.eraseIdx place) : Multiset α).bind f := by
  rw [coe_set_eq_cons_eraseIdx at_, Multiset.cons_bind]

/-- What stands at a place gives way to what counts the same. -/
theorem bind_set_same {β : Type} {l : List α} {place : Nat} {x : α} (at_ : l[place]? = some x)
    (y : α) (f : α → Multiset β) (same : f y = f x) :
    (↑(l.set place y) : Multiset α).bind f = (l : Multiset α).bind f := by
  rw [bind_set at_, bind_of_place at_, same]

/-! ## Pools -/

namespace Pool

variable {p q : Pool α} {x : α}

/-! ### Members -/

theorem mem_of_putFirst {cap : Nat} {buffers after : List (Buffer α)}
    (put : putFirst cap x buffers = some after) {y : α} (member : y ∈ contents after) :
    y = x ∨ y ∈ contents buffers := by
  have added {b c : Buffer α} (put : b.put? x = some c) (member : y ∈ c.items) :
      y = x ∨ y ∈ b.items := by
    unfold Buffer.put? at put
    split at put <;> cases put
    rcases List.mem_append.mp member with old | new
    · exact Or.inr old
    · exact Or.inl (List.mem_singleton.mp new)
  induction buffers generalizing after with
  | nil =>
      obtain ⟨b, placed, rfl⟩ := Option.map_eq_some_iff.mp put
      rcases added placed (by simpa using member) with new | old
      · exact Or.inl new
      · cases old
  | cons b rest ih =>
      rw [putFirst] at put
      split at put
      · obtain ⟨later, placed, rfl⟩ := Option.map_eq_some_iff.mp put
        rcases List.mem_append.mp member with first | later
        · exact Or.inr (List.mem_append.mpr (Or.inl first))
        · exact (ih placed later).imp_right fun old => List.mem_append.mpr (Or.inr old)
      · obtain ⟨c, placed, rfl⟩ := Option.map_eq_some_iff.mp put
        rcases List.mem_append.mp member with first | later
        · exact (added placed first).imp_right fun old => List.mem_append.mpr (Or.inl old)
        · exact Or.inr (List.mem_append.mpr (Or.inr later))

/-- A put brings only its item in. -/
theorem mem_of_tryPut (put : p.tryPut x = .ok q) {y : α} (member : y ∈ q.items) :
    y = x ∨ y ∈ p.items := by
  unfold tryPut at put
  split at put
  · cases put
  · split at put
    · cases put
    · split at put <;> cases put
      exact mem_of_putFirst ‹_› member

/-- A get gives an item that was there, and leaves only such. -/
theorem mem_of_tryGet (taken : p.tryGet = .ok (some (x, q))) :
    x ∈ p.items ∧ ∀ y ∈ q.items, y ∈ p.items := by
  have among {b : Buffer α} (member : b ∈ p.buffers) {y : α} (inside : y ∈ b.items) :
      y ∈ p.items := List.mem_flatMap.mpr ⟨b, member, inside⟩
  unfold tryGet at taken
  split at taken
  · cases taken
  · split at taken
    · cases taken
    · split at taken
      · cases taken
      · rename_i i y c found
        obtain ⟨b, at_, items, -⟩ := firstFilled_eq_some found
        have member := List.mem_of_getElem? at_
        simp only at taken
        split at taken <;> cases taken
        · refine ⟨among member (by simp [items]), fun z left => ?_⟩
          obtain ⟨d, old, inside⟩ := List.mem_flatMap.mp left
          exact among (List.mem_of_mem_eraseIdx old) inside
        · refine ⟨among member (by simp [items]), fun z left => ?_⟩
          obtain ⟨d, old, inside⟩ := List.mem_flatMap.mp left
          rcases List.mem_or_eq_of_mem_set old with old | rfl
          · exact among old inside
          · exact among member (by simp [items, inside])

theorem mem_of_close {y : α} (member : y ∈ p.close.2.items) : y ∈ p.items := by
  unfold close at member
  split at member
  · exact member
  · simp [items, contents] at member

/-! ### Readiness -/

/-- A pool that is open and of good shape. -/
structure Ready (p : Pool α) : Prop where
  shape : p.Shape
  is_open : p.closed = false

/-- A new pool is ready and holds nothing. -/
theorem new_spec {bufferCap maxBuffers : UInt32} (made : new bufferCap maxBuffers = .ok p) :
    p.Ready ∧ p.items = [] := by
  unfold new at made
  split at made
  · cases made
  · split at made
    · cases made
    · rename_i capNe maxNe
      cases made
      refine ⟨⟨Shape.new ?_ ?_, rfl⟩, rfl⟩
      · rw [UInt32.le_iff_toNat_le]
        refine Nat.one_le_iff_ne_zero.mpr fun zero => ?_
        exact capNe (beq_iff_eq.mpr (UInt32.toNat_inj.mp zero))
      · rw [UInt32.le_iff_toNat_le]
        refine Nat.one_le_iff_ne_zero.mpr fun zero => ?_
        exact maxNe (beq_iff_eq.mpr (UInt32.toNat_inj.mp zero))

/-- A put into an open pool that succeeds adds its item. -/
theorem Ready.tryPut (ready : p.Ready) (put : p.tryPut x = .ok q) :
    q.Ready ∧ (q.items : Multiset α) = x ::ₘ ↑p.items := by
  obtain ⟨shape, isOpen⟩ := ready
  have le := shape.total_le
  rcases Nat.lt_or_eq_of_le le with lt | full
  · obtain ⟨buffers, placed, same⟩ := tryPut_of_room shape isOpen lt x
    cases same.symm.trans put
    exact ⟨⟨shape.put isOpen lt placed, isOpen⟩,
      Multiset.coe_eq_coe.mpr (putFirst_perm shape.cap_pos placed)⟩
  · cases (tryPut_of_full shape isOpen full x).symm.trans put

/-- An open pool refuses an item only because it is full. -/
theorem Ready.not_closed (ready : p.Ready) {y : α} : p.tryPut x ≠ .error (.closed y) := by
  unfold Pool.tryPut
  rw [ready.is_open]
  simp only [Bool.false_eq_true, if_false]
  split
  · simp
  · split <;> simp

/-- A refusal hands the item back. -/
theorem full_item {y : α} (refused : p.tryPut x = .error (.full y)) : y = x := by
  unfold Pool.tryPut at refused
  split at refused
  · cases refused
  · split at refused
    · cases refused
      rfl
    · split at refused <;> cases refused
      rfl

/-- A get that gives an item removes it. -/
theorem Ready.tryGet (ready : p.Ready) (taken : p.tryGet = .ok (some (x, q))) :
    q.Ready ∧ (p.items : Multiset α) = x ::ₘ ↑q.items := by
  obtain ⟨shape, isOpen⟩ := ready
  have some_item : p.total ≠ 0 := by
    intro empty
    cases (tryGet_of_empty isOpen empty).symm.trans taken
  obtain ⟨shape, perm, isOpen, -⟩ := shape.take isOpen some_item taken
  exact ⟨⟨shape, isOpen⟩, Multiset.coe_eq_coe.mpr perm⟩

end Pool

/-! ## Inboxes -/

namespace Inbox

variable {b after : Inbox α} {x : α} {place : Nat}

/-- What waits and what has entered. -/
def held (b : Inbox α) : Multiset α := ↑b.waiting + ↑b.pool.items

theorem closed_put? (put : b.put? x = some after) : after.pool.closed = b.pool.closed := by
  unfold put? at put
  split at put
  · cases put
    exact (Pool.kept_tryPut ‹_›).2
  · cases put
    rfl
  · cases put

@[simp] theorem closed_put (b : Inbox α) (x : α) : (b.put x).pool.closed = b.pool.closed := by
  unfold put
  cases put : b.put? x with
  | none => rfl
  | some after => exact closed_put? put

theorem closed_admit? (admitted : b.admit? place = some after) :
    after.pool.closed = b.pool.closed := by
  unfold admit? at admitted
  split at admitted
  · cases admitted
  · split at admitted
    · cases admitted
      exact (Pool.kept_tryPut ‹_›).2
    · cases admitted
    · cases admitted
      rfl

theorem take?_eq_some (taken : b.take? = some (x, after)) :
    b.pool.tryGet = .ok (some (x, after.pool)) ∧ after.waiting = b.waiting := by
  unfold take? at taken
  split at taken
  · rename_i got
    cases taken
    exact ⟨got, rfl⟩
  · cases taken

theorem closed_take? (taken : b.take? = some (x, after)) : after.pool.closed = b.pool.closed :=
  (Pool.kept_tryGet (take?_eq_some taken).1).2

theorem new_spec {bufferCap maxBuffers : UInt32} (made : new bufferCap maxBuffers = .ok b) :
    b.pool.Ready ∧ b.held = 0 := by
  simp only [new, bind, Except.bind] at made
  split at made
  · cases made
  · rename_i pool new
    cases made
    obtain ⟨ready, empty⟩ := Pool.new_spec new
    exact ⟨ready, by simp [held, empty]⟩

/-! ### Members -/

theorem mem_held {y : α} : y ∈ b.held ↔ y ∈ b.waiting ∨ y ∈ b.pool.items := by
  simp [held]

/-- An item is refused just when the pool is closed. -/
theorem put?_eq_none : b.put? x = none ↔ b.pool.closed = true := by
  unfold put? Pool.tryPut
  cases b.pool.closed
  · simp only [Bool.false_eq_true, if_false, iff_false]
    split <;> rename_i tried
    · simp
    · simp
    · split at tried
      · cases tried
      · split at tried <;> cases tried
  · simp

theorem mem_of_put? (put : b.put? x = some after) {y : α} (member : y ∈ after.held) :
    y = x ∨ y ∈ b.held := by
  unfold put? at put
  rw [mem_held] at member ⊢
  split at put <;> cases put
  · rcases member with waits | entered
    · exact Or.inr (Or.inl waits)
    · exact (Pool.mem_of_tryPut ‹_› entered).imp_right Or.inr
  · rcases member with waits | entered
    · rcases List.mem_append.mp waits with old | new
      · exact Or.inr (Or.inl old)
      · exact Or.inl ((List.mem_singleton.mp new).trans (Pool.full_item ‹_›))
    · exact Or.inr (Or.inr entered)

theorem mem_of_admit? (admitted : b.admit? place = some after) {y : α} (member : y ∈ after.held) :
    y ∈ b.held := by
  unfold admit? at admitted
  rw [mem_held] at member ⊢
  split at admitted
  · cases admitted
  · rename_i x at_
    split at admitted <;> cases admitted
    · rcases member with waits | entered
      · exact Or.inl (List.mem_of_mem_eraseIdx waits)
      · rcases Pool.mem_of_tryPut ‹_› entered with rfl | old
        · exact Or.inl (List.mem_of_getElem? at_)
        · exact Or.inr old
    · exact member.imp_left List.mem_of_mem_eraseIdx

theorem mem_of_take? (taken : b.take? = some (x, after)) :
    x ∈ b.held ∧ ∀ y ∈ after.held, y ∈ b.held := by
  obtain ⟨got, waiting⟩ := take?_eq_some taken
  obtain ⟨given, kept⟩ := Pool.mem_of_tryGet got
  simp only [mem_held, waiting]
  exact ⟨Or.inr given, fun y member => member.imp_right (kept y)⟩

theorem mem_of_close {y : α} (member : y ∈ b.close.2.held) : y ∈ b.held := by
  rw [mem_held] at member ⊢
  exact member.imp_right Pool.mem_of_close

/-! ### Readiness -/

/-- An open inbox takes every item. -/
theorem put?_of_ready (ready : b.pool.Ready) (x : α) :
    ∃ after, b.put? x = some after ∧ after.pool.Ready ∧ after.held = x ::ₘ b.held := by
  unfold put?
  split
  · rename_i pool put
    obtain ⟨next, items⟩ := ready.tryPut put
    refine ⟨_, rfl, next, ?_⟩
    simp only [held, items, Multiset.add_cons]
  · rename_i y refused
    refine ⟨_, rfl, ready, ?_⟩
    simp only [held, Pool.full_item refused, ← Multiset.coe_add, Multiset.coe_singleton]
    rw [Multiset.add_comm (b.waiting : Multiset α), Multiset.singleton_add, Multiset.cons_add]
  · exact absurd ‹_› ready.not_closed

theorem put_of_ready (ready : b.pool.Ready) (x : α) :
    (b.put x).pool.Ready ∧ (b.put x).held = x ::ₘ b.held := by
  obtain ⟨after, put, next⟩ := put?_of_ready ready x
  simpa only [put, Inbox.put, Option.getD_some] using next

/-- Letting an item enter an open pool loses none. -/
theorem admit?_of_ready (ready : b.pool.Ready) (admitted : b.admit? place = some after) :
    after.pool.Ready ∧ after.held = b.held := by
  unfold admit? at admitted
  split at admitted
  · cases admitted
  · rename_i x at_
    split at admitted
    · rename_i pool put
      cases admitted
      obtain ⟨next, items⟩ := ready.tryPut put
      refine ⟨next, ?_⟩
      rw [held, held, items, coe_eq_cons_eraseIdx at_, Multiset.add_cons, Multiset.cons_add]
    · cases admitted
    · exact absurd ‹_› ready.not_closed

theorem take?_of_ready (ready : b.pool.Ready) (taken : b.take? = some (x, after)) :
    after.pool.Ready ∧ b.held = x ::ₘ after.held := by
  obtain ⟨got, waiting⟩ := take?_eq_some taken
  obtain ⟨next, items⟩ := ready.tryGet got
  exact ⟨next, by rw [held, held, items, waiting, Multiset.add_cons]⟩

end Inbox

end CrawlMesh
