/-
# Whose reply a call gets

The peer answers the frames on a link in the order in which they were written, and the calls read
the replies in the order in which they got hold of the stream.  A call that fails between its
frame and its reply leaves the reply behind.  So the n-th reply that is read answers the n-th
frame that was written (`Served`), and it is the reader's own as long as every call that wrote a
frame before has got a reply.

A call looks whether the link is broken before it waits for the stream, and not again once it has
it.  A call that waits when another one fails goes on to write its frame (`waiting_writes`), and
reads what was left behind.  When none waits, the link is dead after the failure: nothing is
written on it any more (`Dead.run`).  `reply_own_iff` puts the two together.
-/
import CrawlMesh.Mesh.Link
import Mathlib.Data.List.Nodup

namespace CrawlMesh.Link

set_option autoImplicit false

/-! ## Steps and runs -/

/-- The link after steps that are all possible. -/
def run? (l : Link) : List LinkMove → Option Link
  | [] => some l
  | m :: rest => (l.move? m).bind (run? · rest)

/-- The calls that write a frame, first one first. -/
def writers : List LinkMove → List Nat
  | [] => []
  | .write call :: rest => call :: writers rest
  | _ :: rest => writers rest

variable {l after : Link} {call other : Nat}

theorem move?_look (step : l.move? (.look call) = some after) :
    l.calls[call]? = some .arriving ∧
      after = l.setCall call (if l.broken then .failed l.brokenError else .waiting) := by
  simp only [move?] at step
  split at step
  · rename_i arriving
    cases step
    exact ⟨arriving, rfl⟩
  · cases step

theorem move?_hold (step : l.move? (.hold call) = some after) :
    l.calls[call]? = some .waiting ∧ l.holder = none ∧
      after = { l.setCall call .holding with holder := some call } := by
  simp only [move?] at step
  split at step
  · rename_i waiting free
    cases step
    exact ⟨waiting, free, rfl⟩
  · cases step

theorem move?_write (step : l.move? (.write call) = some after) :
    l.calls[call]? = some .holding ∧
      after = { l.setCall call .reading with unanswered := l.unanswered ++ [call] } := by
  simp only [move?] at step
  split at step
  · rename_i holding
    cases step
    exact ⟨holding, rfl⟩
  · cases step

theorem move?_answer {reply : Reply} (step : l.move? (.answer reply) = some after) :
    ∃ call rest, l.unanswered = call :: rest ∧
      after = { l with unanswered := rest, replies := l.replies ++ [(call, reply)] } := by
  simp only [move?] at step
  split at step
  · rename_i call rest unanswered
    cases step
    exact ⟨call, rest, unanswered, rfl⟩
  · cases step

theorem move?_read (step : l.move? (.read call) = some after) :
    ∃ answered reply rest, l.calls[call]? = some .reading ∧ l.replies = (answered, reply) :: rest ∧
      after =
        { l.setCall call (.replied answered reply) with holder := none, replies := rest } := by
  simp only [move?] at step
  split at step
  · rename_i answered reply rest reading replies
    cases step
    exact ⟨answered, reply, rest, reading, replies, rfl⟩
  · cases step

theorem move?_fail {error : CrawlError} (step : l.move? (.fail call error) = some after) :
    (l.calls[call]? = some .holding ∨ l.calls[call]? = some .reading) ∧
      after = { l.setCall call (.failed error) with holder := none, broken := true } := by
  simp only [move?] at step
  split at step
  · rename_i holding
    cases step
    exact ⟨Or.inl holding, rfl⟩
  · rename_i reading
    cases step
    exact ⟨Or.inr reading, rfl⟩
  · cases step

/-- What a step makes of the progress of a call, the call that it is about or another one. -/
theorem getElem?_setCall (l : Link) (call other : Nat) (p : Progress) :
    (l.setCall call p).calls[other]? =
      if call = other ∧ call < l.calls.length then some p else l.calls[other]? := by
  simp only [setCall, List.getElem?_set]
  split
  · rename_i same
    subst same
    by_cases lt : call < l.calls.length
    · simp [lt]
    · simp [lt]
  · rename_i different
    simp [different]

theorem getElem?_setCall_self {p q : Progress} (at_ : l.calls[call]? = some q) :
    (l.setCall call p).calls[call]? = some p := by
  obtain ⟨lt, -⟩ := List.getElem?_eq_some_iff.mp at_
  simp [getElem?_setCall, lt]

theorem getElem?_setCall_ne {p : Progress} (different : call ≠ other) :
    (l.setCall call p).calls[other]? = l.calls[other]? := by
  simp [getElem?_setCall, different]

theorem getElem?_arrive (different : other ≠ l.calls.length) :
    (l.calls ++ [.arriving])[other]? = l.calls[other]? := by
  rcases Nat.lt_or_ge other l.calls.length with lt | ge
  · exact List.getElem?_append_left lt
  · have beyond : (l.calls ++ [Progress.arriving]).length ≤ other := by
      simp only [List.length_append, List.length_singleton]
      omega
    rw [List.getElem?_eq_none ge, List.getElem?_eq_none beyond]

/-! ## Who holds the stream -/

/-- The stream is held by the call that is about to write or to read, and by no other one. -/
structure Held (l : Link) : Prop where
  holds : ∀ call, l.calls[call]? = some .holding ∨ l.calls[call]? = some .reading →
    l.holder = some call
  held : ∀ call, l.holder = some call →
    l.calls[call]? = some .holding ∨ l.calls[call]? = some .reading

theorem Held.unique (held : Held l) {first second : Nat}
    (one : l.calls[first]? = some .holding ∨ l.calls[first]? = some .reading)
    (two : l.calls[second]? = some .holding ∨ l.calls[second]? = some .reading) :
    first = second :=
  Option.some.inj ((held.holds first one).symm.trans (held.holds second two))

theorem held_new (number : Nat) (peer : NodeInfo) (endpoint : Endpoint) :
    Held (.new number peer endpoint) := by
  refine ⟨fun call h => ?_, fun call h => ?_⟩
  · simp [new] at h
  · cases h

/-- A call that is about neither to write nor to read before a step nor after it, and does not
change who holds the stream, keeps it held. -/
theorem Held.keep (held : Held l) (call : Nat) (sameHolder : after.holder = l.holder)
    (others : ∀ other, other ≠ call → after.calls[other]? = l.calls[other]?)
    (before : ¬ (l.calls[call]? = some .holding ∨ l.calls[call]? = some .reading))
    (now : ¬ (after.calls[call]? = some .holding ∨ after.calls[call]? = some .reading)) :
    Held after := by
  refine ⟨fun other busy => ?_, fun other holder => ?_⟩
  · have different : other ≠ call := by rintro rfl; exact now busy
    rw [others other different] at busy
    rw [sameHolder, held.holds other busy]
  · have busy := held.held other (sameHolder ▸ holder)
    have different : other ≠ call := by rintro rfl; exact before busy
    rwa [others other different]

theorem Held.free (held : Held l) (call : Nat) (noHolder : after.holder = none)
    (others : ∀ other, other ≠ call → after.calls[other]? = l.calls[other]?)
    (before : l.calls[call]? = some .holding ∨ l.calls[call]? = some .reading)
    (now : ¬ (after.calls[call]? = some .holding ∨ after.calls[call]? = some .reading)) :
    Held after := by
  refine ⟨fun other busy => ?_, fun other holder => ?_⟩
  · have different : other ≠ call := by rintro rfl; exact now busy
    rw [others other different] at busy
    exact absurd (held.unique busy before) different
  · rw [noHolder] at holder
    cases holder

theorem Held.move (held : Held l) {m : LinkMove} (step : l.move? m = some after) : Held after := by
  cases m with
  | arrive =>
      cases step
      exact held.keep l.calls.length rfl (fun other different => getElem?_arrive different)
        (by simp) (by simp)
  | look call =>
      obtain ⟨arriving, rfl⟩ := move?_look step
      refine held.keep call rfl (fun other different => getElem?_setCall_ne different.symm)
        (by simp [arriving]) ?_
      rw [getElem?_setCall_self arriving]
      split <;> simp
  | hold call =>
      obtain ⟨waiting, free, rfl⟩ := move?_hold step
      refine ⟨fun other busy => ?_, fun other holder => ?_⟩
      · by_cases same : call = other
        · rw [same]
        · rw [getElem?_setCall_ne (l := l) same] at busy
          exact absurd ((held.holds other busy).symm.trans free) (by simp)
      · cases holder
        exact Or.inl (getElem?_setCall_self waiting)
  | write call =>
      obtain ⟨holding, rfl⟩ := move?_write step
      have holder := held.holds call (Or.inl holding)
      refine ⟨fun other busy => ?_, fun other now => ?_⟩
      · by_cases same : call = other
        · rw [← same]
          exact holder
        · rw [getElem?_setCall_ne (l := l) same] at busy
          exact held.holds other busy
      · cases holder.symm.trans now
        exact Or.inr (getElem?_setCall_self holding)
  | answer reply =>
      obtain ⟨call, rest, -, rfl⟩ := move?_answer step
      exact ⟨held.holds, held.held⟩
  | read call =>
      obtain ⟨answered, reply, rest, reading, -, rfl⟩ := move?_read step
      refine held.free call rfl (fun other different => getElem?_setCall_ne different.symm)
        (Or.inr reading) ?_
      rw [show _ = _ from getElem?_setCall_self (l := l) reading]
      simp
  | fail call error =>
      obtain ⟨busy, rfl⟩ := move?_fail step
      refine held.free call rfl (fun other different => getElem?_setCall_ne different.symm) busy ?_
      rcases busy with at_ | at_ <;>
        rw [show _ = _ from getElem?_setCall_self (l := l) at_] <;> simp

/-! ## Which frame a reply answers -/

/-- Has a call got a reply? -/
def hasReply (l : Link) (call : Nat) : Bool :=
  match l.calls[call]? with
  | some (.replied _ _) => true
  | _ => false

theorem hasReply_iff : l.hasReply call = true ↔ ∃ a r, l.calls[call]? = some (.replied a r) := by
  unfold hasReply
  split
  · rename_i a r replied
    simp [replied]
  · rename_i other
    simp only [Bool.false_eq_true, false_iff]
    rintro ⟨a, r, replied⟩
    exact other a r replied

/-- The state of a link after some calls have written their frames, in this order, and the replies
to some of these, in this order, have been read: the replies are those to the frames that were
written first, and the reader of the n-th one is the n-th of the writers that got a reply. -/
structure Served (l : Link) (written answered : List Nat) : Prop where
  in_order : written = answered ++ l.replies.map (·.1) ++ l.unanswered
  nodup : written.Nodup
  wrote : ∀ call ∈ written, l.calls[call]? = some .reading ∨ l.hasReply call = true ∨
    ∃ e, l.calls[call]? = some (.failed e)
  readers : ∀ call, l.hasReply call = true → call ∈ written
  last : ∀ call, l.calls[call]? = some .reading → written.getLast? = some call
  paired : List.Forall₂ (fun reader a => ∃ r, l.calls[reader]? = some (.replied a r))
    (written.filter l.hasReply) answered

theorem served_new (number : Nat) (peer : NodeInfo) (endpoint : Endpoint) :
    Served (.new number peer endpoint) [] [] := by
  refine ⟨rfl, List.nodup_nil, by simp, ?_, ?_, List.Forall₂.nil⟩
  · intro call reply
    simp [hasReply, new] at reply
  · intro call reading
    simp [new] at reading

theorem hasReply_congr (same : after.calls[call]? = l.calls[call]?) :
    after.hasReply call = l.hasReply call := by
  simp only [hasReply, same]

/-- Served stays what was served when a call goes on that has not got a reply and gets none. -/
theorem Served.keep {written answered : List Nat} (served : Served l written answered)
    (call : Nat) (replies : after.replies = l.replies)
    (unanswered : after.unanswered = l.unanswered)
    (others : ∀ other, other ≠ call → after.calls[other]? = l.calls[other]?)
    (before : l.hasReply call = false) (now : after.hasReply call = false)
    (notReading : after.calls[call]? ≠ some .reading)
    (fails : call ∈ written → ∃ e, after.calls[call]? = some (.failed e)) :
    Served after written answered := by
  have sameReplies : ∀ other, after.hasReply other = l.hasReply other := by
    intro other
    by_cases same : other = call
    · rw [same, before, now]
    · exact hasReply_congr (others other same)
  refine ⟨?_, served.nodup, fun other member => ?_, fun other reply => ?_, fun other reading => ?_,
    ?_⟩
  · rw [replies, unanswered]
    exact served.in_order
  · by_cases same : other = call
    · subst same
      exact Or.inr (Or.inr (fails member))
    · rw [sameReplies, others other same]
      exact served.wrote other member
  · rw [sameReplies] at reply
    exact served.readers other reply
  · have different : other ≠ call := by rintro rfl; exact notReading reading
    rw [others other different] at reading
    exact served.last other reading
  · rw [show after.hasReply = l.hasReply from funext sameReplies]
    refine served.paired.imp fun reader a replied => ?_
    obtain ⟨r, replied⟩ := replied
    have different : reader ≠ call := by
      rintro rfl
      rw [hasReply_iff.mpr ⟨a, r, replied⟩] at before
      cases before
    exact ⟨r, (others reader different).trans replied⟩

theorem Served.fresh {written answered : List Nat} (served : Served l written answered)
    (notReading : l.calls[call]? ≠ some .reading) (noReply : l.hasReply call = false)
    (notFailed : ∀ e, l.calls[call]? ≠ some (.failed e)) : call ∉ written := by
  intro member
  rcases served.wrote call member with reading | reply | ⟨e, failed⟩
  · exact notReading reading
  · rw [noReply] at reply
    cases reply
  · exact notFailed e failed

/-- A frame is written behind all others, and gets no reply yet. -/
theorem Served.write {written answered : List Nat} (served : Served l written answered)
    (held : Held l) (holding : l.calls[call]? = some .holding) :
    Served { l.setCall call .reading with unanswered := l.unanswered ++ [call] }
      (written ++ [call]) answered := by
  have noReply : l.hasReply call = false := by simp [hasReply, holding]
  have fresh : call ∉ written :=
    served.fresh (by simp [holding]) noReply (by simp [holding])
  have now := getElem?_setCall_self (p := .reading) holding
  have sameReplies : ∀ other, (l.setCall call .reading).hasReply other = l.hasReply other := by
    intro other
    by_cases same : call = other
    · subst same
      rw [noReply]
      simp [hasReply, now]
    · exact hasReply_congr (getElem?_setCall_ne same)
  refine ⟨?_, ?_, fun other member => ?_, fun other reply => ?_, fun other reading => ?_, ?_⟩
  · rw [served.in_order]
    simp only [setCall, List.append_assoc]
  · rw [List.nodup_append]
    refine ⟨served.nodup, List.nodup_singleton call, fun a old b new => ?_⟩
    rw [List.mem_singleton.mp new]
    rintro rfl
    exact fresh old
  · rcases List.mem_append.mp member with old | new
    · have different : call ≠ other := by rintro rfl; exact fresh old
      change (l.setCall call .reading).calls[other]? = _ ∨
        (l.setCall call .reading).hasReply other = true ∨ _
      rw [sameReplies, getElem?_setCall_ne different]
      exact served.wrote other old
    · rw [List.mem_singleton.mp new]
      exact Or.inl now
  · exact List.mem_append_left _ (served.readers other ((sameReplies other).symm.trans reply))
  · by_cases same : call = other
    · rw [← same]
      exact List.getLast?_concat
    · rw [getElem?_setCall_ne (l := l) same] at reading
      exact absurd (held.unique (Or.inl holding) (Or.inr reading)) same
  · have filtered : (written ++ [call]).filter (l.setCall call .reading).hasReply =
        written.filter l.hasReply := by
      rw [show (l.setCall call .reading).hasReply = l.hasReply from funext sameReplies]
      simp [List.filter_append, noReply]
    change List.Forall₂ _ ((written ++ [call]).filter (l.setCall call .reading).hasReply) answered
    rw [filtered]
    refine served.paired.imp fun reader a replied => ?_
    obtain ⟨r, replied⟩ := replied
    have different : call ≠ reader := by
      rintro rfl
      rw [hasReply_iff.mpr ⟨a, r, replied⟩] at noReply
      cases noReply
    exact ⟨r, (getElem?_setCall_ne different).trans replied⟩

/-- The reader of a reply is the last call that has written a frame. -/
theorem Served.read {written answered : List Nat} (served : Served l written answered)
    (held : Held l) {a : Nat} {reply : Reply} {rest : List (Nat × Reply)}
    (reading : l.calls[call]? = some .reading) (replies : l.replies = (a, reply) :: rest) :
    Served { l.setCall call (.replied a reply) with holder := none, replies := rest } written
      (answered ++ [a]) := by
  have noReply : l.hasReply call = false := by simp [hasReply, reading]
  have now := getElem?_setCall_self (p := .replied a reply) reading
  have nowReply : (l.setCall call (.replied a reply)).hasReply call = true :=
    hasReply_iff.mpr ⟨a, reply, now⟩
  have otherReplies : ∀ other, call ≠ other →
      (l.setCall call (.replied a reply)).hasReply other = l.hasReply other :=
    fun other different => hasReply_congr (getElem?_setCall_ne different)
  obtain ⟨earlier, split⟩ : ∃ earlier, written = earlier ++ [call] := by
    have last := served.last call reading
    exact ⟨written.dropLast, (List.dropLast_append_getLast? call last).symm⟩
  have notEarlier : call ∉ earlier := by
    have nodup := served.nodup
    rw [split, List.nodup_append] at nodup
    exact fun member => nodup.2.2 call member call (by simp) rfl
  refine ⟨?_, served.nodup, fun other member => ?_, fun other got => ?_,
    fun other stillReading => ?_,
    ?_⟩
  · rw [served.in_order, replies]
    simp [setCall]
  · by_cases same : call = other
    · rw [← same]
      exact Or.inr (Or.inl nowReply)
    · change (l.setCall call (.replied a reply)).calls[other]? = _ ∨
        (l.setCall call (.replied a reply)).hasReply other = true ∨ _
      rw [otherReplies other same, getElem?_setCall_ne same]
      exact served.wrote other member
  · by_cases same : call = other
    · rw [← same, split]
      simp
    · exact served.readers other ((otherReplies other same).symm.trans got)
  · by_cases same : call = other
    · rw [← same] at stillReading
      exact absurd (now.symm.trans stillReading) (by simp)
    · rw [getElem?_setCall_ne (l := l) same] at stillReading
      exact absurd (held.unique (Or.inr reading) (Or.inr stillReading)) same
  · have sameEarlier : earlier.filter (l.setCall call (.replied a reply)).hasReply =
        earlier.filter l.hasReply := by
      refine List.filter_congr fun other member => otherReplies other ?_
      rintro rfl
      exact notEarlier member
    have oldReaders : written.filter l.hasReply = earlier.filter l.hasReply := by
      rw [split]
      simp [List.filter_append, noReply]
    have newReaders : written.filter (l.setCall call (.replied a reply)).hasReply =
        written.filter l.hasReply ++ [call] := by
      rw [oldReaders, split, List.filter_append, sameEarlier]
      simp [nowReply]
    change List.Forall₂ _ (written.filter (l.setCall call (.replied a reply)).hasReply) _
    rw [newReaders]
    refine List.rel_append (served.paired.imp fun reader b replied => ?_)
      (List.Forall₂.cons ⟨reply, now⟩ List.Forall₂.nil)
    obtain ⟨r, replied⟩ := replied
    have different : call ≠ reader := by
      rintro rfl
      rw [hasReply_iff.mpr ⟨b, r, replied⟩] at noReply
      cases noReply
    exact ⟨r, (getElem?_setCall_ne different).trans replied⟩

theorem Served.move {written answered : List Nat} (served : Served l written answered)
    (held : Held l) {m : LinkMove} (step : l.move? m = some after) :
    ∃ answered, Served after (written ++ writers [m]) answered := by
  cases m with
  | arrive =>
      cases step
      simp only [writers, List.append_nil]
      have noReply : l.hasReply l.calls.length = false := by simp [hasReply]
      refine ⟨answered, served.keep l.calls.length rfl rfl
        (fun other different => getElem?_arrive different) noReply (by simp [hasReply]) (by simp)
        fun member => ?_⟩
      exact absurd member (served.fresh (by simp) noReply (by simp))
  | look call =>
      obtain ⟨arriving, rfl⟩ := move?_look step
      simp only [writers, List.append_nil]
      have noReply : l.hasReply call = false := by simp [hasReply, arriving]
      have now := getElem?_setCall_self
        (p := if l.broken then .failed l.brokenError else .waiting) arriving
      refine ⟨answered, served.keep call rfl rfl
        (fun other different => getElem?_setCall_ne different.symm) noReply ?_ ?_ fun member => ?_⟩
      · cases broken : l.broken <;> simp [hasReply, getElem?_setCall_self arriving]
      · rw [now]
        split <;> simp
      · exact absurd member (served.fresh (by simp [arriving]) noReply (by simp [arriving]))
  | hold call =>
      obtain ⟨waiting, -, rfl⟩ := move?_hold step
      simp only [writers, List.append_nil]
      have noReply : l.hasReply call = false := by simp [hasReply, waiting]
      have now := getElem?_setCall_self (p := .holding) waiting
      refine ⟨answered, served.keep call rfl rfl
        (fun other different => getElem?_setCall_ne different.symm) noReply ?_ ?_ fun member => ?_⟩
      · exact (hasReply_congr (l := l.setCall call .holding) rfl).trans (by simp [hasReply, now])
      · exact fun reading => absurd (now.symm.trans reading) (by simp)
      · exact absurd member (served.fresh (by simp [waiting]) noReply (by simp [waiting]))
  | write call =>
      obtain ⟨holding, rfl⟩ := move?_write step
      exact ⟨answered, served.write held holding⟩
  | answer reply =>
      obtain ⟨call, rest, unanswered, rfl⟩ := move?_answer step
      simp only [writers, List.append_nil]
      refine ⟨answered, ?_, served.nodup, served.wrote, served.readers, served.last, served.paired⟩
      rw [served.in_order, unanswered]
      simp
  | read call =>
      obtain ⟨a, reply, rest, reading, replies, rfl⟩ := move?_read step
      simp only [writers, List.append_nil]
      exact ⟨answered ++ [a], served.read held reading replies⟩
  | fail call error =>
      obtain ⟨busy, rfl⟩ := move?_fail step
      simp only [writers, List.append_nil]
      obtain ⟨p, at_⟩ : ∃ p, l.calls[call]? = some p := by
        rcases busy with at_ | at_ <;> exact ⟨_, at_⟩
      have noReply : l.hasReply call = false := by
        rcases busy with at_ | at_ <;> simp [hasReply, at_]
      have now := getElem?_setCall_self (p := .failed error) at_
      refine ⟨answered, served.keep call rfl rfl
        (fun other different => getElem?_setCall_ne different.symm) noReply ?_ ?_
        fun _ => ⟨error, now⟩⟩
      · exact (hasReply_congr (l := l.setCall call (.failed error)) rfl).trans
          (by simp [hasReply, now])
      · exact fun reading => absurd (now.symm.trans reading) (by simp)

/-! ## Runs -/

theorem writers_cons (m : LinkMove) (rest : List LinkMove) :
    writers (m :: rest) = writers [m] ++ writers rest := by
  cases m <;> rfl

theorem run?_cons {m : LinkMove} {rest : List LinkMove}
    (run : l.run? (m :: rest) = some after) :
    ∃ middle, l.move? m = some middle ∧ middle.run? rest = some after :=
  Option.bind_eq_some_iff.mp run

theorem Served.run {written answered : List Nat} (served : Served l written answered)
    (held : Held l) {moves : List LinkMove} (run : l.run? moves = some after) :
    Held after ∧ ∃ answered, Served after (written ++ writers moves) answered := by
  induction moves generalizing l written answered with
  | nil =>
      cases run
      exact ⟨held, answered, by simpa [writers] using served⟩
  | cons m rest ih =>
      obtain ⟨middle, step, run⟩ := run?_cons run
      obtain ⟨answered, served⟩ := served.move held step
      rw [writers_cons, ← List.append_assoc]
      exact ih served (held.move step) run

/-- The calls that wrote a frame before a call did. -/
def earlierWriters (moves : List LinkMove) (call : Nat) : List Nat :=
  (writers moves).takeWhile (· != call)

/-- What stands at a place of a list is paired with what stands at the same place of the other. -/
theorem paired_at {r : Nat → Nat → Prop} {before after firsts : List Nat} {x : Nat}
    (paired : List.Forall₂ r (before ++ x :: after) firsts) :
    ∃ earlier b later, firsts = earlier ++ b :: later ∧ earlier.length = before.length ∧ r x b := by
  induction before generalizing firsts with
  | nil =>
      cases paired with
      | cons related _ => exact ⟨[], _, _, rfl, rfl, related⟩
  | cons y before ih =>
      cases paired with
      | cons _ paired =>
          obtain ⟨earlier, b, later, rfl, length, related⟩ := ih paired
          exact ⟨_ :: earlier, b, later, rfl, by simp [length], related⟩

/-- Elements that are picked from a list are paired one after the other with its first ones. One
of them is paired with itself just when all before it are picked. -/
theorem paired_self_iff {l firsts rest : List Nat} {p : Nat → Bool} {r : Nat → Nat → Prop}
    {a x : Nat} (paired : List.Forall₂ r (l.filter p) firsts)
    (firstsOf : l = firsts ++ rest) (unique : ∀ b, r x b → b = a) (member : x ∈ l)
    (picked : p x = true) : a = x ↔ ∀ y ∈ l.takeWhile (· != x), p y = true := by
  obtain ⟨before, after, split, notBefore⟩ := List.eq_append_cons_of_mem member
  have earlier : l.takeWhile (· != x) = before := by
    rw [split, List.takeWhile_append_of_pos fun y hy => ?_]
    · simp
    · simpa using ne_of_mem_of_not_mem hy notBefore
  rw [split, List.filter_append, List.filter_cons_of_pos picked] at paired
  obtain ⟨firstOnes, b, others, rfl, length, related⟩ := paired_at paired
  obtain rfl := unique b related
  rw [earlier]
  have same : before ++ x :: after = firstOnes ++ b :: (others ++ rest) := by
    rw [← split, firstsOf]
    simp
  rw [← List.length_filter_eq_length_iff, ← length]
  constructor
  · rintro rfl
    have le : firstOnes.length ≤ before.length := length ▸ List.length_filter_le _ _
    rcases Nat.lt_or_eq_of_le le with lt | eq
    · -- the element would stand among those before it
      have at_ := congrArg (·[firstOnes.length]?) same
      simp only [List.getElem?_append_left lt, List.getElem?_append_right (Nat.le_refl _),
        Nat.sub_self, List.getElem?_cons_zero] at at_
      exact absurd (List.mem_of_getElem? at_) notBefore
    · exact eq
  · intro eq
    have tails := (List.append_inj same eq.symm).2
    exact (List.cons.inj tails).1.symm

/-! ## After a failure -/

/-- A link on which nothing can be written any more: it is broken, and no call that has looked
before is on its way. -/
structure Dead (l : Link) : Prop where
  broken : l.broken = true
  none_on_way : ∀ call : Nat, l.calls[call]? ≠ some .waiting ∧ l.calls[call]? ≠ some .holding ∧
    l.calls[call]? ≠ some .reading

/-- Nothing is written on a dead link, and it stays dead. -/
theorem Dead.move (dead : Dead l) {m : LinkMove} (step : l.move? m = some after) :
    Dead after ∧ writers [m] = [] := by
  cases m with
  | arrive =>
      cases step
      refine ⟨⟨dead.broken, fun other => ?_⟩, rfl⟩
      by_cases new : other = l.calls.length
      · simp [new]
      · simpa only [getElem?_arrive new] using dead.none_on_way other
  | look call =>
      obtain ⟨arriving, rfl⟩ := move?_look step
      refine ⟨⟨dead.broken, fun other => ?_⟩, rfl⟩
      by_cases same : call = other
      · subst same
        simp [getElem?_setCall_self arriving, dead.broken]
      · simpa only [getElem?_setCall_ne same] using dead.none_on_way other
  | hold call => exact absurd (move?_hold step).1 (dead.none_on_way call).1
  | write call => exact absurd (move?_write step).1 (dead.none_on_way call).2.1
  | answer reply =>
      obtain ⟨_, _, -, rfl⟩ := move?_answer step
      exact ⟨⟨dead.broken, dead.none_on_way⟩, rfl⟩
  | read call =>
      obtain ⟨_, _, _, reading, -⟩ := move?_read step
      exact absurd reading (dead.none_on_way call).2.2
  | fail call error =>
      rcases (move?_fail step).1 with holding | reading
      · exact absurd holding (dead.none_on_way call).2.1
      · exact absurd reading (dead.none_on_way call).2.2

theorem Dead.run (dead : Dead l) {moves : List LinkMove} (run : l.run? moves = some after) :
    writers moves = [] := by
  induction moves generalizing l with
  | nil => rfl
  | cons m rest ih =>
      obtain ⟨middle, step, run⟩ := run?_cons run
      obtain ⟨dead, none_written⟩ := dead.move step
      rw [writers_cons, none_written, ih dead run]
      rfl

/-- A failure leaves the link dead if no other call waits. -/
theorem dead_of_fail (held : Held l) {error : CrawlError}
    (step : l.move? (.fail call error) = some after)
    (none_waits : ∀ other : Nat, l.calls[other]? ≠ some .waiting) : Dead after := by
  obtain ⟨busy, rfl⟩ := move?_fail step
  refine ⟨rfl, fun other => ?_⟩
  by_cases same : call = other
  · subst same
    rcases busy with at_ | at_ <;>
      simp only [getElem?_setCall_self at_, ne_eq, Option.some.injEq, reduceCtorEq,
        not_false_eq_true, and_self]
  · rw [getElem?_setCall_ne same]
    refine ⟨none_waits other, fun holding => ?_, fun reading => ?_⟩
    · exact same (held.unique busy (Or.inl holding))
    · exact same (held.unique busy (Or.inr reading))

/-- A call that waits for a stream that nobody holds can go on to write its frame. -/
theorem run?_hold_write (waiting : l.calls[call]? = some .waiting) (free : l.holder = none) :
    ∃ last, l.run? [.hold call, .write call] = some last := by
  let held : Link := { l.setCall call .holding with holder := some call }
  have hold : l.move? (.hold call) = some held := by
    simp only [move?, waiting, free]
    rfl
  have holding : held.calls[call]? = some .holding := getElem?_setCall_self waiting
  have write : held.move? (.write call) =
      some { held.setCall call .reading with unanswered := held.unanswered ++ [call] } := by
    simp only [move?, holding]
  exact ⟨_, by rw [run?, hold, Option.bind_some, run?, write, Option.bind_some, run?]⟩

/-- A call that waits when another one fails can go on to write its frame. -/
theorem waiting_writes {error : CrawlError} (step : l.move? (.fail call error) = some after)
    (waiting : l.calls[other]? = some .waiting) :
    ∃ last, after.run? [.hold other, .write other] = some last := by
  obtain ⟨busy, rfl⟩ := move?_fail step
  have different : call ≠ other := by
    rintro rfl
    rcases busy with at_ | at_ <;> exact absurd (at_.symm.trans waiting) (by simp)
  exact run?_hold_write ((getElem?_setCall_ne different).trans waiting) rfl

/-! ## When calls get their own replies -/

/-- Whose reply a call has got, and when it is its own. -/
theorem Served.own_iff {written answered : List Nat} (served : Served l written answered)
    {a : Nat} {r : Reply} (replied : l.calls[call]? = some (.replied a r)) :
    a = call ↔ ∀ earlier ∈ written.takeWhile (· != call), l.hasReply earlier = true := by
  have got : l.hasReply call = true := hasReply_iff.mpr ⟨a, r, replied⟩
  refine paired_self_iff served.paired (served.in_order.trans (List.append_assoc ..)) ?_
    (served.readers call got) got
  rintro b ⟨r', same⟩
  cases replied.symm.trans same
  rfl

/-- All replies that were read are the readers' own ones. -/
def Own (l : Link) : Prop := ∀ (call a : Nat) (r : Reply),
  l.calls[call]? = some (.replied a r) → a = call

/-- No call on the link has failed. -/
structure Unfailed (l : Link) : Prop where
  not_broken : l.broken = false
  none_failed : ∀ (call : Nat) (e : CrawlError), l.calls[call]? ≠ some (.failed e)

/-- As long as no call fails, every call gets its own reply. -/
theorem Served.own {written answered : List Nat} (served : Served l written answered)
    (unfailed : Unfailed l) : Own l := by
  intro call a r replied
  refine (served.own_iff replied).mpr fun earlier member => ?_
  obtain ⟨before, after, split, notBefore⟩ :=
    List.eq_append_cons_of_mem (served.readers call (hasReply_iff.mpr ⟨a, r, replied⟩))
  have takes : written.takeWhile (· != call) = before := by
    rw [split, List.takeWhile_append_of_pos fun y hy => ?_]
    · simp
    · simpa using ne_of_mem_of_not_mem hy notBefore
  rw [takes] at member
  rcases served.wrote earlier (split ▸ List.mem_append_left _ member) with reading | reply | ⟨e, f⟩
  · -- what reads wrote last, and the call wrote after it
    have last := served.last earlier reading
    rw [split, List.getLast?_append_of_ne_nil _ (by simp)] at last
    have nodup := served.nodup
    rw [split, List.nodup_append] at nodup
    exact absurd rfl (nodup.2.2 earlier member earlier (List.mem_of_getLast? last))
  · exact reply
  · exact absurd f (unfailed.none_failed earlier e)

theorem Unfailed.move (unfailed : Unfailed l) {m : LinkMove} (step : l.move? m = some after)
    (notFail : ∀ call error, m ≠ .fail call error) : Unfailed after := by
  -- the call that goes on does not become a failed one, and the others stay as they are
  have set (call : Nat) (p : Progress) (now : ∀ e, p ≠ .failed e) (other : Nat) (e : CrawlError) :
      (l.setCall call p).calls[other]? ≠ some (.failed e) := by
    rw [getElem?_setCall]
    split
    · simpa using now e
    · exact unfailed.none_failed other e
  cases m with
  | arrive =>
      cases step
      refine ⟨unfailed.not_broken, fun other e => ?_⟩
      by_cases new : other = l.calls.length
      · simp [new]
      · simpa only [getElem?_arrive new] using unfailed.none_failed other e
  | look call =>
      obtain ⟨-, rfl⟩ := move?_look step
      rw [unfailed.not_broken]
      exact ⟨unfailed.not_broken, set call _ (by simp)⟩
  | hold call =>
      obtain ⟨-, -, rfl⟩ := move?_hold step
      exact ⟨unfailed.not_broken, set call _ (by simp)⟩
  | write call =>
      obtain ⟨-, rfl⟩ := move?_write step
      exact ⟨unfailed.not_broken, set call _ (by simp)⟩
  | answer reply =>
      obtain ⟨_, _, -, rfl⟩ := move?_answer step
      exact ⟨unfailed.not_broken, unfailed.none_failed⟩
  | read call =>
      obtain ⟨a, reply, _, -, -, rfl⟩ := move?_read step
      exact ⟨unfailed.not_broken, set call _ (by simp)⟩
  | fail call error => exact absurd rfl (notFail call error)

/-- A call that fails gets no reply, and the others keep theirs. -/
theorem Own.fail (own : Own l) {error : CrawlError}
    (step : l.move? (.fail call error) = some after) : Own after := by
  obtain ⟨-, rfl⟩ := move?_fail step
  intro other a r replied
  change (l.setCall call (.failed error)).calls[other]? = _ at replied
  rw [getElem?_setCall] at replied
  split at replied
  · cases replied
  · exact own other a r replied

/-- No reply is read on a dead link. -/
theorem Own.dead (own : Own l) (dead : Dead l) {m : LinkMove} (step : l.move? m = some after) :
    Own after := by
  intro other a r replied
  refine own other a r ?_
  cases m with
  | arrive =>
      cases step
      by_cases new : other = l.calls.length
      · simp [new] at replied
      · rwa [getElem?_arrive new] at replied
  | look call =>
      obtain ⟨-, rfl⟩ := move?_look step
      rw [dead.broken, getElem?_setCall] at replied
      split at replied
      · simp at replied
      · exact replied
  | hold call => exact absurd (move?_hold step).1 (dead.none_on_way call).1
  | write call => exact absurd (move?_write step).1 (dead.none_on_way call).2.1
  | answer reply =>
      obtain ⟨_, _, -, rfl⟩ := move?_answer step
      exact replied
  | read call =>
      obtain ⟨_, _, _, reading, -⟩ := move?_read step
      exact absurd reading (dead.none_on_way call).2.2
  | fail call error =>
      rcases (move?_fail step).1 with holding | reading
      · exact absurd holding (dead.none_on_way call).2.1
      · exact absurd reading (dead.none_on_way call).2.2

/-- Whenever a call fails in a run, no other one waits for the stream. -/
def FailsAlone (l : Link) : List LinkMove → Prop
  | [] => True
  | m :: rest =>
    (∀ call error, m = .fail call error → ∀ other : Nat, l.calls[other]? ≠ some .waiting) ∧
      ∀ next, l.move? m = some next → next.FailsAlone rest

theorem Own.run_dead (own : Own l) (dead : Dead l) {moves : List LinkMove}
    (run : l.run? moves = some after) : Own after := by
  induction moves generalizing l with
  | nil =>
      cases run
      exact own
  | cons m rest ih =>
      obtain ⟨middle, step, run⟩ := run?_cons run
      exact ih (own.dead dead step) (dead.move step).1 run

/-- If no call waits when another one fails, all replies are the readers' own ones. -/
theorem Own.run {written answered : List Nat} (served : Served l written answered)
    (held : Held l) (unfailed : Unfailed l) {moves : List LinkMove} (alone : l.FailsAlone moves)
    (run : l.run? moves = some after) : Own after := by
  induction moves generalizing l written answered with
  | nil =>
      cases run
      exact served.own unfailed
  | cons m rest ih =>
      obtain ⟨middle, step, ran⟩ := run?_cons run
      by_cases fails : ∃ call error, m = .fail call error
      · obtain ⟨call, error, rfl⟩ := fails
        exact ((served.own unfailed).fail step).run_dead
          (dead_of_fail held step (alone.1 call error rfl)) ran
      · obtain ⟨answered, served⟩ := served.move held step
        exact ih served (held.move step)
          (unfailed.move step fun call error same => fails ⟨call, error, same⟩)
          (alone.2 middle step) ran

/-- If no call waits when another one fails, nothing is written after a failure. -/
theorem FailsAlone.silent {before rest : List LinkMove} {error : CrawlError} (held : Held l)
    (alone : l.FailsAlone (before ++ .fail call error :: rest))
    (run : l.run? (before ++ .fail call error :: rest) = some after) : writers rest = [] := by
  induction before generalizing l with
  | nil =>
      obtain ⟨middle, step, run⟩ := run?_cons run
      exact (dead_of_fail held step (alone.1 call error rfl)).run run
  | cons m before ih =>
      obtain ⟨middle, step, run⟩ := run?_cons run
      exact ih (held.move step) (alone.2 middle step) run

/-- **Whose reply a call gets, and when a failure is the last thing on a link.**  In every run of
any number of calls on a new link:

* a call that got a reply got its own just when every call that wrote a frame before it has got a
  reply too;
* after a call fails nothing is written on the link any more, however the run goes on, just when no
  other call was waiting for the stream at that moment;
* if no other call waits whenever one fails, then every reply is its reader's own, and nothing is
  written after a failure. -/
theorem reply_own_iff (number : Nat) (peer : NodeInfo) (endpoint : Endpoint)
    (moves : List LinkMove) (l : Link)
    (run : (new number peer endpoint).run? moves = some l) :
    (∀ (call a : Nat) (r : Reply), l.calls[call]? = some (.replied a r) →
      (a = call ↔ ∀ earlier ∈ earlierWriters moves call, l.hasReply earlier = true)) ∧
    (∀ (call : Nat) (error : CrawlError) (after : Link), l.move? (.fail call error) = some after →
      ((∀ rest last, after.run? rest = some last → writers rest = []) ↔
        ∀ other : Nat, l.calls[other]? ≠ some .waiting)) ∧
    ((new number peer endpoint).FailsAlone moves →
      (∀ (call a : Nat) (r : Reply), l.calls[call]? = some (.replied a r) → a = call) ∧
      ∀ before call error rest, moves = before ++ .fail call error :: rest →
        writers rest = []) := by
  have heldNew := held_new number peer endpoint
  have servedNew := served_new number peer endpoint
  obtain ⟨held, answered, served⟩ := servedNew.run heldNew run
  rw [List.nil_append] at served
  refine ⟨fun call a r replied => served.own_iff replied, fun call error after step =>
    ⟨fun silent other waits => ?_, fun none_waits rest last run => ?_⟩, fun alone => ⟨?_, ?_⟩⟩
  · obtain ⟨last, run⟩ := waiting_writes step waits
    exact absurd (silent _ last run) (by simp [writers])
  · exact (dead_of_fail held step none_waits).run run
  · exact Own.run servedNew heldNew ⟨rfl, by simp [new]⟩ alone run
  · rintro before call error rest rfl
    exact alone.silent heldNew run

/-- Two calls, of which the second one waits when the first one times out between its frame and
the reply to it. -/
def lateReply : List LinkMove :=
  [.arrive, .arrive, .look 0, .look 1, .hold 0, .write 0, .fail 0 (.transport "timed out"),
    .hold 1, .write 1, .answer default, .read 1]

theorem reply_own_iff_late_reply :
    ∃ l, (new 0 default (.node 1)).run? lateReply = some l ∧
      (∀ (call a : Nat) (r : Reply), l.calls[call]? = some (.replied a r) →
        (a = call ↔ ∀ earlier ∈ earlierWriters lateReply call, l.hasReply earlier = true)) ∧
      (∀ (call : Nat) (error : CrawlError) (after : Link),
        l.move? (.fail call error) = some after →
          ((∀ rest last, after.run? rest = some last → writers rest = []) ↔
            ∀ other : Nat, l.calls[other]? ≠ some .waiting)) ∧
      ((new 0 default (.node 1)).FailsAlone lateReply →
        (∀ (call a : Nat) (r : Reply), l.calls[call]? = some (.replied a r) → a = call) ∧
        ∀ before call error rest, lateReply = before ++ .fail call error :: rest →
          writers rest = []) :=
  ⟨_, rfl, reply_own_iff 0 default (.node 1) lateReply _ rfl⟩

/-- Not every call that gets a reply gets its own, and a call may write after another one has
failed. -/
theorem late_reply_crosses :
    ¬ (∀ moves l, (new 0 default (.node 1)).run? moves = some l →
        ∀ (call a : Nat) (r : Reply), l.calls[call]? = some (.replied a r) → a = call) ∧
    ¬ (∀ before call error rest l,
        (new 0 default (.node 1)).run? (before ++ .fail call error :: rest) = some l →
          writers rest = []) := by
  refine ⟨fun own => ?_, fun silent => ?_⟩
  · exact absurd (own lateReply _ rfl 1 0 default rfl) (by decide)
  · have none_written :=
      silent (lateReply.take 6) 0 (.transport "timed out") (lateReply.drop 7) _ rfl
    exact absurd none_written (by decide)

end CrawlMesh.Link
