/-
# Where a stream ends

A read finds no value just where fewer than four bytes are left (`read_eq_none`), and gives one just where
the frame of this value comes next (`read_eq_some`).  So a reader that is given values and then told that
there are no more has read frames that stand for these values, and after them nothing or the beginning of a
length (`reads_end_iff`).

A stream that is cut within the body of a frame is told from one that has ended, by an error (`read_cut`);
one that is cut within a length is not.  What is left over is lost without a word: the frames are the whole
stream only if it does not end there (`ends_between_frames_iff`, `length_cut_is_end`).
-/
import CrawlMesh.Proofs.Mesh.Frames

namespace CrawlMesh

set_option autoImplicit false

namespace Frame

variable {α : Type} {f : Json → Option α} {s rest : List UInt8}

/-! ## One read -/

/-- Four bytes are those of the length that they stand for. -/
theorem lengthBytes_lengthOf (a b c d : UInt8) : lengthBytes (lengthOf a b c d) = [a, b, c, d] := by
  have aLt := a.toNat_lt
  have bLt := b.toNat_lt
  have cLt := c.toNat_lt
  have dLt := d.toNat_lt
  have byte (n : Nat) : n.toUInt8.toNat = n % 256 := UInt8.toNat_ofNat'
  simp only [lengthBytes, List.cons.injEq, and_true, ← UInt8.toNat_inj, byte, lengthOf]
  omega

theorem length_lengthBytes (n : Nat) : (lengthBytes n).length = 4 := rfl

/-- There is no value just where no length is left. -/
theorem read_eq_none : read f s = (.ok none, rest) ↔ s.length < 4 ∧ rest = [] := by
  unfold read
  split
  · rename_i a b c d later
    have long : ¬ (a :: b :: c :: d :: later).length < 4 := by simp
    simp only [long, false_and, iff_false]
    split
    · simp
    · split
      · simp
      · cases valueOf f (later.take (lengthOf a b c d)) <;> simp [Except.map]
  · rename_i short
    have few : s.length < 4 := by
      match s, short with
      | [], _ | [_], _ | [_, _], _ | [_, _, _], _ => simp
      | a :: b :: c :: d :: later, short => exact absurd rfl (short a b c d later)
    simp [few, eq_comm]

/-- A length and as many bytes are a frame, and what is left follows it. -/
theorem bytes_take {a b c d : UInt8} {later : List UInt8}
    (present : lengthOf a b c d ≤ later.length) :
    (Frame.mk ⟨(later.take (lengthOf a b c d)).toArray⟩).bytes ++ later.drop (lengthOf a b c d) =
      a :: b :: c :: d :: later := by
  have size : (later.take (lengthOf a b c d)).toArray.size = lengthOf a b c d :=
    List.length_take_of_le present
  rw [bytes, ByteArray.size, size, lengthBytes_lengthOf, List.append_assoc, List.toList_toArray,
    List.take_append_drop]
  rfl

/-- There is a value just where a frame comes that stands for it. -/
theorem read_eq_some {x : α} : read f s = (.ok (some x), rest) ↔
    ∃ frame, StandsFor f frame x ∧ s = frame.bytes ++ rest := by
  constructor
  · intro found
    unfold read at found
    split at found
    · rename_i a b c d later
      dsimp only at found
      split at found
      · cases found
      · split at found
        · cases found
        · rename_i short present
          have present := Nat.le_of_not_lt present
          obtain ⟨value, rfl⟩ := Prod.mk.inj found
          refine ⟨⟨⟨(later.take (lengthOf a b c d)).toArray⟩⟩, ⟨?_, ?_⟩, (bytes_take present).symm⟩
          · show (later.take (lengthOf a b c d)).length ≤ maxLength
            rw [List.length_take_of_le present]
            exact Nat.le_of_not_lt short
          · cases stands : valueOf f (later.take (lengthOf a b c d)) with
            | error e =>
                rw [stands] at value
                cases value
            | ok y =>
                rw [stands] at value
                cases value
                rfl
    · cases found
  · rintro ⟨frame, stands, rfl⟩
    exact read_standsFor stands rest

/-- Where a frame is cut behind its length, a piece of its body is left. -/
theorem piece_of_cut {cut : Frame} {part more : List UInt8} (whole : part ++ more = cut.bytes)
    (long : 4 ≤ part.length) : ∃ piece, part = lengthBytes cut.body.size ++ piece ∧
      cut.body.size = piece.length + more.length := by
  have body_length : cut.body.data.toList.length = cut.body.size := rfl
  rcases List.append_eq_append_iff.mp whole with ⟨l, length, rest⟩ | ⟨piece, same, body⟩
  · have count := congrArg List.length length
    rw [length_lengthBytes, List.length_append] at count
    obtain rfl : l = [] := List.eq_nil_of_length_eq_zero (by omega)
    refine ⟨[], by simpa using length.symm, ?_⟩
    rw [← body_length, rest]
    simp
  · exact ⟨piece, same, by rw [← body_length, body, List.length_append]⟩

/-- Of a frame that is cut off a read finds nothing, or an error if the length is there. -/
theorem read_cut {cut : Frame} {part : List UInt8} (fits : cut.body.size ≤ maxLength)
    (begins : part <+: cut.bytes) (proper : part ≠ cut.bytes) : read f part =
      (if part.length < 4 then .ok none else .error (.transport "early eof"), []) := by
  split
  · rename_i few
    exact read_eq_none.mpr ⟨few, rfl⟩
  · rename_i long
    obtain ⟨more, whole⟩ := begins
    have some_more : more ≠ [] := by
      rintro rfl
      exact proper (by simpa using whole)
    obtain ⟨piece, rfl, size⟩ := piece_of_cut whole (Nat.le_of_not_lt long)
    have bound : cut.body.size < 2 ^ 32 := Nat.lt_of_le_of_lt fits (by decide)
    have missing : piece.length < cut.body.size := by
      have positive := List.length_pos_of_ne_nil some_more
      omega
    show read f (_ :: _ :: _ :: _ :: piece) = _
    rw [read, lengthOf_lengthBytes bound, if_neg (Nat.not_lt.mpr fits), if_pos missing]

/-! ## Reads up to the end -/

theorem reads_succ {n : Nat} {answer : Outcome (Option α)} {answers : List (Outcome (Option α))} :
    reads f (n + 1) s = (answer :: answers, rest) ↔
      ∃ left, read f s = (answer, left) ∧ reads f n left = (answers, rest) := by
  cases first : read f s with
  | mk own left =>
      simp only [reads, first, Prod.mk.injEq, List.cons.injEq]
      constructor
      · rintro ⟨⟨rfl, others⟩, last⟩
        exact ⟨left, ⟨rfl, rfl⟩, Prod.ext others last⟩
      · rintro ⟨_, ⟨rfl, rfl⟩, others⟩
        rw [others]
        exact ⟨⟨rfl, rfl⟩, rfl⟩

/-- **A reader that is told that there are no more values has read the frames of those that it was given,
and after them nothing or the beginning of a length.** -/
theorem reads_end_iff {values : List α} :
    reads f (values.length + 1) s = (values.map (fun x => .ok (some x)) ++ [.ok none], rest) ↔
      rest = [] ∧ ∃ frames tail, List.Forall₂ (StandsFor f) frames values ∧
        s = join frames ++ tail ∧ tail.length < 4 := by
  constructor
  · intro ended
    induction values generalizing s with
    | nil =>
        obtain ⟨left, none_left, same⟩ := reads_succ.mp ended
        obtain ⟨few, rfl⟩ := read_eq_none.mp none_left
        cases same
        exact ⟨rfl, [], s, .nil, rfl, few⟩
    | cons x values ih =>
        obtain ⟨left, first, others⟩ := reads_succ.mp ended
        obtain ⟨frame, stands, rfl⟩ := read_eq_some.mp first
        obtain ⟨all_read, frames, tail, stand, rfl, few⟩ := ih others
        refine ⟨all_read, frame :: frames, tail, .cons stands stand, ?_, few⟩
        rw [← List.append_assoc]
        rfl
  · rintro ⟨rfl, frames, tail, stand, rfl, few⟩
    have none_left : read f tail = (.ok none, []) := read_eq_none.mpr ⟨few, rfl⟩
    rw [reads_join stand]
    simp only [reads, none_left]

/-- Frames that stand for the same values leave the same behind them. -/
theorem tail_eq_nil {frames whole : List Frame} {values : List α} {tail : List UInt8}
    (stand : List.Forall₂ (StandsFor f) frames values)
    (standToo : List.Forall₂ (StandsFor f) whole values) (same : join frames ++ tail = join whole) :
    tail = [] := by
  have left := reads_join stand 0 tail
  have nothing := reads_join standToo 0 []
  rw [List.append_nil, ← same, left] at nothing
  exact congrArg Prod.snd nothing

/-- **When the end of a stream is one between frames.** Of any stream

* reads give values and then none just if it consists of frames that stand for these values and fewer
  than four bytes behind them;
* these frames are all of it exactly if there are no such bytes;
* if it ends within a frame, the read that comes to its end finds an error if it ends within the body, and
  none, as behind the last frame, if it ends within the length. -/
theorem ends_between_frames_iff (f : Json → Option α) :
    (∀ s values rest, reads f (values.length + 1) s =
        (values.map (fun x => .ok (some x)) ++ [.ok none], rest) ↔
      rest = [] ∧ ∃ frames tail, List.Forall₂ (StandsFor f) frames values ∧
        s = join frames ++ tail ∧ tail.length < 4) ∧
    (∀ frames values tail, List.Forall₂ (StandsFor f) frames values →
      ((∃ whole, List.Forall₂ (StandsFor f) whole values ∧ join frames ++ tail = join whole) ↔
        tail = [])) ∧
    ∀ frames values (cut : Frame) part, List.Forall₂ (StandsFor f) frames values →
      cut.body.size ≤ maxLength → part <+: cut.bytes → part ≠ cut.bytes →
      reads f (values.length + 1) (join frames ++ part) =
        (values.map (fun x => .ok (some x)) ++
          [if part.length < 4 then .ok none else .error (.transport "early eof")], []) := by
  refine ⟨fun s values rest => reads_end_iff, fun frames values tail stand => ?_, ?_⟩
  · constructor
    · rintro ⟨whole, standToo, same⟩
      exact tail_eq_nil stand standToo same
    · rintro rfl
      exact ⟨frames, stand, List.append_nil _⟩
  · intro frames values cut part stand fits begins proper
    rw [reads_join stand]
    simp only [reads, read_cut fits begins proper]

/-- A value, and a second one that is cut within its length and within its body. -/
theorem ends_between_frames_iff_cut_twice :
    List.Forall₂ (StandsFor some) [frameOf id .null] [Json.null] ∧
      reads some 2 [0, 0, 0, 4, 0x6E, 0x75, 0x6C, 0x6C, 0, 0] = ([.ok (some .null), .ok none], []) ∧
      (¬ ∃ whole, List.Forall₂ (StandsFor some) whole [Json.null] ∧
        [0, 0, 0, 4, 0x6E, 0x75, 0x6C, 0x6C, 0, 0] = join whole) ∧
      reads some 2 [0, 0, 0, 4, 0x6E, 0x75, 0x6C, 0x6C, 0, 0, 0, 4, 0x6E] =
        ([.ok (some .null), .error (.transport "early eof")], []) := by
  obtain ⟨-, whole, cut⟩ := ends_between_frames_iff (some : Json → Option Json)
  have fits : Fits (id Json.null) := by decide
  have stand : List.Forall₂ (StandsFor some) [frameOf id .null] [Json.null] :=
    .cons ⟨fits, decodes_of_exact Json.every_null (by decide) rfl fits⟩ .nil
  have written : join [frameOf id Json.null] = [0, 0, 0, 4, 0x6E, 0x75, 0x6C, 0x6C] := by decide
  have length := cut _ _ (frameOf id .null) [0, 0] stand fits (by decide) (by decide)
  have body := cut _ _ (frameOf id .null) [0, 0, 0, 4, 0x6E] stand fits (by decide) (by decide)
  have left := whole _ _ [0, 0] stand
  rw [written] at length body left
  refine ⟨stand, length, fun all => ?_, body⟩
  cases left.mp all

/-- **Three bytes of a length count as the end of a stream**, though they are no frames. -/
theorem length_cut_is_end :
    reads (some : Json → Option Json) 1 [0, 0, 0] = ([.ok none], []) ∧
      ¬ ∃ frames, List.Forall₂ (StandsFor (some : Json → Option Json)) frames [] ∧
        [0, 0, 0] = join frames := by
  refine ⟨rfl, ?_⟩
  rintro ⟨frames, stand, whole⟩
  cases stand
  cases whole

end Frame

end CrawlMesh
