/-
# Frames tell where they end

A stream is written value by value (`Frame.writeAll`): a value whose body fits is added as one frame, and a
longer one is refused and adds nothing.  A frame begins with its length, which is read back
(`lengthOf_lengthBytes`), so that exactly its body is taken from whatever follows (`read_bytes`).  By
induction on the frames, as many reads as there are give the values that they stand for (`reads_join`): of
what was written the values that fit, in their order, with what follows them left (`frames_delimit`).
-/
import CrawlMesh.Mesh.Frame
import CrawlMesh.Proofs.Mesh.Messages
import Mathlib.Data.List.Forall2

namespace CrawlMesh

set_option autoImplicit false

namespace Frame

variable {α : Type} {f : Json → Option α}

/-! ## Writing -/

/-- The body of a value's frame. -/
def bodyOf (j : Json) : ByteArray := j.render.toUTF8

/-- Is the body of a value short enough for a frame? -/
def Fits (j : Json) : Prop := (bodyOf j).size ≤ maxLength

instance (j : Json) : Decidable (Fits j) := inferInstanceAs (Decidable (_ ≤ _))

/-- The error of a value whose body is too long. -/
def tooLong (j : Json) : CrawlError :=
  .transport s!"frame of {(bodyOf j).size} bytes exceeds the {maxLength} byte limit"

/-- Write a value at the end of a stream. -/
def write (stream : List UInt8) (j : Json) : Outcome Unit × List UInt8 :=
  match ofJson j with
  | .ok frame => (.ok (), stream ++ frame.bytes)
  | .error e => (.error e, stream)

/-- Write values one after the other. -/
def writeAll (stream : List UInt8) : List Json → List (Outcome Unit) × List UInt8
  | [] => ([], stream)
  | j :: rest =>
    let (result, stream) := write stream j
    let (results, stream) := writeAll stream rest
    (result :: results, stream)

/-- What a value adds to a stream: its frame, or nothing if it does not fit. -/
def added (j : Json) : List UInt8 := if Fits j then (Frame.mk (bodyOf j)).bytes else []

/-- How writing a value ends. -/
def writeResult (j : Json) : Outcome Unit := if Fits j then .ok () else .error (tooLong j)

theorem write_eq (stream : List UInt8) (j : Json) : write stream j = (writeResult j, stream ++ added j) := by
  by_cases fits : Fits j
  · have short : ¬ (bodyOf j).size > maxLength := Nat.not_lt.mpr fits
    have frame : ofJson j = .ok ⟨bodyOf j⟩ := if_neg short
    rw [write, frame, writeResult, added, if_pos fits, if_pos fits]
  · have long : (bodyOf j).size > maxLength := Nat.lt_of_not_le fits
    have refused : ofJson j = .error (tooLong j) := if_pos long
    rw [write, refused, writeResult, added, if_neg fits, if_neg fits, List.append_nil]

theorem writeAll_eq (stream : List UInt8) (values : List Json) :
    writeAll stream values = (values.map writeResult, stream ++ values.flatMap added) := by
  induction values generalizing stream with
  | nil => simp [writeAll]
  | cons j rest ih => simp [writeAll, write_eq, ih]

/-! ## Reading -/

/-- A length is read back from its four bytes. -/
theorem lengthOf_lengthBytes {n : Nat} (bound : n < 2 ^ 32) :
    lengthOf (n / 0x1000000).toUInt8 (n / 0x10000).toUInt8 (n / 0x100).toUInt8 n.toUInt8 = n := by
  have first : (n / 0x1000000).toUInt8.toNat = n / 0x1000000 % 256 := UInt8.toNat_ofNat'
  have second : (n / 0x10000).toUInt8.toNat = n / 0x10000 % 256 := UInt8.toNat_ofNat'
  have third : (n / 0x100).toUInt8.toNat = n / 0x100 % 256 := UInt8.toNat_ofNat'
  have last : n.toUInt8.toNat = n % 256 := UInt8.toNat_ofNat'
  rw [lengthOf, first, second, third, last]
  omega

/-- Of a stream that begins with a frame, its body is read, and what follows it is left. -/
theorem read_bytes (frame : Frame) (fits : frame.body.size ≤ maxLength) (rest : List UInt8) :
    read f (frame.bytes ++ rest) = ((valueOf f frame.body.data.toList).map some, rest) := by
  have bound : frame.body.size < 2 ^ 32 := Nat.lt_of_le_of_lt fits (by decide)
  have size : frame.body.data.toList.length = frame.body.size := rfl
  rw [bytes, lengthBytes, List.append_assoc]
  show read f (_ :: _ :: _ :: _ :: (frame.body.data.toList ++ rest)) = _
  rw [read, lengthOf_lengthBytes bound]
  have short : ¬ frame.body.size > maxLength := Nat.not_lt.mpr fits
  have present : ¬ (frame.body.data.toList ++ rest).length < frame.body.size := by
    rw [List.length_append, size]
    omega
  rw [if_neg short, if_neg present, ← size, List.take_left, List.drop_left]

theorem read_nil : read f [] = (.ok none, []) := rfl

/-- Read a number of times. -/
def reads (f : Json → Option α) : Nat → List UInt8 → List (Outcome (Option α)) × List UInt8
  | 0, s => ([], s)
  | n + 1, s =>
    let (x, s) := read f s
    let (xs, s) := reads f n s
    (x :: xs, s)

/-- A stream that has ended has no further value, however often it is read. -/
theorem reads_nil (n : Nat) : reads f n [] = (List.replicate n (.ok none), []) := by
  induction n with
  | zero => rfl
  | succ n ih => simp only [reads, read_nil, ih, List.replicate_succ]

theorem readAll_of_read {s rest : List UInt8} {x : α} (value : read f s = (.ok (some x), rest)) :
    readAll f s = (x :: (readAll f rest).1, (readAll f rest).2) := by
  rw [readAll]
  split
  · rename_i ended
    rw [value] at ended
    cases ended
  · rename_i failed
    rw [value] at failed
    cases failed
  · rename_i found
    rw [value] at found
    cases found
    rfl

theorem readAll_nil : readAll f [] = ([], .ok (), []) := by
  rw [readAll]
  rfl

/-! ## Frames one after the other -/

/-- A frame stands for a value if its body is short enough and is read as this value. -/
def StandsFor (f : Json → Option α) (frame : Frame) (x : α) : Prop :=
  frame.body.size ≤ maxLength ∧ valueOf f frame.body.data.toList = .ok x

/-- The bytes of frames one after the other. -/
def join (frames : List Frame) : List UInt8 := frames.flatMap bytes

theorem read_standsFor {frame : Frame} {x : α} (stands : StandsFor f frame x) (rest : List UInt8) :
    read f (frame.bytes ++ rest) = (.ok (some x), rest) := by
  rw [read_bytes frame stands.1, stands.2]
  rfl

/-- Reads that begin with frames give the values that these stand for and go on behind them. -/
theorem reads_join {frames : List Frame} {values : List α}
    (stand : List.Forall₂ (StandsFor f) frames values) (n : Nat) (rest : List UInt8) :
    reads f (values.length + n) (join frames ++ rest) =
      (values.map (fun x => .ok (some x)) ++ (reads f n rest).1, (reads f n rest).2) := by
  induction stand with
  | nil => simp [join]
  | @cons frame x frames values stands _ ih =>
      have value := read_standsFor stands (join frames ++ rest)
      rw [← List.append_assoc] at value
      have joined : join (frame :: frames) ++ rest = frame.bytes ++ join frames ++ rest := rfl
      rw [List.length_cons, Nat.add_right_comm, reads, joined, value]
      simp only [ih, List.map_cons, List.cons_append]

/-- Up to the end of a stream, its frames give the values that they stand for. -/
theorem readAll_join {frames : List Frame} {values : List α}
    (stand : List.Forall₂ (StandsFor f) frames values) (rest : List UInt8) :
    readAll f (join frames ++ rest) = (values ++ (readAll f rest).1, (readAll f rest).2) := by
  induction stand with
  | nil => rfl
  | @cons frame x frames values stands _ ih =>
      have value := read_standsFor stands (join frames ++ rest)
      rw [← List.append_assoc] at value
      have joined : join (frame :: frames) ++ rest = frame.bytes ++ join frames ++ rest := rfl
      rw [joined, readAll_of_read value, ih, List.cons_append]

/-! ## What bodies stand for -/

/-- Does the frame of a value, if there is one, stand for the value? -/
def Decodes (toJson : α → Json) (f : Json → Option α) (x : α) : Prop :=
  Fits (toJson x) → valueOf f (bodyOf (toJson x)).data.toList = .ok x

theorem fromUTF8?_toUTF8 (s : String) : String.fromUTF8? s.toUTF8 = some s :=
  (dif_pos s.isValidUTF8).trans rfl

/-- A value that is read back from its JSON value is read back from its body. -/
theorem decodes_of_exact {toJson : α → Json} {x : α} (exact : (toJson x).Exact)
    (shallow : (toJson x).nesting ≤ Json.maxNesting) (value : f (toJson x) = some x) :
    Decodes toJson f x := by
  intro _
  have body : (⟨(bodyOf (toJson x)).data.toList.toArray⟩ : ByteArray) = (toJson x).render.toUTF8 := by
    rw [Array.toArray_toList]
    rfl
  rw [valueOf, body, fromUTF8?_toUTF8, Option.bind_some, Json.parse?_render exact, if_pos shallow,
    Option.bind_some, value]

/-- No text has more characters than bytes. -/
theorem length_le_size (cs : List Char) : cs.length ≤ (String.ofList cs).toUTF8.size := by
  induction cs with
  | nil => exact Nat.le_refl 0
  | cons c cs ih =>
      have split : (String.ofList (c :: cs)).utf8ByteSize =
          c.utf8Size + (String.ofList cs).utf8ByteSize := by
        rw [← List.singleton_append, String.ofList_append, String.utf8ByteSize_append,
          ← String.singleton_eq_ofList, String.utf8ByteSize_singleton]
      have some := c.utf8Size_pos
      show (c :: cs).length ≤ (String.ofList (c :: cs)).utf8ByteSize
      have others : cs.length ≤ (String.ofList cs).utf8ByteSize := ih
      rw [split, List.length_cons]
      omega

/-- A text as long as the longest body does not fit, for its quotation marks. -/
theorem not_fits_text {s : String} (long : maxLength ≤ s.length) : ¬ Fits (.text s) := by
  have size : ((Json.text s).render.toList).length ≤ (bodyOf (.text s)).size := by
    have bytes := length_le_size (Json.text s).render.toList
    rwa [String.ofList_toList] at bytes
  have escaped := Json.length_le_flatMap_escaped s.toList
  rw [Json.toList_render, Json.chars, Json.quoted, List.length_cons, List.length_append] at size
  rw [String.length_toList] at escaped
  show ¬ (bodyOf (.text s)).size ≤ maxLength
  omega

/-! ## Frames of values -/

section

variable {toJson : α → Json} {xs : List α}

/-- The values whose frames are written. -/
def kept (toJson : α → Json) (xs : List α) : List α := xs.filter fun x => Fits (toJson x)

/-- The frame of a value that fits. -/
def frameOf (toJson : α → Json) (x : α) : Frame := ⟨bodyOf (toJson x)⟩

theorem kept_cons_of_fits {x : α} (fits : Fits (toJson x)) (xs : List α) :
    kept toJson (x :: xs) = x :: kept toJson xs :=
  List.filter_cons_of_pos (by simpa using fits)

theorem kept_cons_of_long {x : α} (long : ¬ Fits (toJson x)) (xs : List α) :
    kept toJson (x :: xs) = kept toJson xs :=
  List.filter_cons_of_neg (by simpa using long)

/-- What values add to a stream are the frames of those that fit. -/
theorem flatMap_added (toJson : α → Json) (xs : List α) :
    xs.flatMap (added ∘ toJson) = join ((kept toJson xs).map (frameOf toJson)) := by
  induction xs with
  | nil => rfl
  | cons x xs ih =>
      rw [List.flatMap_cons, ih, Function.comp_apply]
      by_cases fits : Fits (toJson x)
      · rw [kept_cons_of_fits fits, added, if_pos fits]
        rfl
      · rw [kept_cons_of_long fits, added, if_neg fits, List.nil_append]

theorem standFor_kept (decodes : ∀ x ∈ xs, Decodes toJson f x) :
    List.Forall₂ (StandsFor f) ((kept toJson xs).map (frameOf toJson)) (kept toJson xs) := by
  rw [List.forall₂_map_left_iff, List.forall₂_same]
  intro x member
  obtain ⟨member, fits⟩ := List.mem_filter.mp member
  have fits : Fits (toJson x) := by simpa using fits
  exact ⟨fits, decodes x member fits⟩

/-- Reads that begin with the frames of values give these values and go on behind them. -/
theorem reads_frames (decodes : ∀ x ∈ xs, Decodes toJson f x) (n : Nat) (rest : List UInt8) :
    reads f ((kept toJson xs).length + n) (xs.flatMap (added ∘ toJson) ++ rest) =
      ((kept toJson xs).map (fun x => .ok (some x)) ++ (reads f n rest).1, (reads f n rest).2) := by
  rw [flatMap_added]
  exact reads_join (standFor_kept decodes) n rest

/-- Up to the end of their stream, the frames of values give these values. -/
theorem readAll_frames (decodes : ∀ x ∈ xs, Decodes toJson f x) :
    readAll f (xs.flatMap (added ∘ toJson)) = (kept toJson xs, .ok (), []) := by
  have all := readAll_join (standFor_kept decodes) []
  rwa [← flatMap_added, List.append_nil, readAll_nil, List.append_nil] at all

theorem stream_eq (toJson : α → Json) (xs : List α) :
    (writeAll [] (xs.map toJson)).2 = xs.flatMap (added ∘ toJson) := by
  rw [writeAll_eq, List.nil_append, List.flatMap_map]
  rfl

/-- **Frames tell where they end.**  Values are written one after the other; those whose bodies are too
long are refused and add nothing to the stream.  If the others are what their bodies stand for, as many
reads as there are of them give them in their order and leave exactly what follows their frames.  Where
nothing follows, every further read finds the end of the stream. -/
theorem frames_delimit (decodes : ∀ x ∈ xs, Decodes toJson f x) :
    (writeAll [] (xs.map toJson)).1 = xs.map (fun x =>
      if Fits (toJson x) then .ok () else .error (tooLong (toJson x))) ∧
    (∀ rest, reads f (kept toJson xs).length ((writeAll [] (xs.map toJson)).2 ++ rest) =
      ((kept toJson xs).map fun x => .ok (some x), rest)) ∧
    (∀ n, reads f ((kept toJson xs).length + n) (writeAll [] (xs.map toJson)).2 =
      ((kept toJson xs).map (fun x => .ok (some x)) ++ List.replicate n (.ok none), [])) ∧
    readAll f (writeAll [] (xs.map toJson)).2 = (kept toJson xs, .ok (), []) := by
  have stream := stream_eq toJson xs
  refine ⟨?_, ?_, ?_, ?_⟩
  · rw [writeAll_eq, List.map_map]
    rfl
  · intro rest
    have all := reads_frames decodes 0 rest
    rw [stream]
    simpa [reads] using all
  · intro n
    have all := reads_frames decodes n []
    rwa [List.append_nil, reads_nil, ← stream] at all
  · rw [stream]
    exact readAll_frames decodes

end

/-- Two values with a text between them that is too long for a frame. -/
def parted : List Json :=
  [.list [.bool true, .bool false], .text (String.ofList (List.replicate maxLength 'a')), .null]

theorem frames_delimit_parted :
    (∀ x ∈ parted, Decodes id some x) ∧
      reads some 2 ((writeAll [] parted).2 ++ [0, 1, 2]) =
        ([.ok (some (.list [.bool true, .bool false])), .ok (some .null)], [0, 1, 2]) := by
  have decodes : ∀ x ∈ parted, Decodes id some x := by
    simp only [parted, List.forall_mem_cons]
    refine ⟨?_, ?_, ?_, List.forall_mem_nil _⟩
    · exact decodes_of_exact (by simp [Json.Exact]) (by decide) rfl
    · exact decodes_of_exact (Json.every_text _) (by decide) rfl
    · exact decodes_of_exact Json.every_null (by decide) rfl
  have first : Fits (id (Json.list [.bool true, .bool false])) := by decide
  have last : Fits (id Json.null) := by decide
  -- a text of this length cannot be written out here, only its length is known
  have long : ¬ Fits (id (Json.text (String.ofList (List.replicate maxLength 'a')))) :=
    not_fits_text (by simp)
  have written : kept id parted = [.list [.bool true, .bool false], .null] := by
    rw [parted, kept_cons_of_fits first, kept_cons_of_long long, kept_cons_of_fits last]
    rfl
  have reads := (frames_delimit decodes).2.1 [0, 1, 2]
  rw [written, List.map_id] at reads
  exact ⟨decodes, reads⟩

/-- Calls that are carried without loss arrive in the order in which they were written. -/
theorem readAll_calls {calls : List Envelope} (portable : ∀ e ∈ calls, e.call.Portable)
    (shallow : ∀ e ∈ calls, e.toJson.nesting ≤ Json.maxNesting) (fits : ∀ e ∈ calls, Fits e.toJson) :
    readAll Envelope.ofJson? (writeAll [] (calls.map Envelope.toJson)).2 = (calls, .ok (), []) := by
  have decodes : ∀ e ∈ calls, Decodes Envelope.toJson Envelope.ofJson? e := by
    intro e member
    have value : Envelope.ofJson? e.toJson = some e := by
      have read := Envelope.ofJson?_json .asWritten (portable e member)
      rwa [e.call.reordered_asWritten] at read
    exact decodes_of_exact (Envelope.exact_toJson (portable e member)) (shallow e member) value
  have all : kept Envelope.toJson calls = calls :=
    List.filter_eq_self.mpr fun e member => by simpa using fits e member
  rw [stream_eq, readAll_frames decodes, all]

end Frame

end CrawlMesh
