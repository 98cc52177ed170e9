/-
# Frames

How values travel over a stream: the length of the body in four bytes, high one first, and the
body, which is JSON text. No body may be longer than the limit. A stream may end between frames,
or within a length.
-/
import CrawlMesh.Error
import CrawlMesh.Json.Parser
import CrawlMesh.Json.Printer

namespace CrawlMesh

set_option autoImplicit false

/-- A frame, known by its body. -/
structure Frame where
  body : ByteArray

namespace Frame

/-- The longest body. -/
def maxLength : Nat := 16 * 1024 * 1024

/-- A length as four bytes. -/
def lengthBytes (n : Nat) : List UInt8 :=
  [(n / 0x1000000).toUInt8, (n / 0x10000).toUInt8, (n / 0x100).toUInt8, n.toUInt8]

/-- The length that four bytes stand for. -/
def lengthOf (a b c d : UInt8) : Nat :=
  a.toNat * 0x1000000 + b.toNat * 0x10000 + c.toNat * 0x100 + d.toNat

/-- The frame of a value. -/
def ofJson (j : Json) : Outcome Frame :=
  let body := j.render.toUTF8
  if body.size > maxLength then
    .error (.transport s!"frame of {body.size} bytes exceeds the {maxLength} byte limit")
  else .ok ⟨body⟩

/-- How many bytes a frame is. -/
def size (f : Frame) : Nat := 4 + f.body.size

/-- The bytes of a frame. -/
def bytes (f : Frame) : List UInt8 := lengthBytes f.body.size ++ f.body.data.toList

/-! ## Reading -/

def unreadable : CrawlError := .transport "serialization failed"

/-- The value that the bytes of a body stand for. -/
def valueOf {α : Type} (read : Json → Option α) (body : List UInt8) : Outcome α :=
  match ((String.fromUTF8? ⟨body.toArray⟩).bind Json.parse?).bind read with
  | some x => .ok x
  | none => .error unreadable

/-- Read a value from a stream, and what is left of it. There is none where the stream ends. -/
def read {α : Type} (read : Json → Option α) : List UInt8 → Outcome (Option α) × List UInt8
  | a :: b :: c :: d :: rest =>
    let length := lengthOf a b c d
    if length > maxLength then
      (.error (.transport
        s!"incoming frame of {length} bytes exceeds the {maxLength} byte limit"), rest)
    else if rest.length < length then (.error (.transport "early eof"), [])
    else ((valueOf read (rest.take length)).map some, rest.drop length)
  | _ => (.ok none, [])

/-- What remains of a stream is shorter, where there was a value. -/
theorem length_read_lt {α : Type} {f : Json → Option α} {s rest : List UInt8} {x : α}
    (h : read f s = (.ok (some x), rest)) : rest.length < s.length := by
  unfold read at h
  split at h
  · dsimp only at h
    split at h
    · simp at h
    · split at h
      · simp at h
      · have hr := congrArg Prod.snd h
        simp only at hr
        rw [← hr]
        simp only [List.length_drop, List.length_cons]
        omega
  · simp at h

/-- All values of a stream up to its end or the first error, and what is left then. -/
def readAll {α : Type} (f : Json → Option α) (s : List UInt8) :
    List α × Outcome Unit × List UInt8 :=
  match h : read f s with
  | (.ok none, rest) => ([], .ok (), rest)
  | (.error e, rest) => ([], .error e, rest)
  | (.ok (some x), rest) =>
    have : rest.length < s.length := length_read_lt h
    let (values, ended, left) := readAll f rest
    (x :: values, ended, left)
termination_by s.length

end Frame

end CrawlMesh
