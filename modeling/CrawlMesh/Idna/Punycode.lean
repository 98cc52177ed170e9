/-
# Punycode

A label with characters beyond the seven-bit ones as a text of letters, digits and dashes: the
plain characters first, then, behind a dash, the others in ascending order, each as the distance
from the one before it. A distance is written in base thirty-six with a threshold for every
digit, and the thresholds follow the distances seen so far.
-/
namespace CrawlMesh.Punycode

set_option autoImplicit false

/-- The letters have the values 0 to 25 and the digits those from 26 to 35. -/
def digitChar (d : Nat) : Char :=
  if d < 26 then Char.ofNat (0x61 + d) else Char.ofNat (0x30 + d - 26)

def digitValue? (c : Char) : Option Nat :=
  let n := c.toNat
  if 0x61 ≤ n && n ≤ 0x7A then some (n - 0x61)
  else if 0x41 ≤ n && n ≤ 0x5A then some (n - 0x41)
  else if 0x30 ≤ n && n ≤ 0x39 then some (n - 0x30 + 26)
  else none

/-- The threshold of the digit whose place has weight number `k`. -/
def threshold (k bias : Nat) : Nat :=
  if k ≤ bias then 1 else if bias + 26 ≤ k then 26 else k - bias

theorem threshold_pos (k bias : Nat) : 1 ≤ threshold k bias := by
  unfold threshold
  split
  · omega
  · split <;> omega

theorem threshold_le (k bias : Nat) : threshold k bias ≤ 26 := by
  unfold threshold
  split
  · omega
  · split <;> omega

/-- Divide a distance by 35 until it is small; the answer holds 36 for each division too. -/
def reduce (delta k : Nat) : Nat × Nat :=
  if 455 < delta then reduce (delta / 35) (k + 36) else (delta, k)
termination_by delta
decreasing_by exact Nat.div_lt_self (by omega) (by omega)

/-- The bias after a distance. -/
def adapt (delta count : Nat) (first : Bool) : Nat :=
  let scaled := if first then delta / 700 else delta / 2
  let (delta, k) := reduce (scaled + scaled / count) 0
  k + 36 * delta / (delta + 38)

/-- The digits of a distance. -/
def encodeDistance (bias k q : Nat) : List Char :=
  let t := threshold k bias
  if q < t then [digitChar q]
  else digitChar (t + (q - t) % (36 - t)) :: encodeDistance bias (k + 36) ((q - t) / (36 - t))
termination_by q
decreasing_by
  have h₁ := threshold_pos k bias
  have h₂ := threshold_le k bias
  calc (q - threshold k bias) / (36 - threshold k bias)
      ≤ q - threshold k bias := Nat.div_le_self _ _
    _ < q := by omega

/-! ## Writing -/

/-- How far writing has come: what is written, last part first, the distance that has gathered,
the bias, and how many characters are done. -/
structure Writer where
  parts : List (List Char)
  delta : Nat
  bias : Nat
  done : Nat

/-- Pass one character of the label while the characters of number `next` are written. -/
def Writer.pass (basic next : Nat) (w : Writer) (c : Char) : Writer :=
  if c.toNat < next then { w with delta := w.delta + 1 }
  else if c.toNat == next then
    { parts := encodeDistance w.bias 36 w.delta :: w.parts
      delta := 0
      bias := adapt w.delta (w.done + 1) (w.done == basic)
      done := w.done + 1 }
  else w

/-- Write the characters of all numbers of an ascending list; `from_` is the first number that is
not yet passed. -/
def encodeFrom (label : List Char) (basic : Nat) : Nat → List Nat → Writer → Writer
  | _, [], w => w
  | from_, next :: rest, w =>
    let w := { w with delta := w.delta + (next - from_) * (w.done + 1) }
    let w := label.foldl (Writer.pass basic next) w
    encodeFrom label basic (next + 1) rest { w with delta := w.delta + 1 }

/-- Put a number into an ascending list without repetition. -/
def insertNumber (x : Nat) : List Nat → List Nat
  | [] => [x]
  | y :: ys => if x < y then x :: y :: ys else if x == y then y :: ys else y :: insertNumber x ys

/-- The written form of a label. -/
def encode (label : List Char) : List Char :=
  let basic := label.filter (·.toNat < 0x80)
  let others := (label.filter (0x80 ≤ ·.toNat)).foldr (fun c l => insertNumber c.toNat l) []
  let w := encodeFrom label basic.length 0x80 others ⟨[], 0, 72, basic.length⟩
  basic ++ (if basic.isEmpty then [] else ['-']) ++ w.parts.reverse.flatten

/-! ## Reading -/

/-- No number beyond this one arises from a text that is read. -/
def numberBound : Nat := UInt32.size

/-- One distance in front of a text and what follows it. -/
def decodeDistance (bias : Nat) : Nat → Nat → Nat → List Char → Option (Nat × List Char)
  | _, _, _, [] => none
  | k, weight, acc, c :: rest => do
    let d ← digitValue? c
    let t := threshold k bias
    let acc := acc + d * weight
    if acc ≥ numberBound then none
    else if d < t then some (acc, rest)
    else if weight * (36 - t) ≥ numberBound then none
    else decodeDistance bias (k + 36) (weight * (36 - t)) acc rest

/-- How far reading has come: the last character's number, where the next one is counted from,
the bias, and whether any character has been read. -/
structure Reader where
  number : Nat
  position : Nat
  bias : Nat
  first : Bool

/-- Put the characters of a text of distances into what is done already. -/
def decodeFrom : Nat → Reader → List Char → List Char → Option (List Char)
  | 0, _, _, _ => none
  | _, _, done, [] => some done
  | fuel + 1, r, done, c :: cs => do
    let (distance, rest) ← decodeDistance r.bias 36 1 0 (c :: cs)
    let count := done.length + 1
    let number := r.number + (r.position + distance) / count
    let position := (r.position + distance) % count
    if number > 0x10FFFF || (0xD800 ≤ number && number ≤ 0xDFFF) then none
    else
      decodeFrom fuel ⟨number, position + 1, adapt distance count r.first, false⟩
        (done.take position ++ Char.ofNat number :: done.drop position) rest

/-- The label of a written form. -/
def decode? (cs : List Char) : Option (List Char) :=
  let reversed := cs.reverse
  let tail := (reversed.takeWhile (· != '-')).reverse
  let basic := (reversed.dropWhile (· != '-')).drop 1 |>.reverse
  if basic.all (·.toNat < 0x80) then decodeFrom (cs.length + 1) ⟨0x80, 0, 72, true⟩ basic tail else none

end CrawlMesh.Punycode
