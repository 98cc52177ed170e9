/-
# Internet addresses

Addresses of version four and six and socket addresses, with their usual texts. Reading is
strict: an octet has no leading zero, a group of a version six address has at most four digits,
and the embedded version four form stands at the end only. Writing a version six address
shortens the first of the longest runs of two or more zero groups and writes a mapped version
four address in its mixed form.
-/
import CrawlMesh.Number.Decimal

namespace CrawlMesh.Net

set_option autoImplicit false

/-- A version four address. -/
structure Ipv4 where
  a : UInt8
  b : UInt8
  c : UInt8
  d : UInt8
deriving DecidableEq, Repr, Inhabited

/-- A version six address: eight groups. -/
structure Ipv6 where
  groups : Vector UInt16 8
deriving DecidableEq, Repr, Inhabited

/-- An address of either version. -/
inductive Ip
  | v4 (address : Ipv4)
  | v6 (address : Ipv6)
deriving DecidableEq, Repr, Inhabited

/-- An address with a port; a version six address may name its zone by number. -/
inductive SocketAddress
  | v4 (address : Ipv4) (port : UInt16)
  | v6 (address : Ipv6) (scope : UInt32) (port : UInt16)
deriving DecidableEq, Repr, Inhabited

/-! ## Writing -/

namespace Ipv4

def text (i : Ipv4) : String :=
  s!"{i.a.toNat}.{i.b.toNat}.{i.c.toNat}.{i.d.toNat}"

/-- The address as one number. -/
def toNat (i : Ipv4) : Nat :=
  ((i.a.toNat * 256 + i.b.toNat) * 256 + i.c.toNat) * 256 + i.d.toNat

/-- The address of a number below `2 ^ 32`. -/
def ofNat (n : Nat) : Ipv4 :=
  ⟨(n / 0x1000000).toUInt8, (n / 0x10000).toUInt8, (n / 0x100).toUInt8, n.toUInt8⟩

end Ipv4

namespace Ipv6

/-- The address of up to eight groups, zeros after them. -/
def ofList (groups : List UInt16) : Ipv6 :=
  ⟨Vector.ofFn fun i => groups[i.val]?.getD 0⟩

/-- The length of the run of zeros in front of a list. -/
def zeroRun (groups : List UInt16) : Nat := (groups.takeWhile (· == 0)).length

/-- Start and length of the first longest run of zeros, from the position `at` on. -/
def longestZeros (start : Nat) : List UInt16 → Nat × Nat
  | [] => (start, 0)
  | g :: rest =>
    let here := zeroRun (g :: rest)
    let (later, length) := longestZeros (start + 1) rest
    if here ≥ length && here > 0 then (start, here) else (later, length)

def groupText (g : UInt16) : String := String.ofList (Nat.toDigits 16 g.toNat)

def joinGroups (groups : List UInt16) : String :=
  String.intercalate ":" (groups.map groupText)

/-- The text with the first longest run of zeros left out. -/
def compressed (i : Ipv6) : String :=
  let groups := i.groups.toList
  let (start, length) := longestZeros 0 groups
  if length > 1 then
    joinGroups (groups.take start) ++ "::" ++ joinGroups (groups.drop (start + length))
  else joinGroups groups

/-- The version four address that a mapped address stands for. -/
def mapped? (i : Ipv6) : Option Ipv4 :=
  match i.groups.toList with
  | [0, 0, 0, 0, 0, 0xFFFF, high, low] =>
    some ⟨(high >>> 8).toUInt8, high.toUInt8, (low >>> 8).toUInt8, low.toUInt8⟩
  | _ => none

def text (i : Ipv6) : String :=
  match i.mapped? with
  | some four => "::ffff:" ++ four.text
  | none => i.compressed

end Ipv6

def Ip.text : Ip → String
  | .v4 i => i.text
  | .v6 i => i.text

def SocketAddress.text : SocketAddress → String
  | .v4 i port => s!"{i.text}:{port.toNat}"
  | .v6 i scope port =>
    if scope == 0 then s!"[{i.text}]:{port.toNat}"
    else s!"[{i.text}%{scope.toNat}]:{port.toNat}"

def SocketAddress.port : SocketAddress → UInt16
  | .v4 _ port => port
  | .v6 _ _ port => port

/-! ## Reading -/

/-- The value of a digit in a base up to sixteen. -/
def digitIn? (base : Nat) (c : Char) : Option Nat :=
  let value :=
    if '0' ≤ c && c ≤ '9' then some (c.toNat - '0'.toNat)
    else if 'a' ≤ c && c ≤ 'f' then some (c.toNat - 'a'.toNat + 10)
    else if 'A' ≤ c && c ≤ 'F' then some (c.toNat - 'A'.toNat + 10)
    else none
  value.filter (· < base)

/-- All digits in front of a text, their value and what follows. -/
def spanDigits (base : Nat) (acc : Nat) : List Char → Nat × Nat × List Char
  | [] => (acc, 0, [])
  | c :: rest =>
    match digitIn? base c with
    | none => (acc, 0, c :: rest)
    | some d =>
      let (value, count, rest) := spanDigits base (acc * base + d) rest
      (value, count + 1, rest)

/-- A number below `bound` with at least one digit and, where a limit is given, no more than it. -/
def readNumber (base bound : Nat) (limit : Option Nat) (leadingZeros : Bool) (cs : List Char) :
    Option (Nat × List Char) :=
  let (value, count, rest) := spanDigits base 0 cs
  if count == 0 || value ≥ bound then none
  else if limit.any (count > ·) then none
  else if !leadingZeros && cs.head? == some '0' && count > 1 then none
  else some (value, rest)

/-- One given character. -/
def readChar (c : Char) : List Char → Option (List Char)
  | d :: rest => if c == d then some rest else none
  | [] => none

def readOctet (cs : List Char) : Option (UInt8 × List Char) := do
  let (n, rest) ← readNumber 10 256 (some 3) false cs
  some (n.toUInt8, rest)

def readIpv4 (cs : List Char) : Option (Ipv4 × List Char) := do
  let (a, cs) ← readOctet cs
  let (b, cs) ← readOctet (← readChar '.' cs)
  let (c, cs) ← readOctet (← readChar '.' cs)
  let (d, cs) ← readOctet (← readChar '.' cs)
  some (⟨a, b, c, d⟩, cs)

/-- A colon in front of every group but the first. -/
def readSeparator (first : Bool) (cs : List Char) : Option (List Char) :=
  if first then some cs else readChar ':' cs

/-- Up to `limit` groups; an embedded version four address, which needs room for two, ends them.
The answer holds the groups, whether they end so, and what follows. -/
def readGroups (first : Bool) : Nat → List Char → List UInt16 × Bool × List Char
  | 0, cs => ([], false, cs)
  | limit + 1, cs =>
    let embedded := if limit = 0 then none else (readSeparator first cs).bind readIpv4
    match embedded with
    | some (four, rest) =>
      ([four.a.toUInt16 * 256 + four.b.toUInt16, four.c.toUInt16 * 256 + four.d.toUInt16], true,
        rest)
    | none =>
      match (readSeparator first cs).bind (readNumber 16 65536 (some 4) true) with
      | none => ([], false, cs)
      | some (g, rest) =>
        let (groups, four, rest) := readGroups false limit rest
        (g.toUInt16 :: groups, four, rest)

def readIpv6 (cs : List Char) : Option (Ipv6 × List Char) := do
  let (head, four, rest) := readGroups true 8 cs
  if head.length = 8 then some (.ofList head, rest)
  else if four then none
  else
    let rest ← readChar ':' rest
    let rest ← readChar ':' rest
    let (tail, _, rest) := readGroups true (7 - head.length) rest
    let zeros := List.replicate (8 - head.length - tail.length) 0
    some (.ofList (head ++ zeros ++ tail), rest)

/-- What a reader makes of a whole text. -/
def whole {α : Type} (read : List Char → Option (α × List Char)) (s : String) : Option α :=
  match read s.toList with
  | some (x, []) => some x
  | _ => none

/-- The address that a text stands for. -/
def Ip.ofText? (s : String) : Option Ip :=
  match whole readIpv4 s with
  | some i => some (.v4 i)
  | none => (whole readIpv6 s).map .v6

def readPort (cs : List Char) : Option (UInt16 × List Char) := do
  let (n, rest) ← readNumber 10 65536 none true (← readChar ':' cs)
  some (n.toUInt16, rest)

def readSocketV4 (cs : List Char) : Option (SocketAddress × List Char) := do
  let (i, rest) ← readIpv4 cs
  let (port, rest) ← readPort rest
  some (.v4 i port, rest)

/-- The number of a zone after a percent sign; zero where there is none. -/
def readScope (cs : List Char) : UInt32 × List Char :=
  match (readChar '%' cs).bind (readNumber 10 UInt32.size none true) with
  | some (n, rest) => (n.toUInt32, rest)
  | none => (0, cs)

def readSocketV6 (cs : List Char) : Option (SocketAddress × List Char) := do
  let (i, rest) ← readIpv6 (← readChar '[' cs)
  let (scope, rest) := readScope rest
  let (port, rest) ← readPort (← readChar ']' rest)
  some (.v6 i scope port, rest)

/-- The socket address that a text stands for. -/
def SocketAddress.ofText? (s : String) : Option SocketAddress :=
  match whole readSocketV4 s with
  | some a => some a
  | none => whole readSocketV6 s

end CrawlMesh.Net
