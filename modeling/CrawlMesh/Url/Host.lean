/-
# Hosts

The host of an address is a domain name, an address of version four or six, or empty. Under a
well-known scheme a name is brought into wire form, and a name whose last label is a number has
to be an address of version four, whose parts may be decimal, octal or hexadecimal and whose
last part fills what is left. Under any other scheme the name stays as it is.
-/
import CrawlMesh.Idna.Ascii
import CrawlMesh.Url.Percent

namespace CrawlMesh.Url

set_option autoImplicit false

open Net (Ipv4 Ipv6)

/-- Why a text is no address. -/
inductive Fault
  | emptyHost
  | badDomain
  | badPort
  | badIpv4
  | badIpv6
  | badDomainCharacter
  | noBase
  | opaqueBase
deriving DecidableEq, Repr

/-- The wording of a fault. -/
def Fault.message : Fault → String
  | .emptyHost => "empty host"
  | .badDomain => "invalid international domain name"
  | .badPort => "invalid port number"
  | .badIpv4 => "invalid IPv4 address"
  | .badIpv6 => "invalid IPv6 address"
  | .badDomainCharacter => "invalid domain character"
  | .noBase => "relative URL without a base"
  | .opaqueBase => "relative URL with a cannot-be-a-base base"

/-- The host of an address. -/
inductive Host
  | empty
  | domain (name : String)
  | ipv4 (address : Ipv4)
  | ipv6 (address : Ipv6)
deriving DecidableEq, Repr, Inhabited

namespace Host

def text : Host → String
  | .empty => ""
  | .domain name => name
  | .ipv4 i => i.text
  | .ipv6 i => "[" ++ i.compressed ++ "]"

/-- A name, which may be empty. -/
def ofName (name : String) : Host := if name.isEmpty then .empty else .domain name

/-! ## Numbers -/

/-- One part of an address of version four: nothing if it is no number, and `2 ^ 32` for any
number that is too large. -/
def numberPart? (part : List Char) : Option Nat :=
  let (base, digits) : Nat × List Char := match part with
    | '0' :: 'x' :: rest => (16, rest)
    | '0' :: 'X' :: rest => (16, rest)
    | '0' :: c :: rest => (8, c :: rest)
    | _ => (10, part)
  if part.isEmpty then none
  else do
    let values ← digits.mapM (Net.digitIn? base)
    some (min (values.foldl (fun n d => n * base + d) 0) UInt32.size)

/-- The parts of a name, without an empty one at its end. -/
def nameParts (name : List Char) : List (List Char) :=
  let parts := Text.splitWhere (· == '.') name
  if parts.length > 1 && parts.getLast? == some [] then parts.dropLast else parts

/-- Is the last label of a name a number? -/
def endsInNumber (name : List Char) : Bool :=
  match (nameParts name).getLast? with
  | none => false
  | some last => (!last.isEmpty && last.all Char.isDigit) || (numberPart? last).isSome

/-- The number that the parts make: all but the last are bytes, the last fills the rest. -/
def joinParts : Nat → List Nat → Option Nat
  | _, [] => none
  | room, [last] => if last < Nat.pow 256 room then some last else none
  | 0, _ => none
  | room + 1, n :: rest => do
    let tail ← joinParts room rest
    if n < 256 then some (n * Nat.pow 256 room + tail) else none

/-- The address of version four that a name stands for. -/
def ipv4? (name : List Char) : Option Ipv4 := do
  let parts := nameParts name
  if parts.length > 4 then none
  else
    let numbers ← parts.mapM numberPart?
    let n ← joinParts 4 numbers
    some (.ofNat n)

/-! ## Reading -/

/-- An address of version six in brackets. -/
def bracketed (cs : List Char) : Except Fault Host :=
  if cs.getLast? != some ']' then .error .badIpv6
  else
    match Net.whole Net.readIpv6 (String.ofList cs.tail.dropLast) with
    | some i => .ok (.ipv6 i)
    | none => .error .badIpv6

/-- Characters that no host may hold under any scheme. -/
def isForbidden (c : Char) : Bool :=
  ['\x00', '\t', '\n', '\r', ' ', '#', '/', ':', '<', '>', '?', '@', '[', '\\', ']', '^',
    '|'].contains c

/-- A host under a scheme that is not well known. -/
def readOpaque (cs : List Char) : Except Fault Host :=
  if cs.head? == some '[' then bracketed cs
  else if cs.any isForbidden then .error .badDomainCharacter
  else .ok (ofName (escape escapedControl cs))

/-- A host under a well-known scheme. -/
def read (cs : List Char) : Except Fault Host :=
  if cs.head? == some '[' then bracketed cs
  else
    match (unescape? cs).bind Idna.toAscii? with
    | none => .error .badDomain
    | some name =>
      if name.isEmpty then .error .emptyHost
      else if endsInNumber name.toList then
        match ipv4? name.toList with
        | some i => .ok (.ipv4 i)
        | none => .error .badIpv4
      else .ok (.domain name)

end Host

end CrawlMesh.Url
