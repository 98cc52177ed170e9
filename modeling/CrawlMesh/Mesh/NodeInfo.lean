/-
# Nodes

The identity and the address of a node. Its name is what other nodes know it by; the address is
taken as it was given and need not be one of a socket.
-/
import CrawlMesh.Error
import CrawlMesh.Net.Address
import CrawlMesh.Number.Decimal
import CrawlMesh.Text.Quoted
import CrawlMesh.Text.Split

namespace CrawlMesh

set_option autoImplicit false

/-- A node. -/
structure NodeInfo where
  name : String
  ip : String
  port : UInt16
deriving DecidableEq, Repr, Inhabited

namespace NodeInfo

def address (n : NodeInfo) : String := n.ip ++ ":" ++ toString n.port.toNat

/-- A node in running text. -/
def text (n : NodeInfo) : String := s!"{n.name}({n.address})"

/-- The address of the socket, if it is one. -/
def socket (n : NodeInfo) : Outcome Net.SocketAddress :=
  match Net.SocketAddress.ofText? n.address with
  | some a => .ok a
  | none => .error (.argument s!"bad node address {n.address}: invalid socket address syntax")

def fieldNames : List String := ["name", "ip", "port"]

def toJson (n : NodeInfo) : Json :=
  .object (fieldNames.zip [.text n.name, .text n.ip, .nat n.port.toNat])

def ofJson? (j : Json) : Option NodeInfo := do
  match ← j.slots? fieldNames with
  | [name, ip, port] =>
    some ⟨← name.required Json.asText?, ← ip.required Json.asText?, ← port.required Json.asUInt16?⟩
  | _ => none

end NodeInfo

/-- The address of a node to join: a text and, behind its last colon, a port. -/
def parsePeer (peer : String) : Outcome (String × UInt16) :=
  match Text.splitLast? ':' peer.toList with
  | none => .error (.argument s!"peer {Text.quoted peer} is not ip:port")
  | some (ip, port) =>
    match Decimal.read UInt16.size (String.ofList port) with
    | .error fault => .error (.argument s!"bad port in {Text.quoted peer}: {fault.message}")
    | .ok port =>
      if ip.isEmpty then .error (.argument s!"peer {Text.quoted peer} has no ip")
      else .ok (String.ofList ip, port.toUInt16)

end CrawlMesh
