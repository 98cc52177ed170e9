/-
# Finding addresses

What a text of a host and a port leads to: a numeric address to itself, and the local host to the
loopback address. Other names are not known here. Why an address cannot be reached is told by
`Fault`.
-/
import CrawlMesh.Net.Address
import CrawlMesh.Text.Split

namespace CrawlMesh.Net

set_option autoImplicit false

/-- Why an address cannot be reached. -/
inductive Fault
  | notAnAddress
  | badPort
  | unresolved
  | unreachable
  | refused
deriving DecidableEq, Repr, Inhabited

def Fault.message : Fault → String
  | .notAnAddress => "invalid socket address"
  | .badPort => "invalid port value"
  | .unresolved =>
    "failed to lookup address information: Temporary failure in name resolution"
  | .unreachable => "Network is unreachable (os error 101)"
  | .refused => "Connection refused (os error 111)"

/-- The address of this machine to itself. -/
def loopback : Ip := .v4 ⟨127, 0, 0, 1⟩

/-- The address of a host. -/
def resolveHost (host : String) : Except Fault Ip :=
  if host == "localhost" then .ok loopback
  else
    match Ip.ofText? host with
    | some ip => .ok ip
    | none => .error .unresolved

/-- An address with a port. -/
def Ip.withPort (ip : Ip) (port : UInt16) : SocketAddress :=
  match ip with
  | .v4 a => .v4 a port
  | .v6 a => .v6 a 0 port

/-- The address that a text stands for. -/
def resolve (text : String) : Except Fault SocketAddress := do
  match SocketAddress.ofText? text with
  | some a => return a
  | none =>
    match Text.splitLast? ':' text.toList with
    | none => throw .notAnAddress
    | some (host, port) =>
      match Decimal.read UInt16.size (String.ofList port) with
      | .error _ => throw .badPort
      | .ok port => return (← resolveHost (String.ofList host)).withPort port.toUInt16

end CrawlMesh.Net
