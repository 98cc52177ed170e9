/-
# Meshes

The nodes that run, and how they call one another: an address is dialled, the first call on a
stream asks who is there, and a node that answers with a name other than the caller's becomes a
member. A call over a link that is not answered breaks the link.
-/
import CrawlMesh.Mesh.Node
import CrawlMesh.Net.Resolve

namespace CrawlMesh

set_option autoImplicit false

/-- A mesh: the nodes by their numbers, what listens but never answers, with the addresses where
it does, which addresses can be reached, and the next numbers and the next free port. -/
structure Mesh where
  nodes : List (Nat × Node)
  mute : List (NodeInfo × Net.SocketAddress)
  reaches : Net.SocketAddress → Bool
  nextNode : Nat
  nextLink : Nat
  nextPort : UInt16

namespace Mesh

/-- A mesh without nodes. -/
def new (reaches : Net.SocketAddress → Bool) (firstPort : UInt16) : Mesh where
  nodes := []
  mute := []
  reaches := reaches
  nextNode := 0
  nextLink := 0
  nextPort := firstPort

/-! ## Nodes -/

def node? (m : Mesh) (number : Nat) : Option Node := (m.nodes.find? (·.1 == number)).map (·.2)

/-- The number of the node of a name. -/
def numberOf? (m : Mesh) (name : String) : Option Nat :=
  (m.nodes.find? (·.2.name == name)).map (·.1)

/-- What listens under a name, be it mute or not. -/
def info? (m : Mesh) (name : String) : Option NodeInfo :=
  (m.nodes.map (·.2.info) ++ m.mute.map (·.1)).find? (·.name == name)

/-- The address of what listens under a name; what is no name counts as an address. -/
def addressOf (m : Mesh) (name : String) : String :=
  ((m.info? name).map NodeInfo.address).getD name

/-- Add a node. -/
def addNode (m : Mesh) (node : Node) : Nat × Mesh :=
  (m.nextNode, { m with
    nodes := m.nodes ++ [(m.nextNode, node)], nextNode := m.nextNode + 1 })

/-- Put a node in place of the one of its number. -/
def put (m : Mesh) (number : Nat) (node : Node) : Mesh :=
  { m with nodes := m.nodes.map fun (k, n) => if k == number then (k, node) else (k, n) }

/-- No node has such a number. -/
def noNode (number : Nat) : CrawlError := .notFound s!"node number {number}"

/-- Change a node. -/
def change {α : Type} (m : Mesh) (number : Nat) (f : Node → Outcome α × Node) : Outcome α × Mesh :=
  match m.node? number with
  | none => (.error (noNode number), m)
  | some node =>
    let (outcome, node) := f node
    (outcome, m.put number node)

def modify (m : Mesh) (number : Nat) (f : Node → Node) : Mesh :=
  match m.node? number with
  | none => m
  | some node => m.put number (f node)

/-! ## Streams -/

/-- What listens at an address. -/
def listener (m : Mesh) (a : Net.SocketAddress) : Except Net.Fault Endpoint :=
  if !m.reaches a then .error .unreachable
  else
    match m.nodes.find? (·.2.listens == a) with
    | some (number, _) => .ok (.node number)
    | none => if m.mute.any (·.2 == a) then .ok .mute else .error .refused

/-- Open a stream to an address. -/
def dial (m : Mesh) (address : String) : Outcome Endpoint :=
  match (Net.resolve address).bind m.listener with
  | .ok endpoint => .ok endpoint
  | .error fault => .error (.transport s!"dial {address} failed: {fault.message}")

/-- A number of milliseconds in running text, in seconds if there is a whole one. -/
def durationText (milliseconds : UInt64) : String :=
  let ms := milliseconds.toNat
  if ms < 1000 then toString ms ++ "ms"
  else
    let digits := (toString (1000 + ms % 1000)).toList.drop 1
    let fraction := (digits.reverse.dropWhile (· == '0')).reverse
    toString (ms / 1000) ++ (if fraction.isEmpty then "" else "." ++ String.ofList fraction) ++ "s"

def streamClosed : CrawlError := .transport "connection closed before the reply"

def timedOut (n : Node) (call : Call) : CrawlError :=
  .transport s!"{call.name} call timed out after {durationText n.callTimeout}"

/-- What comes of a call on a stream, if the node at its other end answers by itself. -/
def exchange (m : Mesh) (caller : Node) (endpoint : Endpoint) (call : Call) :
    Outcome Reply × Mesh :=
  match endpoint with
  | .mute => (.error (timedOut caller call), m)
  | .node number =>
    match m.node? number with
    | none => (.error streamClosed, m)
    | some node =>
      let (outcome, node) := node.answer call
      (.ok (node.reply call outcome), m.put number node)

/-- Ask on a new stream, where an error in the reply counts as one of the call. -/
def ask (m : Mesh) (caller : Node) (endpoint : Endpoint) (call : Call) : Outcome Reply × Mesh :=
  let (reply, m) := m.exchange caller endpoint call
  (reply.bind Reply.outcome, m)

/-! ## Connecting -/

/-- Dial an address and keep a link to the node that answers there. -/
def reach (m : Mesh) (number : Nat) (address : String) : Outcome NodeInfo × Mesh :=
  match m.node? number with
  | none => (.error (noNode number), m)
  | some node =>
    match m.dial address with
    | .error e => (.error e, m)
    | .ok endpoint =>
      let (answer, m) := m.ask node endpoint .isAlive
      let m := { m with nextLink := m.nextLink + 1 }
      m.change number fun n => n.meet address (m.nextLink - 1) endpoint answer

/-- Make the peer of a link that is kept a member. -/
def enter (m : Mesh) (number : Nat) (peer : NodeInfo) : Mesh := m.modify number (·.know peer)

/-- Dial an address and make the node that answers there a member. -/
def connect (m : Mesh) (number : Nat) (address : String) : Outcome NodeInfo × Mesh :=
  match m.reach number address with
  | (.ok peer, m) => (.ok peer, m.enter number peer)
  | (.error e, m) => (.error e, m)

/-- Let a node in that asks for it: if it is not connected, connect to the address it gives. -/
def letIn (m : Mesh) (number : Nat) (node : NodeInfo) : Outcome Unit × Mesh :=
  match m.node? number with
  | none => (.error (noNode number), m)
  | some n =>
    if n.isConnected node.name then (.ok (), m)
    else
      let (outcome, m) := m.connect number node.address
      (outcome.map fun _ => (), m)

/-! ## Calls over links -/

/-- What comes of a call on a stream. -/
def serve (m : Mesh) (caller : Node) (endpoint : Endpoint) (call : Call) : Outcome Reply × Mesh :=
  match endpoint, call with
  | .node number, .letMeIn node =>
    match m.node? number with
    | none => (.error streamClosed, m)
    | some n =>
      let (outcome, m) := m.letIn number node
      (.ok (n.reply call outcome), m)
  | _, _ => m.exchange caller endpoint call

/-- The reply of a node to a call. -/
def handle (m : Mesh) (number : Nat) (node : Node) (call : Call) : Outcome Reply × Mesh :=
  m.serve node (.node number) call

/-- Call over a link that a node keeps or has kept. -/
def callLink (m : Mesh) (number : Nat) (link : Link) (call : Call) : Outcome Reply × Mesh :=
  match m.node? number with
  | none => (.error (noNode number), m)
  | some node =>
    let link := (node.links.find? (·.number == link.number)).getD link
    let begun := link.begin
    match begun.outcome? link.calls.length with
    | some outcome => (outcome, m)
    | none =>
      let (reply, m) := m.serve node link.endpoint call
      let ended := begun.finish link.calls.length reply
      ((ended.outcome? link.calls.length).getD reply,
        m.modify number fun n => n.updateLink ended.forget)

/-- Call a peer by its name. An error in the reply counts as one of the call. -/
def callNode (m : Mesh) (number : Nat) (name : String) (call : Call) : Outcome Reply × Mesh :=
  match (m.node? number).bind (·.link? name) with
  | none => (.error (Node.noLink name), m)
  | some link =>
    let (reply, m) := m.callLink number link call
    (reply.bind Reply.outcome, m)

/-- Call all other members; what fails is left at that. -/
def fanOut (m : Mesh) (number : Nat) (call : Call) : Mesh :=
  let others := ((m.node? number).map Node.others).getD []
  others.foldl (fun m node => (m.callNode number node.name call).2) m

end Mesh

end CrawlMesh
