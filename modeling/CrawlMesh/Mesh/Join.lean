/-
# Joining and leaving

A node joins the mesh that another one belongs to call by call: it asks whether the other one is
there and which members it knows, connects to each of them and asks it to be let in. Members that
cannot be reached are skipped. In a round of heartbeats a node checks all peers it has links to,
and evicts those that did not answer.
-/
import CrawlMesh.Mesh.Basic

namespace CrawlMesh

set_option autoImplicit false

/-! ## Joining -/

/-- How far a join has come. -/
inductive Join
  /-- Ask whether anyone is at the other end. -/
  | greeting (endpoint : Endpoint)
  /-- Ask for the members. -/
  | listing (endpoint : Endpoint)
  /-- Connect to the first of these members, if it is not connected. -/
  | meeting (members : List NodeInfo)
  /-- Ask the first of these members to be let in. -/
  | entering (member : NodeInfo) (members : List NodeInfo)
deriving Repr, Inhabited

namespace Join

/-- Go on with the members that are left. -/
def next (node : Node) (members : List NodeInfo) : Join :=
  .meeting (members.filter fun m => !node.isMe m.name)

/-- A join is over when no member is left. -/
def isOver : Join → Bool
  | .meeting [] => true
  | _ => false

end Join

namespace Mesh

/-- Go one call on with a join. -/
def joinStep (m : Mesh) (number : Nat) (node : Node) : Join → Outcome Join × Mesh
  | .greeting endpoint =>
    let (reply, m) := m.ask node endpoint .isAlive
    (reply.map fun _ => .listing endpoint, m)
  | .listing endpoint =>
    let (reply, m) := m.ask node endpoint .getAllNodes
    (reply.map fun r => Join.next node r.nodes, m)
  | .meeting [] => (.ok (.meeting []), m)
  | .meeting (member :: rest) =>
    if node.isConnected member.name then (.ok (.entering member rest), m)
    else
      match m.connect number member.address with
      | (.ok _, m) => (.ok (.entering member rest), m)
      | (.error _, m) => (.ok (.meeting rest), m)
  | .entering member rest =>
    let (_, m) := m.callNode number member.name (.letMeIn node.info)
    (.ok (.meeting rest), m)

/-- Meet and enter members one after the other. -/
def enterAll (m : Mesh) (number : Nat) : List NodeInfo → Mesh
  | [] => m
  | member :: rest =>
    match m.node? number with
    | none => m
    | some node =>
      match m.joinStep number node (.meeting (member :: rest)) with
      | (.ok (.entering member _), m) =>
        enterAll (m.joinStep number node (.entering member rest)).2 number rest
      | (_, m) => enterAll m number rest

/-- Join the mesh of the node at an address. -/
def joinAt (m : Mesh) (number : Nat) (address : String) : Outcome Unit × Mesh :=
  match m.node? number with
  | none => (.error (noNode number), m)
  | some node =>
    match m.dial address with
    | .error e => (.error e, m)
    | .ok endpoint =>
      match m.joinStep number node (.greeting endpoint) with
      | (.error e, m) => (.error e, m)
      | (.ok _, m) =>
        match m.joinStep number node (.listing endpoint) with
        | (.ok (.meeting members), m) => (.ok (), m.enterAll number members)
        | (.ok _, m) => (.ok (), m)
        | (.error e, m) => (.error e, m)

/-- Join the mesh of a peer, given as an address and a port. -/
def join (m : Mesh) (number : Nat) (peer : String) : Outcome Unit × Mesh :=
  match parsePeer peer with
  | .error e => (.error e, m)
  | .ok (ip, port) => m.joinAt number (NodeInfo.mk "" ip port).address

/-- Connect to a peer, given as an address and a port. -/
def connectTo (m : Mesh) (number : Nat) (peer : String) : Outcome NodeInfo × Mesh :=
  match parsePeer peer with
  | .error e => (.error e, m)
  | .ok (ip, port) => m.connect number (NodeInfo.mk "" ip port).address

/-! ## Heartbeats -/

/-- A round of heartbeats: the links that are not checked yet, and those that failed. -/
structure Round where
  unchecked : List Link
  failed : List Link
deriving Repr, Inhabited

/-- A round over all links of a node. -/
def round (node : Node) : Round := ⟨node.links, []⟩

/-- Check the first link of a round. -/
def check (m : Mesh) (number : Nat) (r : Round) : Round × Mesh :=
  match r.unchecked with
  | [] => (r, m)
  | link :: rest =>
    match m.callLink number link .isAlive with
    | (.ok _, m) => (⟨rest, r.failed⟩, m)
    | (.error _, m) => (⟨rest, r.failed ++ [link]⟩, m)

/-- Check all links of a round. -/
def checkAll (m : Mesh) (number : Nat) : Nat → Round → Round × Mesh
  | 0, r => (r, m)
  | n + 1, r =>
    let (r, m) := m.check number r
    checkAll m number n r

/-- Evict links that failed. -/
def evictAll (m : Mesh) (number : Nat) (links : List Link) : Mesh :=
  links.foldl (fun m link => m.modify number fun n => (n.evict link).2) m

/-- Check all peers of a node once and evict those that did not answer. -/
def detect (m : Mesh) (number : Nat) : Mesh :=
  match m.node? number with
  | none => m
  | some node =>
    let (r, m) := m.checkAll number node.links.length (round node)
    m.evictAll number r.failed

end Mesh

end CrawlMesh
