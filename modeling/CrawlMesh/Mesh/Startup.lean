/-
# Starting and ending nodes

A node starts by its settings: it binds its address, is its own first member, begins to
distribute, and joins the mesh of another node if it is told to. A join that fails is only noted.
-/
import CrawlMesh.Mesh.Config
import CrawlMesh.Mesh.Join
import CrawlMesh.Mesh.Work

namespace CrawlMesh.Mesh

set_option autoImplicit false

/-- The port that a node is given. -/
def port (m : Mesh) (wanted : UInt16) : UInt16 := if wanted == 0 then m.nextPort else wanted

/-- Let something listen at the next free port of this machine that never answers. -/
def addMute (m : Mesh) (name : String) : Mesh :=
  let info : NodeInfo := ⟨name, Net.loopback.text, m.nextPort⟩
  { m with
    mute := m.mute ++ [(info, Net.loopback.withPort m.nextPort)], nextPort := m.nextPort + 1 }

/-- The address that settings bind. -/
def bind (m : Mesh) (c : NodeConfig) : Outcome Net.SocketAddress :=
  match Net.resolve (NodeInfo.mk "" c.ip (m.port c.port)).address with
  | .ok a => .ok a
  | .error fault => .error (.transport fault.message)

/-- A node by its settings that runs but knows of no other one. -/
def launch (m : Mesh) (c : NodeConfig) (factory : Net.SocketAddress → ModuleFactory)
    (storage : Storage) : Outcome Nat × Mesh :=
  let made : Outcome Node := do
    c.check
    let a ← m.bind c
    let crawler ← Crawler.new (factory a) storage ⟨c.queueBufferCap, c.queueMaxBuffers⟩
    let node := Node.new ⟨c.name, c.ip, a.port⟩ a crawler c.callTimeout
    let node := { node with distribution := node.distribution.start }
    return node.note .info s!"Node {node.info.text} up on {a.text}"
  match made with
  | .error e => (.error e, m)
  | .ok node =>
    let m := { m with nextPort := if c.port == 0 then m.nextPort + 1 else m.nextPort }
    let (number, m) := m.addNode node
    (.ok number, m)

/-- Start a node by its settings. -/
def start (m : Mesh) (c : NodeConfig) (factory : Net.SocketAddress → ModuleFactory)
    (storage : Storage) : Outcome Nat × Mesh :=
  match m.launch c factory storage with
  | (.error e, m) => (.error e, m)
  | (.ok number, m) =>
    match c.join with
    | none => (.ok number, m)
    | some peer =>
      match m.join number peer with
      | (.ok _, m) => (.ok number, m)
      | (.error e, m) =>
        (.ok number, m.modify number (·.note .error s!"Joining {peer} failed: {e.text}"))

/-- End a node: its spiders are stopped and its streams closed. What is left of it is given. -/
def shutdown (m : Mesh) (number : Nat) : Option Node × Mesh :=
  match m.node? number with
  | none => (none, m)
  | some node =>
    let node := { node with
      crawler := node.crawler.shutdown
      distribution := node.distribution.stop }
    (some (node.note .info s!"Node {node.info.text} shut down"),
      { m with nodes := m.nodes.filter (·.1 != number) })

end CrawlMesh.Mesh
