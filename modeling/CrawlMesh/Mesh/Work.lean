/-
# Work in a mesh

How the work of all nodes goes on, move by move: a crawler goes on, a definition is sent to a
peer, or a request of a queue is distributed. A distribution whose queue is closed stops.
-/
import CrawlMesh.Mesh.Command

namespace CrawlMesh.Mesh

set_option autoImplicit false

/-- Let the crawler of a node go one move on. -/
def crawlOnce? (m : Mesh) (number : Nat) (node : Node) : Option Mesh :=
  node.crawler.workOnce?.map fun c => m.put number { node with crawler := c }

/-- Send the first of the definitions that are to be sent. -/
def runErrand? (m : Mesh) (number : Nat) (node : Node) : Option Mesh :=
  match node.errands with
  | [] => none
  | errand :: rest =>
    let m := m.put number { node with errands := rest }
    some (m.callLink number errand.link (.addSpider errand.definition)).2

/-- Distribute the next request of the queue, if requests are distributed. -/
def distributeOnce? (m : Mesh) (number : Nat) (node : Node) : Option Mesh :=
  if node.distribution.state = .running then
    if node.crawler.queue.pool.closed then
      some (m.put number { node with distribution := node.distribution.stop })
    else
      match node.crawler.queue.take? with
      | none => none
      | some (r, queue) =>
        let m := m.put number { node with crawler := { node.crawler with queue := queue } }
        some (m.distribute number r).2
  else none

/-- Let the mesh go one move on. -/
def workOnce? (m : Mesh) : Option Mesh :=
  m.nodes.findSome? fun (number, node) =>
    m.crawlOnce? number node <|> m.runErrand? number node <|> m.distributeOnce? number node

/-- Go on as long as moves are possible, with an upper bound on their number. -/
def work (m : Mesh) : Nat → Mesh
  | 0 => m
  | n + 1 =>
    match m.workOnce? with
    | some m => work m n
    | none => m

/-- Let the work go on until nothing is left that can be done now. -/
def settle (m : Mesh) : Mesh := m.work Scheduler.patience

/-! ## Distribution -/

def startDistribution (m : Mesh) (number : Nat) : Mesh :=
  m.modify number fun n => { n with distribution := n.distribution.start }

end CrawlMesh.Mesh
