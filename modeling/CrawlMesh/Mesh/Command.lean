/-
# Spiders across a mesh

What one node does with a spider for all nodes: a spider is started with its first requests on
the node that starts it and without any on the others. The node's own outcome counts; peers that
fail are left at that. Requests are handed to the member picked for them, and to the node itself
if that member cannot be reached.
-/
import CrawlMesh.Mesh.Basic

namespace CrawlMesh.Mesh

set_option autoImplicit false

/-! ## Spiders -/

/-- Do something with the crawler of a node. -/
def onCrawler {α : Type} (m : Mesh) (number : Nat) (f : Crawler → Outcome α × Crawler) :
    Outcome α × Mesh :=
  m.change number fun n => n.withCrawler (f n.crawler)

/-- Add a spider on a node; the others are sent its definition later. -/
def addSpider (m : Mesh) (number : Nat) (d : SpiderDefinition) : Outcome Unit × Mesh :=
  m.change number (·.addSpider d)

/-- Start a spider with its first requests here, and then without any on the others. -/
def startSpider (m : Mesh) (number : Nat) (name : String) : Outcome Unit × Mesh :=
  match m.onCrawler number (·.firstStart name) with
  | (.error e, m) => (.error e, m)
  | (.ok _, m) => (.ok (), m.fanOut number (.startSpider name))

def stopSpider (m : Mesh) (number : Nat) (name : String) : Outcome Unit × Mesh :=
  let (outcome, m) := m.onCrawler number (·.stop name)
  (outcome, m.fanOut number (.stopSpider name))

def pauseSpider (m : Mesh) (number : Nat) (name : String) : Outcome Unit × Mesh :=
  let (outcome, m) := m.onCrawler number (·.pause name)
  (outcome, m.fanOut number (.pauseSpider name))

def recoverSpider (m : Mesh) (number : Nat) (name : String) : Outcome Unit × Mesh :=
  let (outcome, m) := m.onCrawler number (·.recover name)
  (outcome, m.fanOut number (.recoverSpider name))

/-- The calls of the downloaders of a spider on all nodes. -/
def crawled (m : Mesh) (name : String) : Nat :=
  m.nodes.foldl (fun sum (_, n) =>
    sum + ((n.crawler.get? name).map (·.status.crawled.toNat)).getD 0) 0

/-- The lines of the logs of all nodes, which are empty then. -/
def takeLines (m : Mesh) : List String × Mesh :=
  (m.nodes.flatMap fun (_, n) => n.crawler.takeLines.1,
    { m with nodes := m.nodes.map fun (i, n) => (i, { n with crawler := n.crawler.takeLines.2 }) })

/-! ## Requests -/

/-- Hand a request to the node of a name. -/
def handTo (m : Mesh) (number : Nat) (name : String) (r : Request) : Outcome Unit × Mesh :=
  if ((m.node? number).map (·.isMe name)).getD false then
    let (outcome, m) := m.onCrawler number (·.accept r)
    (outcome.map fun _ => (), m)
  else
    let (reply, m) := m.callNode number name (.acceptRequest r)
    (reply.map fun _ => (), m)

/-- Pick a member for a request and note its name there. -/
def assign (m : Mesh) (number : Nat) (r : Request) : Option String × Request × Mesh :=
  match m.node? number with
  | none => (none, r, m)
  | some node =>
    let (name, r, distribution) := node.distribution.assign node.membership r
    (name, r, m.put number { node with distribution := distribution })

/-- Distribute a request: the member that is picked gets it, or the node itself if there is no
link to that member or it is broken. -/
def distribute (m : Mesh) (number : Nat) (r : Request) : Outcome Unit × Mesh :=
  let me := ((m.node? number).map Node.name).getD ""
  let (picked, r, m) := m.assign number r
  let target := picked.getD me
  match m.handTo number target r with
  | (.ok _, m) => (.ok (), m)
  | (.error e, m) =>
    let connected := ((m.node? number).map (·.isConnected target)).getD false
    if target != me && !connected then m.handTo number me { r with nodeName := some me }
    else (.error e, m)

end CrawlMesh.Mesh
