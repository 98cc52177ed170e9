/-
# Operator commands

What an operator can ask of a node, for itself and for the whole mesh. Starting a spider also
starts the distribution of requests.
-/
import CrawlMesh.Mesh.ControlResult
import CrawlMesh.Mesh.Work

namespace CrawlMesh

set_option autoImplicit false

/-- A command. -/
inductive Command
  | spiders
  | status (name : String)
  | statuses
  | cluster
  | add (definition : SpiderDefinition)
  | start (name : String)
  | stop (name : String)
  | pause (name : String)
  | recover (name : String)

namespace Command

/-- The command of a word about a spider's name, if the word needs no definition. -/
def ofWord? (name : String) : String → Option Command
  | "spiders" => some .spiders
  | "status" => some (.status name)
  | "statuses" => some .statuses
  | "cluster" => some .cluster
  | "start" => some (.start name)
  | "stop" => some (.stop name)
  | "pause" => some (.pause name)
  | "recover" => some (.recover name)
  | _ => none

end Command

namespace Mesh

/-- What a node tells of the mesh. -/
def overview (node : Node) : Json :=
  .object [("node", node.info.toJson),
    ("nodes", .list (node.membership.members.map NodeInfo.toJson)),
    ("distributer", .text node.distribution.state.text),
    ("distribute_queue_size", .nat node.crawler.queue.pool.total)]

/-- The result of a look at a node. -/
def look (m : Mesh) (number : Nat) (f : Node → Outcome Json) : ControlResult × Mesh :=
  let outcome : Outcome Json := match m.node? number with
    | some node => f node
    | none => .error (noNode number)
  (.ofOutcome some outcome, m)

/-- The result of something that is done. -/
def doing (r : Outcome Unit × Mesh) : ControlResult × Mesh := (.ofOutcome (fun _ => none) r.1, r.2)

/-- Carry out a command on a node. -/
def control (m : Mesh) (number : Nat) : Command → ControlResult × Mesh
  | .spiders => m.look number fun n => .ok (.list (n.crawler.names.map .text))
  | .status name => m.look number fun n => (n.crawler.status name).map SpiderStatus.toJson
  | .statuses => m.look number fun n => .ok (.list (n.crawler.statuses.map SpiderStatus.toJson))
  | .cluster => m.look number fun n => .ok (overview n)
  | .add d => doing (m.addSpider number d)
  | .start name =>
    match m.startSpider number name with
    | (.ok _, m) => doing (.ok (), m.startDistribution number)
    | (.error e, m) => doing (.error e, m)
  | .stop name => doing (m.stopSpider number name)
  | .pause name => doing (m.pauseSpider number name)
  | .recover name => doing (m.recoverSpider number name)

end Mesh

end CrawlMesh
