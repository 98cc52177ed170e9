/-
# Nodes of a mesh

A node has its crawler, its view of the membership, links to its peers and the distribution of
its requests. A peer is a member as long as there is a link to it; a link is evicted together
with the member, unless the peer has been linked anew in the meantime.
-/
import CrawlMesh.Crawler
import CrawlMesh.Mesh.Distribution
import CrawlMesh.Mesh.Link

namespace CrawlMesh

set_option autoImplicit false

/-- A definition that is to be sent over a link. -/
structure Errand where
  link : Link
  definition : SpiderDefinition
deriving Repr, Inhabited

/-- A node. The links are in ascending order of the names of the peers. -/
structure Node where
  info : NodeInfo
  listens : Net.SocketAddress
  crawler : Crawler
  membership : Membership
  links : List Link
  distribution : Distribution
  callTimeout : UInt64
  errands : List Errand

namespace Node

/-- How long a call may take in milliseconds, unless said otherwise. -/
def usualTimeout : UInt64 := 10000

/-- A node that knows of no other one. -/
def new (info : NodeInfo) (listens : Net.SocketAddress) (crawler : Crawler)
    (callTimeout : UInt64) : Node where
  info := info
  listens := listens
  crawler := crawler
  membership := Membership.empty.insert info
  links := []
  distribution := .new
  callTimeout := callTimeout
  errands := []

def name (n : Node) : String := n.info.name

def isMe (n : Node) (name : String) : Bool := n.info.name == name

/-- The other members. -/
def others (n : Node) : List NodeInfo := n.membership.members.filter fun m => !n.isMe m.name

def note (n : Node) (level : Level) (text : String) : Node :=
  { n with crawler := n.crawler.note level .node text }

def withCrawler {α : Type} (n : Node) (r : α × Crawler) : α × Node :=
  (r.1, { n with crawler := r.2 })

/-! ## Links -/

def link? (n : Node) (name : String) : Option Link := n.links.find? (·.peer.name == name)

/-- Is there a link to a peer that is not broken? -/
def isConnected (n : Node) (name : String) : Bool :=
  match n.link? name with
  | some l => !l.broken
  | none => false

/-- The names of the peers there are links to. -/
def connected (n : Node) : List String := n.links.map (·.peer.name)

def noLink (name : String) : CrawlError := .notFound s!"no connection to node {name}"

/-- Put a link at its place among links in ascending order. -/
def insertLink (link : Link) : List Link → List Link
  | [] => [link]
  | l :: rest =>
    if link.peer.name < l.peer.name then link :: l :: rest
    else if link.peer.name == l.peer.name then link :: rest
    else l :: insertLink link rest

/-- Keep a link, whose peer is no member by it yet. -/
def hold (n : Node) (link : Link) : Node := { n with links := insertLink link n.links }

/-- Know one member more. -/
def know (n : Node) (peer : NodeInfo) : Node := { n with membership := n.membership.insert peer }

/-- Keep a link and know its peer as a member. -/
def adopt (n : Node) (link : Link) : Node := (n.hold link).know link.peer

/-- Put a link in place of the one of its number, if that is kept. -/
def updateLink (n : Node) (link : Link) : Node :=
  { n with links := n.links.map fun l => if l.number == link.number then link else l }

/-- Drop a link and its peer, unless the peer has been linked anew. The answer tells whether
they were dropped. -/
def evict (n : Node) (link : Link) : Bool × Node :=
  match n.link? link.peer.name with
  | some l =>
    if l.number == link.number then
      (true, { n with
        links := n.links.filter (·.peer.name != link.peer.name)
        membership := n.membership.erase link.peer.name })
    else (false, n)
  | none => (false, n)

/-- What an answer to the first call on a stream leads to, the stream being the one to an
address and the link over it having a number: the link is kept, unless the peer is this node. -/
def meet (n : Node) (address : String) (number : Nat) (endpoint : Endpoint)
    (answer : Outcome Reply) : Outcome NodeInfo × Node :=
  match answer with
  | .error e => (.error e, n)
  | .ok reply =>
    if n.isMe reply.node.name then (.error (.argument s!"{address} is this node"), n)
    else (.ok reply.node, n.hold (.new number reply.node endpoint))

/-! ## Spiders -/

/-- Add a spider here, and let its definition be sent to the peers there are links to. -/
def addSpider (n : Node) (d : SpiderDefinition) : Outcome Unit × Node :=
  match n.crawler.add d with
  | (.error e, crawler) => (.error e, { n with crawler := crawler })
  | (.ok _, crawler) =>
    let links := n.others.filterMap fun m => n.link? m.name
    (.ok (), { n with crawler := crawler, errands := n.errands ++ links.map (⟨·, d⟩) })

/-- Answer a call without asking other nodes. -/
def answer (n : Node) : Call → Outcome Unit × Node
  | .isAlive | .getAllNodes | .letMeIn _ => (.ok (), n)
  | .acceptRequest r =>
    let (outcome, n) := n.withCrawler (n.crawler.accept r)
    (outcome.map fun _ => (), n)
  | .startSpider name => n.withCrawler (n.crawler.start name)
  | .stopSpider name => n.withCrawler (n.crawler.stop name)
  | .pauseSpider name => n.withCrawler (n.crawler.pause name)
  | .recoverSpider name => n.withCrawler (n.crawler.recover name)
  | .addSpider d => n.withCrawler (n.crawler.add d)
  | .addSpiderEverywhere d => n.addSpider d

/-- The reply to a call that ended so; it holds the members if these were asked for. -/
def reply (n : Node) (call : Call) (outcome : Outcome Unit) : Reply :=
  let reply := Reply.ofOutcome n.info outcome
  match call with
  | .getAllNodes => { reply with nodes := n.membership.members }
  | _ => reply

end Node

end CrawlMesh
