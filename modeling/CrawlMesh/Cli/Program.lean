/-
# The program

What the program does by its command line: it starts a node by the settings, adds the spiders
whose definitions are in files and, if asked to, starts them; then the node runs until the
operator interrupts it. What goes wrong before that ends the program.
-/
import CrawlMesh.Cli.Options
import CrawlMesh.Mesh.Control
import CrawlMesh.Mesh.Startup

namespace CrawlMesh.Cli

set_option autoImplicit false

/-! ## Help -/

/-- What is said of the program. -/
def about : String := "Distributed crawling node"

/-- The line of an option in the help text, in columns. -/
def helpLine (option help : String) : String :=
  let line := "      " ++ option
  if help.isEmpty then line else line.pushn ' ' (28 - line.length) ++ help

/-- The help text. -/
def helpText (program : String) : List String :=
  [about, "", s!"Usage: {program} [OPTIONS]", "", "Options:"]
    ++ Key.all.map (fun key => helpLine (key.text ++ (if key = .spider then "..." else "")) key.help)
    ++ [helpLine "--start" "Start the registered spiders right away",
      "  -h, --help" ++ helpLine "" "Print help"]

/-! ## Ends -/

/-- How the program ends: its exit code and what it writes. -/
structure Ended where
  exit : UInt32
  output : List String
  errors : List String
  journal : Journal
deriving Repr, Inhabited

/-- The end of a program whose arguments lead nowhere. -/
def Ended.ofStop (program : String) : Stop → Ended
  | .help => ⟨0, helpText program, [], []⟩
  | .refused usage =>
    ⟨2, [], ["error: " ++ usage.message, "", "For more information, try '--help'."], []⟩

/-- The end of a program that failed, with the cause of the failure if there is another. -/
def Ended.failed (journal : Journal) (why : String) (cause : Option String) : Ended :=
  let causes := match cause with
    | some cause => ["", "Caused by:", "    " ++ cause]
    | none => []
  ⟨1, [], ("Error: " ++ why) :: causes, journal⟩

/-! ## Files -/

/-- The text of a file. -/
def readText (t : Storage.Tree) (path : String) : Except String String :=
  match t.read path with
  | .ok (.text s) => .ok s
  | .ok content => .ok content.render
  | .error fault => .error fault.message

/-- The settings that options ask for; what is not said is as usual or as in the file. -/
def Options.settings (o : Options) (usual : NodeConfig) (t : Storage.Tree) :
    Outcome NodeConfig := do
  let c ← match o.config with
    | some path => NodeConfig.ofFile usual path (readText t path)
    | none => pure usual
  let c := { c with
    name := o.name.getD c.name, ip := o.ip.getD c.ip, port := o.port.getD c.port
    join := o.join <|> c.join }
  c.check
  return c

/-- The definition in a file, or why there is none and what caused it. -/
def readDefinition (t : Storage.Tree) (path : String) :
    Except (String × Option String) SpiderDefinition :=
  match readText t path with
  | .error why => .error (s!"reading spider {path}", some why)
  | .ok text =>
    match (Json.parse? text).bind SpiderDefinition.ofJson? with
    | some d => .ok d
    | none => .error (s!"parsing spider {path}", none)

/-! ## Running -/

/-- A program whose node runs. -/
structure Running where
  mesh : Mesh
  number : Nat

namespace Running

def node? (r : Running) : Option Node := r.mesh.node? r.number

def journal (r : Running) : Journal := ((r.node?).map (·.crawler.journal)).getD []

def note (r : Running) (level : Level) (text : String) : Running :=
  { r with mesh := r.mesh.modify r.number fun n =>
      { n with crawler := n.crawler.note level .program text } }

/-- Add the spiders of files, and tell which were added. -/
def addSpiders (r : Running) (t : Storage.Tree) : List String → Except Ended (List String × Running)
  | [] => .ok ([], r)
  | path :: rest =>
    match readDefinition t path with
    | .error (why, cause) => .error (.failed r.journal why cause)
    | .ok d =>
      match r.mesh.addSpider r.number d with
      | (.ok _, mesh) => do
        let (names, r) ← addSpiders { r with mesh := mesh } t rest
        return (d.name :: names, r)
      | (.error e, mesh) =>
        addSpiders ({ r with mesh := mesh }.note .error s!"Spider {d.name} not added: {e.text}")
          t rest

/-- Start a spider. -/
def startSpider (r : Running) (name : String) : Running :=
  let (result, mesh) := r.mesh.control r.number (.start name)
  let r := { r with mesh := mesh }
  match result.error with
  | some why => r.note .warn s!"Spider {name} not started: {why}"
  | none => r

/-- Start a node and its spiders. -/
def start (o : Options) (usual : NodeConfig) (mesh : Mesh)
    (factory : Net.SocketAddress → ModuleFactory) (storage : Storage) :
    Except Ended Running := do
  let failed (e : CrawlError) : Ended := .failed [] e.text none
  let config ← (o.settings usual storage.tree).mapError failed
  let (number, mesh) := mesh.start config factory storage
  let r : Running := ⟨mesh, ← number.mapError failed⟩
  let (names, r) ← r.addSpiders storage.tree o.spiders
  let r := if o.start then names.foldl startSpider r else r
  match r.node? with
  | some node => return r.note .info s!"Node {node.info.text} running, Ctrl-C to stop"
  | none => return r

/-- Let the work go on, and then end the node. -/
def finish (r : Running) : Ended :=
  let (node, _) := r.mesh.settle.shutdown r.number
  ⟨0, [], [], (node.map (·.crawler.journal)).getD []⟩

end Running

end CrawlMesh.Cli
