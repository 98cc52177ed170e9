/-
# The modules of a spider

A module works as a downloader, an analyzer or a pipeline. A factory builds the modules for a
definition, drawing their serial numbers and preparing the places they write to.
-/
import CrawlMesh.Analyzer
import CrawlMesh.Downloader
import CrawlMesh.Pipeline
import CrawlMesh.Registrar
import CrawlMesh.Serial
import CrawlMesh.Spider.Definition

namespace CrawlMesh

set_option autoImplicit false

/-- What a module works with. -/
inductive Worker
  | downloader (downloader : Downloader)
  | analyzer (analyzer : Analyzer)
  | pipeline (pipeline : Pipeline Storage)

namespace Worker

/-- What a module adds to its summary. -/
def extra : Worker → Option Json
  | .downloader d => d.stats.map DownloadStats.toJson
  | _ => none

end Worker

/-- The summary of a module. -/
def Module.summary (m : Module Worker) : Json := m.meter.summary m.body.extra

/-- The modules that a scheduler is to work with. -/
structure ModuleSet where
  downloaders : List (Module Worker)
  analyzers : List (Module Worker)
  pipelines : List (Module Worker)

namespace ModuleSet

def empty : ModuleSet := ⟨[], [], []⟩

/-- All modules in the order in which they are registered, each in the role it is given for. -/
def all (s : ModuleSet) : List (Module Worker) :=
  s.downloaders.map (·.withRole .downloader) ++ s.analyzers.map (·.withRole .analyzer)
    ++ s.pipelines.map (·.withRole .pipeline)

/-- There has to be a module of every role. -/
def check (s : ModuleSet) : Outcome Unit :=
  if s.downloaders.isEmpty then .error (.argument "no downloader")
  else if s.analyzers.isEmpty then .error (.argument "no analyzer")
  else if s.pipelines.isEmpty then .error (.argument "no pipeline")
  else .ok ()

/-- The modules but those of some roles. -/
def without (s : ModuleSet) (roles : List Role) : ModuleSet where
  downloaders := if roles.contains .downloader then [] else s.downloaders
  analyzers := if roles.contains .analyzer then [] else s.analyzers
  pipelines := if roles.contains .pipeline then [] else s.pipelines

/-- The modules by number in running text. -/
def text (s : ModuleSet) : String :=
  "ModuleArgs \x7b downloaders: " ++ toString s.downloaders.length ++ ", analyzers: " ++
    toString s.analyzers.length ++ ", pipelines: " ++ toString s.pipelines.length ++ " \x7d"

end ModuleSet

/-- What modules are built from: serial numbers and the places they write to. -/
structure Workshop where
  serial : Serial
  storage : Storage

/-- Builds the modules for a definition. -/
abbrev ModuleFactory := SpiderDefinition → Workshop → Outcome ModuleSet × Workshop

namespace Workshop

/-- A workshop whose first serial number is one. -/
def new (storage : Storage) : Workshop := ⟨.new 1 0, storage⟩

/-- The next identifier of a role. -/
def nextId (w : Workshop) (address : Option Net.SocketAddress) (role : Role) :
    ModuleId × Workshop :=
  let (n, serial) := w.serial.get
  (.of ⟨role, n, address⟩, { w with serial := serial })

/-- A new module of a role. -/
def moduleOf (id : ModuleId) (role : Role) (body : Worker) : Outcome (Module Worker) := do
  return ⟨role, ← Meter.ofRole id Counts.simpleScore role, body⟩

/-- The steps of a definition; where there are none, items go to the log. -/
def steps (w : Workshop) (d : SpiderDefinition) :
    Outcome (List (Processor Storage)) × Workshop :=
  let (steps, storage) := ProcessorSpec.buildAll d.name w.storage d.processors
  (steps.map fun l => if l.isEmpty then [ProcessorSpec.logStep d.name] else l,
    { w with storage := storage })

/-- The usual factory: one downloader, one analyzer that reads by the rules, and one pipeline. -/
def usualFactory (address : Option Net.SocketAddress) (downloader : Downloader) :
    ModuleFactory := fun d w =>
  let (downloaderId, w) := w.nextId address .downloader
  match RuleReader.of d.rules with
  | .error e => (.error e, w)
  | .ok reader =>
    let (analyzerId, w) := w.nextId address .analyzer
    match w.steps d with
    | (.error e, w) => (.error e, w)
    | (.ok steps, w) =>
      let (pipelineId, w) := w.nextId address .pipeline
      let modules : Outcome ModuleSet := do
        let analyzer ← Analyzer.of [reader.read]
        let pipeline ← Pipeline.of steps d.failFast
        return ⟨[← moduleOf downloaderId .downloader (.downloader downloader)],
          [← moduleOf analyzerId .analyzer (.analyzer analyzer)],
          [← moduleOf pipelineId .pipeline (.pipeline pipeline)]⟩
      (modules, w)

end Workshop

end CrawlMesh
