/-
# Errors of a crawl

Every failure that a node reports has a kind, and every kind a number by which it is known to
other nodes. On the way to another node an error becomes a `WireError`: its number, the wording
of its kind and its detail. Reading one back keeps kind, number and detail; the kinds that
hold nothing but a detail become themselves again, all others stay as they came.
-/
import CrawlMesh.Json.Record

namespace CrawlMesh

set_option autoImplicit false

/-- The stage of a crawl in which a failure arose. -/
inductive Stage
  | download
  | analyze
  | process
  | schedule
deriving DecidableEq, Repr, Inhabited

/-- What does the work of a stage. -/
def Stage.text : Stage → String
  | .download => "downloader"
  | .analyze => "analyzer"
  | .process => "pipeline"
  | .schedule => "scheduler"

/-- The kinds of failure. -/
inductive ErrorKind
  | argument
  | statusConflict
  | notFound
  | transport
  | download
  | analyze
  | process
  | schedule
  | capacity
deriving DecidableEq, Repr, Inhabited

namespace ErrorKind

def all : List ErrorKind :=
  [.argument, .statusConflict, .notFound, .transport, .download, .analyze, .process, .schedule,
    .capacity]

/-- The number by which other nodes know a kind. -/
def code : ErrorKind → UInt32
  | .argument => 10001
  | .download => 20001
  | .analyze => 20002
  | .process => 20003
  | .schedule => 20004
  | .notFound => 30001
  | .statusConflict => 40004
  | .transport => 60005
  | .capacity => 70003

/-- The kind of a number. -/
def ofCode? (code : UInt32) : Option ErrorKind := all.find? (·.code == code)

/-- The name of a kind. -/
def name : ErrorKind → String
  | .argument => "Argument"
  | .statusConflict => "StatusConflict"
  | .notFound => "NotFound"
  | .transport => "Transport"
  | .download => "Download"
  | .analyze => "Analyze"
  | .process => "Process"
  | .schedule => "Schedule"
  | .capacity => "Capacity"

/-- The wording of a kind. -/
def message : ErrorKind → String
  | .argument => "Argument Error"
  | .statusConflict => "Status Conflict"
  | .notFound => "Not Found"
  | .transport => "Transport Error"
  | .download => "Downloader Error"
  | .analyze => "Analyzer Error"
  | .process => "Pipeline Error"
  | .schedule => "Scheduler Error"
  | .capacity => "Capacity Error"

end ErrorKind

/-- The kind of a failure in a stage. -/
def Stage.kind : Stage → ErrorKind
  | .download => .download
  | .analyze => .analyze
  | .process => .process
  | .schedule => .schedule

/-- The stage of a name. -/
def Stage.ofName? (name : String) : Option Stage :=
  [Stage.download, .analyze, .process, .schedule].find? (·.kind.name == name)

/-- An error as it travels between nodes. -/
structure WireError where
  code : UInt32
  message : String
  detail : String
deriving DecidableEq, Repr, Inhabited

def WireError.text (e : WireError) : String := s!"[{e.code.toNat}] {e.message}: {e.detail}"

namespace WireError

def fieldNames : List String := ["code", "message", "detail"]

def toJson (e : WireError) : Json :=
  .object (fieldNames.zip [.nat e.code.toNat, .text e.message, .text e.detail])

def ofJson? (j : Json) : Option WireError := do
  match ← j.slots? fieldNames with
  | [code, message, detail] =>
    some ⟨← code.required Json.asUInt32?, ← message.required Json.asText?,
      ← detail.required Json.asText?⟩
  | _ => none

end WireError

/-- A failure. -/
inductive CrawlError
  | argument (detail : String)
  | statusConflict (detail : String)
  | notFound (detail : String)
  | transport (detail : String)
  | stage (stage : Stage) (message : String) (context : String)
  | capacity (detail : String)
  | remote (error : WireError)
deriving DecidableEq, Repr, Inhabited

/-- The outcome of an operation that can fail. -/
abbrev Outcome (α : Type) := Except CrawlError α

namespace CrawlError

/-- The kind of a failure. A failure from elsewhere with an unknown number counts as one of the
transport. -/
def kind : CrawlError → ErrorKind
  | .argument _ => .argument
  | .statusConflict _ => .statusConflict
  | .notFound _ => .notFound
  | .transport _ => .transport
  | .stage s _ _ => s.kind
  | .capacity _ => .capacity
  | .remote e => (ErrorKind.ofCode? e.code).getD .transport

/-- The number of a failure; one from elsewhere keeps its own. -/
def code : CrawlError → UInt32
  | .remote e => e.code
  | e => e.kind.code

/-- The wording of a failure. -/
def text : CrawlError → String
  | .argument d => "Argument error: " ++ d
  | .statusConflict d => "Status conflict: " ++ d
  | .notFound d => "Not found: " ++ d
  | .transport d => "Transport error: " ++ d
  | .stage s message context => s!"{s.text} error: {message} ({context})"
  | .capacity d => "Capacity error: " ++ d
  | .remote e => "Remote error: " ++ e.text

/-- What a failure says besides its kind. -/
def detail : CrawlError → String
  | .argument d | .statusConflict d | .notFound d | .transport d | .capacity d => d
  | .stage _ message context => s!"{message} ({context})"
  | .remote e => e.detail

/-- A failure as JSON: the name of its kind, its number and its wording. -/
def toJson (e : CrawlError) : Json :=
  .object [("error", .text e.kind.name), ("code", .nat e.code.toNat), ("message", .text e.text)]

/-- A failure on its way to another node. One from elsewhere is passed on as it came. -/
def toWire : CrawlError → WireError
  | .remote e => e
  | e => ⟨e.kind.code, e.kind.message, e.detail⟩

/-- A failure that came from another node. -/
def ofWire (e : WireError) : CrawlError :=
  match ErrorKind.ofCode? e.code with
  | some .argument => .argument e.detail
  | some .statusConflict => .statusConflict e.detail
  | some .notFound => .notFound e.detail
  | some .capacity => .capacity e.detail
  | _ => .remote e

/-- A failure as one of a stage: failures of a stage stay, others get the stage and a context. -/
def inStage (s : Stage) (context : String) : CrawlError → CrawlError
  | .stage t message c => .stage t message c
  | e => .stage s e.text context

end CrawlError

end CrawlMesh
