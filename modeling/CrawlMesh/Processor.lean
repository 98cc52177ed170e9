/-
# Processors

The steps of a pipeline. A spider's definition describes them as plain data, and a step is built
from its description where the spider runs.
-/
import CrawlMesh.Storage.Basic

namespace CrawlMesh

set_option autoImplicit false

/-- A step: from an item to the next one or an error, with an effect on a state. -/
abbrev Processor (σ : Type) := Item → σ → Outcome Item × σ

/-- A step without effect. -/
def Processor.pure {σ : Type} (f : Item → Outcome Item) : Processor σ := fun item s => (f item, s)

/-- The description of a step. -/
inductive ProcessorSpec
  /-- Write the item to the log. -/
  | log
  /-- Store the item in a file below a directory. -/
  | disk (path : String)
  /-- Refuse an item that has no value under one of the names. -/
  | require (fields : List String)
  /-- Give the item a value. -/
  | set (field : String) (value : Json)
deriving Repr, Inhabited

namespace ProcessorSpec

/-! ## Steps -/

def logStep (spider : String) : Processor Storage := fun item s =>
  (.ok item, s.log (Storage.itemLine spider item))

def diskStep (base : String) : Processor Storage := fun item s =>
  match s.store base item with
  | (.ok (), s) => (.ok item, s)
  | (.error fault, s) =>
    (.error (.stage .process
      ("disk write failed: " ++ (CrawlError.transport fault.message).text) (Item.label item)), s)

/-- An item that has a value under each of some names. -/
def requireFields (names : List String) (item : Item) : Outcome Item :=
  match names.find? fun name => !Item.hasValue item name with
  | some name => .error (.stage .process s!"missing field {Text.quoted name}" (Item.label item))
  | none => .ok item

def setField (name : String) (value : Json) (item : Item) : Outcome Item :=
  .ok (Json.Fields.insert name value item)

/-- The step of a description. Storing in files needs the directory of the spider. -/
def build (spider : String) (s : Storage) : ProcessorSpec → Outcome (Processor Storage) × Storage
  | .log => (.ok (logStep spider), s)
  | .disk path =>
    let base := Storage.spiderDirectory path spider
    match s.tree.makeDirectories base with
    | (.ok (), tree) => (.ok (diskStep base), { s with tree := tree })
    | (.error fault, tree) => (.error (.transport fault.message), { s with tree := tree })
  | .require names => (.ok (.pure (requireFields names)), s)
  | .set name value => (.ok (.pure (setField name value)), s)

/-- The steps of descriptions, up to the first that fails. -/
def buildAll (spider : String) (s : Storage) :
    List ProcessorSpec → Outcome (List (Processor Storage)) × Storage
  | [] => (.ok [], s)
  | spec :: rest =>
    match spec.build spider s with
    | (.error e, s) => (.error e, s)
    | (.ok step, s) =>
      let (steps, s) := buildAll spider s rest
      (steps.map (step :: ·), s)

/-! ## As JSON -/

def toJson : ProcessorSpec → Json
  | .log => .object [("type", .text "log")]
  | .disk path => .object [("type", .text "disk"), ("path", .text path)]
  | .require names => .object [("type", .text "require"), ("fields", .list (names.map .text))]
  | .set name value => .object [("type", .text "set"), ("field", .text name), ("value", value)]

/-- The type of a description and the rest of it: a field of an object or the head of a list. -/
def typed? : Json → Option (String × Json)
  | .object fields =>
    match fields.filter (·.1 == "type") with
    | [(_, .text kind)] => some (kind, .object (fields.filter (·.1 != "type")))
    | _ => none
  | .list (.text kind :: rest) => some (kind, .list rest)
  | _ => none

def ofJson? (j : Json) : Option ProcessorSpec := do
  let (kind, rest) ← typed? j
  match kind with
  | "log" => do
    let _ ← rest.slots? []
    some .log
  | "disk" =>
    match ← rest.slots? ["path"] with
    | [path] => return .disk (← path.required Json.asText?)
    | _ => none
  | "require" =>
    match ← rest.slots? ["fields"] with
    | [fields] => return .require (← fields.required (Json.asList? Json.asText?))
    | _ => none
  | "set" =>
    match ← rest.slots? ["field", "value"] with
    | [field, value] => return .set (← field.required Json.asText?) (← value.required some)
    | _ => none
  | _ => none

end ProcessorSpec

end CrawlMesh
