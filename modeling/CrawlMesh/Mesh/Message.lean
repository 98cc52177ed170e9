/-
# Messages

What nodes ask of one another. A call travels with the identity of the caller, a reply with that
of the node that replies. A reply may hold an error, or say without one that the call was refused.
-/
import CrawlMesh.Mesh.NodeInfo
import CrawlMesh.Spider.Definition

namespace CrawlMesh

set_option autoImplicit false

/-! ## Calls -/

/-- What a node can be asked. -/
inductive Call
  | isAlive
  | acceptRequest (request : Request)
  | startSpider (name : String)
  | stopSpider (name : String)
  | pauseSpider (name : String)
  | recoverSpider (name : String)
  /-- Add a spider on the called node only. -/
  | addSpider (definition : SpiderDefinition)
  /-- Add a spider on the called node and all it is connected to. -/
  | addSpiderEverywhere (definition : SpiderDefinition)
  | letMeIn (node : NodeInfo)
  | getAllNodes
deriving Repr, Inhabited

namespace Call

def name : Call → String
  | .isAlive => "IsAlive"
  | .acceptRequest _ => "AcceptRequest"
  | .startSpider _ => "StartSpider"
  | .stopSpider _ => "StopSpider"
  | .pauseSpider _ => "PauseSpider"
  | .recoverSpider _ => "RecoverSpider"
  | .addSpider _ => "AddSpider"
  | .addSpiderEverywhere _ => "FirstAddSpider"
  | .letMeIn _ => "LetMeIn"
  | .getAllNodes => "GetAllNode"

/-- What is asked with a call. -/
def params? : Call → Option Json
  | .isAlive | .getAllNodes => none
  | .acceptRequest r => some r.toJson
  | .startSpider name | .stopSpider name | .pauseSpider name | .recoverSpider name =>
    some (.text name)
  | .addSpider d | .addSpiderEverywhere d => some d.toJson
  | .letMeIn node => some node.toJson

def toJson (c : Call) : Json :=
  .object (("method", .text c.name) ::
    (match c.params? with
      | some params => [("params", params)]
      | none => []))

/-- The call of a name; a call with nothing to ask may still come with null. -/
def ofParts? (name : String) (params : Option Json) : Option Call :=
  let bare (c : Call) : Option Call :=
    match params with
    | none | some .null => some c
    | _ => none
  let text := params.bind Json.asText?
  let definition := params.bind SpiderDefinition.ofJson?
  match name with
  | "IsAlive" => bare .isAlive
  | "AcceptRequest" => (params.bind Request.ofJson?).map .acceptRequest
  | "StartSpider" => text.map .startSpider
  | "StopSpider" => text.map .stopSpider
  | "PauseSpider" => text.map .pauseSpider
  | "RecoverSpider" => text.map .recoverSpider
  | "AddSpider" => definition.map .addSpider
  | "FirstAddSpider" => definition.map .addSpiderEverywhere
  | "LetMeIn" => (params.bind NodeInfo.ofJson?).map .letMeIn
  | "GetAllNode" => bare .getAllNodes
  | _ => none

def ofJson? : Json → Option Call
  | .object fields =>
    match fields.filter (·.1 == "method"), fields.filter (·.1 == "params") with
    | [(_, .text name)], [] => ofParts? name none
    | [(_, .text name)], [(_, params)] => ofParts? name (some params)
    | _, _ => none
  | .list [.text name, params] => ofParts? name (some params)
  | _ => none

end Call

/-- A call and who makes it. -/
structure Envelope where
  sender : NodeInfo
  call : Call
deriving Repr, Inhabited

namespace Envelope

def fieldNames : List String := ["from", "call"]

def toJson (e : Envelope) : Json := .object (fieldNames.zip [e.sender.toJson, e.call.toJson])

def ofJson? (j : Json) : Option Envelope := do
  match ← j.slots? fieldNames with
  | [sender, call] => some ⟨← sender.required NodeInfo.ofJson?, ← call.required Call.ofJson?⟩
  | _ => none

end Envelope

/-! ## Replies -/

/-- The reply to a call: who replies, whether the call was done, the error if not, and the nodes
that were asked for. -/
structure Reply where
  node : NodeInfo
  result : Bool
  error : Option WireError
  nodes : List NodeInfo
deriving DecidableEq, Repr, Inhabited

namespace Reply

/-- The reply of a node to a call that ended so. -/
def ofOutcome (node : NodeInfo) : Outcome Unit → Reply
  | .ok _ => ⟨node, true, none, []⟩
  | .error e => ⟨node, false, some e.toWire, []⟩

def refused (node : NodeInfo) : CrawlError :=
  .remote ⟨ErrorKind.transport.code, "Rpc Call Failed", s!"node {node.text} refused the call"⟩

/-- How the call ended for the caller. -/
def outcome (r : Reply) : Outcome Reply :=
  match r.error with
  | some e => .error (.ofWire e)
  | none => if r.result then .ok r else .error (refused r.node)

def fieldNames : List String := ["node", "result", "error", "nodes"]

/-- A reply as JSON; what it does not hold is not written. -/
def toJson (r : Reply) : Json :=
  .object ([("node", r.node.toJson), ("result", .bool r.result)]
    ++ (match r.error with
        | some e => [("error", e.toJson)]
        | none => [])
    ++ (if r.nodes.isEmpty then [] else [("nodes", .list (r.nodes.map (·.toJson)))]))

def ofJson? (j : Json) : Option Reply := do
  match ← j.slots? fieldNames with
  | [node, result, error, nodes] =>
    some ⟨← node.required NodeInfo.ofJson?, ← result.required Json.asBool?,
      ← error.optionalDefault WireError.ofJson?, ← nodes.withDefault (Json.asList? NodeInfo.ofJson?) []⟩
  | _ => none

end Reply

end CrawlMesh
