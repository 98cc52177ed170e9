/-
# Settings of a node

The settings with which a node starts, from a text or from the command line. A name that is not
given is drawn afresh. The settings have to be sensible before a node can start by them.
-/
import CrawlMesh.Json.Parser
import CrawlMesh.Mesh.NodeInfo
import CrawlMesh.Text.Blank

namespace CrawlMesh

set_option autoImplicit false

/-- The settings of a node. Times are in milliseconds, and a port of zero means any free one. -/
structure NodeConfig where
  name : String
  ip : String
  port : UInt16
  join : Option String
  heartbeatInterval : UInt64
  callTimeout : UInt64
  downloadTimeout : UInt64
  distributerConcurrency : UInt64
  queueBufferCap : UInt32
  queueMaxBuffers : UInt32
deriving DecidableEq, Repr, Inhabited

namespace NodeConfig

/-- The usual settings of a node of a name. -/
def usual (name : String) : NodeConfig where
  name := name
  ip := "127.0.0.1"
  port := 8200
  join := none
  heartbeatInterval := 5000
  callTimeout := 10000
  downloadTimeout := 30000
  distributerConcurrency := 10
  queueBufferCap := 50
  queueMaxBuffers := 20000

def check (c : NodeConfig) : Outcome Unit := do
  if Text.isAllBlank c.name then throw (.argument "empty node name")
  if c.heartbeatInterval == 0 || c.callTimeout == 0 then
    throw (.argument "heartbeat interval and rpc timeout must be positive")
  if c.distributerConcurrency == 0 then
    throw (.argument "distributer concurrency must be positive")
  if let some peer := c.join then
    let _ ← parsePeer peer

/-- The whole milliseconds in a number of microseconds. -/
def milliseconds (microseconds : Nat) : UInt64 := (microseconds / 1000).toUInt64

def fieldNames : List String :=
  ["name", "ip", "port", "join", "heartbeat_interval_ms", "rpc_timeout_ms", "download_timeout_ms",
    "distributer_concurrency", "distribute_buffer_cap", "distribute_max_buffer_number"]

def toJson (c : NodeConfig) : Json :=
  .object (fieldNames.zip
    [.text c.name, .text c.ip, .nat c.port.toNat, Json.ofOption .text c.join,
      .nat c.heartbeatInterval.toNat, .nat c.callTimeout.toNat, .nat c.downloadTimeout.toNat,
      .nat c.distributerConcurrency.toNat, .nat c.queueBufferCap.toNat,
      .nat c.queueMaxBuffers.toNat])

/-- Settings; what is not given is as usual. -/
def ofJson? (usual : NodeConfig) (j : Json) : Option NodeConfig := do
  match ← j.slots? fieldNames with
  | [name, ip, port, join, heartbeat, call, download, concurrency, bufferCap, maxBuffers] =>
    some {
      name := ← name.withDefault Json.asText? usual.name
      ip := ← ip.withDefault Json.asText? usual.ip
      port := ← port.withDefault Json.asUInt16? usual.port
      join := ← join.withDefault (Json.Slot.nullable Json.asText?) usual.join
      heartbeatInterval := ← heartbeat.withDefault Json.asUInt64? usual.heartbeatInterval
      callTimeout := ← call.withDefault Json.asUInt64? usual.callTimeout
      downloadTimeout := ← download.withDefault Json.asUInt64? usual.downloadTimeout
      distributerConcurrency := ← concurrency.withDefault Json.asUInt64? usual.distributerConcurrency
      queueBufferCap := ← bufferCap.withDefault Json.asUInt32? usual.queueBufferCap
      queueMaxBuffers := ← maxBuffers.withDefault Json.asUInt32? usual.queueMaxBuffers }
  | _ => none

/-- The settings in a file, given its content or why it cannot be read. -/
def ofFile (usual : NodeConfig) (path : String) (content : Except String String) :
    Outcome NodeConfig := do
  match content with
  | .error why => throw (.argument s!"cannot read config {path}: {why}")
  | .ok content =>
    match (Json.parse? content).bind (ofJson? usual) with
    | none => throw (.argument s!"invalid config {path}")
    | some config => do
      config.check
      return config

end NodeConfig

end CrawlMesh
