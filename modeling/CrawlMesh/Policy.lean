/-
# Policies of a crawl

Which requests a crawl accepts and how much it may hold. The accepted domains have to be given;
an empty list accepts them all. Every pool has a size, and no part of a size may be zero.
-/
import CrawlMesh.Domain
import CrawlMesh.Json.Record

namespace CrawlMesh

set_option autoImplicit false

/-! ## Requests -/

/-- Which requests a crawl accepts. -/
structure CrawlPolicy where
  acceptedDomains : Option (List String)
  maxDepth : UInt32
deriving DecidableEq, Repr, Inhabited

namespace CrawlPolicy

/-- All domains, one link deep. -/
def usual : CrawlPolicy := ⟨some [], 1⟩

def check (p : CrawlPolicy) : Outcome Unit :=
  if p.acceptedDomains.isNone then .error (.argument "nil accepted domain list") else .ok ()

/-- The primary domains of the accepted ones. -/
def primaryDomains (p : CrawlPolicy) : Outcome (List String) :=
  (p.acceptedDomains.getD []).mapM primaryDomain

def fieldNames : List String := ["accepted_domains", "max_depth"]

def toJson (p : CrawlPolicy) : Json :=
  .object (fieldNames.zip
    [Json.ofOption (fun l => .list (l.map .text)) p.acceptedDomains, .nat p.maxDepth.toNat])

def ofJson? (j : Json) : Option CrawlPolicy := do
  match ← j.slots? fieldNames with
  | [acceptedDomains, maxDepth] =>
    some ⟨← acceptedDomains.optional (Json.asList? Json.asText?),
      ← maxDepth.required Json.asUInt32?⟩
  | _ => none

end CrawlPolicy

/-! ## Pools -/

/-- The size of a pool: how much a buffer holds and how many buffers there may be. -/
structure PoolSize where
  bufferCap : UInt32
  maxBuffers : UInt32
deriving DecidableEq, Repr, Inhabited

/-- The sizes of the pools of a crawl. -/
structure PoolSizes where
  requests : PoolSize
  responses : PoolSize
  items : PoolSize
  errors : PoolSize
deriving DecidableEq, Repr, Inhabited

namespace PoolSizes

/-- The same size for all pools. -/
def uniform (size : PoolSize) : PoolSizes := ⟨size, size, size, size⟩

def usual : PoolSizes := uniform ⟨50, 1000⟩

/-- The sizes in their order with what they are called. -/
def named (s : PoolSizes) : List (String × PoolSize) :=
  [("request", s.requests), ("response", s.responses), ("item", s.items), ("error", s.errors)]

/-- The parts of the sizes in their order with what they are called. -/
def parts (s : PoolSizes) : List (String × UInt32) :=
  s.named.flatMap fun (name, size) =>
    [(name ++ " buffer capacity", size.bufferCap), (name ++ " max buffer number", size.maxBuffers)]

def check (s : PoolSizes) : Outcome Unit :=
  match s.parts.find? (·.2 == 0) with
  | some (name, _) => .error (.argument ("zero " ++ name))
  | none => .ok ()

def fieldNames : List String :=
  ["req", "resp", "item", "error"].flatMap fun name =>
    [name ++ "_buffer_cap", name ++ "_max_buffer_number"]

def toJson (s : PoolSizes) : Json :=
  .object (fieldNames.zip (s.parts.map fun part => .nat part.2.toNat))

def ofJson? (j : Json) : Option PoolSizes := do
  match ← (← j.slots? fieldNames).mapM (·.required Json.asUInt32?) with
  | [a, b, c, d, e, f, g, h] => some ⟨⟨a, b⟩, ⟨c, d⟩, ⟨e, f⟩, ⟨g, h⟩⟩
  | _ => none

end PoolSizes

end CrawlMesh
