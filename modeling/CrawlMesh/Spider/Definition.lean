/-
# Definitions of spiders

All that is needed to build a spider, as plain data, so that a definition can be sent to any
node. A spider's first requests are those for its start addresses and then its start requests;
they belong to the spider and lie at depth zero.
-/
import CrawlMesh.Policy
import CrawlMesh.Processor
import CrawlMesh.Rule.Reader

namespace CrawlMesh

set_option autoImplicit false

/-- The definition of a spider. -/
structure SpiderDefinition where
  name : String
  policy : CrawlPolicy
  sizes : PoolSizes
  rules : RuleSet
  processors : List ProcessorSpec
  startUrls : List Url
  startRequests : List Request
  maxConcurrency : Option UInt64
  failFast : Bool
deriving Repr, Inhabited

namespace SpiderDefinition

/-- A spider of which nothing but the name is said. -/
def new (name : String) : SpiderDefinition where
  name := name
  policy := .usual
  sizes := .usual
  rules := .empty
  processors := []
  startUrls := []
  startRequests := []
  maxConcurrency := none
  failFast := true

/-- Add the start address that a text stands for. -/
def startUrl (d : SpiderDefinition) (s : String) : Outcome SpiderDefinition :=
  match Url.parse s with
  | .ok url => .ok { d with startUrls := d.startUrls ++ [url] }
  | .error fault => .error (Request.badUrl fault)

def check (d : SpiderDefinition) : Outcome Unit := do
  if Text.isAllBlank d.name then throw (.argument "empty spider name")
  d.policy.check
  d.sizes.check
  let _ ← RuleReader.of d.rules

/-- The first requests of the spider. -/
def initialRequests (d : SpiderDefinition) : List Request :=
  (d.startUrls.map Request.ofUrl ++ d.startRequests).map fun r =>
    { r with depth := 0, spiderName := d.name }

/-! ## As JSON -/

def fieldNames : List String :=
  ["name", "request_args", "data_args", "rules", "processors", "start_urls", "start_requests",
    "max_concurrency", "fail_fast"]

def toJson (d : SpiderDefinition) : Json :=
  .object (fieldNames.zip
    [.text d.name, d.policy.toJson, d.sizes.toJson, d.rules.toJson,
      .list (d.processors.map (·.toJson)), .list (d.startUrls.map (.text ·.text)),
      .list (d.startRequests.map (·.toJson)), Json.ofOption (.nat ·.toNat) d.maxConcurrency,
      .bool d.failFast])

def ofJson? (j : Json) : Option SpiderDefinition := do
  match ← j.slots? fieldNames with
  | [name, policy, sizes, rules, processors, startUrls, startRequests, maxConcurrency, failFast] =>
    some {
      name := ← name.required Json.asText?
      policy := ← policy.withDefault CrawlPolicy.ofJson? .usual
      sizes := ← sizes.withDefault PoolSizes.ofJson? .usual
      rules := ← rules.withDefault RuleSet.ofJson? .empty
      processors := ← processors.withDefault (Json.asList? ProcessorSpec.ofJson?) []
      startUrls := ← startUrls.withDefault (Json.asList? Request.urlOfJson?) []
      startRequests := ← startRequests.withDefault (Json.asList? Request.ofJson?) []
      maxConcurrency := ← maxConcurrency.optionalDefault Json.asUInt64?
      failFast := ← failFast.withDefault Json.asBool? true }
  | _ => none

/-- Equality of definitions. -/
def same (a b : SpiderDefinition) : Bool :=
  a.name == b.name && a.policy == b.policy && a.sizes == b.sizes && a.rules == b.rules
    && (a.processors.map (·.toJson)) == (b.processors.map (·.toJson))
    && a.startUrls == b.startUrls
    && a.startRequests.length == b.startRequests.length
    && (a.startRequests.zip b.startRequests).all (fun (r, s) => r.same s)
    && a.maxConcurrency == b.maxConcurrency && a.failFast == b.failFast

end SpiderDefinition

end CrawlMesh
