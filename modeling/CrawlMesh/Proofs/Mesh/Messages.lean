/-
# Messages are carried without loss

A message is an object whose fields depend on what it holds: a call writes its name and what is asked
with it, if anything, and a reply leaves out an error and nodes that it does not have.  A call is read
from its name and what is asked (`Call.ofJson?_parts`), and what a reply lacks is read as what it stands
for (`Reply.ofJson?_json`).  So calls, replies and definitions of spiders are read back as equal ones
wherever they arrive (`messages_are_carried`).
-/
import CrawlMesh.Mesh.Message
import CrawlMesh.Proofs.Mesh.Definitions

namespace CrawlMesh

set_option autoImplicit false

open Json (Layout)

/-! ## Nodes and errors -/

theorem NodeInfo.ofJson?_json (l : Layout) (n : NodeInfo) : ofJson? (l.json n.toJson) = some n := by
  rw [ofJson?, toJson, Json.slots?_record l (by decide) rfl]
  simp only [List.map_cons, List.map_nil, Option.bind_eq_bind, Option.bind_some, Json.Slot.required,
    Json.asText?_json, Json.asUInt16?_json]
  rfl

theorem NodeInfo.exact_toJson (n : NodeInfo) : n.toJson.Exact := by
  refine Json.exact_record ?_
  simp only [List.forall_mem_cons]
  exact ⟨Json.exact_text _, Json.exact_text _, Json.exact_nat (Nat.lt_trans n.port.toNat_lt (by decide)),
    List.forall_mem_nil _⟩

theorem WireError.ofJson?_json (l : Layout) (e : WireError) : ofJson? (l.json e.toJson) = some e := by
  rw [ofJson?, toJson, Json.slots?_record l (by decide) rfl]
  simp only [List.map_cons, List.map_nil, Option.bind_eq_bind, Option.bind_some, Json.Slot.required,
    Json.asText?_json, Json.asUInt32?_json]
  rfl

theorem WireError.exact_toJson (e : WireError) : e.toJson.Exact := by
  refine Json.exact_record ?_
  simp only [List.forall_mem_cons]
  exact ⟨Json.exact_uint32 _, Json.exact_text _, Json.exact_text _, List.forall_mem_nil _⟩

/-! ## Calls -/

namespace Call

/-- A call that is carried without loss. -/
def Portable : Call → Prop
  | .acceptRequest r => r.Portable
  | .addSpider d | .addSpiderEverywhere d => d.Portable
  | _ => True

/-- A call with the header fields of its requests in the order of a layout. -/
def reordered (l : Layout) : Call → Call
  | .acceptRequest r => .acceptRequest (r.reordered l)
  | .addSpider d => .addSpider (d.reordered l)
  | .addSpiderEverywhere d => .addSpiderEverywhere (d.reordered l)
  | c => c

/-- Calls that ask the same; the order of header fields does not count. -/
def Equal : Call → Call → Prop
  | .acceptRequest r, .acceptRequest s => r.same s = true
  | .addSpider d, .addSpider e | .addSpiderEverywhere d, .addSpiderEverywhere e => d.same e = true
  | c, d => c = d

theorem reordered_asWritten (c : Call) : c.reordered .asWritten = c := by
  cases c with
  | addSpider d => exact congrArg addSpider d.reordered_asWritten
  | addSpiderEverywhere d => exact congrArg addSpiderEverywhere d.reordered_asWritten
  | _ => rfl

theorem equal_reordered (l : Layout) {c : Call} (portable : c.Portable) : c.Equal (c.reordered l) := by
  cases c with
  | acceptRequest r => exact Request.same_reordered l portable
  | addSpider d => exact SpiderDefinition.same_reordered l portable
  | addSpiderEverywhere d => exact SpiderDefinition.same_reordered l portable
  | _ => rfl

/-- The fields of a call are in ascending order as they are written. -/
theorem json_toJson (l : Layout) (c : Call) : l.json c.toJson =
    .object (("method", .text c.name) :: (match c.params?.map l.json with
      | some params => [("params", params)]
      | none => [])) := by
  rw [toJson, l.json_object]
  cases c.params? with
  | none =>
      have ascending : Keyed.Ascending Prod.fst [("method", l.json (.text c.name))] :=
        List.pairwise_singleton _ _
      show Json.object (l.entries Prod.fst [("method", l.json (.text c.name))]) = _
      rw [l.entries_of_ascending ascending, Layout.json_text]
      rfl
  | some params =>
      have ascending : Keyed.Ascending Prod.fst
          [("method", l.json (.text c.name)), ("params", l.json params)] := by
        refine List.pairwise_pair.mpr ?_
        show "method" < "params"
        decide
      show Json.object (l.entries Prod.fst
        [("method", l.json (.text c.name)), ("params", l.json params)]) = _
      rw [l.entries_of_ascending ascending, Layout.json_text]
      rfl

/-- A call is read from its name and what is asked with it. -/
theorem ofJson?_parts (name : String) (params : Option Json) :
    ofJson? (.object (("method", .text name) :: (match params with
      | some params => [("params", params)]
      | none => []))) = ofParts? name params := by
  cases params <;> rfl

theorem ofJson?_json (l : Layout) {c : Call} (portable : c.Portable) :
    ofJson? (l.json c.toJson) = some (c.reordered l) := by
  rw [json_toJson, ofJson?_parts]
  cases c with
  | isAlive => rfl
  | getAllNodes => rfl
  | acceptRequest r =>
      show (Request.ofJson? (l.json r.toJson)).map acceptRequest = _
      rw [Request.ofJson?_portable l portable]
      rfl
  | startSpider name | stopSpider name | pauseSpider name | recoverSpider name =>
      show (Json.asText? (l.json (.text name))).map _ = _
      rw [Json.asText?_json]
      rfl
  | addSpider d | addSpiderEverywhere d =>
      show (SpiderDefinition.ofJson? (l.json d.toJson)).map _ = _
      rw [SpiderDefinition.ofJson?_json l portable]
      rfl
  | letMeIn node =>
      show (NodeInfo.ofJson? (l.json node.toJson)).map letMeIn = _
      rw [NodeInfo.ofJson?_json]
      rfl

end Call

theorem Call.exact_toJson {c : Call} (portable : c.Portable) : c.toJson.Exact := by
  have params : ∀ j ∈ c.params?, j.Exact := by
    intro j asked
    cases c with
    | isAlive | getAllNodes => cases asked
    | acceptRequest r =>
        obtain rfl := Option.some.inj asked
        exact Request.exact_toJson (Request.Portable.exact portable)
    | startSpider name | stopSpider name | pauseSpider name | recoverSpider name =>
        obtain rfl := Option.some.inj asked
        exact Json.exact_text name
    | addSpider d | addSpiderEverywhere d =>
        obtain rfl := Option.some.inj asked
        exact SpiderDefinition.exact_toJson portable
    | letMeIn node =>
        obtain rfl := Option.some.inj asked
        exact node.exact_toJson
  refine Json.exact_object.mpr ?_
  rw [List.forall_mem_cons]
  refine ⟨Json.exact_text _, ?_⟩
  cases asked : c.params? with
  | none => exact List.forall_mem_nil _
  | some j => simpa using params j asked

/-! ## Envelopes -/

namespace Envelope

/-- Envelopes of the same sender with calls that ask the same. -/
def Equal (e f : Envelope) : Prop := e.sender = f.sender ∧ e.call.Equal f.call

theorem ofJson?_json (l : Layout) {e : Envelope} (portable : e.call.Portable) :
    ofJson? (l.json e.toJson) = some ⟨e.sender, e.call.reordered l⟩ := by
  rw [ofJson?, toJson, Json.slots?_record l (by decide) rfl]
  simp only [List.map_cons, List.map_nil, Option.bind_eq_bind, Option.bind_some, Json.Slot.required,
    NodeInfo.ofJson?_json, Call.ofJson?_json l portable]

theorem exact_toJson {e : Envelope} (portable : e.call.Portable) : e.toJson.Exact := by
  refine Json.exact_record ?_
  simp only [List.forall_mem_cons]
  exact ⟨e.sender.exact_toJson, Call.exact_toJson portable, List.forall_mem_nil _⟩

end Envelope

/-! ## Replies -/

namespace Reply

/-- What a reply holds for an error: nothing, if it does not have one. -/
def errorSlot (l : Layout) (r : Reply) : Json.Slot :=
  match r.error with
  | some e => .given (l.json e.toJson)
  | none => .missing

/-- What a reply holds for nodes: nothing, if it does not have any. -/
def nodesSlot (l : Layout) (r : Reply) : Json.Slot :=
  if r.nodes.isEmpty then .missing else .given (l.json (.list (r.nodes.map (·.toJson))))

theorem slots?_toJson (l : Layout) (r : Reply) : Json.slots? fieldNames (l.json r.toJson) =
    some [.given (l.json r.node.toJson), .given (l.json (.bool r.result)), r.errorSlot l,
      r.nodesSlot l] := by
  obtain ⟨node, result, error, nodes⟩ := r
  rw [toJson]
  -- which fields there are depends on whether there is an error and whether there are nodes
  cases error <;> cases nodes <;> exact (Json.slots?_json l (by simp) fieldNames).trans rfl

theorem ofJson?_json (l : Layout) (r : Reply) : ofJson? (l.json r.toJson) = some r := by
  have error : (r.errorSlot l).optionalDefault WireError.ofJson? = some r.error := by
    rw [errorSlot]
    cases r.error with
    | none => rfl
    | some e =>
        have read := Json.nullable_ofOption l (x := some e) rfl fun e _ => e.ofJson?_json l
        exact read
  have nodes : (r.nodesSlot l).withDefault (Json.asList? NodeInfo.ofJson?) [] = some r.nodes := by
    rw [nodesSlot]
    split
    · rename_i none
      rw [List.isEmpty_iff.mp none]
      rfl
    · show Json.asList? NodeInfo.ofJson? (l.json (.list (r.nodes.map (·.toJson)))) = _
      rw [Json.asList?_json l fun n _ => n.ofJson?_json l, List.map_id']
  rw [ofJson?, slots?_toJson]
  simp only [Option.bind_eq_bind, Option.bind_some, Json.Slot.required, NodeInfo.ofJson?_json,
    Layout.json_bool, error, nodes]
  rfl

theorem exact_toJson (r : Reply) : r.toJson.Exact := by
  refine Json.exact_object.mpr ?_
  simp only [List.forall_mem_append, List.forall_mem_cons]
  refine ⟨⟨⟨r.node.exact_toJson, Json.every_bool _, List.forall_mem_nil _⟩, ?_⟩, ?_⟩
  · cases r.error with
    | none => exact List.forall_mem_nil _
    | some e => simpa using e.exact_toJson
  · split
    · exact List.forall_mem_nil _
    · simpa using Json.exact_list fun n _ => n.exact_toJson

end Reply

/-! ## All messages -/

/-- **Messages are carried without loss.**  Envelopes with any call, replies and definitions of spiders
are read back as themselves, as equal ones where the fields of the JSON value were put in order, and from
their text unless it nests too deep, if their rules were read from texts, their requests have plain
header values and they hold no floating-point numbers. -/
theorem messages_are_carried :
    (∀ e : Envelope, e.call.Portable →
      Json.Carried Envelope.toJson Envelope.ofJson? Envelope.Equal e) ∧
    (∀ r : Reply, Json.Carried Reply.toJson Reply.ofJson? Eq r) ∧
    ∀ d : SpiderDefinition, d.Portable →
      Json.Carried SpiderDefinition.toJson SpiderDefinition.ofJson? (fun d e => d.same e = true) d := by
  refine ⟨?_, ?_, ?_⟩
  · intro e portable
    have same : (⟨e.sender, e.call.reordered .asWritten⟩ : Envelope) = e := by
      rw [e.call.reordered_asWritten]
    exact Json.carried_of_layouts (Envelope.exact_toJson portable)
      (fun l => Envelope.ofJson?_json l portable) same ⟨rfl, Call.equal_reordered .inOrder portable⟩
  · intro r
    exact Json.carried_of_layouts r.exact_toJson (fun l => r.ofJson?_json l) rfl rfl
  · intro d portable
    exact Json.carried_of_layouts (SpiderDefinition.exact_toJson portable)
      (fun l => SpiderDefinition.ofJson?_json l portable) d.reordered_asWritten
      (SpiderDefinition.same_reordered .inOrder portable)

/-- A spider without accepted domains, address field and limit, whose processors set null and a nested
value. -/
def catalogue : SpiderDefinition :=
  let url : Url := ⟨"http", some ⟨"", none, .domain "a.bc", none⟩, .segments ["list"], none, none⟩
  { SpiderDefinition.new "catalogue" with
    policy := ⟨none, 2⟩
    rules := ⟨["/list"], [], .each "li",
      [("kind", ⟨.constant "book", none⟩), ("link", ⟨.attribute "href", some "a"⟩),
        ("title", ⟨.text, some "h2|b"⟩)], ["link"], none⟩
    processors := [.log, .set "seen" .null,
      .set "place" (.object [("page", .number (.int (-1))), ("tags", .list [.text "new", .null])])]
    startUrls := [url]
    startRequests := [{ Request.ofUrl url with
      header := ⟨[("user-agent", ["crawler"]), ("accept", ["text/html", "text/plain"])]⟩ }] }

theorem portable_catalogue : catalogue.Portable where
  rules := {
    ascending := by
      unfold Keyed.Ascending
      decide
    rules := by
      simp only [catalogue, List.forall_mem_cons]
      exact ⟨⟨"book", rfl⟩, ⟨"attr.href|a", rfl⟩, ⟨"text|h2|b", rfl⟩, List.forall_mem_nil _⟩ }
  canonical := by
    have ascending : ["page", "tags"].Pairwise (· < ·) := by decide
    have null : Json.null.Canonical := Json.every_null
    have place : (Json.object
        [("page", .number (.int (-1))), ("tags", .list [.text "new", .null])]).Canonical :=
      (Json.every_object _).mpr ⟨ascending, by simp⟩
    simp only [catalogue, List.forall_mem_cons]
    exact ⟨trivial, null, place, List.forall_mem_nil _⟩
  exact := by
    simp [catalogue, ProcessorSpec.Exact, Json.Exact, JsonNumber.Exact]
  startUrls := by
    simp only [catalogue, List.forall_mem_cons]
    exact ⟨rfl, List.forall_mem_nil _⟩
  startRequests := by
    simp only [catalogue, List.forall_mem_cons]
    refine ⟨?_, List.forall_mem_nil _⟩
    exact {
      sound := {
        method := by decide
        header := ⟨by decide, by decide, by decide⟩
        extra := by simp [Request.ofUrl, Json.Canonical] }
      plain := by
        unfold Header.AllPlain
        decide
      exact := by simp [Request.ofUrl, Json.Exact]
      url := rfl }

/-- A spider that is added everywhere, the reply to a call that failed, and the spider itself. -/
theorem messages_are_carried_catalogue :
    catalogue.Portable ∧
      Json.Carried Envelope.toJson Envelope.ofJson? Envelope.Equal
        ⟨⟨"node-a", "127.0.0.1", 9001⟩, .addSpiderEverywhere catalogue⟩ ∧
      Json.Carried Reply.toJson Reply.ofJson? Eq
        ⟨⟨"node-b", "127.0.0.1", 9002⟩, false, some ⟨30001, "Not Found", "spider x"⟩, []⟩ ∧
      Json.Carried SpiderDefinition.toJson SpiderDefinition.ofJson? (fun d e => d.same e = true)
        catalogue :=
  ⟨portable_catalogue, messages_are_carried.1 _ portable_catalogue, messages_are_carried.2.1 _,
    messages_are_carried.2.2 _ portable_catalogue⟩

end CrawlMesh
