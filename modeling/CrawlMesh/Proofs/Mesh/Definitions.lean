/-
# Definitions of spiders on their way

A definition reaches another node as JSON, and with it the rules and the processors of the spider.  A rule
that was read from a text is written as that text (`FieldRule.parse_eq_ok_iff`), so the same rule is read
back.  A processor is told by its type, wherever that stands among its fields (`ProcessorSpec.typed?_json`),
and the value that it sets is taken as it is.
-/
import CrawlMesh.Proofs.Mesh.Requests
import CrawlMesh.Proofs.Rule.Texts
import CrawlMesh.Spider.Definition

namespace CrawlMesh

set_option autoImplicit false

/-! ## Field rules -/

namespace FieldRule

/-- Was a rule read from a text? -/
def Parsed (rule : FieldRule) : Prop := ∃ s, parse s = .ok rule

theorem ofJson?_toJson {rule : FieldRule} (parsed : rule.Parsed) : ofJson? rule.toJson = some rule := by
  obtain ⟨s, read⟩ := parsed
  rw [toJson, (parse_eq_ok_iff.mp read).1, ofJson?, Json.asText?, Option.bind_eq_bind,
    Option.bind_some, read]
  rfl

/-- A rule that is read was read from its text. -/
theorem parsed_of_ofJson? {j : Json} {rule : FieldRule} (read : ofJson? j = some rule) :
    rule.Parsed := by
  obtain ⟨s, -, read⟩ := Option.bind_eq_some_iff.mp read
  cases parsed : parse s with
  | error e =>
      rw [parsed] at read
      cases read
  | ok other =>
      rw [parsed] at read
      obtain rfl := Option.some.inj read
      exact ⟨s, parsed⟩

end FieldRule

/-! ## Rule sets -/

open Json (Layout)

theorem ItemNode.ofJson?_json (l : Layout) (n : ItemNode) : ofJson? (l.json n.toJson) = some n := by
  have canonical : n.toJson.Canonical := by cases n <;> simp [toJson, Json.Canonical]
  rw [l.json_of_canonical canonical]
  cases n <;> rfl

namespace RuleSet

/-- Rules in ascending order of their names that were read from texts. -/
structure Parsed (fields : List (String × FieldRule)) : Prop where
  ascending : Keyed.Ascending Prod.fst fields
  rules : ∀ field ∈ fields, field.2.Parsed

theorem insertRule_eq (name : String) (rule : FieldRule) (fields : List (String × FieldRule)) :
    insertRule name rule fields = Keyed.insert Prod.fst (name, rule) fields := by
  induction fields with
  | nil => rfl
  | cons field rest ih =>
      obtain ⟨n, r⟩ := field
      rw [insertRule, Keyed.insert, ih]

theorem parsed_empty : Parsed [] := ⟨List.Pairwise.nil, List.forall_mem_nil _⟩

theorem Parsed.insert {fields : List (String × FieldRule)} (parsed : Parsed fields)
    {rule : FieldRule} (read : rule.Parsed) (name : String) :
    Parsed (insertRule name rule fields) := by
  rw [insertRule_eq]
  refine ⟨parsed.ascending.insert, fun field member => ?_⟩
  rcases Keyed.mem_insert member with rfl | member
  · exact read
  · exact parsed.rules field member

/-- A rule that is added by its text was read from it. -/
theorem parsed_field {r s : RuleSet} (parsed : Parsed r.fields) {name rule : String}
    (added : r.field name rule = .ok s) : Parsed s.fields := by
  rw [RuleSet.field] at added
  cases read : FieldRule.parse rule with
  | error e =>
      rw [read] at added
      cases added
  | ok other =>
      rw [read] at added
      obtain rfl := Except.ok.inj added
      exact parsed.insert ⟨rule, read⟩ name

theorem parsed_of_fieldsOfJson? {j : Json} {fields : List (String × FieldRule)}
    (read : fieldsOfJson? j = some fields) : Parsed fields := by
  unfold fieldsOfJson? at read
  split at read
  · refine Json.foldlM_keeps ?_ _ parsed_empty read
    intro done entry next parsed added
    obtain ⟨rule, value, same⟩ := Option.bind_eq_some_iff.mp added
    obtain rfl := Option.some.inj same
    exact parsed.insert (FieldRule.parsed_of_ofJson? value) entry.1
  · cases read

/-- The rules of a set that is read were read from texts. -/
theorem parsed_of_ofJson? {j : Json} {r : RuleSet} (read : ofJson? j = some r) : Parsed r.fields := by
  obtain ⟨slots, -, read⟩ := Option.bind_eq_some_iff.mp read
  split at read
  · obtain ⟨_, -, read⟩ := Option.bind_eq_some_iff.mp read
    obtain ⟨_, -, read⟩ := Option.bind_eq_some_iff.mp read
    obtain ⟨_, -, read⟩ := Option.bind_eq_some_iff.mp read
    obtain ⟨fields, found, read⟩ := Option.bind_eq_some_iff.mp read
    obtain ⟨_, -, read⟩ := Option.bind_eq_some_iff.mp read
    obtain ⟨_, -, read⟩ := Option.bind_eq_some_iff.mp read
    obtain rfl := Option.some.inj read
    unfold Json.Slot.withDefault at found
    split at found
    · exact parsed_of_fieldsOfJson? found
    · obtain rfl := Option.some.inj found
      exact parsed_empty
  · cases read

/-- The rules of a set, each under its name. -/
def fieldsJson (r : RuleSet) : Json := .object (r.fields.map fun (name, rule) => (name, rule.toJson))

theorem canonical_fieldsJson {r : RuleSet} (parsed : Parsed r.fields) : r.fieldsJson.Canonical := by
  refine (Json.every_object _).mpr ⟨?_, ?_⟩
  · rw [List.map_map]
    exact List.pairwise_map.mpr parsed.ascending
  · intro field member
    obtain ⟨_, -, rfl⟩ := List.mem_map.mp member
    exact Json.every_text _

theorem fieldsOfJson?_fieldsJson {r : RuleSet} (parsed : Parsed r.fields) :
    fieldsOfJson? r.fieldsJson = some r.fields := by
  refine (Json.foldlM_map_eq_some ?_ []).trans (congrArg some parsed.ascending.table)
  intro field member done
  show (FieldRule.ofJson? field.2.toJson).bind (fun rule => some (insertRule field.1 rule done)) = _
  rw [FieldRule.ofJson?_toJson (parsed.rules field member), Option.bind_some, insertRule_eq]

theorem ofJson?_json (l : Layout) {r : RuleSet} (parsed : Parsed r.fields) :
    ofJson? (l.json r.toJson) = some r := by
  have fields : fieldsOfJson? (l.json r.fieldsJson) = some r.fields := by
    rw [l.json_of_canonical (canonical_fieldsJson parsed), fieldsOfJson?_fieldsJson parsed]
  rw [fieldsJson] at fields
  rw [ofJson?, toJson, Json.slots?_record l (by decide) rfl]
  simp only [List.map_cons, List.map_nil, Option.bind_eq_bind, Option.bind_some, Json.Slot.withDefault,
    urlFieldOfSlot?, Json.asList?_texts, Json.nullable_text, ItemNode.ofJson?_json, fields]

theorem exact_toJson (r : RuleSet) : r.toJson.Exact := by
  have node : r.node.toJson.Exact := by
    cases r.node <;> simp [ItemNode.toJson, Json.Exact]
  have fields : r.fieldsJson.Exact := by
    refine Json.exact_object.mpr fun field member => ?_
    obtain ⟨_, -, rfl⟩ := List.mem_map.mp member
    exact Json.exact_text _
  refine Json.exact_record ?_
  simp only [List.forall_mem_cons]
  exact ⟨Json.exact_texts _, Json.exact_texts _, node, fields, Json.exact_texts _,
    Json.exact_ofOption fun s _ => Json.exact_text s, List.forall_mem_nil _⟩

end RuleSet

/-! ## Policies -/

theorem CrawlPolicy.ofJson?_json (l : Layout) (p : CrawlPolicy) :
    ofJson? (l.json p.toJson) = some p := by
  have domains : Json.Slot.nullable (Json.asList? Json.asText?)
      (l.json (Json.ofOption (fun xs => .list (xs.map .text)) p.acceptedDomains)) =
        some p.acceptedDomains := by
    rw [Json.nullable_ofOption l rfl fun xs _ => Json.asList?_texts l xs, Option.map_id']
  rw [ofJson?, toJson, Json.slots?_record l (by decide) rfl]
  simp only [List.map_cons, List.map_nil, Option.bind_eq_bind, Option.bind_some, Json.Slot.optional,
    Json.Slot.required, domains, Json.asUInt32?_json]

theorem CrawlPolicy.exact_toJson (p : CrawlPolicy) : p.toJson.Exact := by
  refine Json.exact_record ?_
  simp only [List.forall_mem_cons]
  exact ⟨Json.exact_ofOption fun xs _ => Json.exact_texts xs, Json.exact_uint32 _, List.forall_mem_nil _⟩

theorem PoolSizes.fieldNames_eq : fieldNames =
    ["req_buffer_cap", "req_max_buffer_number", "resp_buffer_cap", "resp_max_buffer_number",
      "item_buffer_cap", "item_max_buffer_number", "error_buffer_cap", "error_max_buffer_number"] := rfl

theorem PoolSizes.ofJson?_json (l : Layout) (s : PoolSizes) : ofJson? (l.json s.toJson) = some s := by
  have distinct : fieldNames.Nodup := by
    rw [fieldNames_eq]
    decide
  have all : fieldNames.length = (s.parts.map fun part => Json.nat part.2.toNat).length := by
    rw [fieldNames_eq, List.length_map]
    rfl
  have read : ((s.parts.map fun part => Json.nat part.2.toNat).map fun j => Json.Slot.given (l.json j)).mapM
      (·.required Json.asUInt32?) = some (s.parts.map Prod.snd) := by
    rw [List.map_map, List.mapM_map]
    exact Json.mapM_eq_some_map fun part _ => Json.asUInt32?_json l part.2
  rw [ofJson?, toJson, Json.slots?_record l distinct all, Option.bind_eq_bind, Option.bind_some, read]
  rfl

theorem PoolSizes.exact_toJson (s : PoolSizes) : s.toJson.Exact := by
  refine Json.exact_record fun j member => ?_
  obtain ⟨part, -, rfl⟩ := List.mem_map.mp member
  exact Json.exact_uint32 part.2

/-! ## Processors -/

namespace ProcessorSpec

/-- A processor whose value, if it sets one, has its objects in ascending order. -/
def Canonical : ProcessorSpec → Prop
  | .set _ value => value.Canonical
  | _ => True

/-- A processor whose value, if it sets one, holds no floating-point numbers. -/
def Exact : ProcessorSpec → Prop
  | .set _ value => value.Exact
  | _ => True

/-- The type of a record is told from its fields in both layouts, and the others are found by their
names. -/
theorem typed?_json (l : Layout) (kind : String) (fields : List (String × Json))
    (distinct : ("type" :: fields.map Prod.fst).Nodup) (names : List String) :
    ∃ others, typed? (l.json (.object (("type", .text kind) :: fields))) = some (kind, others) ∧
      Json.slots? names others = some (names.map fun name => (Json.slot fields name).json l) := by
  have perm := l.perm_fields (("type", .text kind) :: fields) distinct
  rw [List.map_cons, Layout.json_text] at perm
  have fresh : ∀ field ∈ fields.map fun field => (field.1, l.json field.2), field.1 ≠ "type" := by
    intro field member same
    obtain ⟨other, among, rfl⟩ := List.mem_map.mp member
    exact (List.nodup_cons.mp distinct).1 (List.mem_map.mpr ⟨other, among, same⟩)
  have none : (fields.map fun field => (field.1, l.json field.2)).filter (·.1 == "type") = [] :=
    List.filter_eq_nil_iff.mpr fun field member => by simpa using fresh field member
  have all : (fields.map fun field => (field.1, l.json field.2)).filter (·.1 != "type") =
      fields.map fun field => (field.1, l.json field.2) :=
    List.filter_eq_self.mpr fun field member => by simpa using fresh field member
  -- wherever the type stands, it alone is taken out, and only the order of the others may differ
  have type := perm.filter (·.1 == "type")
  have rest := perm.filter (·.1 != "type")
  rw [List.filter_cons_of_pos (by rfl), none] at type
  rw [List.filter_cons_of_neg (by simp), all] at rest
  refine ⟨_, ?_, Json.slots?_of_perm l rest (List.nodup_cons.mp distinct).2 names⟩
  rw [l.json_object, typed?, List.map_cons, Layout.json_text, List.perm_singleton.mp type]

theorem ofJson?_json (l : Layout) {spec : ProcessorSpec} (canonical : spec.Canonical) :
    ofJson? (l.json spec.toJson) = some spec := by
  cases spec with
  | log =>
      obtain ⟨others, typed, slots⟩ := typed?_json l "log" [] (by simp) []
      rw [ofJson?, toJson, typed]
      simp only [Option.bind_eq_bind, Option.bind_some, slots, List.map_nil]
  | disk path =>
      obtain ⟨others, typed, slots⟩ := typed?_json l "disk" [("path", .text path)] (by simp) ["path"]
      rw [ofJson?, toJson, typed]
      simp only [Option.bind_eq_bind, Option.bind_some, slots, List.map_cons, List.map_nil]
      show (Json.asText? (l.json (.text path))).bind _ = _
      rw [Json.asText?_json]
      rfl
  | require names =>
      obtain ⟨others, typed, slots⟩ := typed?_json l "require"
        [("fields", .list (names.map .text))] (by simp) ["fields"]
      rw [ofJson?, toJson, typed]
      simp only [Option.bind_eq_bind, Option.bind_some, slots, List.map_cons, List.map_nil]
      show (Json.asList? Json.asText? (l.json (.list (names.map .text)))).bind _ = _
      rw [Json.asList?_texts]
      rfl
  | set name value =>
      obtain ⟨others, typed, slots⟩ := typed?_json l "set"
        [("field", .text name), ("value", value)] (by simp) ["field", "value"]
      rw [ofJson?, toJson, typed]
      simp only [Option.bind_eq_bind, Option.bind_some, slots, List.map_cons, List.map_nil]
      show (Json.asText? (l.json (.text name))).bind (fun _ => (some (l.json value)).bind _) = _
      rw [Json.asText?_json, l.json_of_canonical canonical]
      rfl

theorem exact_toJson {spec : ProcessorSpec} (exact : spec.Exact) : spec.toJson.Exact := by
  cases spec with
  | log => simp [toJson, Json.Exact]
  | disk path => simp [toJson, Json.Exact]
  | require names => simp [toJson, Json.Exact]
  | set name value =>
      have value : value.Exact := exact
      simpa [toJson, Json.Exact] using value

end ProcessorSpec

/-! ## Definitions -/

/-- A request that is carried to another node without loss. -/
structure Request.Portable (r : Request) : Prop where
  sound : r.Sound
  plain : r.header.AllPlain
  exact : (Json.object r.extra).Exact
  url : r.url.ReadsBack

/-- A request with its header fields in the order of a layout. -/
def Request.reordered (l : Layout) (r : Request) : Request := { r with header := r.header.reordered l }

theorem Request.Portable.readBack_eq {r : Request} (portable : r.Portable) (l : Layout) :
    r.readBack l = r.reordered l := by
  have header := portable.sound.header
  rw [readBack, Header.plainPart_of_allPlain (header.reordered l) (portable.plain.reordered header l),
    reordered]

theorem Request.ofJson?_portable (l : Layout) {r : Request} (portable : r.Portable) :
    ofJson? (l.json r.toJson) = some (r.reordered l) := by
  rw [ofJson?_json l portable.sound portable.url, portable.readBack_eq]

theorem Request.same_reordered (l : Layout) {r : Request} (portable : r.Portable) :
    r.same (r.reordered l) = true := by
  rw [← portable.readBack_eq]
  exact (same_readBack_iff l portable.sound portable.exact).mpr portable.plain

namespace SpiderDefinition

/-- A definition that is carried to another node without loss: its field rules were read from texts, its
start addresses are read from theirs, its start requests have plain headers, and nothing in it is a
floating-point number. -/
structure Portable (d : SpiderDefinition) : Prop where
  rules : RuleSet.Parsed d.rules.fields
  canonical : ∀ spec ∈ d.processors, spec.Canonical
  exact : ∀ spec ∈ d.processors, spec.Exact
  startUrls : ∀ url ∈ d.startUrls, url.ReadsBack
  startRequests : ∀ r ∈ d.startRequests, r.Portable

/-- A definition with the header fields of its start requests in the order of a layout. -/
def reordered (l : Layout) (d : SpiderDefinition) : SpiderDefinition :=
  { d with startRequests := d.startRequests.map (·.reordered l) }

theorem ofJson?_json (l : Layout) {d : SpiderDefinition} (portable : d.Portable) :
    ofJson? (l.json d.toJson) = some (d.reordered l) := by
  have processors : Json.asList? ProcessorSpec.ofJson? (l.json (.list (d.processors.map (·.toJson)))) =
      some d.processors := by
    rw [Json.asList?_json l fun spec member =>
      ProcessorSpec.ofJson?_json l (portable.canonical spec member), List.map_id']
  have startUrls : Json.asList? Request.urlOfJson? (l.json (.list (d.startUrls.map (.text ·.text)))) =
      some d.startUrls := by
    have read : ∀ url ∈ d.startUrls, Request.urlOfJson? (l.json (.text url.text)) = some (id url) := by
      intro url member
      rw [Layout.json_text]
      exact Request.urlOfJson?_text (portable.startUrls url member)
    rw [Json.asList?_json l read, List.map_id]
  have startRequests : Json.asList? Request.ofJson? (l.json (.list (d.startRequests.map (·.toJson)))) =
      some (d.reordered l).startRequests :=
    Json.asList?_json l fun r member => Request.ofJson?_portable l (portable.startRequests r member)
  have maxConcurrency : Json.Slot.nullable Json.asUInt64?
      (l.json (Json.ofOption (.nat ·.toNat) d.maxConcurrency)) = some d.maxConcurrency := by
    rw [Json.nullable_ofOption l rfl fun n _ => Json.asUInt64?_json l n, Option.map_id']
  rw [ofJson?, toJson, Json.slots?_record l (by decide) rfl]
  simp only [List.map_cons, List.map_nil, Option.bind_eq_bind, Option.bind_some, Json.Slot.required,
    Json.Slot.withDefault, Json.Slot.optionalDefault, Json.asText?_json, CrawlPolicy.ofJson?_json,
    PoolSizes.ofJson?_json, RuleSet.ofJson?_json l portable.rules, processors, startUrls, startRequests,
    maxConcurrency, Layout.json_bool]
  rfl

theorem reordered_asWritten (d : SpiderDefinition) : d.reordered .asWritten = d := by
  show { d with startRequests := d.startRequests.map id } = d
  rw [List.map_id]

/-- The order of header fields does not tell definitions apart. -/
theorem same_reordered (l : Layout) {d : SpiderDefinition} (portable : d.Portable) :
    d.same (d.reordered l) = true := by
  have exact : ∀ j ∈ d.processors.map (·.toJson), j.Exact := by
    intro j member
    obtain ⟨spec, among, rfl⟩ := List.mem_map.mp member
    exact ProcessorSpec.exact_toJson (portable.exact spec among)
  have requests : ∀ rs : List Request, (∀ r ∈ rs, r.Portable) →
      ((rs.zip (rs.map (·.reordered l))).all fun pair => pair.1.same pair.2) = true := by
    intro rs portable
    induction rs with
    | nil => rfl
    | cons r rest ih =>
        have first := Request.same_reordered l (portable r List.mem_cons_self)
        have others := ih fun s member => portable s (List.mem_cons_of_mem r member)
        rw [List.map_cons, List.zip_cons_cons, List.all_cons]
        exact Bool.and_eq_true_iff.mpr ⟨first, others⟩
  simp [same, reordered, Json.list_same_self exact, requests _ portable.startRequests]

theorem exact_toJson {d : SpiderDefinition} (portable : d.Portable) : d.toJson.Exact := by
  refine Json.exact_record ?_
  simp only [List.forall_mem_cons]
  exact ⟨Json.exact_text _, d.policy.exact_toJson, d.sizes.exact_toJson, d.rules.exact_toJson,
    Json.exact_list fun spec member => ProcessorSpec.exact_toJson (portable.exact spec member),
    Json.exact_list fun url _ => Json.exact_text url.text,
    Json.exact_list fun r member => Request.exact_toJson (portable.startRequests r member).exact,
    Json.exact_ofOption fun n _ => Json.exact_nat n.toNat_lt, Json.every_bool _, List.forall_mem_nil _⟩

end SpiderDefinition

end CrawlMesh
