/-
# Rule sets

What a spider takes from its pages, as plain data: the links to follow, the pages that hold
items, where an item lies on a page, the fields of an item, the fields that hold further
addresses, and the field that gets the address of the page.
-/
import CrawlMesh.Rule.Field

namespace CrawlMesh

set_option autoImplicit false

/-- The part of a page that holds an item: the whole page, or every element that a selector
finds. -/
inductive ItemNode
  | page
  | each (selector : String)
deriving DecidableEq, Repr, Inhabited

namespace ItemNode

def toJson : ItemNode → Json
  | .page => .text "map"
  | .each selector => .object [("array", .text selector)]

def ofJson? : Json → Option ItemNode
  | .text "map" => some .page
  | .object [("map", .null)] => some .page
  | .object [("array", .text selector)] => some (.each selector)
  | _ => none

end ItemNode

/-- A set of rules. The fields are in ascending order of their names. -/
structure RuleSet where
  followLinks : List String
  acceptUrls : List String
  node : ItemNode
  fields : List (String × FieldRule)
  followFields : List String
  urlField : Option String
deriving DecidableEq, Repr, Inhabited

namespace RuleSet

/-- The name of the field for a page's address, unless another one is chosen. -/
def usualUrlField : String := "url"

/-- No rules. -/
def empty : RuleSet := ⟨[], [], .page, [], [], some usualUrlField⟩

def followLink (r : RuleSet) (pattern : String) : RuleSet :=
  { r with followLinks := r.followLinks ++ [pattern] }

def acceptUrl (r : RuleSet) (pattern : String) : RuleSet :=
  { r with acceptUrls := r.acceptUrls ++ [pattern] }

def followField (r : RuleSet) (name : String) : RuleSet :=
  { r with followFields := r.followFields ++ [name] }

/-- Put a rule for a name at its place, instead of one that is there. -/
def insertRule (name : String) (rule : FieldRule) :
    List (String × FieldRule) → List (String × FieldRule)
  | [] => [(name, rule)]
  | (n, r) :: rest =>
    if name < n then (name, rule) :: (n, r) :: rest
    else if name == n then (name, rule) :: rest
    else (n, r) :: insertRule name rule rest

/-- Add the rule that a text stands for. -/
def field (r : RuleSet) (name rule : String) : Outcome RuleSet := do
  return { r with fields := insertRule name (← FieldRule.parse rule) r.fields }

/-! ## As JSON -/

def fieldNames : List String :=
  ["follow_links", "accept_urls", "node", "fields", "follow_fields", "url_field"]

def toJson (r : RuleSet) : Json :=
  .object (fieldNames.zip
    [.list (r.followLinks.map .text), .list (r.acceptUrls.map .text), r.node.toJson,
      .object (r.fields.map fun (name, rule) => (name, rule.toJson)),
      .list (r.followFields.map .text), Json.ofOption .text r.urlField])

/-- Rules under their names, the last of repeated names kept. -/
def fieldsOfJson? : Json → Option (List (String × FieldRule))
  | .object fields =>
    fields.foldlM (fun done (name, j) => do
      return insertRule name (← FieldRule.ofJson? j) done) []
  | _ => none

/-- The field for a page's address: the usual one where nothing is said, none for null. -/
def urlFieldOfSlot? : Json.Slot → Option (Option String)
  | .given j => Json.Slot.nullable Json.asText? j
  | _ => some (some usualUrlField)

def ofJson? (j : Json) : Option RuleSet := do
  let texts := Json.asList? Json.asText?
  match ← j.slots? fieldNames with
  | [followLinks, acceptUrls, node, fields, followFields, urlField] =>
    some {
      followLinks := ← followLinks.withDefault texts []
      acceptUrls := ← acceptUrls.withDefault texts []
      node := ← node.withDefault ItemNode.ofJson? .page
      fields := ← fields.withDefault fieldsOfJson? []
      followFields := ← followFields.withDefault texts []
      urlField := ← urlFieldOfSlot? urlField }
  | _ => none

end RuleSet

end CrawlMesh
