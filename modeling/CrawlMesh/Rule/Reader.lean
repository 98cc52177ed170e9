/-
# Reading pages by rules

A rule reader holds checked rules and applies them to responses. It yields the links to follow in
the order of the page, then for every item the requests that its fields stand for and the item
itself. Content that is not text yields nothing. Links that are no addresses are reported and
do not keep anything else from being found.
-/
import CrawlMesh.Html.Construction
import CrawlMesh.Html.Printer
import CrawlMesh.Item
import CrawlMesh.Pattern.Parser
import CrawlMesh.Response
import CrawlMesh.Rule.Set
import CrawlMesh.Selector.Match
import CrawlMesh.Selector.Parser

namespace CrawlMesh

set_option autoImplicit false

/-- What the pages of a spider yield, and what went wrong on the way. -/
structure Yield where
  data : List Datum
  errors : List CrawlError
deriving Repr, Inhabited

namespace Yield

def empty : Yield := ⟨[], []⟩

def append (a b : Yield) : Yield := ⟨a.data ++ b.data, a.errors ++ b.errors⟩

/-- All of a list in one. -/
def concat (l : List Yield) : Yield := ⟨l.flatMap data, l.flatMap errors⟩

end Yield

/-- Rules with their patterns. -/
structure RuleReader where
  rules : RuleSet
  followLinks : List Pattern
  acceptUrls : List Pattern

namespace RuleReader

open Html (Document)

/-! ## Checking rules -/

def readSelector (s : String) : Outcome (List Selector.Complex) :=
  match Selector.parse? s with
  | some selector => .ok selector
  | none => .error (.argument s!"invalid selector {Text.quoted s}")

def readPattern (s : String) : Outcome Pattern :=
  match Pattern.parse? s with
  | some pattern => .ok pattern
  | none => .error (.argument "invalid pattern")

/-- The selectors of rules: the one for the items, then those of the fields. -/
def selectors (rules : RuleSet) : List String :=
  (match rules.node with
    | .each selector => [selector]
    | .page => []) ++ rules.fields.filterMap (·.2.selector)

/-- The reader for rules whose selectors and patterns are all well formed. -/
def of (rules : RuleSet) : Outcome RuleReader := do
  let _ ← (selectors rules).mapM readSelector
  return ⟨rules, ← rules.followLinks.mapM readPattern, ← rules.acceptUrls.mapM readPattern⟩

/-! ## Links -/

def linkError (response : Response) (href : String) (fault : Url.Fault) : CrawlError :=
  .stage .analyze s!"invalid link {Text.quoted href}: {fault.message}" response.url.text

/-- The request for a link on a page, if the address passes a test. -/
def followLink (response : Response) (wanted : String → Bool) (href : String) : Yield :=
  match response.url.join href with
  | .ok url => if wanted url.text then ⟨[.request (.ofUrl url)], []⟩ else .empty
  | .error fault => ⟨[], [linkError response href fault]⟩

/-- The links of a page in its order. -/
def links (document : Document) : Outcome (List String) := do
  let anchors ← readSelector "a[href]"
  return (document.select anchors).filterMap fun i =>
    (document.element? i).bind (·.attribute? "href")

/-- The requests for the links of a page that are to be followed. -/
def linkRequests (r : RuleReader) (response : Response) (document : Document) : Outcome Yield := do
  if r.followLinks.isEmpty then return .empty
  return .concat ((← links document).map
    (followLink response fun url => r.followLinks.any (·.isMatch url)))

/-! ## Items -/

def attributeOf (document : Document) (name : String) (i : Nat) : Option String :=
  (document.element? i).bind (·.attribute? name)

/-- The value that is taken from the elements that a selector found. -/
def valueOf (document : Document) (found : List Nat) : Extract → Json
  | .text => .text (Text.trim (String.join (found.map document.textBelow)))
  | .html => Json.ofOption (fun i => .text (document.inside i)) found.head?
  | .attribute name => Json.ofOption .text (found.findSome? (attributeOf document name))
  | .texts => .list (found.map fun i => .text (Text.trim (document.textBelow i)))
  | .htmls => .list (found.map fun i => .text (document.inside i))
  | .attributes name => .list ((found.filterMap (attributeOf document name)).map .text)
  | .constant _ => .null

/-- The value of a field inside an element. -/
def fieldValue (document : Document) (node : Nat) (rule : FieldRule) : Outcome Json :=
  match rule.extract, rule.selector with
  | .constant value, _ => .ok (.text value)
  | _, none => .ok .null
  | extract, some selector => do
    return valueOf document (document.selectBelow node (← readSelector selector)) extract

/-- The item inside an element. -/
def itemAt (rules : RuleSet) (document : Document) (node : Nat) : Outcome Item :=
  rules.fields.mapM fun (name, rule) => do return (name, ← fieldValue document node rule)

/-- The elements that hold items. -/
def itemNodes (rules : RuleSet) (document : Document) : Outcome (List Nat) :=
  match rules.node with
  | .page => .ok [document.root]
  | .each selector => do return document.select (← readSelector selector)

/-- The items of a page that say anything. -/
def items (rules : RuleSet) (document : Document) : Outcome (List Item) := do
  let all ← (← itemNodes rules document).mapM (itemAt rules document)
  return all.filter fun item => !item.all fun field => Item.isBlankValue field.2

/-- The addresses in the value of a field. -/
def addresses : Json → List String
  | .text s => if s.isEmpty then [] else [s]
  | .list l => (l.filterMap Json.asText?).filter (!·.isEmpty)
  | _ => []

/-- What an item yields: the requests that its fields stand for, and itself with the address of
its page. -/
def itemYield (rules : RuleSet) (response : Response) (item : Item) : Yield :=
  let hrefs := rules.followFields.flatMap fun name =>
    ((Json.Fields.get? item name).map addresses).getD []
  let requests := Yield.concat (hrefs.map (followLink response fun _ => true))
  let item := match rules.urlField with
    | some name => Json.Fields.insert name (.text response.url.text) item
    | none => item
  requests.append ⟨[.item item], []⟩

/-- Are the items of a page wanted? -/
def wantsItems (r : RuleReader) (response : Response) : Bool :=
  !r.rules.fields.isEmpty
    && (r.acceptUrls.isEmpty || r.acceptUrls.any (·.isMatch response.url.text))

/-- What a response yields, or the error of rules that were not checked. -/
def extract (r : RuleReader) (response : Response) : Outcome Yield := do
  if response.kind = .binary then return .empty
  let document := Document.parse response.body
  let followed ← r.linkRequests response document
  if !r.wantsItems response then return followed
  let found ← items r.rules document
  return followed.append (.concat (found.map (itemYield r.rules response)))

/-- What a response yields. Where the rules fail this is nothing but their error. -/
def read (r : RuleReader) (response : Response) : Yield :=
  match r.extract response with
  | .ok found => found
  | .error e => ⟨[], [.stage .analyze e.text response.url.text]⟩

end RuleReader

end CrawlMesh
