/-
# What a page yields

An item is a record of named values in ascending order of the names. A page yields items and
requests for further pages.
-/
import CrawlMesh.Request

namespace CrawlMesh

set_option autoImplicit false

/-- An item: values under names. -/
abbrev Item := Json.Fields

namespace Item

/-- Does a value say nothing? -/
def isBlankValue : Json → Bool
  | .null => true
  | .text s => s.isEmpty
  | .list l => l.isEmpty
  | _ => false

/-- Is there a value, and does it say something? -/
def hasValue (item : Item) (name : String) : Bool :=
  match Json.Fields.get? item name with
  | some value => !isBlankValue value
  | none => false

/-- What an item is known by in an error: its address, if it has one. -/
def label (item : Item) : String :=
  match Json.Fields.get? item "url" with
  | some (.text url) => url
  | _ => "item"

end Item

/-- What a page yields. -/
inductive Datum
  | request (request : Request)
  | item (item : Item)
deriving Repr, Inhabited

namespace Datum

def toJson : Datum → Json
  | .request r => .object [("Request", r.toJson)]
  | .item i => .object [("Item", .object i)]

def ofJson? : Json → Option Datum
  | .object [("Request", j)] => (Request.ofJson? j).map .request
  | .object [("Item", j)] => j.asFields?.map .item
  | _ => none

end Datum

end CrawlMesh
