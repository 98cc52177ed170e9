/-
# Responses

The answer to a request. Its kind comes from the declared content type or, where none is
declared, from how the body begins.
-/
import CrawlMesh.Request

namespace CrawlMesh

set_option autoImplicit false

/-- The kinds of content. -/
inductive ContentKind
  | html
  | json
  | text
  | binary
deriving DecidableEq, Repr, Inhabited

namespace ContentKind

def name : ContentKind → String
  | .html => "Html"
  | .json => "Json"
  | .text => "Text"
  | .binary => "Binary"

/-- The kind of a declared content type. -/
def ofContentType (s : String) : ContentKind :=
  if Text.holds s "text/html" then .html
  else if Text.holds s "application/json" then .json
  else if Text.holds s "text/" then .text
  else .binary

/-- The kind of a body without a declared type. -/
def ofBody (body : String) : ContentKind :=
  let start := Text.trimStart body
  if start.startsWith "\x7b" || start.startsWith "[" then .json
  else if start.startsWith "<!DOCTYPE" || start.startsWith "<html" then .html
  else .text

/-- The kind of a body under a header, whose names are as they came. -/
def detect (header : List (String × String)) (body : String) : ContentKind :=
  match header.find? (·.1 == "content-type") with
  | some (_, contentType) => ofContentType contentType
  | none => ofBody body

end ContentKind

/-- A response. It lies where its request does, and as deep. -/
structure Response where
  url : Url
  status : UInt16
  header : List (String × String)
  body : String
  kind : ContentKind
  request : Request
  depth : UInt32
  url_eq : url = request.url
  depth_eq : depth = request.depth
deriving Repr

namespace Response

/-- A response without header. -/
def of (request : Request) (status : UInt16) (body : String) : Response where
  url := request.url
  status := status
  header := []
  body := body
  kind := .detect [] body
  request := request
  depth := request.depth
  url_eq := rfl
  depth_eq := rfl

instance : Inhabited Response := ⟨of default default default⟩

/-- The response with a header. -/
def withHeader (r : Response) (header : List (String × String)) : Response :=
  { r with header := header, kind := .detect header r.body }

def isSuccess (r : Response) : Bool := 200 ≤ r.status && r.status < 300

/-- A response as JSON, with what belongs to its request. -/
def toJson (r : Response) : Json :=
  .object [("url", .text r.url.text), ("status", .nat r.status.toNat),
    ("headers", .object (r.header.map fun (name, value) => (name, .text value))),
    ("body", .text r.body), ("type", .text r.kind.name), ("depth", .nat r.depth.toNat),
    ("spider", .text r.request.spiderName), ("success", .bool r.isSuccess)]

end Response

end CrawlMesh
