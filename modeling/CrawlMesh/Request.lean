/-
# Requests

What a crawl asks for: an address, how to ask for it, and how it was found. A request is valid
if its address is one of the web and names a host whose primary domain is well formed.
-/
import CrawlMesh.Domain
import CrawlMesh.Header
import CrawlMesh.Json.Record
import CrawlMesh.Text.Quoted
import CrawlMesh.Url.Parser

namespace CrawlMesh

set_option autoImplicit false

/-- A request. The depth counts the links between it and the crawl's first requests. -/
structure Request where
  method : String
  url : Url
  header : Header
  body : Option String
  depth : UInt32
  proxy : Option String
  spiderName : String
  nodeName : Option String
  extra : Json.Fields
deriving Repr, Inhabited

namespace Request

/-- The plain request for an address. -/
def ofUrl (url : Url) : Request where
  method := "GET"
  url := url
  header := .empty
  body := none
  depth := 0
  proxy := none
  spiderName := ""
  nodeName := none
  extra := []

/-- The error of a text that is no address. -/
def badUrl (fault : Url.Fault) : CrawlError := .argument ("invalid url: " ++ fault.message)

/-- The plain request for the address that a text stands for. -/
def parse (s : String) : Outcome Request :=
  match Url.parse s with
  | .ok url => .ok (ofUrl url)
  | .error fault => .error (badUrl fault)

/-! ## Header -/

def setHeader (r : Request) (key value : String) : Outcome Request := do
  return { r with header := ← r.header.set key value }

def setUserAgent (r : Request) (value : String) : Outcome Request := r.setHeader "user-agent" value

def setReferer (r : Request) (value : String) : Outcome Request := r.setHeader "referer" value

/-- The cookies so far, if they can be read and there are any. -/
def cookies? (r : Request) : Option String :=
  match r.header.values "cookie" with
  | value :: _ => if Header.isPlain value && !value.isEmpty then some value else none
  | [] => none

/-- Add a cookie behind the ones that are there. -/
def addCookie (r : Request) (key value : String) : Outcome Request :=
  let pair := key ++ "=" ++ value
  r.setHeader "cookie" (match r.cookies? with
    | some existing => existing ++ "; " ++ pair
    | none => pair)

def setExtra (r : Request) (key : String) (value : Json) : Request :=
  { r with extra := Json.Fields.insert key value r.extra }

/-! ## Validity -/

/-- The primary domain of the host that is asked. -/
def primaryDomain (r : Request) : Outcome String :=
  match r.url.hostText? with
  | none => .error (.argument ("url without host: " ++ r.url.text))
  | some host => CrawlMesh.primaryDomain host

/-- Can the request be sent? -/
def validate (r : Request) : Outcome Unit :=
  if r.url.scheme != "http" && r.url.scheme != "https" then
    .error (.argument s!"unsupported url scheme {Text.quoted r.url.scheme} ({r.url.text})")
  else r.primaryDomain.map fun _ => ()

/-! ## As JSON -/

def fieldNames : List String :=
  ["method", "url", "headers", "body", "depth", "proxy", "spider_name", "node_name", "extra"]

def toJson (r : Request) : Json :=
  .object (fieldNames.zip
    [.text r.method, .text r.url.text, r.header.toJson, Json.ofOption .text r.body,
      .nat r.depth.toNat, Json.ofOption .text r.proxy, .text r.spiderName,
      Json.ofOption .text r.nodeName, .object r.extra])

/-- An address in its text. -/
def urlOfJson? (j : Json) : Option Url := do
  match Url.parse (← j.asText?) with
  | .ok url => some url
  | .error _ => none

/-- A method: any token. -/
def methodOfJson? (j : Json) : Option String := do
  let s ← j.asText?
  if isToken s then some s else none

def ofJson? (j : Json) : Option Request := do
  match ← j.slots? fieldNames with
  | [method, url, header, body, depth, proxy, spiderName, nodeName, extra] =>
    some {
      method := ← method.required methodOfJson?
      url := ← url.required urlOfJson?
      header := ← header.required Header.ofJson?
      body := ← body.optional Json.asText?
      depth := ← depth.required Json.asUInt32?
      proxy := ← proxy.optional Json.asText?
      spiderName := ← spiderName.required Json.asText?
      nodeName := ← nodeName.optional Json.asText?
      extra := ← extra.required Json.asFields? }
  | _ => none

/-- Equality of requests; the order of header fields does not count. -/
def same (a b : Request) : Bool :=
  a.method == b.method && a.url == b.url
    && a.header.fields.length == b.header.fields.length
    && a.header.fields.all (fun field => b.header.values field.1 == field.2)
    && a.body == b.body && a.depth == b.depth && a.proxy == b.proxy
    && a.spiderName == b.spiderName && a.nodeName == b.nodeName
    && Json.object a.extra == Json.object b.extra

end Request

end CrawlMesh
