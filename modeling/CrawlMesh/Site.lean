/-
# Sites

Pages under their addresses, to be crawled without a network. A page may have a header of its
own; a page that is only a body is HTML. There may be no answer for a page, and there is none for
an address without one.
-/
import CrawlMesh.Downloader

namespace CrawlMesh

set_option autoImplicit false

/-- A page: an answer, or why there is none. -/
structure Page where
  status : UInt16
  header : Option (List (String × String))
  body : String
  failure : Option String
deriving Repr, Inhabited

namespace Page

/-- A page that is only a body. -/
def html (body : String) : Page := ⟨200, some [("content-type", "text/html")], body, none⟩

/-- A header whose values are text. -/
def headerOfJson (j : Json) : List (String × String) :=
  ((j.asFields?).getD []).filterMap fun (name, value) => value.asText?.map (name, ·)

/-- A page, which is a body or says more; what is not said is as usual. -/
def ofJson : Json → Page
  | .text body => html body
  | j => {
      status := ((j.get? "status").bind Json.asUInt16?).getD 200
      header := (j.get? "headers").map headerOfJson
      body := ((j.get? "body").bind Json.asText?).getD ""
      failure := (j.get? "fail").bind Json.asText? }

/-- The response of a page to a request. -/
def response (p : Page) (r : Request) : Response :=
  let response := Response.of r p.status p.body
  match p.header with
  | some header => response.withHeader header
  | none => response

end Page

/-- A site. -/
abbrev Site := List (String × Page)

namespace Site

def ofJson (j : Json) : Site := ((j.asFields?).getD []).map fun (url, page) => (url, .ofJson page)

/-- No answer to a request. -/
def unanswered (r : Request) (why : String) : Fetched :=
  .unanswered (.stage .download why r.url.text)

/-- Fetch a page. -/
def fetch (s : Site) (r : Request) : Fetched :=
  match s.find? (·.1 == r.url.text) with
  | none => unanswered r "no such page"
  | some (_, page) =>
    match page.failure with
    | some why => unanswered r why
    | none => .answered (page.response r) page.body.utf8ByteSize.toUInt64 0

/-- A downloader that fetches from a site. -/
def downloader (s : Site) : Downloader := ⟨s.fetch, none⟩

end Site

end CrawlMesh
