/-
# Downloaders

A downloader fetches the response to a request. How a fetch may end is told by `Fetched`; a
downloader that keeps statistics counts every fetch whose request could be sent, either as an
answer or as a transport error.
-/
import CrawlMesh.DownloadStats
import CrawlMesh.Meter
import CrawlMesh.Response

namespace CrawlMesh

set_option autoImplicit false

/-- How a fetch ends. -/
inductive Fetched
  /-- The request could not be sent. -/
  | unsendable (error : CrawlError)
  /-- No answer came. -/
  | unanswered (error : CrawlError)
  /-- An answer came whose body could not be read. -/
  | broken (error : CrawlError)
  /-- An answer came, of some bytes and after some milliseconds. -/
  | answered (response : Response) (bytes : UInt64) (elapsed : Int64)
deriving Inhabited

namespace Fetched

def outcome : Fetched → Outcome Response
  | .unsendable e | .unanswered e | .broken e => .error e
  | .answered response _ _ => .ok response

/-- Count a fetch. -/
def count (s : DownloadStats) : Fetched → DownloadStats
  | .unsendable _ | .broken _ => s
  | .unanswered _ => s.recordTransportError
  | .answered response bytes elapsed =>
    s.record (response.url.hostText?.getD "") response.status bytes elapsed

end Fetched

/-- What fetches responses, with statistics if it keeps any. -/
structure Downloader where
  fetch : Request → Fetched
  stats : Option DownloadStats
deriving Inhabited

namespace Downloader

/-- A request that is not valid is refused. -/
def refusal? (request : Request) : Option CrawlError :=
  match request.validate with
  | .ok _ => none
  | .error e => some (.stage .download e.text request.url.text)

/-- Download the response to a request. -/
def download (d : Downloader) (request : Request) : Outcome Response × Downloader :=
  match refusal? request with
  | some e => (.error e, d)
  | none =>
    let fetched := d.fetch request
    (fetched.outcome, { d with stats := d.stats.map fetched.count })

/-- A call of a downloader with a meter. -/
def call (d : Downloader) (m : Meter) (request : Request) :
    Outcome Response × Downloader × Meter :=
  let (outcome, d) := d.download request
  (outcome, d, m.count (refusal? request).isNone outcome.isOk)

end Downloader

end CrawlMesh
