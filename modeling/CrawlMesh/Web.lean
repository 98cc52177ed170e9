/-
# Fetching from the web

What has to hold before a request can be sent over a network: the proxy it names has to be an
address with a host, and the address asked for has to be one that can be written into a request.
Credentials in an address travel in the header; they are not part of the address that errors name.
-/
import CrawlMesh.Downloader

namespace CrawlMesh.Web

set_option autoImplicit false

/-! ## Proxies -/

/-- Does a text stand for an address with a host? -/
def isAddress (s : String) : Bool :=
  match Url.parse s with
  | .ok url => url.hostText?.isSome
  | .error _ => false

/-- Is it for lack of a scheme that a text is no address with a host? -/
def lacksScheme (s : String) : Bool :=
  match Url.parse s with
  | .ok url => url.hostText?.isNone
  | .error fault => fault == .noBase

/-- Can a text serve as a proxy? The scheme may be left out. -/
def isProxy (s : String) : Bool := isAddress s || (lacksScheme s && isAddress ("http://" ++ s))

def badProxy (s : String) : CrawlError := .argument s!"invalid proxy {s}: builder error"

/-! ## Addresses -/

/-- The address without credentials, if these are text. -/
def withoutCredentials (url : Url) : Url :=
  match url.authority with
  | none => url
  | some a =>
    match Url.unescape? a.user.toList with
    | none => url
    | some user =>
      let password := a.password.bind fun p => Url.unescape? p.toList
      if user.isEmpty && password.isNone then url
      else { url with authority := some { a with user := "", password := none } }

/-- The longest address that can be sent. -/
def maxLength : Nat := 65534

/-- Characters of a host that cannot be written into a request. -/
def isUnwritable (c : Char) : Bool := ['"', '\x60', '\x7b', '\x7d'].contains c

/-- Can an address be written into a request? -/
def isWritable (url : Url) : Bool :=
  url.text.utf8ByteSize ≤ maxLength && !(url.hostText?.getD "").toList.any isUnwritable

/-! ## Fetching -/

/-- Why a fetch gets no answer. -/
inductive Failure
  | unwritable
  | unsent
  | redirects
  | body

/-- The error of a fetch, which names the address it was about. -/
def Failure.error (url : Url) : Failure → CrawlError
  | .unwritable => .stage .download s!"builder error for url ({url.text})" url.text
  | .unsent => .stage .download s!"error sending request for url ({url.text})" url.text
  | .redirects => .stage .download s!"error following redirect for url ({url.text})" url.text
  | .body => .stage .download "error decoding response body" "unknown url"

/-- What a network makes of a request: an answer, or why there is none. -/
inductive Answer
  | response (status : UInt16) (header : List (String × String)) (body : String)
      (bytes : UInt64) (elapsed : Int64)
  | failure (failure : Failure) (url : Url)

/-- A network: what it makes of a request for an address. -/
abbrev Network := Request → Url → Answer

/-- The network that nothing can be reached by. -/
def Network.unreachable : Network := fun _ url => .failure .unsent url

/-- Fetch the response to a request over a network. -/
def fetch (network : Network) (request : Request) : Fetched :=
  let url := withoutCredentials request.url
  let send : Fetched :=
    if isWritable url then
      match network request url with
      | .response status header body bytes elapsed =>
        .answered ((Response.of request status body).withHeader header) bytes elapsed
      | .failure .body url => .broken (Failure.body.error url)
      | .failure failure url => .unanswered (failure.error url)
    else .unanswered (Failure.unwritable.error url)
  match request.proxy with
  | some proxy => if isProxy proxy then send else .unsendable (badProxy proxy)
  | none => send

/-- A downloader over a network. -/
def downloader (network : Network) : Downloader := ⟨fetch network, some .zero⟩

end CrawlMesh.Web
