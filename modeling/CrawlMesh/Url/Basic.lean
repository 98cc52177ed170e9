/-
# Addresses

The address of a page in its parts. All parts are kept as they are written, escapes included,
so that an address has one text. A path is a list of segments or, below a scheme that has no
hierarchy, a text without structure.
-/
import CrawlMesh.Url.Host

namespace CrawlMesh

set_option autoImplicit false

namespace Url

/-- Who is asked for a page: an optional user, a host and an optional port. -/
structure Authority where
  user : String
  password : Option String
  host : Host
  port : Option UInt16
deriving DecidableEq, Repr, Inhabited

/-- Where a page lies. -/
inductive Path
  | opaque_ (text : String)
  | segments (items : List String)
deriving DecidableEq, Repr, Inhabited

end Url

/-- The address of a page. -/
structure Url where
  scheme : String
  authority : Option Url.Authority
  path : Url.Path
  query : Option String
  fragment : Option String
deriving DecidableEq, Repr, Inhabited

namespace Url

/-- The port of a well-known scheme. -/
def defaultPort? : String → Option UInt16
  | "http" => some 80
  | "ws" => some 80
  | "https" => some 443
  | "wss" => some 443
  | "ftp" => some 21
  | _ => none

/-- The well-known schemes, whose addresses always have a hierarchy. -/
def isSpecial (scheme : String) : Bool := scheme == "file" || (defaultPort? scheme).isSome

namespace Authority

/-- The user in front of the host, if there is one. -/
def userText (a : Authority) : String :=
  match a.password with
  | some password => a.user ++ ":" ++ password ++ "@"
  | none => if a.user.isEmpty then "" else a.user ++ "@"

def portText (a : Authority) : String :=
  match a.port with
  | some port => ":" ++ toString port.toNat
  | none => ""

def text (a : Authority) : String := "//" ++ a.userText ++ a.host.text ++ a.portText

end Authority

def Path.text : Path → String
  | .opaque_ text => text
  | .segments items => String.join (items.map ("/" ++ ·))

/-- The text of a path behind an authority or without one. A path that begins with two slashes
would be taken for an authority and gets a dot in front. -/
def pathText (u : Url) : String :=
  match u.authority, u.path with
  | none, .segments ("" :: next :: rest) => "/." ++ Path.text (.segments ("" :: next :: rest))
  | _, path => path.text

def authorityText (u : Url) : String :=
  match u.authority with
  | some a => a.text
  | none => ""

/-- The text of an address. -/
def text (u : Url) : String :=
  u.scheme ++ ":" ++ u.authorityText ++ u.pathText
    ++ (match u.query with
        | some q => "?" ++ q
        | none => "")
    ++ (match u.fragment with
        | some f => "#" ++ f
        | none => "")

/-- The text of the host, if there is one. -/
def hostText? (u : Url) : Option String :=
  match u.authority with
  | none => none
  | some a => if a.host = .empty then none else some a.host.text

/-- The segments of the path; none below a scheme without hierarchy. -/
def segments (u : Url) : List String :=
  match u.path with
  | .opaque_ _ => []
  | .segments items => items

/-- Does the address have a path without structure? -/
def isOpaque (u : Url) : Bool :=
  match u.path with
  | .opaque_ _ => true
  | .segments _ => false

end Url

end CrawlMesh
