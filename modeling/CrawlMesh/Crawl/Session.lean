/-
# Sessions

One prepared run of a scheduler: its policy, its pools, the addresses it has accepted, and the
work in the hands of its stages. A request is accepted once for every address, if it passes the
policy; the address is recorded before the request is enqueued, and forgotten again if the pool is
closed. A unit of work leaves its pool before it is counted as work in progress.
-/
import CrawlMesh.Crawl.Inbox
import CrawlMesh.ModuleSet
import CrawlMesh.Policy

namespace CrawlMesh

set_option autoImplicit false

/-! ## Work in hand -/

/-- A unit of work in the hands of a stage: taken from its pool, counted as work in progress, in a
call of a module, or over but for what came out of it. -/
inductive Task (α β : Type)
  | taken (unit : α)
  | begun (unit : α)
  | calling (worker : ModuleId) (unit : α)
  | delivering (output : β)
deriving Repr, Inhabited

namespace Task

variable {α β : Type}

/-- Is it counted as work in progress? -/
def isCounted : Task α β → Bool
  | .taken _ => false
  | _ => true

/-- Count the task at a place, which was only taken so far. -/
def beginAt? (l : List (Task α β)) (place : Nat) : Option (List (Task α β)) :=
  match l[place]? with
  | some (.taken unit) => some (l.set place (.begun unit))
  | _ => none

end Task

/-- A download gives a response, which may have to wait for room. -/
abbrev Download := Task Request Response

/-- An analysis hands over what was found. -/
abbrev Analysis := Task Response Yield

/-- A pipeline gives nothing that is put anywhere. -/
abbrev Processing := Task Item Empty

/-! ## Sessions -/

/-- A session. -/
structure Session where
  policy : CrawlPolicy
  sizes : PoolSizes
  domains : List String
  requests : Inbox Request
  responses : Pool Response
  items : Pool Item
  errors : Inbox CrawlError
  seen : List String
  downloads : List Download
  analyses : List Analysis
  processings : List Processing
  broken : Nat
deriving Repr, Inhabited

namespace Session

/-- A new session. -/
def new (policy : CrawlPolicy) (sizes : PoolSizes) : Outcome Session := do
  let domains ← policy.primaryDomains
  return {
    policy := policy
    sizes := sizes
    domains := domains
    requests := ← Inbox.new sizes.requests.bufferCap sizes.requests.maxBuffers
    responses := ← Pool.new sizes.responses.bufferCap sizes.responses.maxBuffers
    items := ← Pool.new sizes.items.bufferCap sizes.items.maxBuffers
    errors := ← Inbox.new sizes.errors.bufferCap sizes.errors.maxBuffers
    seen := []
    downloads := []
    analyses := []
    processings := []
    broken := 0 }

/-- Close all pools. -/
def close (s : Session) : Session :=
  { s with
    requests := s.requests.close.2
    responses := s.responses.close.2
    items := s.items.close.2
    errors := s.errors.close.2 }

/-- How many units are in the hands of the stages. -/
def inHands (s : Session) : Nat := s.downloads.length + s.analyses.length + s.processings.length

/-- How many units are counted as work in progress. One that broke off is counted for ever. -/
def inProgress (s : Session) : Nat :=
  s.downloads.countP Task.isCounted + s.analyses.countP Task.isCounted
    + s.processings.countP Task.isCounted + s.broken

/-- Put an error where the errors of the session are read. -/
def report (s : Session) (e : CrawlError) : Session := { s with errors := s.errors.put e }

def reportAll (s : Session) (l : List CrawlError) : Session := l.foldl report s

/-! ## Policy -/

/-- Is a primary domain among the accepted ones? -/
def acceptsDomain (s : Session) (domain : String) : Bool :=
  s.domains.isEmpty || s.domains.contains domain

/-- Why a request does not pass the policy. -/
inductive Refusal
  | scheme
  | domain (error : CrawlError)
  | foreign (domain : String)
  | depth
deriving DecidableEq, Repr

/-- The primary domain of a request that passes the policy. -/
def checkPolicy (s : Session) (r : Request) : Except Refusal String :=
  if r.url.scheme != "http" && r.url.scheme != "https" then .error .scheme
  else
    match r.primaryDomain with
    | .error e => .error (.domain e)
    | .ok domain =>
      if !s.acceptsDomain domain then .error (.foreign domain)
      else if s.policy.maxDepth < r.depth then .error .depth
      else .ok domain

/-- May a request be among the first ones? Its depth does not count. -/
def checkSeed (s : Session) (r : Request) : Outcome Unit := do
  r.validate
  let domain ← r.primaryDomain
  if s.acceptsDomain domain then return ()
  else throw (.argument s!"seed {r.url.text} is outside the accepted domains")

/-! ## Accepting requests -/

/-- What an address is recorded by. -/
def key (domain : String) (url : Url) : String := domain ++ "|" ++ url.text

/-- Record the address of a request that passes the policy, and give what it is recorded by.
Nothing if the request does not pass or the address is recorded already. -/
def record? (s : Session) (r : Request) : Option (String × Session) :=
  match s.checkPolicy r with
  | .error _ => none
  | .ok domain =>
    let k := key domain r.url
    if s.seen.contains k then none else some (k, { s with seen := s.seen ++ [k] })

/-- Put a request whose address is recorded. If the pool is closed the record is taken back. -/
def enqueue (s : Session) (k : String) (r : Request) : Bool × Session :=
  match s.requests.put? r with
  | some requests => (true, { s with requests := requests })
  | none => (false, { s with seen := s.seen.erase k })

/-- Accept a request. The answer tells whether it was. -/
def send (s : Session) (r : Request) : Bool × Session :=
  match s.record? r with
  | none => (false, s)
  | some (k, s) => s.enqueue k r

/-- Has an address been accepted? -/
def has (s : Session) (url : Url) : Bool :=
  match url.hostText?.map primaryDomain with
  | some (.ok domain) => s.seen.contains (key domain url)
  | _ => false

end Session

end CrawlMesh
