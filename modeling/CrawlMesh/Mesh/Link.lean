/-
# Links

An open stream to a peer. Calls share it: one after the other gets hold of it, writes its frame
and reads the next reply. The peer answers the frames in the order in which they were written.
A call that fails leaves the stream in an unknown state, so the link counts as broken then, and a
call that comes later ends at once.
-/
import CrawlMesh.Mesh.Message

namespace CrawlMesh

set_option autoImplicit false

/-- What is at the other end of a stream: a node of some number, or something that never
answers. -/
inductive Endpoint
  | node (number : Nat)
  | mute
deriving DecidableEq, Repr, Inhabited

/-- How far a call has come. A reply is read together with the number of the call that the peer
answered by it. -/
inductive Progress
  /-- It has not looked whether the link is broken. -/
  | arriving
  /-- It waits for the stream. -/
  | waiting
  /-- It holds the stream and has written nothing. -/
  | holding
  /-- Its frame is written and it waits for a reply. -/
  | reading
  | replied (call : Nat) (reply : Reply)
  | failed (error : CrawlError)
deriving Repr, Inhabited

/-- A link. The calls are known by their numbers, which are their places in the list. -/
structure Link where
  number : Nat
  peer : NodeInfo
  endpoint : Endpoint
  broken : Bool
  holder : Option Nat
  calls : List Progress
  unanswered : List Nat
  replies : List (Nat × Reply)
deriving Repr, Inhabited

/-- One step of the calls on a link. -/
inductive LinkMove
  | arrive
  | look (call : Nat)
  | hold (call : Nat)
  | write (call : Nat)
  /-- The peer answers the frame that was written first of those unanswered. -/
  | answer (reply : Reply)
  | read (call : Nat)
  /-- A call that holds the stream fails. -/
  | fail (call : Nat) (error : CrawlError)

namespace Link

/-- A link over a stream that was just opened. -/
def new (number : Nat) (peer : NodeInfo) (endpoint : Endpoint) : Link where
  number := number
  peer := peer
  endpoint := endpoint
  broken := false
  holder := none
  calls := []
  unanswered := []
  replies := []

/-- What a call on a broken link ends with. -/
def brokenError (l : Link) : CrawlError := .transport s!"connection to {l.peer.text} is broken"

def setCall (l : Link) (call : Nat) (p : Progress) : Link :=
  { l with calls := l.calls.set call p }

/-- The link after a step, if it is possible. -/
def move? (l : Link) : LinkMove → Option Link
  | .arrive => some { l with calls := l.calls ++ [.arriving] }
  | .look call =>
    match l.calls[call]? with
    | some .arriving =>
      some (l.setCall call (if l.broken then .failed l.brokenError else .waiting))
    | _ => none
  | .hold call =>
    match l.calls[call]?, l.holder with
    | some .waiting, none => some { l.setCall call .holding with holder := some call }
    | _, _ => none
  | .write call =>
    match l.calls[call]? with
    | some .holding => some { l.setCall call .reading with unanswered := l.unanswered ++ [call] }
    | _ => none
  | .answer reply =>
    match l.unanswered with
    | call :: rest => some { l with unanswered := rest, replies := l.replies ++ [(call, reply)] }
    | [] => none
  | .read call =>
    match l.calls[call]?, l.replies with
    | some .reading, (answered, reply) :: rest =>
      some { l.setCall call (.replied answered reply) with holder := none, replies := rest }
    | _, _ => none
  | .fail call error =>
    match l.calls[call]? with
    | some .holding | some .reading =>
      some { l.setCall call (.failed error) with holder := none, broken := true }
    | _ => none

/-- The link after steps up to the first that is not possible. -/
def moves (l : Link) : List LinkMove → Link
  | [] => l
  | m :: rest =>
    match l.move? m with
    | some l => moves l rest
    | none => l

/-- How the call of a number ended, if it has. -/
def outcome? (l : Link) (call : Nat) : Option (Outcome Reply) :=
  match l.calls[call]? with
  | some (.replied _ reply) => some (.ok reply)
  | some (.failed e) => some (.error e)
  | _ => none

/-! ## One call alone -/

/-- Begin a call and look whether the link is broken. -/
def begin (l : Link) : Link := l.moves [.arrive, .look l.calls.length]

/-- Take a call that waits to its end, given what comes of the frame. -/
def finish (l : Link) (call : Nat) : Outcome Reply → Link
  | .ok reply => l.moves [.hold call, .write call, .answer reply, .read call]
  | .error e => l.moves [.hold call, .write call, .fail call e]

/-- Forget the calls, which have all ended. -/
def forget (l : Link) : Link := { l with calls := [] }

end Link

end CrawlMesh
