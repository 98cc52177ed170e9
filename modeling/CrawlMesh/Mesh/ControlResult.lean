/-
# Results of commands

What an operator is told about a command: whether it succeeded, and the error or what was asked
for.
-/
import CrawlMesh.Error

namespace CrawlMesh

set_option autoImplicit false

/-- The result of a command. -/
structure ControlResult where
  success : Bool
  errorCode : UInt32
  error : Option String
  payload : Option Json
deriving Repr, Inhabited

namespace ControlResult

def ok (payload : Option Json) : ControlResult := ⟨true, 0, none, payload⟩

def failed (e : CrawlError) : ControlResult := ⟨false, e.code, some e.text, none⟩

/-- The result of a command that ended so, with what it asked for. -/
def ofOutcome {α : Type} (payload : α → Option Json) : Outcome α → ControlResult
  | .ok x => ok (payload x)
  | .error e => failed e

/-- A result as JSON; what it does not hold is not written. -/
def toJson (r : ControlResult) : Json :=
  .object ([("success", .bool r.success), ("error_code", .nat r.errorCode.toNat)]
    ++ (match r.error with
        | some e => [("error", .text e)]
        | none => [])
    ++ (match r.payload with
        | some j => [("payload", j)]
        | none => []))

end ControlResult

end CrawlMesh
