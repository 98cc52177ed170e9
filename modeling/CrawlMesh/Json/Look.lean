/-
# Looking into objects

The fields of an object by their names, with what counts where a field is missing or of another
kind: an empty text, no number, no items.
-/
import CrawlMesh.Json.Record

namespace CrawlMesh.Json

set_option autoImplicit false

/-- The field of a name, or null. -/
def field (j : Json) (name : String) : Json := (j.get? name).getD .null

def has (j : Json) (name : String) : Bool := (j.get? name).isSome

def textAt? (j : Json) (name : String) : Option String := (j.field name).asText?

def textAt (j : Json) (name : String) : String := (j.textAt? name).getD ""

/-- A natural number below `2 ^ 64`. -/
def natAt? (j : Json) (name : String) : Option Nat := (j.field name).asNat? UInt64.size

def natAt (j : Json) (name : String) : Nat := (j.natAt? name).getD 0

def itemsAt (j : Json) (name : String) : List Json :=
  match j.field name with
  | .list items => items
  | _ => []

def textsAt (j : Json) (name : String) : List String := (j.itemsAt name).filterMap asText?

def fieldsAt (j : Json) (name : String) : Fields := ((j.field name).asFields?).getD []

/-- The fields whose values are texts. -/
def textFieldsAt (j : Json) (name : String) : List (String × String) :=
  (j.fieldsAt name).filterMap fun (k, v) => v.asText?.map (k, ·)

/-- The object without the field of a name. -/
def without (j : Json) (name : String) : Json :=
  match j with
  | .object fields => .object (fields.filter (·.1 != name))
  | j => j

/-- The object with one more field before the others. -/
def withField (j : Json) (name : String) (value : Json) : Json :=
  match j.without name with
  | .object fields => .object ((name, value) :: fields)
  | j => j

end CrawlMesh.Json
