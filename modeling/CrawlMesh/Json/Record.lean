/-
# Reading records

A record is written as an object that names its fields, or as the list of its fields in the
order of their declaration. Unknown names are passed over and a name may occur only once. A
field with a default may be missing; an optional field without one may be missing by name, but
not from a list.
-/
import CrawlMesh.Json.Basic

namespace CrawlMesh.Json

set_option autoImplicit false

/-- What a record holds for a field: a value, nothing under its name, or a list that ends before
its place. -/
inductive Slot
  | given (value : Json)
  | missing
  | beyond
deriving Repr, Inhabited

/-- The slots of a record's fields, in the order of `names`. -/
def slots? (names : List String) : Json → Option (List Slot)
  | .object fields =>
    names.mapM fun name =>
      match fields.filter (·.1 == name) with
      | [] => some .missing
      | [field] => some (.given field.2)
      | _ => none
  | .list items =>
    if items.length > names.length then none
    else some (items.map .given ++ List.replicate (names.length - items.length) .beyond)
  | _ => none

namespace Slot

variable {α : Type}

/-- A field that has to be there. -/
def required (read : Json → Option α) : Slot → Option α
  | .given j => read j
  | _ => none

/-- A field that may be missing and then has a default. -/
def withDefault (read : Json → Option α) (default : α) : Slot → Option α
  | .given j => read j
  | _ => some default

/-- A value or the null value. -/
def nullable (read : Json → Option α) : Json → Option (Option α)
  | .null => some none
  | j => (read j).map some

/-- A field that may be null or missing by name. -/
def optional (read : Json → Option α) : Slot → Option (Option α)
  | .given j => nullable read j
  | .missing => some none
  | .beyond => none

/-- A field that may be null or missing. -/
def optionalDefault (read : Json → Option α) : Slot → Option (Option α)
  | .given j => nullable read j
  | _ => some none

end Slot

/-! ## Plain values -/

def asText? : Json → Option String
  | .text s => some s
  | _ => none

def asBool? : Json → Option Bool
  | .bool b => some b
  | _ => none

/-- An integer below a bound. -/
def asNat? (bound : Nat) : Json → Option Nat
  | .number (.int n) => if 0 ≤ n && n < bound then some n.toNat else none
  | _ => none

def asUInt16? (j : Json) : Option UInt16 := (asNat? UInt16.size j).map Nat.toUInt16

def asUInt32? (j : Json) : Option UInt32 := (asNat? UInt32.size j).map Nat.toUInt32

def asUInt64? (j : Json) : Option UInt64 := (asNat? UInt64.size j).map Nat.toUInt64

/-- A list whose items are all read. -/
def asList? {α : Type} (read : Json → Option α) : Json → Option (List α)
  | .list items => items.mapM read
  | _ => none

/-- The fields of an object in ascending order, the last of repeated names kept. -/
def asFields? : Json → Option Fields
  | .object fields => some (sortedFields [] fields)
  | _ => none

/-- The value of an optional value. -/
def ofOption {α : Type} (write : α → Json) : Option α → Json
  | none => .null
  | some x => write x

end CrawlMesh.Json
