/-
# JSON values

A JSON value as a tree. Integers that fit in sixty-four bits, signed or not, stay exact; all
other numbers are binary floating-point numbers. An object is the list of its fields: as they
were written where that matters, and in ascending order of their names, without repetition,
once it is `sorted`.
-/
namespace CrawlMesh

set_option autoImplicit false

/-- A number: an integer in the range of the signed or the unsigned sixty-four-bit integers, or
a finite floating-point number. -/
inductive JsonNumber
  | int (value : Int)
  | real (value : Float)
deriving Repr, Inhabited

/-- A JSON value. -/
inductive Json
  | null
  | bool (value : Bool)
  | number (value : JsonNumber)
  | text (value : String)
  | list (items : List Json)
  | object (fields : List (String × Json))
deriving Repr, Inhabited

namespace JsonNumber

/-- Equality of numbers; an integer never equals a floating-point number. -/
def same : JsonNumber → JsonNumber → Bool
  | .int a, .int b => a == b
  | .real a, .real b => a == b
  | _, _ => false

end JsonNumber

namespace Json

/-- The value of a natural number. -/
def nat (n : Nat) : Json := .number (.int n)

/-- The fields of an object. -/
abbrev Fields := List (String × Json)

/-- Put a field into fields in ascending order, in place of a field of the same name. -/
def Fields.insert (key : String) (value : Json) : Fields → Fields
  | [] => [(key, value)]
  | (k, v) :: rest =>
    if key < k then (key, value) :: (k, v) :: rest
    else if key == k then (key, value) :: rest
    else (k, v) :: Fields.insert key value rest

/-- The value of the last field of a name. -/
def Fields.get? (fields : Fields) (key : String) : Option Json :=
  fields.foldl (fun found field => if field.1 == key then some field.2 else found) none

/-- The field of a name in an object; nothing for any other value. -/
def get? (j : Json) (key : String) : Option Json :=
  match j with
  | .object fields => Fields.get? fields key
  | _ => none

mutual

/-- The value with every object in ascending order of names, the last of repeated names kept. -/
def sorted : Json → Json
  | .list items => .list (sortedItems items)
  | .object fields => .object (sortedFields [] fields)
  | j => j

def sortedItems : List Json → List Json
  | [] => []
  | j :: rest => j.sorted :: sortedItems rest

/-- Put fields, sorted inside, into fields that are already in order. -/
def sortedFields (done : Fields) : List (String × Json) → Fields
  | [] => done
  | (k, v) :: rest => sortedFields (Fields.insert k v.sorted done) rest

end

mutual

/-- The value with every text in it changed. -/
def mapText (f : String → String) : Json → Json
  | .text s => .text (f s)
  | .list items => .list (mapTextItems f items)
  | .object fields => .object (mapTextFields f fields)
  | j => j

def mapTextItems (f : String → String) : List Json → List Json
  | [] => []
  | j :: rest => j.mapText f :: mapTextItems f rest

def mapTextFields (f : String → String) : List (String × Json) → List (String × Json)
  | [] => []
  | (k, v) :: rest => (k, v.mapText f) :: mapTextFields f rest

end

mutual

/-- The value with every field in it changed, given its name. -/
def mapField (f : String → Json → Json) : Json → Json
  | .list items => .list (mapFieldItems f items)
  | .object fields => .object (mapFieldFields f fields)
  | j => j

def mapFieldItems (f : String → Json → Json) : List Json → List Json
  | [] => []
  | j :: rest => j.mapField f :: mapFieldItems f rest

def mapFieldFields (f : String → Json → Json) : List (String × Json) → List (String × Json)
  | [] => []
  | (k, v) :: rest => (k, f k (v.mapField f)) :: mapFieldFields f rest

end

mutual

/-- Equality of values. Objects are compared field by field in their order. -/
def same : Json → Json → Bool
  | .null, .null => true
  | .bool a, .bool b => a == b
  | .number a, .number b => a.same b
  | .text a, .text b => a == b
  | .list a, .list b => sameItems a b
  | .object a, .object b => sameFields a b
  | _, _ => false

def sameItems : List Json → List Json → Bool
  | [], [] => true
  | a :: as, b :: bs => a.same b && sameItems as bs
  | _, _ => false

def sameFields : List (String × Json) → List (String × Json) → Bool
  | [], [] => true
  | (k, a) :: as, (l, b) :: bs => k == l && a.same b && sameFields as bs
  | _, _ => false

end

instance : BEq JsonNumber := ⟨JsonNumber.same⟩

instance : BEq Json := ⟨same⟩

end Json

end CrawlMesh
