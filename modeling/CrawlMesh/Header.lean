/-
# Header fields

The header of a request: names in small letters in the order in which they were first set, each
with its values. A name is a token, and a value holds no control characters but tabs. Values
that are not plain can be set but are not written.
-/
import CrawlMesh.Error
import CrawlMesh.Json.Basic

namespace CrawlMesh

set_option autoImplicit false

/-- Characters of a token. -/
def isTokenChar (c : Char) : Bool :=
  c.isAlphanum ||
    ['!', '#', '$', '%', '&', '\'', '*', '+', '-', '.', '^', '_', '`', '|', '~'].contains c

/-- A text that names something in a header. -/
def isToken (s : String) : Bool := !s.isEmpty && s.toList.all isTokenChar

/-- The fields of a header with their values. -/
structure Header where
  fields : List (String × List String)
deriving DecidableEq, Repr, Inhabited

namespace Header

/-- The longest name that a field may have. -/
def maxName : Nat := 65535

/-- May a character stand in a value? -/
def isValueChar (c : Char) : Bool := (c.toNat ≥ 0x20 && c.toNat != 0x7F) || c == '\t'

def isValue (s : String) : Bool := s.toList.all isValueChar

/-- Is a value plain, so that it can be written? -/
def isPlain (s : String) : Bool :=
  s.toList.all fun c => (0x20 ≤ c.toNat && c.toNat < 0x7F) || c == '\t'

/-- The name in small letters, if it is one. -/
def name? (s : String) : Option String :=
  if isToken s && s.length ≤ maxName then some (String.ofList (s.toList.map Char.toLower))
  else none

def empty : Header := ⟨[]⟩

/-- The values of a name. -/
def values (h : Header) (name : String) : List String :=
  match h.fields.find? (·.1 == name) with
  | some field => field.2
  | none => []

/-- Change the values of a name, which is put at the end if it is new. -/
def update (name : String) (change : List String → List String) :
    List (String × List String) → List (String × List String)
  | [] => [(name, change [])]
  | (n, vs) :: rest => if n == name then (n, change vs) :: rest else (n, vs) :: update name change rest

/-- Give a name one value in place of all it has. -/
def insert (h : Header) (name value : String) : Header :=
  ⟨update name (fun _ => [value]) h.fields⟩

/-- Give a name one more value. -/
def append (h : Header) (name value : String) : Header :=
  ⟨update name (· ++ [value]) h.fields⟩

/-- Set a field. -/
def set (h : Header) (key value : String) : Outcome Header :=
  match name? key with
  | none => .error (.argument s!"invalid header name {key}: invalid HTTP header name")
  | some name =>
    if isValue value then .ok (h.insert name value)
    else .error (.argument "invalid header value: failed to parse header value")

/-! ## As JSON -/

/-- The texts in front of a list. A value of another kind ends it, and nothing may follow. -/
def leadingTexts? : List Json → Option (List String)
  | [] => some []
  | .text s :: rest => (leadingTexts? rest).map (s :: ·)
  | [_] => some []
  | _ => none

/-- Read one field into a header: a text replaces the values of its name, a list adds to them. -/
def readField (h : Header) (field : String × Json) : Option Header := do
  let name ← name? field.1
  match field.2 with
  | .text value => if isValue value then some (h.insert name value) else none
  | .list items => do
    let values ← leadingTexts? items
    if values.all isValue then some (values.foldl (fun h v => h.append name v) h) else none
  | _ => none

def ofJson? : Json → Option Header
  | .object fields => fields.foldlM readField empty
  | _ => none

/-- A field's values: a single plain one as a text, others as the list of the plain ones. -/
def valuesJson (values : List String) : Json :=
  match values with
  | [value] => if isPlain value then .text value else .list []
  | values => .list ((values.filter isPlain).map .text)

def toJson (h : Header) : Json := .object (h.fields.map fun (n, vs) => (n, valuesJson vs))

end Header

end CrawlMesh
