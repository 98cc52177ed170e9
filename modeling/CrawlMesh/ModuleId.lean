/-
# Module identifiers

A module is known by a text: the letter of its role, a serial number in decimal digits, and,
where it runs on another machine, a bar and the address there. Letters may be small and serial
numbers may have leading zeros; `ModuleId.of` writes the plain form.
-/
import CrawlMesh.Error
import CrawlMesh.Net.Address
import CrawlMesh.Number.Decimal
import CrawlMesh.Text.Quoted
import CrawlMesh.Text.Split

namespace CrawlMesh

set_option autoImplicit false

/-- The roles of modules. -/
inductive Role
  | downloader
  | analyzer
  | pipeline
deriving DecidableEq, Repr, Inhabited

namespace Role

def all : List Role := [.downloader, .analyzer, .pipeline]

/-- The word for a role in running text. -/
def text : Role → String
  | .downloader => "downloader"
  | .analyzer => "analyzer"
  | .pipeline => "pipeline"

/-- The name of a role. -/
def name : Role → String
  | .downloader => "Downloader"
  | .analyzer => "Analyzer"
  | .pipeline => "Pipeline"

def ofName? (s : String) : Option Role := all.find? (·.name == s)

def letter : Role → Char
  | .downloader => 'D'
  | .analyzer => 'A'
  | .pipeline => 'P'

/-- The role of a letter, capital or small. -/
def ofLetter? (c : Char) : Option Role := all.find? (·.letter == c.toUpper)

end Role

/-- The text by which a module is known; it need not be well formed. -/
structure ModuleId where
  text : String
deriving DecidableEq, Repr, Inhabited

namespace ModuleId

/-- What a module identifier says. -/
structure Parts where
  role : Role
  serial : UInt64
  address : Option Net.SocketAddress
deriving DecidableEq, Repr, Inhabited

/-- The plain form of an identifier. -/
def of (p : Parts) : ModuleId :=
  ⟨String.ofList [p.role.letter] ++ toString p.serial.toNat ++
    (match p.address with
      | some a => "|" ++ a.text
      | none => "")⟩

/-- The serial number of a text `whole`. -/
def readSerial (whole : String) (digits : List Char) : Outcome UInt64 :=
  if digits.isEmpty || !digits.all Char.isDigit then
    .error (.argument s!"illegal module serial number {Text.quoted (String.ofList digits)} in {Text.quoted whole}")
  else
    match Decimal.readDigits UInt64.size 0 digits with
    | .ok n => .ok n.toUInt64
    | .error fault =>
      .error (.argument s!"module serial number overflow in {Text.quoted whole}: {fault.message}")

/-- The address of a text `whole`. -/
def readAddress (whole : String) (address : String) : Outcome Net.SocketAddress :=
  match Net.SocketAddress.ofText? address with
  | some a => .ok a
  | none =>
    .error (.argument s!"illegal module address {Text.quoted address} in {Text.quoted whole}")

/-- Take an identifier apart. -/
def parts (id : ModuleId) : Outcome Parts :=
  match id.text.toList with
  | [] => .error (.argument "empty module id")
  | letter :: rest =>
    match Role.ofLetter? letter with
    | none =>
      .error (.argument s!"illegal module type letter {Text.quotedChar letter} in {Text.quoted id.text}")
    | some role =>
      match Text.splitLast? '|' rest with
      | some (digits, address) => do
        let address ← readAddress id.text (String.ofList address)
        let serial ← readSerial id.text digits
        return ⟨role, serial, some address⟩
      | none => do
        let serial ← readSerial id.text rest
        return ⟨role, serial, none⟩

/-- The role of a well-formed identifier. -/
def role (id : ModuleId) : Outcome Role := id.parts.map (·.role)

/-- The address in a well-formed identifier, if there is one. -/
def address? (id : ModuleId) : Option Net.SocketAddress :=
  match id.parts with
  | .ok p => p.address
  | .error _ => none

end ModuleId

end CrawlMesh
