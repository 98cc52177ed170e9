/-
# Percent escapes

A character that may not stand for itself in a part of an address is written as its bytes, each
a percent sign and two digits of base sixteen. Which characters those are is the part's `Escaped`
predicate; characters beyond the seven-bit ones always are.
-/
import CrawlMesh.Net.Address

namespace CrawlMesh.Url

set_option autoImplicit false

/-- Control characters and everything beyond the seven-bit characters. -/
def escapedControl (c : Char) : Bool := c.toNat < 0x20 || c.toNat ≥ 0x7F

/-- What is escaped in a query; an address of a well-known scheme escapes the apostrophe too. -/
def escapedQuery (special : Bool) (c : Char) : Bool :=
  escapedControl c || [' ', '"', '#', '<', '>'].contains c || (special && c == '\'')

/-- What is escaped in a fragment. -/
def escapedFragment (c : Char) : Bool :=
  escapedControl c || [' ', '"', '<', '>', '`'].contains c

/-- What is escaped in a segment of a path. -/
def escapedPath (c : Char) : Bool :=
  escapedFragment c || ['#', '?', '\x7b', '\x7d'].contains c

/-- What is escaped in a user's name and password. -/
def escapedUser (c : Char) : Bool :=
  escapedPath c || ['/', ':', ';', '=', '@', '[', '\\', ']', '^', '|'].contains c

/-- A byte as a percent sign and two digits. -/
def escapeByte (b : UInt8) : List Char :=
  ['%', (Nat.digitChar (b.toNat / 16)).toUpper, (Nat.digitChar (b.toNat % 16)).toUpper]

/-- A text with its escaped characters written as their bytes. -/
def escape (escaped : Char → Bool) (cs : List Char) : String :=
  String.ofList (cs.flatMap fun c =>
    if escaped c then (String.utf8EncodeChar c).flatMap escapeByte else [c])

/-- The bytes of a text with its escapes undone. A percent sign without two digits behind it
stands for itself. -/
def unescapedBytes : List Char → List UInt8
  | [] => []
  | '%' :: a :: b :: rest =>
    match Net.digitIn? 16 a, Net.digitIn? 16 b with
    | some high, some low => (high * 16 + low).toUInt8 :: unescapedBytes rest
    | _, _ => 0x25 :: unescapedBytes (a :: b :: rest)
  | c :: rest => String.utf8EncodeChar c ++ unescapedBytes rest

/-- The text with its escapes undone, if the bytes make a text. -/
def unescape? (cs : List Char) : Option String :=
  String.fromUTF8? ⟨(unescapedBytes cs).toArray⟩

end CrawlMesh.Url
