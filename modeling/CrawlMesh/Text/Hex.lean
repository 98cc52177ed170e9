/-
# Hexadecimal text

Bytes as two digits each, the high one first. Only the digits below sixteen are read; other
characters count as digits of no meaning.
-/
namespace CrawlMesh.Text

set_option autoImplicit false

/-- The digits of bytes, in small letters. -/
def hex (l : List UInt8) : String :=
  String.ofList (l.flatMap fun b => [Nat.digitChar (b.toNat / 16), Nat.digitChar (b.toNat % 16)])

/-- The value of a digit. -/
def hexDigit (c : Char) : Nat := if c.isDigit then c.toNat - 48 else c.toLower.toNat - 87

/-- The bytes of digits. -/
def ofHex : List Char → List UInt8
  | a :: b :: rest => (hexDigit a * 16 + hexDigit b).toUInt8 :: ofHex rest
  | _ => []

end CrawlMesh.Text
