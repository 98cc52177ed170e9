/-
# Domain names in wire form

`toAscii?` turns a domain name as people write it into the form that name servers know. The
characters are prepared and composed, a label that is not plain is written in punycode behind
the mark `xn--`, and a label that comes with that mark has to be what its text would be written
as. Empty labels and dashes anywhere are allowed, and no length is checked.
-/
import CrawlMesh.Idna.Label
import CrawlMesh.Idna.Mapping
import CrawlMesh.Idna.Punycode
import CrawlMesh.Text.Split

namespace CrawlMesh.Idna

set_option autoImplicit false

/-- Plain characters that no host may hold. -/
def isDenied (c : Char) : Bool :=
  c.toNat ≤ 0x20 || c.toNat == 0x7F ||
    ['%', '#', '/', ':', '<', '>', '?', '@', '[', '\\', ']', '^', '|'].contains c

/-- The mark of a label in punycode. -/
def mark : List Char := ['x', 'n', '-', '-']

/-- Labels that are longer than this are not written in punycode. -/
def maxLabel : Nat := 1000

/-- Texts in punycode that are longer than this are not read. -/
def maxEncoded : Nat := 2000

/-- Would preparing and composing leave the label as it is? -/
def isPrepared (label : List Char) : Bool :=
  label.all (fun c => match mapChar c with
    | .kept => true
    | _ => false) && Unicode.composed label == label

/-- Is a label that is not plain made of what a label may hold? -/
def isValidLabel (label : List Char) : Bool :=
  !label.head?.any isMark && joinersFit [] label && !label.any isDenied

/-- The text of a label: what its punycode stands for, or itself. -/
def labelText? (label : List Char) : Option (List Char) :=
  if mark.isPrefixOf label then
    let encoded := label.drop mark.length
    if encoded.length > maxEncoded then none
    else do
      let text ← Punycode.decode? encoded
      if text.all (·.toNat < 0x80) || !isPrepared text || !isValidLabel text then none
      else some text
  else if isValidLabel label then some label
  else none

/-- The wire form of the text of a label. -/
def labelAscii? (label : List Char) : Option (List Char) :=
  if label.all (·.toNat < 0x80) then some label
  else if label.length > maxLabel then none
  else some (mark ++ Punycode.encode label)

/-- The wire form of a domain name. -/
def toAscii? (domain : String) : Option String := do
  let mapped ← mapText domain.toList
  let labels := Text.splitWhere (· == '.') (Unicode.composed mapped)
  let texts ← labels.mapM labelText?
  if (texts.any (·.any turns)) && !texts.all directionFits then none
  else
    let wire ← texts.mapM labelAscii?
    some (String.ofList (List.intercalate ['.'] wire))

end CrawlMesh.Idna
