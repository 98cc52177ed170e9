/-
# Lower case

`lower` is the full lower-case map: each character becomes its small letter, `İ` becomes `i`
with a dot above, and a capital sigma at the end of a word becomes the final small sigma.
-/
import CrawlMesh.Unicode.Lowercase
import CrawlMesh.Unicode.Printable

namespace CrawlMesh.Text

set_option autoImplicit false

/-- Characters that a word's end looks through: marks, modifiers and joining punctuation. -/
def isCaseIgnorable (c : Char) : Bool :=
  Unicode.isExtending c || ['\'', '.', ':', '^', '`', '\xa8', '\xad', '\xaf', '\xb4', '\xb7',
    '\xb8', '\u2019', '\u00b7'].contains c

/-- Characters that belong to a cased script: a letter with a small or capital partner. -/
def isCased (c : Char) : Bool :=
  Unicode.simpleLower c != c ||
    Unicode.lowercaseRuns.any fun r =>
      let n := (c.toNat : Int) - r.shift
      0 ≤ n && r.holds n.toNat

/-- Is the next character that counts a cased one? -/
def startsCased (cs : List Char) : Bool :=
  match cs.dropWhile isCaseIgnorable with
  | [] => false
  | c :: _ => isCased c

/-- Lower case with the characters already passed, nearest first, at hand. -/
def lowerChars (before : List Char) : List Char → List Char
  | [] => []
  | c :: rest =>
    let small :=
      if c == '\u0130' then ['i', '\u0307']
      else if c == '\u03a3' then
        if startsCased before && !startsCased rest then ['\u03c2'] else ['\u03c3']
      else [Unicode.simpleLower c]
    small ++ lowerChars (c :: before) rest

/-- The lower-case form of a text. -/
def lower (s : String) : String :=
  if s.toList.all (·.toNat < 0x80) then String.ofList (s.toList.map Char.toLower)
  else String.ofList (lowerChars [] s.toList)

/-- Lower case for the letters A to Z alone. -/
def lowerAscii (s : String) : String := String.ofList (s.toList.map Char.toLower)

end CrawlMesh.Text
