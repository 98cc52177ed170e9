/-
# Writing a page

The inside of an element as text. Characters that would be taken for markup are written by name,
except below elements whose text is not read as markup.
-/
import CrawlMesh.Html.Document

namespace CrawlMesh.Html

set_option autoImplicit false

/-- Text in which markup does not show; quotation marks count in attributes, brackets elsewhere. -/
def escapeText (inAttribute : Bool) (s : String) : String :=
  s.foldl (fun acc c =>
    match c with
    | '&' => acc ++ "&amp;"
    | '\xa0' => acc ++ "&nbsp;"
    | '"' => if inAttribute then acc ++ "&quot;" else acc.push c
    | '<' => if inAttribute then acc.push c else acc ++ "&lt;"
    | '>' => if inAttribute then acc.push c else acc ++ "&gt;"
    | c => acc.push c) ""

/-- Elements of which only the start tag is written. -/
def voidNames : List String :=
  ["area", "base", "basefont", "bgsound", "br", "col", "embed", "frame", "hr", "img", "input",
    "keygen", "link", "meta", "param", "source", "track", "wbr"]

/-- Elements whose text is written as it is. -/
def rawNames : List String :=
  ["style", "script", "xmp", "iframe", "noembed", "noframes", "plaintext"]

/-- An attribute as it is written in a tag. -/
def Attribute.text (a : Attribute) : String :=
  let front := match a.space with
    | .plain => ""
    | .xlink => "xlink:"
    | .xmlns => if a.name == "xmlns" then "" else "xmlns:"
    | .xml => "xml:"
  " " ++ front ++ a.name ++ "=\"" ++ escapeText true a.value ++ "\""

def Element.isHtml (e : Element) (names : List String) : Bool :=
  e.vocabulary == .html && names.contains e.name

namespace Document

mutual

/-- Write a node behind `acc`; `raw` tells whether text is written as it is. -/
def write (d : Document) : Nat → Bool → String → Nat → String
  | 0, _, acc, _ => acc
  | fuel + 1, raw, acc, i =>
    match d.kind i with
    | .document => acc
    | .fragment => writeAll d fuel raw acc (d.children i).toList
    | .doctype name => acc ++ "<!DOCTYPE " ++ name ++ ">"
    | .comment s => acc ++ "<!--" ++ s ++ "-->"
    | .text s => acc ++ (if raw then s else escapeText false s)
    | .element e =>
      let acc := acc ++ "<" ++ e.name ++ String.join (e.attributes.map Attribute.text) ++ ">"
      if e.isHtml voidNames then acc
      else
        writeAll d fuel (e.isHtml rawNames) acc (d.children i).toList ++ "</" ++ e.name ++ ">"

def writeAll (d : Document) : Nat → Bool → String → List Nat → String
  | _, _, acc, [] => acc
  | 0, _, acc, _ => acc
  | fuel + 1, raw, acc, i :: rest =>
    writeAll d (fuel + 1) raw (write d fuel raw acc i) rest

end

/-- What is inside of a node. -/
def inside (d : Document) (i : Nat) : String :=
  d.writeAll (2 * d.nodes.size + 2) false "" (d.children i).toList

end Document

end CrawlMesh.Html
