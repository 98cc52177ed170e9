/-
# Tokens of a page

The pieces that the text of a page is made of: tags with their attributes, comments, the
document type, and characters.
-/
namespace CrawlMesh.Html

set_option autoImplicit false

/-- An attribute as it is written in a tag: its name in small letters, and its value. -/
abbrev RawAttribute := String × String

/-- A declared document type. -/
structure Doctype where
  name : Option String
  publicId : Option String
  systemId : Option String
  broken : Bool
deriving DecidableEq, Repr, Inhabited

/-- A piece of a page. Null characters come on their own, and a run of other characters is blank
throughout or nowhere once it has been split. -/
inductive Token
  | doctype (doctype : Doctype)
  | startTag (name : String) (attributes : List RawAttribute) (selfClosing : Bool)
  | endTag (name : String)
  | comment (text : String)
  | chars (text : String)
  | nul
  | done
deriving Repr, Inhabited

/-- White space in a page. -/
def isSpace (c : Char) : Bool :=
  c == ' ' || c == '\n' || c == '\t' || c == '\x0c' || c == '\r'

/-- How the text that comes next is read: with markup, as text with references up to an end tag,
as plain text up to an end tag, as a script, or as plain text to the end. -/
inductive TextMode
  | markup
  | escapable (endTag : String)
  | raw (endTag : String)
  | script
  | plain
deriving DecidableEq, Repr, Inhabited

end CrawlMesh.Html
