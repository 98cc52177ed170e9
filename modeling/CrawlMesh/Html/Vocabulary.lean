/-
# The vocabularies of a page

Which elements end a search for an enclosing one, which close themselves, which document types
ask for the old way of reading a page, and how the names of drawings and formulas are spelled.
-/
import CrawlMesh.Html.Document
import CrawlMesh.Html.Token

namespace CrawlMesh.Html

set_option autoImplicit false

/-! ## Elements -/

/-- Elements of a page that hold blocks of their own. -/
def specialNames : List String :=
  ["address", "applet", "area", "article", "aside", "base", "basefont", "bgsound", "blockquote",
    "body", "br", "button", "caption", "center", "col", "colgroup", "dd", "details", "dir", "div",
    "dl", "dt", "embed", "fieldset", "figcaption", "figure", "footer", "form", "frame", "frameset",
    "h1", "h2", "h3", "h4", "h5", "h6", "head", "header", "hgroup", "hr", "html", "iframe", "img",
    "input", "isindex", "li", "link", "listing", "main", "marquee", "menu", "meta", "nav",
    "noembed", "noframes", "noscript", "object", "ol", "p", "param", "plaintext", "pre", "script",
    "section", "select", "source", "style", "summary", "table", "tbody", "td", "template",
    "textarea", "tfoot", "th", "thead", "title", "tr", "track", "ul", "wbr", "xmp"]

/-- Elements of a formula that hold text. -/
def formulaText : List String := ["mi", "mo", "mn", "ms", "mtext"]

/-- Elements of a drawing that hold parts of a page. -/
def drawingText : List String := ["foreignObject", "desc", "title"]

def isHtmlNamed (names : List String) (e : Element) : Bool :=
  e.vocabulary == .html && names.contains e.name

def isSpecial (e : Element) : Bool :=
  match e.vocabulary with
  | .html => specialNames.contains e.name
  | .mathml => e.name == "annotation-xml" || formulaText.contains e.name
  | .svg => drawingText.contains e.name

/-- Elements that end a search for an enclosing element. -/
def endsScope (e : Element) : Bool :=
  match e.vocabulary with
  | .html => ["applet", "caption", "html", "table", "td", "th", "marquee", "object",
      "template"].contains e.name
  | .mathml => e.name == "annotation-xml" || formulaText.contains e.name
  | .svg => drawingText.contains e.name

/-- A search for an enclosing element that ends at lists too. -/
def endsListScope (e : Element) : Bool := endsScope e || isHtmlNamed ["ol", "ul"] e

/-- A search for an enclosing element that ends at buttons too. -/
def endsButtonScope (e : Element) : Bool := endsScope e || isHtmlNamed ["button"] e

/-- A search within a table. -/
def endsTableScope (e : Element) : Bool := isHtmlNamed ["html", "table", "template"] e

/-- A search within a list of options. -/
def endsSelectScope (e : Element) : Bool := !isHtmlNamed ["optgroup", "option"] e

/-- Elements whose end tags may be left out. -/
def impliedEnds : List String :=
  ["dd", "dt", "li", "option", "optgroup", "p", "rb", "rp", "rt", "rtc"]

/-- The same, where tables are left with everything in them. -/
def thoroughlyImpliedEnds : List String :=
  ["caption", "colgroup", "tbody", "td", "tfoot", "th", "thead", "tr"] ++ impliedEnds

def headings : List String := ["h1", "h2", "h3", "h4", "h5", "h6"]

/-- Elements that are blocks and nothing else. -/
def blocks : List String :=
  ["address", "article", "aside", "blockquote", "center", "details", "dialog", "dir", "div", "dl",
    "fieldset", "figcaption", "figure", "footer", "header", "hgroup", "main", "menu", "nav", "ol",
    "section", "summary", "ul"]

/-- Elements that change how text looks, and are opened again after a block. -/
def formattingNames : List String :=
  ["b", "big", "code", "em", "font", "i", "s", "small", "strike", "strong", "tt", "u"]

/-- Start tags that end a drawing or a formula. -/
def breakouts : List String :=
  ["b", "big", "blockquote", "body", "br", "center", "code", "dd", "div", "dl", "dt", "em", "embed",
    "h1", "h2", "h3", "h4", "h5", "h6", "head", "hr", "i", "img", "li", "listing", "menu", "meta",
    "nobr", "ol", "p", "pre", "ruby", "s", "small", "span", "strong", "strike", "sub", "sup",
    "table", "tt", "u", "ul", "var"]

/-! ## Spelling -/

/-- Elements of drawings with capital letters. -/
def drawingElements : List String :=
  ["altGlyph", "altGlyphDef", "altGlyphItem", "animateColor", "animateMotion", "animateTransform",
    "clipPath", "feBlend", "feColorMatrix", "feComponentTransfer", "feComposite",
    "feConvolveMatrix", "feDiffuseLighting", "feDisplacementMap", "feDistantLight",
    "feDropShadow", "feFlood", "feFuncA", "feFuncB", "feFuncG", "feFuncR", "feGaussianBlur",
    "feImage", "feMerge", "feMergeNode", "feMorphology", "feOffset", "fePointLight",
    "feSpecularLighting", "feSpotLight", "feTile", "feTurbulence", "foreignObject", "glyphRef",
    "linearGradient", "radialGradient", "textPath"]

/-- Attributes of drawings with capital letters. -/
def drawingAttributes : List String :=
  ["attributeName", "attributeType", "baseFrequency", "baseProfile", "calcMode", "clipPathUnits",
    "diffuseConstant", "edgeMode", "filterUnits", "glyphRef", "gradientTransform",
    "gradientUnits", "kernelMatrix", "kernelUnitLength", "keyPoints", "keySplines", "keyTimes",
    "lengthAdjust", "limitingConeAngle", "markerHeight", "markerUnits", "markerWidth",
    "maskContentUnits", "maskUnits", "numOctaves", "pathLength", "patternContentUnits",
    "patternTransform", "patternUnits", "pointsAtX", "pointsAtY", "pointsAtZ", "preserveAlpha",
    "preserveAspectRatio", "primitiveUnits", "refX", "refY", "repeatCount", "repeatDur",
    "requiredExtensions", "requiredFeatures", "specularConstant", "specularExponent",
    "spreadMethod", "startOffset", "stdDeviation", "stitchTiles", "surfaceScale",
    "systemLanguage", "tableValues", "targetX", "targetY", "textLength", "viewBox", "viewTarget",
    "xChannelSelector", "yChannelSelector", "zoomAndPan"]

/-- The spelling of a name that came in small letters. -/
def respell (spellings : List String) (name : String) : String :=
  (spellings.find? fun s => String.ofList (s.toList.map Char.toLower) == name).getD name

/-- Attributes that belong to a space of their own in drawings and formulas. -/
def spacedAttributes : List (String × Option String × AttributeSpace × String) :=
  [("xlink:actuate", some "xlink", .xlink, "actuate"),
    ("xlink:arcrole", some "xlink", .xlink, "arcrole"),
    ("xlink:href", some "xlink", .xlink, "href"), ("xlink:role", some "xlink", .xlink, "role"),
    ("xlink:show", some "xlink", .xlink, "show"), ("xlink:title", some "xlink", .xlink, "title"),
    ("xlink:type", some "xlink", .xlink, "type"), ("xml:lang", some "xml", .xml, "lang"),
    ("xml:space", some "xml", .xml, "space"), ("xmlns", none, .xmlns, "xmlns"),
    ("xmlns:xlink", some "xmlns", .xmlns, "xlink")]

/-- An attribute of an element of a vocabulary. -/
def attributeOf (v : Vocabulary) (raw : RawAttribute) : Attribute :=
  let (name, value) := raw
  match v with
  | .html => ⟨none, .plain, name, value⟩
  | _ =>
    match spacedAttributes.find? (·.1 == name) with
    | some (_, spacePrefix, space, name) => ⟨spacePrefix, space, name, value⟩
    | none =>
      let spelled :=
        if v == .svg then respell drawingAttributes name
        else if name == "definitionurl" then "definitionURL" else name
      ⟨none, .plain, spelled, value⟩

/-- An element of a vocabulary from its tag. -/
def elementOf (v : Vocabulary) (name : String) (attributes : List RawAttribute) : Element where
  vocabulary := v
  name := if v == .svg then respell drawingElements name else name
  attributes := (attributes.map (attributeOf v)).foldl (fun l a => Attribute.insert a l) []

/-! ## Document types -/

/-- Public identifiers of pages that are read the old way. -/
def oldPublicIds : List String :=
  ["-//w3o//dtd w3 html strict 3.0//en//", "-/w3c/dtd html 4.0 transitional/en", "html"]

/-- Beginnings of such public identifiers. -/
def oldPublicStarts : List String :=
  ["-//advasoft ltd//dtd html 3.0 aswedit + extensions//",
    "-//as//dtd html 3.0 aswedit + extensions//", "-//ietf//dtd html 2.0 level 1//",
    "-//ietf//dtd html 2.0 level 2//", "-//ietf//dtd html 2.0 strict level 1//",
    "-//ietf//dtd html 2.0 strict level 2//", "-//ietf//dtd html 2.0 strict//",
    "-//ietf//dtd html 2.0//", "-//ietf//dtd html 2.1e//", "-//ietf//dtd html 3.0//",
    "-//ietf//dtd html 3.2 final//", "-//ietf//dtd html 3.2//", "-//ietf//dtd html 3//",
    "-//ietf//dtd html level 0//", "-//ietf//dtd html level 1//", "-//ietf//dtd html level 2//",
    "-//ietf//dtd html level 3//", "-//ietf//dtd html strict level 0//",
    "-//ietf//dtd html strict level 1//", "-//ietf//dtd html strict level 2//",
    "-//ietf//dtd html strict level 3//", "-//ietf//dtd html strict//", "-//ietf//dtd html//",
    "-//metrius//dtd metrius presentational//",
    "-//microsoft//dtd internet explorer 2.0 html strict//",
    "-//microsoft//dtd internet explorer 2.0 html//",
    "-//microsoft//dtd internet explorer 2.0 tables//",
    "-//microsoft//dtd internet explorer 3.0 html strict//",
    "-//microsoft//dtd internet explorer 3.0 html//",
    "-//microsoft//dtd internet explorer 3.0 tables//",
    "-//netscape comm. corp.//dtd html//", "-//netscape comm. corp.//dtd strict html//",
    "-//o'reilly and associates//dtd html 2.0//",
    "-//o'reilly and associates//dtd html extended 1.0//",
    "-//o'reilly and associates//dtd html extended relaxed 1.0//",
    "-//softquad software//dtd hotmetal pro 6.0::19990601::extensions to html 4.0//",
    "-//softquad//dtd hotmetal pro 4.0::19971010::extensions to html 4.0//",
    "-//spyglass//dtd html 2.0 extended//", "-//sq//dtd html 2.0 hotmetal + extensions//",
    "-//sun microsystems corp.//dtd hotjava html//",
    "-//sun microsystems corp.//dtd hotjava strict html//",
    "-//w3c//dtd html 3 1995-03-24//", "-//w3c//dtd html 3.2 draft//",
    "-//w3c//dtd html 3.2 final//", "-//w3c//dtd html 3.2//", "-//w3c//dtd html 3.2s draft//",
    "-//w3c//dtd html 4.0 frameset//", "-//w3c//dtd html 4.0 transitional//",
    "-//w3c//dtd html experimental 19960712//", "-//w3c//dtd html experimental 970421//",
    "-//w3c//dtd w3 html//", "-//w3o//dtd w3 html 3.0//", "-//webtechs//dtd mozilla html 2.0//",
    "-//webtechs//dtd mozilla html//"]

/-- Beginnings of public identifiers that ask for the old way if no system identifier follows. -/
def oldWithoutSystem : List String :=
  ["-//w3c//dtd html 4.01 frameset//", "-//w3c//dtd html 4.01 transitional//"]

/-- Does a document type ask for the old way of reading a page? -/
def Doctype.isOld (d : Doctype) : Bool :=
  let small (s : Option String) : Option String :=
    s.map fun s => String.ofList (s.toList.map Char.toLower)
  let publicId := small d.publicId
  let begins (starts : List String) : Bool :=
    publicId.any fun p => starts.any fun s => s.toList.isPrefixOf p.toList
  d.broken || d.name != some "html" || publicId.any oldPublicIds.contains
    || small d.systemId == some "http://www.ibm.com/data/dtd/v11/ibmxhtml1-transitional.dtd"
    || begins oldPublicStarts || (d.systemId.isNone && begins oldWithoutSystem)

end CrawlMesh.Html
