/-
# Which elements a selector picks

`Selector.holds` tells whether an element fulfils a selector, `Document.select` gives the elements
of a page that do, and `Document.selectBelow` those below an element.
-/
import CrawlMesh.Html.Document
import CrawlMesh.Selector.Basic
import CrawlMesh.Text.Blank
import CrawlMesh.Text.Case
import CrawlMesh.Text.Split

namespace CrawlMesh.Selector

set_option autoImplicit false

open Html (Document Element)

/-! ## Attributes -/

/-- Attributes of a page in whose values case does not count. -/
def caselessAttributes : List String :=
  ["accept", "accept-charset", "align", "alink", "axis", "bgcolor", "charset", "checked", "clear",
    "codetype", "color", "compact", "declare", "defer", "dir", "direction", "disabled", "enctype",
    "face", "frame", "hreflang", "http-equiv", "lang", "language", "link", "media", "method",
    "multiple", "nohref", "noresize", "noshade", "nowrap", "readonly", "rel", "rev", "rules",
    "scope", "scrolling", "selected", "shape", "target", "text", "type", "valign", "valuetype",
    "vlink"]

def isSpace (c : Char) : Bool :=
  c == ' ' || c == '\t' || c == '\n' || c == '\r' || c == '\x0c'

/-- Does a value compare with the one of a condition? -/
def Comparison.holds (c : Comparison) (value wanted : String) : Bool :=
  let v := value.toList
  let w := wanted.toList
  match c with
  | .equal => value == wanted
  | .starts => !w.isEmpty && w.isPrefixOf v
  | .ends => !w.isEmpty && w.isSuffixOf v
  | .contains => !w.isEmpty && Text.holds value wanted
  | .includes => !w.isEmpty && (Text.splitWhere isSpace v).contains w
  | .dash => value == wanted || (w ++ ['-']).isPrefixOf v

/-- Does case not count for an attribute of an element? -/
def ignoresCase (e : Element) (anySpace : Bool) (name : String) : CaseRule → Bool
  | .insensitive => true
  | .sensitive => false
  | .byName =>
    e.vocabulary == .html && !anySpace && caselessAttributes.contains (Text.lowerAscii name)

/-- Does an element have an attribute that passes a test? -/
def attributeHolds (e : Element) (anySpace : Bool) (name : String)
    (test : Option (Comparison × String × CaseRule)) : Bool :=
  let name' := if e.vocabulary == .html then Text.lowerAscii name else name
  e.attributes.any fun a =>
    (anySpace || a.space == .plain) && a.name == name' &&
      match test with
      | none => true
      | some (c, wanted, rule) =>
        if ignoresCase e anySpace name rule then
          c.holds (Text.lowerAscii a.value) (Text.lowerAscii wanted)
        else c.holds a.value wanted

/-- The value of the first attribute of a name, whatever space it belongs to. -/
def valueOf? (e : Element) (name : String) : Option String :=
  (e.attributes.find? (·.name == name)).map (·.value)

def hasClass (e : Element) (name : String) : Bool :=
  match valueOf? e "class" with
  | none => false
  | some s => (Text.splitWhere Text.isBlank s.toList).any fun part =>
    !part.isEmpty && String.ofList part == name

/-! ## Neighbours -/

/-- The elements around an element, nearest first. -/
def ancestors (d : Document) : Nat → Nat → List Nat
  | 0, _ => []
  | fuel + 1, i =>
    match d.parentElement? i with
    | none => []
    | some p => p :: ancestors d fuel p

/-- The elements below the parent of an element, itself among them. -/
def siblings (d : Document) (i : Nat) : List Nat :=
  match d.parent? i with
  | none => [i]
  | some p => d.childElements p

/-- The siblings before an element, nearest first. -/
def earlier (d : Document) (i : Nat) : List Nat := ((siblings d i).takeWhile (· != i)).reverse

/-- The siblings behind an element. -/
def later (d : Document) (i : Nat) : List Nat := ((siblings d i).dropWhile (· != i)).drop 1

def sameType (d : Document) (i j : Nat) : Bool :=
  match d.element? i, d.element? j with
  | some e, some f => e.vocabulary == f.vocabulary && e.name == f.name
  | _, _ => false

/-- The place of an element among its siblings, the first being number one. -/
def placeOf (d : Document) (i : Nat) (c : Counting) : Nat :=
  let others := if c.fromEnd then later d i else earlier d i
  (others.filter fun j => !c.ofType || sameType d i j).length + 1

/-- Is a place one of `offset`, `offset + step`, and so on? -/
def nthHolds (step offset : Int) (place : Nat) : Bool :=
  let distance := (place : Int) - offset
  if step == 0 then distance == 0
  else Int.tmod distance step == 0 && 0 ≤ Int.tdiv distance step

/-! ## Conditions -/

/-- What conditions refer to besides the element: the page, the element that is searched below, if
there is one, and the element that a relative selector begins at. -/
structure Context where
  document : Document
  scope : Option Nat
  anchor : Option Nat

mutual

/-- Does an element fulfil a condition? -/
def simpleHolds : Nat → Context → Nat → Simple → Bool
  | 0, _, _, _ => false
  | fuel + 1, c, i, s =>
    let d := c.document
    let e := (d.element? i).getD ⟨.html, "", []⟩
    match s with
    | .any => true
    | .nothing | .invalid => false
    | .type name => e.name == (if e.vocabulary == .html then Text.lowerAscii name else name)
    | .id name => valueOf? e "id" == some name
    | .classed name => hasClass e name
    | .attribute anySpace name test => attributeHolds e anySpace name test
    | .nth step offset counting => nthHolds step offset (placeOf d i counting)
    | .only ofType => placeOf d i ⟨ofType, false⟩ == 1 && placeOf d i ⟨ofType, true⟩ == 1
    | .root => d.parent? i == some 0
    | .empty => (d.children i).all fun j => match d.kind j with
      | .element _ | .text _ => false
      | _ => true
    | .scope => match c.scope with
      | some j => i == j
      | none => d.parent? i == some 0
    | .anchor => c.anchor == some i
    | .isAny l => anyHolds fuel c i l
    | .not l => !anyHolds fuel c i l
    | .has l =>
      let c := { c with anchor := some i }
      let behind := later d i
      let candidates := d.descendants i ++ behind.flatMap fun j => j :: d.descendants j
      hasHolds fuel c (candidates.filter d.isElement) l

/-- Does an element fulfil all conditions? -/
def allHold : Nat → Context → Nat → List Simple → Bool
  | _, _, _, [] => true
  | 0, _, _, _ => false
  | fuel + 1, c, i, s :: rest => simpleHolds fuel c i s && allHold fuel c i rest

/-- Do the elements before and around an element fulfil what is asked of them? -/
def contextHolds : Nat → Context → Nat → List (Combinator × List Simple) → Bool
  | _, _, _, [] => true
  | 0, _, _, _ => false
  | fuel + 1, c, i, (combinator, conditions) :: rest =>
    let candidates := match combinator with
      | .descendant => ancestors c.document c.document.nodes.size i
      | .child => (c.document.parentElement? i).toList
      | .nextSibling => (earlier c.document i).head?.toList
      | .laterSibling => earlier c.document i
    candidates.any fun j => allHold fuel c j conditions && contextHolds fuel c j rest

/-- Does an element fulfil one of the alternatives? -/
def anyHolds : Nat → Context → Nat → List Complex → Bool
  | _, _, _, [] => false
  | 0, _, _, _ => false
  | fuel + 1, c, i, .mk subject context :: rest =>
    (allHold fuel c i subject && contextHolds fuel c i context) || anyHolds fuel c i rest

/-- Does one of the candidates fulfil one of the alternatives? -/
def hasHolds : Nat → Context → List Nat → List Complex → Bool
  | 0, _, _, _ => false
  | fuel + 1, c, candidates, l => candidates.any fun j => anyHolds fuel c j l

end

mutual

/-- How deep the conditions of a selector are nested. -/
def Simple.size : Simple → Nat
  | .isAny l | .not l | .has l => sizeAll l + 2
  | _ => 1

def sizeConditions : List Simple → Nat
  | [] => 1
  | s :: rest => s.size + sizeConditions rest

def sizeContext : List (Combinator × List Simple) → Nat
  | [] => 1
  | (_, l) :: rest => sizeConditions l + sizeContext rest + 1

def Complex.size : Complex → Nat
  | .mk subject context => sizeConditions subject + sizeContext context + 1

def sizeAll : List Complex → Nat
  | [] => 1
  | c :: rest => c.size + sizeAll rest + 1

end

/-- Does an element of a page fulfil a selector, in a search below `scope`? -/
def holds (d : Document) (scope : Option Nat) (l : List Complex) (i : Nat) : Bool :=
  anyHolds (2 * sizeAll l + 4) ⟨d, scope, none⟩ i l

end CrawlMesh.Selector

namespace CrawlMesh.Html.Document

set_option autoImplicit false

/-- The elements of a page that a selector picks, in the order in which they were opened. -/
def select (d : Document) (l : List Selector.Complex) : List Nat :=
  (List.range d.nodes.size).filter fun i =>
    d.isElement i && (d.parent? i).isSome && Selector.holds d none l i

/-- The elements below an element that a selector picks, in the order of the page. -/
def selectBelow (d : Document) (scope : Nat) (l : List Selector.Complex) : List Nat :=
  (d.descendants scope).filter fun i => d.isElement i && Selector.holds d (some scope) l i

end CrawlMesh.Html.Document
