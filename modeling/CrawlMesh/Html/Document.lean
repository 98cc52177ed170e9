/-
# Documents

A page as a tree. Nodes are numbered in the order of their creation, the document itself is
number zero, and every node knows its parent and its children. A template keeps its content in a
fragment, its only child.
-/
namespace CrawlMesh.Html

set_option autoImplicit false

/-- What an element belongs to. -/
inductive Vocabulary
  | html
  | mathml
  | svg
deriving DecidableEq, Repr, Inhabited

/-- What an attribute belongs to. -/
inductive AttributeSpace
  | plain
  | xlink
  | xmlns
  | xml
deriving DecidableEq, Repr, Inhabited

/-- An attribute. `spacePrefix` is what stands in front of its name as it is known in its tag. -/
structure Attribute where
  spacePrefix : Option String
  space : AttributeSpace
  name : String
  value : String
deriving DecidableEq, Repr, Inhabited

/-- An element with its attributes in ascending order. -/
structure Element where
  vocabulary : Vocabulary
  name : String
  attributes : List Attribute
deriving DecidableEq, Repr, Inhabited

/-- What a node is. -/
inductive NodeKind
  | document
  | fragment
  | doctype (name : String)
  | comment (text : String)
  | text (text : String)
  | element (element : Element)
deriving DecidableEq, Repr, Inhabited

/-- A node in its tree. -/
structure Node where
  kind : NodeKind
  parent : Option Nat
  children : Array Nat
deriving Repr, Inhabited

/-- A page. -/
structure Document where
  nodes : Array Node
deriving Repr, Inhabited

namespace Attribute

/-- The rank of a space in the order of attributes. -/
def rank : AttributeSpace → Nat
  | .plain => 0
  | .xlink => 1
  | .xmlns => 2
  | .xml => 3

/-- Does an attribute come before another one: by what is in front of its name, by its space, by
its name? -/
def before (a b : Attribute) : Bool :=
  let p := a.spacePrefix.getD ""
  let q := b.spacePrefix.getD ""
  if p != q then p < q
  else if rank a.space != rank b.space then rank a.space < rank b.space
  else a.name < b.name

/-- Are two attributes known by one name? -/
def sameName (a b : Attribute) : Bool := a.space == b.space && a.name == b.name

/-- Put an attribute at its place. -/
def insert (a : Attribute) : List Attribute → List Attribute
  | [] => [a]
  | b :: rest => if a.before b then a :: b :: rest else b :: insert a rest

end Attribute

/-- The value of an attribute of an element that belongs to nothing else. -/
def Element.attribute? (e : Element) (name : String) : Option String :=
  (e.attributes.find? fun a => a.space == .plain && a.name == name).map (·.value)

namespace Document

/-- An empty page. -/
def empty : Document := ⟨#[⟨.document, none, #[]⟩]⟩

def kind (d : Document) (i : Nat) : NodeKind :=
  match d.nodes[i]? with
  | some n => n.kind
  | none => .document

def parent? (d : Document) (i : Nat) : Option Nat := (d.nodes[i]?).bind (·.parent)

def children (d : Document) (i : Nat) : Array Nat :=
  match d.nodes[i]? with
  | some n => n.children
  | none => #[]

def element? (d : Document) (i : Nat) : Option Element :=
  match d.kind i with
  | .element e => some e
  | _ => none

def isElement (d : Document) (i : Nat) : Bool := (d.element? i).isSome

/-- The children of a node that are elements. -/
def childElements (d : Document) (i : Nat) : List Nat :=
  (d.children i).toList.filter d.isElement

/-- The element that a node is a child of. -/
def parentElement? (d : Document) (i : Nat) : Option Nat := (d.parent? i).filter d.isElement

/-! ## Walking -/

mutual

/-- The nodes below a node, each before the ones below it. Every node lies below fewer nodes than
there are, which bounds the depth. -/
def below (d : Document) : Nat → Nat → List Nat
  | 0, _ => []
  | fuel + 1, i => belowAll d fuel (d.children i).toList

def belowAll (d : Document) : Nat → List Nat → List Nat
  | _, [] => []
  | 0, _ => []
  | fuel + 1, i :: rest => i :: below d fuel i ++ belowAll d (fuel + 1) rest

end

/-- The nodes below a node in the order of the page. -/
def descendants (d : Document) (i : Nat) : List Nat := d.below (2 * d.nodes.size + 2) i

/-- The first element of the page. -/
def root (d : Document) : Nat := ((d.childElements 0).head?).getD 0

/-- All text below a node. -/
def textBelow (d : Document) (i : Nat) : String :=
  String.join ((d.descendants i).filterMap fun j =>
    match d.kind j with
    | .text s => some s
    | _ => none)

/-! ## Building -/

/-- A page with one more node, which lies nowhere yet; the answer holds its number. -/
def create (d : Document) (kind : NodeKind) : Nat × Document :=
  (d.nodes.size, ⟨d.nodes.push ⟨kind, none, #[]⟩⟩)

/-- Change a node. -/
def modify (d : Document) (i : Nat) (f : Node → Node) : Document := ⟨d.nodes.modify i f⟩

/-- Take a node out of its place. -/
def detach (d : Document) (i : Nat) : Document :=
  match d.parent? i with
  | none => d
  | some p =>
    (d.modify p fun n => { n with children := n.children.filter (· != i) }).modify i
      fun n => { n with parent := none }

/-- Put a node behind the other children of a node. -/
def append (d : Document) (parent child : Nat) : Document :=
  ((d.detach child).modify parent fun n => { n with children := n.children.push child }).modify
    child fun n => { n with parent := some parent }

/-- Put a node in front of another one, which has a parent. -/
def insertBefore (d : Document) (sibling child : Nat) : Document :=
  let d := d.detach child
  match d.parent? sibling with
  | none => d
  | some p =>
    (d.modify p fun n =>
      { n with children := (n.children.toList.flatMap fun j =>
          if j == sibling then [child, j] else [j]).toArray }).modify child
      fun n => { n with parent := some p }

/-- Add text to the text that ends at a place, if there is any. -/
def extendText? (d : Document) (last : Option Nat) (s : String) : Option Document :=
  match last with
  | none => none
  | some i =>
    match d.kind i with
    | .text t => some (d.modify i fun n => { n with kind := .text (t ++ s) })
    | _ => none

/-- Put text behind the children of a node. -/
def appendText (d : Document) (parent : Nat) (s : String) : Document :=
  match d.extendText? ((d.children parent).back?) s with
  | some d => d
  | none =>
    let (i, d) := d.create (.text s)
    d.append parent i

/-- The node in front of another one below the same parent. -/
def previous? (d : Document) (i : Nat) : Option Nat :=
  (d.parent? i).bind fun p => ((d.children p).toList.takeWhile (· != i)).getLast?

/-- Put text in front of a node. -/
def insertTextBefore (d : Document) (sibling : Nat) (s : String) : Document :=
  match d.extendText? (d.previous? sibling) s with
  | some d => d
  | none =>
    let (i, d) := d.create (.text s)
    d.insertBefore sibling i

/-- Put all children of a node behind those of another one. -/
def moveChildren (d : Document) (source target : Nat) : Document :=
  (d.children source).foldl (fun d i => d.append target i) d

/-- The fragment that holds the content of a template. -/
def content (d : Document) (template : Nat) : Nat := ((d.children template)[0]?).getD template

end Document

end CrawlMesh.Html
